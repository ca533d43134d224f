import Mathlib
import HarvestTestbed.Proofs.Channel

/-!
# Channels hold one message

Seen from its two ends, a channel is a place for one message.  A send is accepted while the place is
free, and is refused otherwise with nothing changed.  A receive gets the message that waits and
frees the place, and so does the session when it clears the slot, only that this message is lost.

The slot behind the channel is a row of bytes: a mark that something is unread, the tag of the
writer, the type, and words, two for most messages and five for a sync reply, whose timestamp is cut
in halves and put together again.  At matching ends every answer is that of the place, over any
calls, and from that follows what becomes of the messages: they leave in the order in which they
were accepted.
-/

namespace HarvestTestbed

/-! ## Calls and answers -/

inductive ChannelCall (α : Type)
  | send (message : α)
  /-- Sends without reporting a refusal. -/
  | trySend (message : α)
  | receive
  /-- Receives without reporting failures. -/
  | tryReceive
  /-- The session clears the slot. -/
  | clear

inductive ChannelAnswer (α β : Type)
  | sent (accepted : Bool)
  /-- A refused message is handed back. -/
  | tried (result : Except α Unit)
  | received (answer : Option β)
  | tryReceived (result : Except ReceiveFault β)
  | cleared
  deriving DecidableEq

namespace ChannelCall

variable {α β σ : Type}

def message? : ChannelCall α → Option α
  | .send message | .trySend message => some message
  | .receive | .tryReceive | .clear => none

/-- The message that was sent, if it was accepted. -/
def accepted? : ChannelCall α → ChannelAnswer α β → Option α
  | .send message, .sent true => some message
  | .trySend message, .tried (.ok ()) => some message
  | _, _ => none

def after (step : σ → ChannelCall α → ChannelAnswer α β × σ) (state : σ)
    (calls : List (ChannelCall α)) : σ :=
  calls.foldl (fun state call => (step state call).2) state

def answers (step : σ → ChannelCall α → ChannelAnswer α β × σ) :
    σ → List (ChannelCall α) → List (ChannelAnswer α β)
  | _, [] => []
  | state, call :: calls => (step state call).1 :: answers step (step state call).2 calls

/-- The messages that were accepted, in order. -/
def accepted (step : σ → ChannelCall α → ChannelAnswer α β × σ) (state : σ)
    (calls : List (ChannelCall α)) : List α :=
  (calls.zip (answers step state calls)).filterMap fun exchange =>
    exchange.1.accepted? exchange.2

theorem accepted_cons (step : σ → ChannelCall α → ChannelAnswer α β × σ) (state : σ)
    (call : ChannelCall α) (calls : List (ChannelCall α)) :
    accepted step state (call :: calls) =
      (call.accepted? (step state call).1).toList ++ accepted step (step state call).2 calls := by
  simp only [accepted, answers, List.zip_cons_cons, List.filterMap_cons]
  cases call.accepted? (step state call).1 <;> rfl

end ChannelCall

/-- The message that was received. -/
def ChannelAnswer.delivered? {α β : Type} : ChannelAnswer α β → Option β
  | .received answer => answer
  | .tryReceived result => result.toOption
  | .sent _ | .tried _ | .cleared => none

/-! ## A place for one message -/

/-- How a message leaves the place it waits in. -/
inductive Departure (β : Type)
  | delivered (message : β)
  /-- The slot was cleared. -/
  | lost (message : β)

namespace Departure

variable {β : Type}

def message : Departure β → β
  | .delivered message | .lost message => message

def delivered? : Departure β → Option β
  | .delivered message => some message
  | .lost _ => none

end Departure

namespace Place

variable {α β : Type} (arrives : α → β)

/-- The answer to a call, and what waits afterwards, where at most one message can wait. -/
def call (waiting : Option α) : ChannelCall α → ChannelAnswer α β × Option α
  | .send message => (.sent waiting.isNone, waiting.or (some message))
  | .trySend message =>
      (.tried (if waiting.isNone then .ok () else .error message), waiting.or (some message))
  | .receive => (.received (waiting.map arrives), none)
  | .tryReceive => (.tryReceived ((waiting.map arrives).elim (.error .empty) .ok), none)
  | .clear => (.cleared, none)

/-- The message that leaves with a call. -/
def departure? (waiting : Option α) : ChannelCall α → Option (Departure β)
  | .receive | .tryReceive => waiting.map fun message => .delivered (arrives message)
  | .clear => waiting.map fun message => .lost (arrives message)
  | .send _ | .trySend _ => none

def departures : Option α → List (ChannelCall α) → List (Departure β)
  | _, [] => []
  | waiting, call :: calls =>
      (departure? arrives waiting call).toList ++
        departures (Place.call arrives waiting call).2 calls

variable {arrives}

/-- What waits and what is accepted is what leaves and what waits then. -/
theorem accounts_call (arrives : α → β) (waiting : Option α) (call : ChannelCall α) :
    (waiting.toList ++ (call.accepted? (Place.call arrives waiting call).1).toList).map arrives =
      (departure? arrives waiting call).toList.map Departure.message ++
        (Place.call arrives waiting call).2.toList.map arrives := by
  cases call <;> cases waiting <;> rfl

theorem delivered?_call (waiting : Option α) (call : ChannelCall α) :
    (Place.call arrives waiting call).1.delivered? =
      (departure? arrives waiting call).bind Departure.delivered? := by
  cases call <;> cases waiting <;> rfl

/-- Messages leave in the order in which they were accepted, and all but the one that waits have
left. -/
theorem accounts (waiting : Option α) (calls : List (ChannelCall α)) :
    (waiting.toList ++ ChannelCall.accepted (Place.call arrives) waiting calls).map arrives =
      (departures arrives waiting calls).map Departure.message ++
        (ChannelCall.after (Place.call arrives) waiting calls).toList.map arrives := by
  induction calls generalizing waiting with
  | nil => simp [ChannelCall.accepted, ChannelCall.answers, ChannelCall.after, departures]
  | cons call calls ih =>
    have hcall := accounts_call arrives waiting call
    have hrest := ih (Place.call arrives waiting call).2
    rw [List.map_append] at hcall hrest ⊢
    rw [ChannelCall.accepted_cons, departures, List.map_append, List.map_append,
      ← List.append_assoc, hcall, List.append_assoc, hrest, List.append_assoc]
    rfl

theorem delivered (waiting : Option α) (calls : List (ChannelCall α)) :
    (ChannelCall.answers (Place.call arrives) waiting calls).filterMap ChannelAnswer.delivered? =
      (departures arrives waiting calls).filterMap Departure.delivered? := by
  induction calls generalizing waiting with
  | nil => rfl
  | cons call calls ih =>
    rw [ChannelCall.answers, departures, List.filterMap_append, ← ih, List.filterMap_cons,
      delivered?_call]
    cases departure? arrives waiting call with
    | none => rfl
    | some departure => cases departure <;> rfl

end Place

/-! ## The ends of a slot -/

/-- What the two ends of a channel do with its slot. -/
structure Ends (words : ℕ) (α β : Type) where
  send : Slot words → StatusSlot → α → Sending words
  trySend : Slot words → α → Except α Unit × Slot words
  receive : Slot words → StatusSlot → Receiving words β
  tryReceive : Slot words → Except ReceiveFault β × Slot words
  /-- What the reader sees of a message. -/
  arrives : α → β

/-- A slot, and the status slots that its ends report on. -/
structure Link (words : ℕ) where
  slot : Slot words := {}
  writer : StatusSlot
  reader : StatusSlot

/-- The ends of a channel for messages of two words. -/
def Channel.messageEnds (writer reader : Origin) :
    Ends 2 (MessageType × UInt32 × UInt32) Message where
  send slot status message := Channel.send writer slot status message.1 message.2.1 message.2.2
  trySend slot message := Channel.trySend writer slot message.1 message.2.1 message.2.2
  receive := Channel.receive reader writer
  tryReceive := Channel.tryReceive writer
  arrives message := ⟨writer, message.1, message.2.1, message.2.2⟩

/-- The ends of a channel for sync replies. -/
def Channel.replyEnds (writer reader : Origin) : Ends 5 SyncReply SyncReply where
  send := Channel.sendReply writer
  trySend := Channel.trySendReply writer
  receive := Channel.receiveReply reader writer
  tryReceive := Channel.tryReceiveReply writer
  arrives reply := reply

namespace Ends

variable {words : ℕ} {α β : Type} {ends : Ends words α β} {slot : Slot words}
  {status : StatusSlot} {message : α} {link : Link words} {waiting : Option α}

def call (ends : Ends words α β) (link : Link words) :
    ChannelCall α → ChannelAnswer α β × Link words
  | .send message =>
      let sent := ends.send link.slot link.writer message
      (.sent sent.accepted, { link with slot := sent.slot, writer := sent.status })
  | .trySend message =>
      let sent := ends.trySend link.slot message
      (.tried sent.1, { link with slot := sent.2 })
  | .receive =>
      let received := ends.receive link.slot link.reader
      (.received received.answer, { link with slot := received.slot, reader := received.status })
  | .tryReceive =>
      let received := ends.tryReceive link.slot
      (.tryReceived received.1, { link with slot := received.2 })
  | .clear => (.cleared, { link with slot := link.slot.clear })

/-- A message lies in a slot and is what the reader would get. -/
structure Keeps (ends : Ends words α β) (slot : Slot words) (message : α) : Prop where
  unread : slot.isUnread = true
  arrives : (ends.tryReceive slot).1 = .ok (ends.arrives message)

/-- The slot has the message that waits, and no other. -/
def Holds (ends : Ends words α β) (slot : Slot words) : Option α → Prop
  | none => slot.isUnread = false
  | some message => ends.Keeps slot message

/-- What the ends have to do for the slot to be a place for one message, among messages that may be
sent. -/
structure Lawful (ends : Ends words α β) (sendable : α → Prop) : Prop where
  send_free : ∀ slot status message, slot.isUnread = false → sendable message →
    (ends.send slot status message).accepted = true ∧
      ends.Keeps (ends.send slot status message).slot message
  send_taken : ∀ slot status message, slot.isUnread = true →
    (ends.send slot status message).accepted = false ∧
      (ends.send slot status message).slot = slot
  trySend_eq : ∀ slot status message, ends.trySend slot message =
    (if (ends.send slot status message).accepted then .ok () else .error message,
      (ends.send slot status message).slot)
  receive_eq : ∀ slot status,
    (ends.receive slot status).answer = (ends.tryReceive slot).1.toOption ∧
      (ends.receive slot status).slot = (ends.tryReceive slot).2
  empty : ∀ slot, slot.isUnread = false → (ends.tryReceive slot).1 = .error .empty
  taken : ∀ slot, (ends.tryReceive slot).2.isUnread = false

theorem Lawful.send_eq {sendable : α → Prop} (h : ends.Lawful sendable)
    (hholds : ends.Holds slot waiting) (hsendable : sendable message) (status : StatusSlot) :
    (ends.send slot status message).accepted = waiting.isNone ∧
      ends.Holds (ends.send slot status message).slot (waiting.or (some message)) := by
  cases waiting with
  | none => exact h.send_free slot status message hholds hsendable
  | some earlier =>
    obtain ⟨hrefused, hslot⟩ := h.send_taken slot status message hholds.unread
    refine ⟨hrefused, ?_⟩
    rw [hslot]
    exact hholds

theorem Lawful.tryReceive_eq {sendable : α → Prop} (h : ends.Lawful sendable)
    (hholds : ends.Holds slot waiting) :
    (ends.tryReceive slot).1 = (waiting.map ends.arrives).elim (.error .empty) .ok := by
  cases waiting with
  | none => exact h.empty slot hholds
  | some message => exact hholds.arrives

/-- Each call at the ends is answered as by the place. -/
theorem Lawful.call_eq {sendable : α → Prop} (h : ends.Lawful sendable)
    (hholds : ends.Holds link.slot waiting) {call : ChannelCall α}
    (hsendable : ∀ message, call.message? = some message → sendable message) :
    (ends.call link call).1 = (Place.call ends.arrives waiting call).1 ∧
      ends.Holds (ends.call link call).2.slot (Place.call ends.arrives waiting call).2 := by
  cases call with
  | send message =>
    obtain ⟨haccepted, hkept⟩ := h.send_eq hholds (hsendable message rfl) link.writer
    exact ⟨congrArg ChannelAnswer.sent haccepted, hkept⟩
  | trySend message =>
    obtain ⟨haccepted, hkept⟩ := h.send_eq hholds (hsendable message rfl) link.writer
    simp only [Ends.call, Place.call, h.trySend_eq link.slot link.writer message, haccepted,
      true_and]
    exact hkept
  | receive =>
    obtain ⟨hanswer, hslot⟩ := h.receive_eq link.slot link.reader
    simp only [Ends.call, Place.call, hanswer, hslot, h.tryReceive_eq hholds]
    refine ⟨?_, h.taken link.slot⟩
    cases waiting <;> rfl
  | tryReceive => exact ⟨congrArg ChannelAnswer.tryReceived (h.tryReceive_eq hholds), h.taken _⟩
  | clear => exact ⟨rfl, rfl⟩

/-- So is a whole run. -/
theorem Lawful.run_eq {sendable : α → Prop} (h : ends.Lawful sendable)
    (hholds : ends.Holds link.slot waiting) {calls : List (ChannelCall α)}
    (hsendable : ∀ call ∈ calls, ∀ message, call.message? = some message → sendable message) :
    ChannelCall.answers ends.call link calls =
        ChannelCall.answers (Place.call ends.arrives) waiting calls ∧
      ends.Holds (ChannelCall.after ends.call link calls).slot
        (ChannelCall.after (Place.call ends.arrives) waiting calls) := by
  induction calls generalizing link waiting with
  | nil => exact ⟨rfl, hholds⟩
  | cons call calls ih =>
    obtain ⟨hanswer, hnext⟩ := h.call_eq hholds (hsendable call List.mem_cons_self)
    obtain ⟨hanswers, hafter⟩ :=
      ih hnext fun later hlater => hsendable later (List.mem_cons_of_mem _ hlater)
    exact ⟨by rw [ChannelCall.answers, ChannelCall.answers, hanswer, hanswers], hafter⟩

/-- Over a run, the ends of a slot are those of a place for one message. -/
structure OnePlace (ends : Ends words α β) (link : Link words) (calls : List (ChannelCall α)) :
    Prop where
  /-- A send is accepted when nothing waits, a receive gets what waits. -/
  answers : ChannelCall.answers ends.call link calls =
    ChannelCall.answers (Place.call ends.arrives) none calls
  /-- Accepted messages leave in order, and all but the one that waits have left. -/
  accounts : (ChannelCall.accepted ends.call link calls).map ends.arrives =
    (Place.departures ends.arrives none calls).map Departure.message ++
      (ChannelCall.after (Place.call ends.arrives) none calls).toList.map ends.arrives
  /-- A message that leaves was delivered unless it was lost when the slot was cleared. -/
  delivered : (ChannelCall.answers ends.call link calls).filterMap ChannelAnswer.delivered? =
    (Place.departures ends.arrives none calls).filterMap Departure.delivered?
  /-- A send that finds a message waiting, and so is refused, changes no byte of the slot. -/
  refused : (ChannelCall.after (Place.call ends.arrives) none calls).isSome →
    ∀ send message, ChannelCall.message? send = some message →
      (ends.call (ChannelCall.after ends.call link calls) send).2.slot.wireBytes =
        (ChannelCall.after ends.call link calls).slot.wireBytes

theorem Lawful.slot_of_refused {sendable : α → Prop} (h : ends.Lawful sendable)
    (hholds : ends.Holds link.slot waiting) (hwaiting : waiting.isSome) {send : ChannelCall α}
    (hsend : send.message? = some message) : (ends.call link send).2.slot = link.slot := by
  obtain ⟨earlier, rfl⟩ := Option.isSome_iff_exists.mp hwaiting
  have hslot := (h.send_taken link.slot link.writer message hholds.unread).2
  cases send with
  | send =>
    cases hsend
    exact hslot
  | trySend =>
    cases hsend
    rw [Ends.call, h.trySend_eq link.slot link.writer message]
    exact hslot
  | receive | tryReceive | clear => cases hsend

theorem accepted_congr {calls : List (ChannelCall α)}
    (hanswers : ChannelCall.answers ends.call link calls =
      ChannelCall.answers (Place.call ends.arrives) waiting calls) :
    ChannelCall.accepted ends.call link calls =
      ChannelCall.accepted (Place.call ends.arrives) waiting calls := by
  rw [ChannelCall.accepted, hanswers, ChannelCall.accepted]

theorem Lawful.onePlace_run {sendable : α → Prop} (h : ends.Lawful sendable)
    (hfresh : link.slot.isUnread = false) {calls : List (ChannelCall α)}
    (hsendable : ∀ call ∈ calls, ∀ message, call.message? = some message → sendable message) :
    ends.OnePlace link calls := by
  have hholds : ends.Holds link.slot none := hfresh
  obtain ⟨hanswers, hafter⟩ := h.run_eq hholds hsendable
  exact {
    answers := hanswers
    accounts := by
      rw [accepted_congr hanswers]
      exact Place.accounts none calls
    delivered := by
      rw [hanswers]
      exact Place.delivered none calls
    refused := fun hwaiting _ _ hsend =>
      congrArg Slot.wireBytes (h.slot_of_refused hafter hwaiting hsend) }

end Ends

namespace Channel

/-! ## Messages and replies -/

theorem tryReceive_of_read {expected : Origin} {slot : Slot 2} (hread : slot.isUnread = false) :
    (tryReceive expected slot).1 = .error .empty := by
  simp only [tryReceive, tryTake, Slot.take?, hread]
  rfl

theorem tryReceiveReply_of_read {expected : Origin} {slot : Slot 5}
    (hread : slot.isUnread = false) : (tryReceiveReply expected slot).1 = .error .empty := by
  simp only [tryReceiveReply, tryTake, Slot.take?, hread]
  rfl

theorem ok_of_toOption {ε α : Type} {result : Except ε α} {value : α}
    (hvalue : result.toOption = some value) : result = .ok value := by
  cases result with
  | error fault => cases hvalue
  | ok answer => exact congrArg Except.ok (Option.some.inj hvalue)

/-- Reporting a refusal is all that the two kinds of sends differ in. -/
theorem trySendPacket_eq {words : ℕ} {α : Type} (origin : Origin) (slot : Slot words)
    (status : StatusSlot) (packet : Packet words) (type : MessageType) (first : UInt32)
    (message : α) :
    trySendPacket slot packet message =
      (if (sendPacket origin slot status packet type first).accepted then .ok ()
        else .error message,
        (sendPacket origin slot status packet type first).slot) := by
  cases hwritten : slot.write? packet with
  | none => simp [trySendPacket, sendPacket, hwritten]
  | some written => simp [trySendPacket, sendPacket, hwritten]

theorem lawful_messageEnds (writer reader : Origin) :
    (messageEnds writer reader).Lawful fun message => message.1 ≠ .none where
  send_free slot status message hread hsendable := by
    have hsent : (messageEnds writer reader).send slot status message =
        ⟨true, filled writer slot message.1 message.2.1 message.2.2, status⟩ :=
      send_of_read hread status message.1 message.2.1 message.2.2
    rw [hsent]
    exact ⟨rfl, isUnread_filled .., ok_of_toOption (waiting?_filled hsendable writer slot _ _)⟩
  send_taken slot status message hunread := by
    have hsent : (messageEnds writer reader).send slot status message = _ :=
      send_of_unread hunread status message.1 message.2.1 message.2.2
    rw [hsent]
    exact ⟨rfl, rfl⟩
  trySend_eq slot status message :=
    trySendPacket_eq writer slot status _ message.1 message.2.1 message
  receive_eq slot status := by
    simp only [messageEnds, receive, settle]
    generalize tryReceive writer slot = taken
    obtain ⟨result, rest⟩ := taken
    cases result <;> exact ⟨rfl, rfl⟩
  empty slot hread := tryReceive_of_read hread
  taken slot := isUnread_tryTake writer slot

theorem lawful_replyEnds (writer reader : Origin) :
    (replyEnds writer reader).Lawful fun _ => True where
  send_free slot status reply hread _ := by
    have hsent : (replyEnds writer reader).send slot status reply =
        ⟨true, replied writer slot reply, status⟩ :=
      sendReply_of_read hread status reply
    rw [hsent]
    exact ⟨rfl, isUnread_replied .., ok_of_toOption (waitingReply?_replied writer slot reply)⟩
  send_taken slot status reply hunread := by
    simp only [replyEnds, sendReply, sendPacket, Slot.write?, hunread]
    exact ⟨rfl, rfl⟩
  trySend_eq slot status reply := trySendPacket_eq writer slot status _ _ _ reply
  receive_eq slot status := by
    simp only [replyEnds, receiveReply, settle]
    generalize tryReceiveReply writer slot = taken
    obtain ⟨result, rest⟩ := taken
    cases result <;> exact ⟨rfl, rfl⟩
  empty slot hread := tryReceiveReply_of_read hread
  taken slot := isUnread_tryTake writer slot

/-- A channel for messages and a channel for sync replies are places for one message, over any
calls at matching ends, as long as no message of type `none` is sent. -/
theorem onePlace (writer reader : Origin) (atWriter atReader : StatusSlot)
    {calls : List (ChannelCall (MessageType × UInt32 × UInt32))}
    (hcalls : ∀ call ∈ calls, ∀ message, call.message? = some message → message.1 ≠ .none)
    (replyCalls : List (ChannelCall SyncReply)) :
    (messageEnds writer reader).OnePlace { writer := atWriter, reader := atReader } calls ∧
      (replyEnds writer reader).OnePlace { writer := atWriter, reader := atReader } replyCalls :=
  ⟨(lawful_messageEnds writer reader).onePlace_run rfl hcalls,
    (lawful_replyEnds writer reader).onePlace_run rfl fun _ _ _ _ => trivial⟩

/-- The second message is refused while the first one waits, the third is lost when the slot is
cleared, and the fourth gets through; so does a reply with its timestamp. -/
theorem onePlace_cleared :
    let calls := [.send (.ping, 1, 2), .trySend (.pong, 3, 4), .receive, .send (.ping, 5, 6),
      .clear, .receive, .trySend (.ping, 7, 8), .tryReceive]
    let replyCalls := [.send ⟨20000, 20, 0, 0x123456789abcdef0⟩, .receive]
    let link : Link 2 := { writer := {}, reader := {} }
    let replyLink : Link 5 := { writer := {}, reader := {} }
    (∀ call ∈ calls, ∀ message, ChannelCall.message? call = some message → message.1 ≠ .none) ∧
      ((messageEnds .host .pru0).OnePlace link calls ∧
        (replyEnds .host .pru0).OnePlace replyLink replyCalls) ∧
      ChannelCall.answers (messageEnds .host .pru0).call link calls =
        [.sent true, .tried (.error (.pong, 3, 4)), .received (some ⟨.host, .ping, 1, 2⟩),
          .sent true, .cleared, .received none, .tried (.ok ()),
          .tryReceived (.ok ⟨.host, .ping, 7, 8⟩)] ∧
      ChannelCall.answers (replyEnds .host .pru0).call replyLink replyCalls =
        [.sent true, .received (some ⟨20000, 20, 0, 0x123456789abcdef0⟩)] := by
  intro calls replyCalls link replyLink
  have hcalls : ∀ call ∈ calls, ∀ message, ChannelCall.message? call = some message →
      message.1 ≠ .none := by decide +kernel
  exact ⟨hcalls, onePlace .host .pru0 {} {} hcalls replyCalls, by decide +kernel,
    by decide +kernel⟩

end Channel

end HarvestTestbed
