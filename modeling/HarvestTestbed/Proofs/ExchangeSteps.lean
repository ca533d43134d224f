import HarvestTestbed.Proofs.SyncExchange

/-!
# What a step of the timing core does to the exchange

The timing core takes part in the sync exchange in three ways: it turns a trigger into a request, it
collects a reply, and it stops at a trigger that comes while it waits for a reply.  As long as only
a client that waits finds a message in a slot, a step does one of these or leaves the exchange
alone, and the only event that it reports is the violation that stops it.
-/

namespace HarvestTestbed

/-- The sync exchange: the client and what is between it and the host. -/
structure ExchangeView where
  /-- Whether a trigger waits. -/
  raised : Bool
  client : SyncClient
  /-- How many requests were sent. -/
  sent : ℕ
  request : Slot 2
  reply : Slot 5
  /-- The status slot of the timing core. -/
  status : StatusSlot
  hostStatus : StatusSlot

def TimingLoop.exchange {T : Type} (loop : TimingLoop T) (memory : SharedMemory) :
    ExchangeView where
  raised := memory.arena.syncTrigger.isRaised
  client := loop.client
  sent := loop.stats.syncRequests
  request := memory.arena.pru1ToHost
  reply := memory.arena.hostToPru1
  status := memory.arena.pru1Status
  hostStatus := memory.arena.hostStatus

namespace ExchangeView

/-- Only a client that waits finds a message in a slot, in one slot at a time, and it is one that
its reader accepts. -/
structure InOrder (view : ExchangeView) : Prop where
  request : view.request.isUnread = true →
    view.client.state = .replyPending ∧ view.reply.isUnread = false ∧
      ∃ counter number, Channel.waiting? .pru1 view.request =
        some ⟨.pru1, .syncRequest, counter, number⟩
  reply : view.reply.isUnread = true →
    view.client.state = .replyPending ∧
      ∃ reply, Channel.waitingReply? .host view.reply = some reply

/-- A client that waits for nothing finds both slots empty. -/
theorem InOrder.of_idle {view : ExchangeView} (h : view.InOrder)
    (hidle : view.client.state = .idle) :
    view.request.isUnread = false ∧ view.reply.isUnread = false := by
  constructor
  · by_contra hunread
    have hwaits := (h.request (Bool.eq_true_of_not_eq_false hunread)).1
    rw [hidle] at hwaits
    cases hwaits
  · by_contra hunread
    have hwaits := (h.reply (Bool.eq_true_of_not_eq_false hunread)).1
    rw [hidle] at hwaits
    cases hwaits

def violated (view : ExchangeView) (counter : UInt32) : ExchangeView :=
  { view with
    raised := false
    status := (view.status.report .pru1 .syncStateViolation counter 0).2 }

/-- The exchange after a request with a counter value was sent. -/
def requested (view : ExchangeView) (counter : UInt32) : ExchangeView :=
  { view with
    raised := false
    client := { state := .replyPending, requests := view.client.requests + 1 }
    sent := view.sent + 1
    request := Channel.filled .pru1 view.request .syncRequest counter view.client.requests }

def collected (view : ExchangeView) : ExchangeView :=
  { view with
    client := { view.client with state := .idle }
    reply := { view.reply with unread := 0 } }

/-- What the work of one step makes of the exchange, and where it leads the loop. -/
inductive Works (view : ExchangeView) (counter : UInt32) : LoopState → ExchangeView → Prop
  | violates (hraised : view.raised = true) (hwaits : view.client.state = .replyPending) :
      Works view counter .fault (view.violated counter)
  | requests (hraised : view.raised = true) (hidle : view.client.state = .idle) :
      Works view counter .running (view.requested counter)
  | collects (hlow : view.raised = false) (hreply : view.reply.isUnread = true) :
      Works view counter .running view.collected
  | rests (hlow : view.raised = false) (hread : view.reply.isUnread = false) :
      Works view counter .running view

theorem InOrder.works {view after : ExchangeView} {counter : UInt32} {next : LoopState}
    (h : view.InOrder) (hworks : view.Works counter next after) : after.InOrder := by
  cases hworks with
  | violates | rests => exact ⟨h.request, h.reply⟩
  | requests _ hidle =>
      obtain ⟨-, hread⟩ := h.of_idle hidle
      exact
        { request := fun _ => ⟨rfl, hread, _, _, Channel.waiting?_filled (by decide) _ _ _ _⟩
          reply := fun hunread => absurd (hread.symm.trans hunread) Bool.false_ne_true }
  | collects _ hreply =>
      exact
        { request := fun hunread =>
            absurd ((h.request hunread).2.1.symm.trans hreply) Bool.false_ne_true
          reply := nofun }

/-- What a step makes of the exchange, by the states of the loop and of the session. -/
inductive Steps (view : ExchangeView) (counter : UInt32) :
    LoopState → SessionState → LoopState → ExchangeView → Prop
  | acknowledges : Steps view counter .reset .reset .reset
      { view with
        client := view.client.reset
        sent := 0
        status := (view.status.report .pru1 .restart 0 0).2 }
  | clears (session : SessionState) : Steps view counter .reset session
      (if session = .reset then .reset else .awaitStart)
      { view with client := view.client.reset }
  | awaits (session : SessionState) : Steps view counter .awaitStart session
      (Handshake.follow session) { view with raised := false }
  | works {next : LoopState} {after : ExchangeView} (hworks : Works view counter next after) :
      Steps view counter .running .running next after
  | leaves {session : SessionState} (hsession : session ≠ .running) :
      Steps view counter .running session (Handshake.follow session) view
  | stands (session : SessionState) : Steps view counter .fault session
      (if session = .reset then .reset else .fault) view

end ExchangeView

namespace Channel

theorem slot_tryTake_of_unread {words : ℕ} {slot : Slot words} (hunread : slot.isUnread = true)
    (expected : Origin) : (tryTake expected slot).2 = { slot with unread := 0 } := by
  simp only [tryTake, Slot.take?, hunread, if_true]
  split
  · split <;> rfl
  · rfl

/-- What the reader accepts is answered, and nothing is reported. -/
theorem settle_of_accepted {words : ℕ} {α : Type} {taken : Except ReceiveFault α × Slot words}
    {answer : α} (haccepted : taken.1.toOption = some answer) (reader expected : Origin)
    (status : StatusSlot) :
    settle reader expected status taken = ⟨some answer, taken.2, status⟩ := by
  obtain ⟨result, rest⟩ := taken
  cases result with
  | error fault => cases haccepted
  | ok accepted =>
      cases haccepted
      rfl

/-- A message that its reader accepts is taken out of its slot, and nothing is reported. -/
theorem receive_of_waiting {expected : Origin} {slot : Slot 2} {message : Message}
    (hwaits : waiting? expected slot = some message) (reader : Origin) (status : StatusSlot) :
    receive reader expected slot status = ⟨some message, { slot with unread := 0 }, status⟩ := by
  have hunread : slot.isUnread = true := by
    by_contra hread
    rw [waiting?_of_read (Bool.eq_false_iff.mpr hread)] at hwaits
    cases hwaits
  have hrest : (tryReceive expected slot).2 = { slot with unread := 0 } :=
    slot_tryTake_of_unread hunread expected
  rw [receive, settle_of_accepted hwaits, hrest]

theorem receiveReply_of_waiting {expected : Origin} {slot : Slot 5} {reply : SyncReply}
    (hwaits : waitingReply? expected slot = some reply) (reader : Origin)
    (status : StatusSlot) :
    receiveReply reader expected slot status =
      ⟨some reply, { slot with unread := 0 }, status⟩ := by
  have hunread : slot.isUnread = true := by
    by_contra hread
    rw [waitingReply?_of_read (Bool.eq_false_iff.mpr hread)] at hwaits
    cases hwaits
  have hrest : (tryReceiveReply expected slot).2 = { slot with unread := 0 } :=
    slot_tryTake_of_unread hunread expected
  rw [receiveReply, settle_of_accepted hwaits, hrest]

end Channel

namespace SharedMemory

/-- Without a reply a receive does nothing. -/
theorem receiveReply_of_read {memory : SharedMemory} (hread : memory.replyPending = false) :
    memory.receiveReply = (none, memory) := by
  have hslot : memory.arena.hostToPru1.isUnread = false := hread
  simp only [receiveReply, Channel.receiveReply, Channel.settle, Channel.tryReceiveReply,
    Channel.tryTake, Slot.take?, hslot]
  rfl

theorem receiveReply_of_waiting {memory : SharedMemory} {reply : SyncReply}
    (hwaits : memory.waitingReply? = some reply) :
    memory.receiveReply = (some reply, memory.mapArena fun arena =>
      { arena with hostToPru1 := { arena.hostToPru1 with unread := 0 } }) := by
  simp only [receiveReply, Channel.receiveReply_of_waiting hwaits]
  rfl

/-- Without a request a receive does nothing. -/
theorem syncReceive_of_read {memory : SharedMemory} (hread : memory.timingPending = false) :
    memory.syncReceive = (none, memory) := by
  have hslot : memory.arena.pru1ToHost.isUnread = false := hread
  simp only [syncReceive, Channel.receive, Channel.settle, Channel.tryReceive,
    Channel.tryTake, Slot.take?, hslot]
  rfl

theorem syncReceive_of_waiting {memory : SharedMemory} {message : Message}
    (hwaits : Channel.waiting? .pru1 memory.arena.pru1ToHost = some message) :
    memory.syncReceive = (some message, memory.mapArena fun arena =>
      { arena with pru1ToHost := { arena.pru1ToHost with unread := 0 } }) := by
  simp only [syncReceive, Channel.receive_of_waiting hwaits]
  rfl

end SharedMemory

/-- An idle client sends a request into a free slot. -/
theorem SyncClient.onTrigger_of_idle {client : SyncClient} {memory : SharedMemory}
    (hidle : client.state = .idle) (hread : memory.arena.pru1ToHost.isUnread = false)
    (counter : UInt32) :
    client.onTrigger counter memory =
      (.requested, { state := .replyPending, requests := client.requests + 1 },
        memory.mapArena fun arena => { arena with
          pru1ToHost :=
            Channel.filled .pru1 arena.pru1ToHost .syncRequest counter client.requests }) := by
  simp only [onTrigger, hidle, SharedMemory.timingSend, Channel.send_of_read hread, if_true]
  rfl

namespace TimingLoop

variable {T : Type} [Timer T]

/-! ## The pieces of a step -/

theorem exchange_sample (loop : TimingLoop T) (memory : SharedMemory) :
    (loop.sample memory).1.exchange (loop.sample memory).2 = loop.exchange memory := by
  simp only [sample, armNext]
  split <;> rfl

theorem exchange_applyReply (loop : TimingLoop T) (memory : SharedMemory) :
    loop.applyReply.exchange memory = loop.exchange memory := by
  rw [applyReply]
  split <;> rfl

theorem exchange_beginPeriod (loop : TimingLoop T) (memory : SharedMemory) :
    (loop.beginPeriod memory).1.exchange (loop.beginPeriod memory).2 = loop.exchange memory := by
  simp only [beginPeriod, exchange_sample]
  exact loop.exchange_applyReply memory

theorem exchange_serveTimer (loop : TimingLoop T) (memory : SharedMemory) :
    (loop.serveTimer memory).1.exchange (loop.serveTimer memory).2 = loop.exchange memory := by
  rw [serveTimer]
  split
  · exact exchange_beginPeriod _ _
  · split
    · exact exchange_sample _ _
    · rfl

theorem exchange_captureEdges (loop : TimingLoop T) (memory : SharedMemory) :
    (loop.captureEdges memory).1.exchange (loop.captureEdges memory).2 =
      loop.exchange memory := by
  simp only [captureEdges]
  split
  · rfl
  · split <;> rfl

/-- A trigger is answered with a request by an idle client, and is a violation for one that
waits. -/
theorem serveTrigger_cases {loop : TimingLoop T} {memory : SharedMemory}
    (h : (loop.exchange memory).InOrder) :
    let served := loop.serveTrigger memory
    let view := loop.exchange memory
    let counter := Timer.counter loop.timer
    (view.raised = true ∧ view.client.state = .replyPending ∧ served.1 = false ∧
        served.2.1.exchange served.2.2 = view.violated counter) ∨
      (view.raised = true ∧ view.client.state = .idle ∧ served.1 = true ∧
        served.2.1.exchange served.2.2 = view.requested counter) ∨
      view.raised = false ∧ served.1 = true ∧ served.2.1.exchange served.2.2 = view := by
  obtain ⟨flag, hflag⟩ : ∃ flag, memory.arena.syncTrigger.isRaised = flag := ⟨_, rfl⟩
  have htaken : memory.takeSyncTrigger = (flag, memory.takeSyncTrigger.2) := by
    rw [← hflag]
    rfl
  have hview : loop.exchange memory.takeSyncTrigger.2 =
      { loop.exchange memory with raised := false } := rfl
  intro served view counter
  cases flag with
  | false =>
      have hserved : served = (true, loop, memory.takeSyncTrigger.2) := by
        simp only [served, serveTrigger]
        rw [htaken]
      have hlow : view.raised = false := hflag
      refine .inr (.inr ⟨hlow, by rw [hserved], ?_⟩)
      rw [hserved, hview, ← hlow]
  | true =>
      cases hclient : loop.client.state with
      | replyPending =>
          have hserved : served = (false, loop,
              memory.takeSyncTrigger.2.notify .pru1 .syncStateViolation counter 0) := by
            simp only [served, serveTrigger]
            rw [htaken]
            simp only [SyncClient.onTrigger, hclient]
            rfl
          exact .inl ⟨hflag, hclient, by rw [hserved], by rw [hserved]; rfl⟩
      | idle =>
          have hread : memory.takeSyncTrigger.2.arena.pru1ToHost.isUnread = false :=
            (h.of_idle hclient).1
          have hserved : served = (true,
              { loop with
                client := { state := .replyPending, requests := loop.client.requests + 1 }
                stats := { loop.stats with syncRequests := loop.stats.syncRequests + 1 } },
              memory.takeSyncTrigger.2.mapArena fun arena => { arena with
                pru1ToHost := Channel.filled .pru1 arena.pru1ToHost .syncRequest counter
                  loop.client.requests }) := by
            simp only [served, serveTrigger]
            rw [htaken]
            simp only [SyncClient.onTrigger_of_idle hclient hread]
            rfl
          exact .inr (.inl ⟨hflag, hclient, by rw [hserved], by rw [hserved]; rfl⟩)

omit [Timer T] in
/-- A waiting reply is collected by the client that waits for it. -/
theorem serveReply_cases (loop : TimingLoop T) (memory : SharedMemory)
    (h : (loop.exchange memory).InOrder) :
    let served := loop.serveReply memory
    let view := loop.exchange memory
    (view.reply.isUnread = true ∧ served.1.exchange served.2 = view.collected) ∨
      view.reply.isUnread = false ∧ served = (loop, memory) := by
  intro served view
  cases hunread : view.reply.isUnread with
  | false =>
      refine .inr ⟨rfl, ?_⟩
      simp only [served, serveReply]
      rw [SharedMemory.receiveReply_of_read hunread]
  | true =>
      obtain ⟨hclient, reply, hwaits⟩ := h.reply hunread
      have hreplied : loop.client.onReply reply =
          (some reply, { loop.client with state := .idle }) := by
        have hpending : loop.client.state = .replyPending := hclient
        simp only [SyncClient.onReply, hpending]
      refine .inl ⟨rfl, ?_⟩
      simp only [served, serveReply]
      rw [SharedMemory.receiveReply_of_waiting hwaits]
      simp only [hreplied]
      rfl

/-! ## A whole step -/

theorem works_work {loop : TimingLoop T} {memory : SharedMemory}
    (h : (loop.exchange memory).InOrder) :
    (loop.exchange memory).Works (Timer.counter loop.timer) (loop.work memory).1
      ((loop.work memory).2.1.exchange (loop.work memory).2.2) := by
  have hrest : ∀ (loop : TimingLoop T) memory,
      ((loop.serveTimer memory).1.captureEdges (loop.serveTimer memory).2).1.exchange
        ((loop.serveTimer memory).1.captureEdges (loop.serveTimer memory).2).2 =
        loop.exchange memory := fun loop memory =>
    ((loop.serveTimer memory).1.exchange_captureEdges _).trans (loop.exchange_serveTimer memory)
  have hserved := serveTrigger_cases h
  simp only at hserved
  rw [work]
  split <;> rename_i loop' memory' heq <;> rw [heq] at hserved <;> simp only at hserved
  · obtain ⟨hraised, hwaits, -, hview⟩ | ⟨-, -, hcontra, -⟩ | ⟨-, hcontra, -⟩ := hserved
    · rw [hview]
      exact .violates hraised hwaits
    · cases hcontra
    · cases hcontra
  · simp only [hrest]
    obtain ⟨-, -, hcontra, -⟩ | ⟨hraised, hidle, -, hview⟩ | ⟨hlow, -, hview⟩ := hserved
    · cases hcontra
    · -- a client that has just asked finds no reply
      have hread : memory'.replyPending = false := by
        have hslot : memory'.arena.hostToPru1 = memory.arena.hostToPru1 :=
          congrArg ExchangeView.reply hview
        rw [SharedMemory.replyPending, hslot]
        exact (h.of_idle hidle).2
      have hnone : loop'.serveReply memory' = (loop', memory') := by
        simp only [serveReply]
        rw [SharedMemory.receiveReply_of_read hread]
      rw [hnone, hview]
      exact .requests hraised hidle
    · obtain ⟨hunread, hcollected⟩ | ⟨hread, hnone⟩ :=
        loop'.serveReply_cases memory' (by rwa [hview])
      · rw [hview] at hunread hcollected
        rw [hcollected]
        exact .collects hlow hunread
      · rw [hview] at hread
        rw [hnone, hview]
        exact .rests hlow hread

/-- A step does to the exchange what the states of the loop and of the session make of it. -/
theorem steps_step (loop : TimingLoop T) (memory : SharedMemory)
    (h : loop.state = .running → memory.state = .running → (loop.exchange memory).InOrder) :
    (loop.exchange memory).Steps (Timer.counter loop.timer) loop.state memory.state
      (loop.step memory).1.state ((loop.step memory).1.exchange (loop.step memory).2) := by
  have hview : (loop.step memory).1.exchange (loop.step memory).2 =
      (loop.dispatch memory).2.1.exchange (loop.dispatch memory).2.2 := by
    simp only [step]
    split <;> rfl
  rw [hview, state_step_eq]
  cases hloop : loop.state with
  | reset =>
      rw [dispatch, hloop]
      simp only [stepReset]
      split
      · rename_i hsession
        rw [acknowledge]
        rw [hsession]
        split
        · exact .clears .reset
        · exact .acknowledges
      · rename_i hsession
        have hclears : (loop.exchange memory).Steps (Timer.counter loop.timer) .reset
            memory.state _ _ := .clears memory.state
        rwa [if_neg hsession] at hclears
  | awaitStart =>
      obtain ⟨hnext, -, -⟩ := loop.stepAwaitStart_cases memory
      have hexchange : (loop.stepAwaitStart memory).2.1.exchange
          (loop.stepAwaitStart memory).2.2 =
          { loop.exchange memory with raised := false } := by
        simp only [stepAwaitStart]
        split <;> rfl
      rw [dispatch, hloop]
      simp only [hnext, hexchange]
      exact .awaits memory.state
  | running =>
      rw [dispatch, hloop]
      simp only [stepRunning]
      have hleaves : ∀ {session : SessionState}, session ≠ .running →
          (loop.exchange memory).Steps (Timer.counter loop.timer) .running session
            (Handshake.follow session) (loop.exchange memory) := .leaves
      cases hsession : memory.state with
      | running => exact .works (works_work (h hloop hsession))
      | idle | armed | reset | fault => exact hleaves (by decide)
  | fault =>
      rw [dispatch, hloop]
      exact .stands memory.state

end TimingLoop

end HarvestTestbed
