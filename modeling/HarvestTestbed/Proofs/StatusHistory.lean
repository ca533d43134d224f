import Mathlib
import HarvestTestbed.Mailbox.Status
import HarvestTestbed.Mailbox.Wire

/-!
# What a status slot remembers

A status slot has room for one event, and three parties work on it: its actor reports, the
supervisor polls, and the session clears it.  The answers are those of the history of these calls.
A report is published unless the last event published since the slot was cleared is the same, and a
poll delivers the last event published since the last poll, if the slot was not cleared in the
meantime.

The slot itself has no history.  It knows that an event waits from the difference of two counters,
and these wrap: the difference is the number of events published since the last poll, twice, as long
as that number stays below half the range of a word.
-/

namespace HarvestTestbed

namespace StatusSlot

/-- No event is being written. -/
def Settled (status : StatusSlot) : Prop :=
  status.seq % 2 = 0

variable {status : StatusSlot} {origin : Origin}

theorem settled_overwrite (h : status.Settled) (origin : Origin) (code : StatusCode)
    (first second : UInt32) : (status.overwrite origin code first second).Settled := by
  have hseq : (status.seq + 2) % 2 = 0 := by
    have hnat := congrArg UInt32.toNat h
    apply UInt32.toNat_inj.mp
    simp only [UInt32.toNat_mod, UInt32.toNat_add, UInt32.reduceToNat] at hnat ⊢
    omega
  exact hseq

theorem settled_report (h : status.Settled) (origin : Origin) (code : StatusCode)
    (first second : UInt32) : (status.report origin code first second).2.Settled := by
  rw [report]
  split
  · exact h
  · exact settled_overwrite h origin code first second

theorem settled_poll (h : status.Settled) (expected : Origin) :
    (status.poll expected).2.Settled := by
  rw [StatusSlot.poll]
  split <;> exact h

/-- Between calls an event waits if the counters differ. -/
theorem isPending_of_settled (h : status.Settled) :
    status.isPending = true ↔ status.seq ≠ status.delivered := by
  have heven : (status.seq % 2 == 0) = true := beq_iff_eq.mpr h
  simp only [isPending, heven, Bool.true_and, bne_iff_ne]

/-- What was published is what the reader will get. -/
theorem event_overwrite (status : StatusSlot) (origin : Origin) (code : StatusCode)
    (first second : UInt32) :
    (status.overwrite origin code first second).event origin =
      ⟨origin, code, first, second⟩ := by
  simp [event, overwrite]

end StatusSlot

/-! ## Histories -/

inductive StatusCall
  | report (code : StatusCode) (first second : UInt32)
  | poll
  | clear
  deriving DecidableEq, Repr

def StatusCall.isReport : StatusCall → Bool
  | .report _ _ _ => true
  | .poll | .clear => false

inductive StatusAnswer
  | reported (published : Bool)
  | polled (event : Option StatusEvent)
  | cleared
  deriving DecidableEq, Repr

structure StatusExchange where
  call : StatusCall
  answer : StatusAnswer
  deriving DecidableEq, Repr

namespace StatusExchange

def published? (origin : Origin) : StatusExchange → Option StatusEvent
  | ⟨.report code first second, .reported true⟩ => some ⟨origin, code, first, second⟩
  | _ => none

theorem isReport_of_published {origin : Origin} (exchange : StatusExchange)
    (h : (exchange.published? origin).isSome = true) : exchange.call.isReport = true := by
  obtain ⟨call, answer⟩ := exchange
  cases call with
  | report => rfl
  | poll | clear => cases h

def delivered? : StatusExchange → Option StatusEvent
  | ⟨_, .polled event⟩ => event
  | _ => none

end StatusExchange

/-- What happened at a status slot, in order. -/
abbrev StatusHistory := List StatusExchange

namespace StatusHistory

def published (origin : Origin) (past : StatusHistory) : List StatusEvent :=
  past.filterMap (·.published? origin)

def delivered (past : StatusHistory) : List StatusEvent :=
  past.filterMap (·.delivered?)

/-- The events published since the last of certain calls. -/
def publishedSince (origin : Origin) (calls : List StatusCall) (past : StatusHistory) :
    List StatusEvent :=
  published origin (past.rtakeWhile fun exchange => exchange.call ∉ calls)

/-- The last event published since the slot was cleared, delivered or not. -/
def newest? (origin : Origin) (past : StatusHistory) : Option StatusEvent :=
  (past.publishedSince origin [.clear]).getLast?

/-- The last event published since the last poll and since the slot was cleared. -/
def waiting? (origin : Origin) (past : StatusHistory) : Option StatusEvent :=
  (past.publishedSince origin [.poll, .clear]).getLast?

def answer (origin : Origin) (past : StatusHistory) : StatusCall → StatusAnswer
  | .report code first second =>
      .reported (past.newest? origin ≠ some ⟨origin, code, first, second⟩)
  | .poll => .polled (past.waiting? origin)
  | .clear => .cleared

/-- Every call was answered as its past says. -/
inductive Answered (origin : Origin) : StatusHistory → Prop
  | nil : Answered origin []
  | concat {past : StatusHistory} (h : Answered origin past) (call : StatusCall) :
      Answered origin (past ++ [⟨call, past.answer origin call⟩])

variable {origin : Origin} {past : StatusHistory} {exchange : StatusExchange}
variable {event : StatusEvent}

theorem published_concat (origin : Origin) (past : StatusHistory) (exchange : StatusExchange) :
    published origin (past ++ [exchange]) =
      published origin past ++ (exchange.published? origin).toList := by
  simp only [published, List.filterMap_append, List.filterMap_cons, List.filterMap_nil]
  cases exchange.published? origin <;> rfl

theorem delivered_concat (past : StatusHistory) (exchange : StatusExchange) :
    delivered (past ++ [exchange]) = delivered past ++ exchange.delivered?.toList := by
  simp only [delivered, List.filterMap_append, List.filterMap_cons, List.filterMap_nil]
  cases exchange.delivered? <;> rfl

theorem publishedSince_of_mem (origin : Origin) (past : StatusHistory) {calls : List StatusCall}
    (hmem : exchange.call ∈ calls) : publishedSince origin calls (past ++ [exchange]) = [] := by
  rw [publishedSince, List.rtakeWhile_concat_neg _ _ _ (by simpa using hmem)]
  rfl

/-- Any other call adds to the list what it publishes. -/
theorem publishedSince_of_not_mem (origin : Origin) (past : StatusHistory)
    {calls : List StatusCall} (hmem : exchange.call ∉ calls) :
    publishedSince origin calls (past ++ [exchange]) =
      publishedSince origin calls past ++ (exchange.published? origin).toList := by
  rw [publishedSince, List.rtakeWhile_concat_pos _ _ _ (by simpa using hmem), published_concat]
  rfl

theorem getLast?_publishedSince (origin : Origin) (past : StatusHistory)
    {calls : List StatusCall} (hmem : exchange.call ∉ calls) :
    (publishedSince origin calls (past ++ [exchange])).getLast? =
      (exchange.published? origin).or (publishedSince origin calls past).getLast? := by
  rw [publishedSince_of_not_mem origin past hmem, List.getLast?_append]
  cases exchange.published? origin <;> rfl

/-- The newest event is the one just published, or else the one before. -/
theorem newest?_concat (origin : Origin) (past : StatusHistory)
    (hcall : exchange.call ∉ [StatusCall.clear]) :
    newest? origin (past ++ [exchange]) =
      (exchange.published? origin).or (past.newest? origin) :=
  getLast?_publishedSince origin past hcall

/-- An event waits until the next poll. -/
theorem waiting?_concat (origin : Origin) (past : StatusHistory)
    (hcall : exchange.call ∉ [StatusCall.poll, .clear]) :
    waiting? origin (past ++ [exchange]) =
      (exchange.published? origin).or (past.waiting? origin) :=
  getLast?_publishedSince origin past hcall

theorem newest?_of_mem (origin : Origin) (past : StatusHistory)
    (hcall : exchange.call ∈ [StatusCall.clear]) : newest? origin (past ++ [exchange]) = none :=
  congrArg List.getLast? (publishedSince_of_mem origin past hcall)

theorem waiting?_of_mem (origin : Origin) (past : StatusHistory)
    (hcall : exchange.call ∈ [StatusCall.poll, .clear]) :
    waiting? origin (past ++ [exchange]) = none :=
  congrArg List.getLast? (publishedSince_of_mem origin past hcall)

/-- What waits is the newest event. -/
theorem newest?_of_waiting? (hwaiting : past.waiting? origin = some event) :
    past.newest? origin = some event := by
  induction past using List.reverseRecOn with
  | nil => cases hwaiting
  | append_singleton past exchange ih =>
    by_cases hlook : exchange.call ∈ [StatusCall.poll, .clear]
    · rw [waiting?_of_mem origin past hlook] at hwaiting
      cases hwaiting
    · have hclear : exchange.call ∉ [StatusCall.clear] := fun h => hlook (List.mem_cons_of_mem _ h)
      rw [waiting?_concat origin past hlook] at hwaiting
      rw [newest?_concat origin past hclear]
      cases hpublished : exchange.published? origin with
      | some published => rwa [hpublished] at hwaiting
      | none =>
        rw [hpublished] at hwaiting
        exact ih hwaiting

/-- Events are delivered in the order in which they were published, none of them twice. -/
theorem Answered.delivered_sublist (h : Answered origin past) :
    (delivered past ++ (past.waiting? origin).toList).Sublist (published origin past) := by
  induction h with
  | nil => exact .slnil
  | @concat past h call ih =>
    have hdelivered : (delivered past).Sublist (published origin past) :=
      (List.sublist_append_left _ _).trans ih
    rw [delivered_concat, published_concat]
    cases call with
    | report code first second =>
      rw [waiting?_concat origin past (by simp), answer]
      cases decide (past.newest? origin ≠ some ⟨origin, code, first, second⟩) with
      | true => simpa [StatusExchange.published?, StatusExchange.delivered?] using hdelivered
      | false => simpa [StatusExchange.published?, StatusExchange.delivered?] using ih
    | poll =>
      rw [waiting?_of_mem origin past (by simp)]
      simpa [StatusExchange.published?, StatusExchange.delivered?, answer] using ih
    | clear =>
      rw [waiting?_of_mem origin past (by simp)]
      simpa [StatusExchange.published?, StatusExchange.delivered?, answer] using hdelivered

theorem length_published_le (origin : Origin) (past : StatusHistory) :
    (published origin past).length ≤ (past.map StatusExchange.call).countP (·.isReport) := by
  rw [published, List.length_filterMap_eq_countP, List.countP_map]
  exact List.countP_mono_left fun exchange _ h => exchange.isReport_of_published h

end StatusHistory

/-! ## The slot against its history -/

/-- No half range of a word of reports in a row without a poll. -/
def StatusCall.Sparse (calls : List StatusCall) : Prop :=
  ∀ stretch, stretch <:+: calls → .poll ∉ stretch → stretch.countP (·.isReport) < 2 ^ 31

theorem StatusCall.Sparse.of_infix {calls earlier : List StatusCall} (h : Sparse calls)
    (hcontained : earlier <:+: calls) : Sparse earlier := fun stretch hstretch =>
  h stretch (hstretch.trans hcontained)

namespace StatusSlot

def call (origin : Origin) (status : StatusSlot) : StatusCall → StatusAnswer × StatusSlot
  | .report code first second =>
      let reported := status.report origin code first second
      (.reported reported.1, reported.2)
  | .poll =>
      let polled := status.poll origin
      (.polled polled.1, polled.2)
  | .clear => (.cleared, status.clear)

def after (origin : Origin) (status : StatusSlot) (calls : List StatusCall) : StatusSlot :=
  calls.foldl (fun status call => (status.call origin call).2) status

/-- What calls and their answers make up. -/
def history (origin : Origin) : StatusSlot → List StatusCall → StatusHistory
  | _, [] => []
  | status, call :: calls =>
      ⟨call, (status.call origin call).1⟩ :: (status.call origin call).2.history origin calls

variable {origin : Origin} {status : StatusSlot} {past : StatusHistory}

theorem after_concat (origin : Origin) (status : StatusSlot) (calls : List StatusCall)
    (call : StatusCall) :
    status.after origin (calls ++ [call]) = ((status.after origin calls).call origin call).2 :=
  List.foldl_append

theorem history_concat (origin : Origin) (status : StatusSlot) (calls : List StatusCall)
    (call : StatusCall) :
    status.history origin (calls ++ [call]) =
      status.history origin calls ++ [⟨call, ((status.after origin calls).call origin call).1⟩] := by
  induction calls generalizing status with
  | nil => rfl
  | cons first calls ih =>
    rw [List.cons_append, history, ih, history, List.cons_append]
    rfl

theorem map_call_history (origin : Origin) (status : StatusSlot) (calls : List StatusCall) :
    (status.history origin calls).map StatusExchange.call = calls := by
  induction calls generalizing status with
  | nil => rfl
  | cons call calls ih => rw [history, List.map_cons, ih]

/-- What a slot shows of the newest event of its actor. -/
structure Shows (status : StatusSlot) (origin : Origin) (newest : Option StatusEvent) : Prop where
  holds : ∀ code first second,
    status.holds origin code first second = true ↔ newest = some ⟨origin, code, first, second⟩
  event : ∀ event, newest = some event → status.event origin = event

/-- A slot shows the event written last, word by word. -/
theorem shows_overwrite (status : StatusSlot) (origin : Origin) (code : StatusCode)
    (first second : UInt32) :
    (status.overwrite origin code first second).Shows origin
      (some ⟨origin, code, first, second⟩) where
  holds code' first' second' := by
    have hcode : code.toByte = code'.toByte ↔ code = code' := by
      refine ⟨fun hbyte => ?_, congrArg _⟩
      have hread := congrArg StatusCode.ofByte? hbyte
      simpa using hread
    simp [StatusSlot.holds, overwrite, hcode, and_assoc]
  event event hevent := by
    cases hevent
    exact event_overwrite status origin code first second

theorem shows_clear (status : StatusSlot) (origin : Origin) : status.clear.Shows origin none where
  holds code first second := by
    have htag : (0 == origin.toByte) = false := by cases origin <;> rfl
    simp [StatusSlot.holds, StatusSlot.clear, Slot.clear, htag]
  event event hevent := by cases hevent

/-- A poll leaves the event where it is. -/
theorem Shows.poll {newest : Option StatusEvent} (h : status.Shows origin newest)
    (expected : Origin) : (status.poll expected).2.Shows origin newest := by
  rw [StatusSlot.poll]
  split
  · exact ⟨h.holds, h.event⟩
  · exact h

/-- The slot as its history has left it. -/
structure Mirrors (status : StatusSlot) (origin : Origin) (past : StatusHistory) : Prop where
  shown : status.Shows origin (past.newest? origin)
  settled : status.Settled
  /-- Every event published since the reader looked moved the counter by two. -/
  seq : status.seq = status.delivered +
    2 * UInt32.ofNat (past.publishedSince origin [.poll, .clear]).length
  unread : status.slot.unread = if (past.waiting? origin).isSome then 1 else 0

/-- The counters differ as long as an event waits, although they wrap. -/
theorem Mirrors.isPending (h : status.Mirrors origin past)
    (hfew : (past.publishedSince origin [.poll, .clear]).length < 2 ^ 31) :
    status.isPending = (past.waiting? origin).isSome := by
  have hwaiting : (past.waiting? origin).isSome = true ↔
      (past.publishedSince origin [.poll, .clear]).length ≠ 0 := by
    rw [StatusHistory.waiting?, List.getLast?_isSome, ne_eq, ne_eq, List.length_eq_zero_iff]
  have hmoved : status.seq ≠ status.delivered ↔
      (past.publishedSince origin [.poll, .clear]).length ≠ 0 := by
    have hlt := status.delivered.toNat_lt
    rw [h.seq, ne_eq, ne_eq, not_iff_not, ← UInt32.toNat_inj]
    simp only [UInt32.toNat_add, UInt32.toNat_mul, UInt32.toNat_ofNat', UInt32.reduceToNat]
    omega
  rw [Bool.eq_iff_iff, isPending_of_settled h.settled, hmoved, hwaiting]

/-- A report that is refused leaves slot and history as they were. -/
theorem Mirrors.refuse (h : status.Mirrors origin past) (code : StatusCode)
    (first second : UInt32) :
    status.Mirrors origin (past ++ [⟨.report code first second, .reported false⟩]) where
  shown := by
    rw [StatusHistory.newest?_concat origin past (by simp)]
    exact h.shown
  settled := h.settled
  seq := by
    rw [StatusHistory.publishedSince_of_not_mem origin past (by simp)]
    simpa [StatusExchange.published?] using h.seq
  unread := by
    rw [StatusHistory.waiting?_concat origin past (by simp)]
    exact h.unread

/-- Each publication moves the counter on by one step. -/
theorem Mirrors.publish (h : status.Mirrors origin past) (code : StatusCode)
    (first second : UInt32) :
    (status.overwrite origin code first second).Mirrors origin
      (past ++ [⟨.report code first second, .reported true⟩]) where
  shown := by
    rw [StatusHistory.newest?_concat origin past (by simp)]
    exact shows_overwrite status origin code first second
  settled := settled_overwrite h.settled origin code first second
  seq := by
    rw [StatusHistory.publishedSince_of_not_mem origin past (by simp), List.length_append]
    change status.seq + 2 = status.delivered + 2 * UInt32.ofNat (_ + 1)
    rw [h.seq, UInt32.ofNat_add, UInt32.mul_add, UInt32.add_assoc]
    rfl
  unread := by
    rw [StatusHistory.waiting?_concat origin past (by simp)]
    rfl

/-- A report is refused exactly if the newest event is the very same. -/
theorem Mirrors.report (h : status.Mirrors origin past) (code : StatusCode)
    (first second : UInt32) :
    (status.call origin (.report code first second)).1 =
        past.answer origin (.report code first second) ∧
      (status.call origin (.report code first second)).2.Mirrors origin
        (past ++ [⟨.report code first second, past.answer origin (.report code first second)⟩]) := by
  have hholds := h.shown.holds code first second
  simp only [StatusSlot.call, StatusSlot.report, StatusHistory.answer]
  by_cases hsame : past.newest? origin = some ⟨origin, code, first, second⟩
  · rw [if_pos (hholds.mpr hsame), decide_eq_false (not_not_intro hsame)]
    exact ⟨rfl, h.refuse code first second⟩
  · rw [if_neg (mt hholds.mp hsame), decide_eq_true hsame]
    exact ⟨rfl, h.publish code first second⟩

theorem delivered_poll (h : status.Settled) (expected : Origin) :
    (status.poll expected).2.delivered = status.seq := by
  rw [StatusSlot.poll]
  split
  · rfl
  · rename_i hread
    exact (not_not.mp (mt (isPending_of_settled h).mpr hread)).symm

/-- A poll answers the event that waits.  With fewer than half a range of publications since the
last poll the counters cannot have met again. -/
theorem Mirrors.poll (h : status.Mirrors origin past)
    (hfew : (past.publishedSince origin [.poll, .clear]).length < 2 ^ 31) :
    (status.call origin .poll).1 = past.answer origin .poll ∧
      (status.call origin .poll).2.Mirrors origin
        (past ++ [⟨.poll, past.answer origin .poll⟩]) := by
  have hpending := h.isPending hfew
  have hlook : StatusCall.poll ∈ [StatusCall.poll, .clear] := List.mem_cons_self
  refine ⟨?_, ?_⟩
  · simp only [StatusSlot.call, StatusSlot.poll, StatusHistory.answer, hpending]
    cases hwaiting : past.waiting? origin with
    | none => rfl
    | some event =>
      have hevent := h.shown.event event (StatusHistory.newest?_of_waiting? hwaiting)
      rw [← hevent]
      rfl
  · exact {
      shown := by
        rw [StatusHistory.newest?_concat origin past (by simp)]
        exact h.shown.poll origin
      settled := settled_poll h.settled origin
      seq := by
        have hseq : (status.poll origin).2.seq = status.seq := by
          rw [StatusSlot.poll]
          split <;> rfl
        rw [StatusHistory.publishedSince_of_mem origin past hlook]
        change (status.poll origin).2.seq = (status.poll origin).2.delivered + 0
        rw [hseq, delivered_poll h.settled, UInt32.add_zero]
      unread := by
        rw [StatusHistory.waiting?_of_mem origin past hlook]
        simp only [StatusSlot.call, StatusSlot.poll]
        split
        · rfl
        · rename_i hread
          rw [hpending] at hread
          rw [h.unread, if_neg hread]
          rfl }

/-- A cleared slot remembers nothing. -/
theorem Mirrors.clear (h : status.Mirrors origin past) :
    (status.call origin .clear).1 = past.answer origin .clear ∧
      (status.call origin .clear).2.Mirrors origin
        (past ++ [⟨.clear, past.answer origin .clear⟩]) := by
  refine ⟨rfl, ?_⟩
  exact {
    shown := by
      rw [StatusHistory.newest?_of_mem origin past (by simp)]
      exact shows_clear status origin
    settled := h.settled
    seq := by
      rw [StatusHistory.publishedSince_of_mem origin past (by simp)]
      exact (UInt32.add_zero _).symm
    unread := by
      rw [StatusHistory.waiting?_of_mem origin past (by simp)]
      rfl }

/-- Each call is answered as the history says. -/
theorem Mirrors.call (h : status.Mirrors origin past)
    (hfew : (past.publishedSince origin [.poll, .clear]).length < 2 ^ 31) (call : StatusCall) :
    (status.call origin call).1 = past.answer origin call ∧
      (status.call origin call).2.Mirrors origin (past ++ [⟨call, past.answer origin call⟩]) := by
  cases call with
  | report code first second => exact h.report code first second
  | poll => exact h.poll hfew
  | clear => exact h.clear

/-- A slot in which nothing was published yet, wherever its counter stands.  That of a new slot
stands at zero. -/
def vacant (counter : UInt32) : StatusSlot :=
  { seq := counter, delivered := counter }

theorem mirrors_vacant {counter : UInt32} (hsettled : (vacant counter).Settled) (origin : Origin) :
    (vacant counter).Mirrors origin [] where
  shown := shows_clear (vacant counter) origin
  settled := hsettled
  seq := (UInt32.add_zero _).symm
  unread := rfl

/-- Where reports are sparse among the calls, few were published since the last poll. -/
theorem few_of_sparse {calls : List StatusCall} (hsparse : StatusCall.Sparse calls)
    (origin : Origin) (status : StatusSlot) :
    ((status.history origin calls).publishedSince origin [.poll, .clear]).length < 2 ^ 31 := by
  rw [StatusHistory.publishedSince]
  set stretch := (status.history origin calls).rtakeWhile
    fun exchange => exchange.call ∉ [StatusCall.poll, .clear] with hstretch
  have hsuffix : stretch.map StatusExchange.call <:+: calls := by
    rw [← map_call_history origin status calls]
    exact (List.rtakeWhile_suffix _ _).isInfix.map _
  have hpoll : StatusCall.poll ∉ stretch.map StatusExchange.call := by
    intro hmem
    obtain ⟨exchange, hexchange, hcall⟩ := List.mem_map.mp hmem
    have hnone := List.mem_rtakeWhile_imp hexchange
    simp [hcall] at hnone
  exact (StatusHistory.length_published_le origin stretch).trans_lt (hsparse _ hsuffix hpoll)

/-- A run makes a history in which every call was answered as its past says, and the slot mirrors
it. -/
theorem answered_run {calls : List StatusCall} (hmirrors : status.Mirrors origin [])
    (hsparse : StatusCall.Sparse calls) :
    (status.history origin calls).Answered origin ∧
      (status.after origin calls).Mirrors origin (status.history origin calls) := by
  induction calls using List.reverseRecOn with
  | nil => exact ⟨.nil, hmirrors⟩
  | append_singleton calls call ih =>
    have hearlier := hsparse.of_infix (List.prefix_append calls [call]).isInfix
    obtain ⟨hanswered, hmirrored⟩ := ih hearlier
    obtain ⟨hanswer, hnext⟩ :=
      hmirrored.call (few_of_sparse hearlier origin status) call
    rw [history_concat, after_concat, hanswer]
    exact ⟨hanswered.concat call, hnext⟩

/-- Over calls, a status slot does as its history says. -/
structure RemembersNewest (origin : Origin) (status : StatusSlot) (calls : List StatusCall) :
    Prop where
  /-- A report is published unless it repeats the newest event, and a poll delivers what waits. -/
  answered : (status.history origin calls).Answered origin
  /-- Events arrive in the order in which they were published, none of them twice. -/
  delivered : (status.history origin calls).delivered.Sublist
    ((status.history origin calls).published origin)
  /-- The counters differ exactly while an event waits. -/
  pending : ∀ earlier, earlier <+: calls → (status.after origin earlier).isPending =
    ((status.history origin earlier).waiting? origin).isSome
  /-- The byte after the tag is set exactly while an event waits. -/
  unread : ∀ earlier, earlier <+: calls → (status.after origin earlier).slot.wireBytes[1]? =
    some (if ((status.history origin earlier).waiting? origin).isSome then 1 else 0)

/-- From a slot in which nothing was published, with its counter anywhere, the newest event is
remembered over any calls in which the supervisor polls often enough. -/
theorem remembersNewest_vacant (origin : Origin) {counter : UInt32} (hcounter : counter % 2 = 0)
    {calls : List StatusCall} (hsparse : StatusCall.Sparse calls) :
    RemembersNewest origin (vacant counter) calls := by
  have hrun : ∀ earlier, earlier <+: calls →
      ((vacant counter).history origin earlier).Answered origin ∧
        ((vacant counter).after origin earlier).Mirrors origin
          ((vacant counter).history origin earlier) := fun earlier hearlier =>
    answered_run (mirrors_vacant hcounter origin) (hsparse.of_infix hearlier.isInfix)
  obtain ⟨hanswered, -⟩ := hrun calls (List.prefix_refl calls)
  exact {
    answered := hanswered
    delivered := (List.sublist_append_left _ _).trans hanswered.delivered_sublist
    pending := fun earlier hearlier =>
      (hrun earlier hearlier).2.isPending
        (few_of_sparse (hsparse.of_infix hearlier.isInfix) origin _)
    unread := fun earlier hearlier => congrArg some (hrun earlier hearlier).2.unread }

/-- The counter wraps with the second event.  An event that repeats the newest one is dropped, also
when that one was delivered, and none is repeated after the slot was cleared. -/
theorem remembersNewest_vacant_wrapping :
    let calls : List StatusCall :=
      [.report .restart 0 0, .report .backpressure 16 7, .report .backpressure 16 7, .poll, .poll,
        .report .backpressure 16 7, .poll, .report .restart 0 0, .clear, .poll,
        .report .restart 0 0, .poll]
    (0xfffffffc : UInt32) % 2 = 0 ∧ StatusCall.Sparse calls ∧
      RemembersNewest .pru0 (vacant 0xfffffffc) calls ∧
      ((vacant 0xfffffffc).history .pru0 calls).map StatusExchange.answer =
        [.reported true, .reported true, .reported false,
          .polled (some ⟨.pru0, .backpressure, 16, 7⟩), .polled none, .reported false,
          .polled none, .reported true, .cleared, .polled none, .reported true,
          .polled (some ⟨.pru0, .restart, 0, 0⟩)] ∧
      ((vacant 0xfffffffc).after .pru0 calls).seq = 4 := by
  intro calls
  have hsparse : StatusCall.Sparse calls := fun stretch hstretch _ =>
    calc stretch.countP (·.isReport) ≤ stretch.length := List.countP_le_length
      _ ≤ calls.length := hstretch.length_le
      _ < 2 ^ 31 := by decide
  exact ⟨by decide, hsparse, remembersNewest_vacant .pru0 (by decide) hsparse, by decide +kernel,
    by decide +kernel⟩

end StatusSlot

end HarvestTestbed
