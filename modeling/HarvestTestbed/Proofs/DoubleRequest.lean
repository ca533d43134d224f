import HarvestTestbed.Proofs.SyncRounds

/-!
# Triggers that come too soon

A trigger is fatal for a client that still waits for a reply.  Such a trigger was raised since the
last step of the loop, either before the service answered the last request or after it, when the
reply lay in its slot but the loop had not come to collect it: the step looks at the trigger first.
The history of a run tells the two apart.
-/

namespace HarvestTestbed

/-- How far the last request has got. -/
inductive RequestStage
  | settled
  | unanswered
  /-- Answered, but the loop has not taken a step since. -/
  | answered
  deriving DecidableEq, Repr

/-- What became of the last request, and the triggers raised since the last step of the loop. -/
structure TriggerHistory where
  stage : RequestStage := .settled
  /-- A trigger was raised while the request was unanswered. -/
  early : Bool := false
  /-- A trigger was raised after the request had been answered. -/
  hasty : Bool := false
  deriving DecidableEq, Repr

namespace TriggerHistory

def raise (history : TriggerHistory) : TriggerHistory :=
  match history.stage with
  | .settled => history
  | .unanswered => { history with early := true }
  | .answered => { history with hasty := true }

/-- The stage of the last request after a step, which may send another one. -/
def next (stage : RequestStage) (asks : Bool) : RequestStage :=
  if asks then .unanswered else if stage = .answered then .settled else stage

def record (history : TriggerHistory) (transition : SyncBench.Transition) : TriggerHistory :=
  match transition.event with
  | .trigger =>
      let before := transition.before
      if (before.service.trigger before.memory).1.raises then history.raise else history
  | .serve =>
      if transition.answer?.isSome then { history with stage := .answered } else history
  | .step => { stage := next history.stage transition.asks }
  | _ => history

def overlaps (history : TriggerHistory) : Bool :=
  history.early || history.hasty

@[simp]
theorem stage_raise (history : TriggerHistory) : history.raise.stage = history.stage := by
  rw [raise]
  split <;> rfl

/-- A trigger comes too soon if the last request is not settled. -/
theorem overlaps_raise (history : TriggerHistory) :
    history.raise.overlaps = (history.overlaps || history.stage != .settled) := by
  obtain ⟨stage, early, hasty⟩ := history
  cases stage <;> cases early <;> cases hasty <;> rfl

end TriggerHistory

/-- The stage of the last request, as client and slots show it. -/
def ExchangeView.stage (view : ExchangeView) : RequestStage :=
  match view.client.state with
  | .idle => .settled
  | .replyPending => if view.request.isUnread then .unanswered else .answered

/-- A trigger waits for a client that waits. -/
def ExchangeView.clashes (view : ExchangeView) : Bool :=
  view.raised && view.stage != .settled

namespace SyncBench

def triggerHistory (bench : SyncBench) (events : List SyncEvent) : TriggerHistory :=
  (bench.trace events).foldl TriggerHistory.record {}

/-- Up to a fault the history explains the exchange.  The loop awaits the start at rest, and goes on
running as long as the session does. -/
structure Explained (history : TriggerHistory) (bench : SyncBench) : Prop extends
    bench.Exchanging where
  awaiting : bench.timing.state = .awaitStart → bench.timing.client.state = .idle
  running : bench.timing.state = .running →
    bench.memory.state = .running ∨ bench.memory.state = .fault
  stage : bench.timing.state ≠ .fault → history.stage = bench.view.stage
  overlaps : bench.timing.state ≠ .fault → history.overlaps = bench.view.clashes

end SyncBench

namespace ExchangeView

variable {view after : ExchangeView} {counter : UInt32} {own next : LoopState}
variable {session : SessionState} {history : TriggerHistory}

theorem stage_of_idle (hidle : view.client.state = .idle) : view.stage = .settled := by
  rw [stage, hidle]

/-- A request is unanswered as long as it lies unread. -/
theorem stage_of_pending (hwaits : view.client.state = .replyPending) :
    view.stage = if view.request.isUnread then .unanswered else .answered := by
  rw [stage, hwaits]

theorem clashes_of_pending (hwaits : view.client.state = .replyPending) :
    view.clashes = view.raised := by
  rw [clashes, stage_of_pending hwaits]
  split <;> exact Bool.and_true _

theorem clashes_of_idle (hidle : view.client.state = .idle) : view.clashes = false := by
  rw [clashes, stage_of_idle hidle, Bool.and_comm]
  rfl

theorem clashes_raised (view : ExchangeView) :
    { view with raised := true }.clashes = (view.clashes || view.stage != .settled) := by
  have hstage : { view with raised := true }.stage = view.stage := rfl
  rw [clashes, clashes, hstage]
  cases view.raised <;> simp

theorem clashes_of_low (hlow : view.raised = false) : view.clashes = false := by
  rw [clashes, hlow, Bool.false_and]

/-- The work of a step that goes on makes of the request what the history records. -/
theorem Works.stage {time : Option UInt64} (h : view.Orderly time)
    (hworks : view.Works counter .running after) :
    after.stage = TriggerHistory.next view.stage (after.sent == view.sent + 1) ∧
      after.clashes = false := by
  have hsame : ∀ {sent : ℕ}, (sent == sent + 1) = false := by simp
  cases hworks with
  | requests =>
      refine ⟨?_, clashes_of_low rfl⟩
      simp only [TriggerHistory.next, requested, beq_self_eq_true, if_true]
      rfl
  | collects hlow hreply =>
      have hread : view.request.isUnread = false := by
        by_contra hunread
        have hempty := (h.request (Bool.eq_true_of_not_eq_false hunread)).2.1
        exact absurd (hempty.symm.trans hreply) Bool.false_ne_true
      refine ⟨?_, clashes_of_idle rfl⟩
      rw [stage_of_idle rfl, stage_of_pending (h.reply hreply).1, hread]
      simp only [TriggerHistory.next, collected, hsame]
      rfl
  | rests hlow hread =>
      refine ⟨?_, clashes_of_low hlow⟩
      rw [TriggerHistory.next, hsame]
      cases hclient : view.client.state with
      | idle =>
          rw [stage_of_idle hclient]
          rfl
      | replyPending =>
          have hunread := (h.pending hclient).resolve_right fun hreply =>
            absurd (hread.symm.trans hreply) Bool.false_ne_true
          rw [stage_of_pending hclient, hunread]
          rfl

/-- Where a step leads a loop that awaits the start at rest and runs as long as the session does,
and what it makes of the request. -/
theorem Steps.stage {time : Option UInt64} (h : view.Orderly time) (hsession : session ≠ .reset)
    (hrests : own = .reset ∨ own = .awaitStart → view.client.state = .idle)
    (hruns : own = .running → session = .running ∨ session = .fault)
    (hsteps : view.Steps counter own session next after) :
    (next = .awaitStart → after.client.state = .idle) ∧ (next = .running → session = .running) ∧
      (next ≠ .fault → own ≠ .fault ∧ after.clashes = false ∧
        after.stage = TriggerHistory.next view.stage (after.sent == view.sent + 1)) := by
  have hquiet : ∀ {view : ExchangeView}, view.client.state = .idle →
      view.stage = TriggerHistory.next view.stage (view.sent == view.sent + 1) := by
    intro view hidle
    rw [stage_of_idle hidle, TriggerHistory.next, if_neg (by simp)]
    rfl
  cases hsteps with
  | acknowledges => exact absurd rfl hsession
  | clears =>
      have hidle := hrests (.inl rfl)
      have hclient : view.client.reset = view.client := by rw [SyncClient.reset, ← hidle]
      rw [hclient, if_neg hsession]
      exact ⟨fun _ => hidle, fun hnext => absurd hnext (by decide),
        fun _ => ⟨by decide, clashes_of_idle hidle, hquiet hidle⟩⟩
  | awaits =>
      have hidle := hrests (.inr rfl)
      refine ⟨fun _ => hidle, ?_, fun _ => ⟨by decide, clashes_of_low rfl, hquiet hidle⟩⟩
      cases session <;> simp [Handshake.follow]
  | works hworks =>
      refine ⟨?_, fun _ => rfl, fun hnext => ?_⟩
      · intro hnext
        cases hworks <;> cases hnext
      · obtain rfl : next = .running := by cases hworks <;> simp_all
        obtain ⟨hstage, hclashes⟩ := hworks.stage h
        exact ⟨by decide, hclashes, hstage⟩
  | leaves hleaves =>
      obtain rfl := (hruns rfl).resolve_left hleaves
      exact ⟨fun hnext => absurd hnext (by decide), fun hnext => absurd hnext (by decide),
        fun hnext => absurd rfl hnext⟩
  | stands =>
      rw [if_neg hsession]
      exact ⟨fun hnext => absurd hnext (by decide), fun hnext => absurd hnext (by decide),
        fun hnext => absurd rfl hnext⟩

/-- In a running session the loop stops with a violation if a trigger waits for a client that
waits, and goes on otherwise. -/
theorem Steps.faults (hsteps : view.Steps counter .running .running next after) :
    next = (if view.clashes then .fault else .running) ∧
      after.status = if view.clashes then
        (view.status.report .pru1 .syncStateViolation counter 0).2 else view.status := by
  cases hsteps with
  | leaves hsession => exact absurd rfl hsession
  | works hworks =>
      cases hworks with
      | violates hraised hwaits =>
          rw [clashes_of_pending hwaits, hraised]
          exact ⟨rfl, rfl⟩
      | requests _ hidle =>
          rw [clashes_of_idle hidle]
          exact ⟨rfl, rfl⟩
      | collects hlow | rests hlow =>
          rw [clashes_of_low hlow]
          exact ⟨rfl, rfl⟩

end ExchangeView

namespace SyncBench

variable {bench : SyncBench} {history : TriggerHistory}

theorem triggerHistory_concat (bench : SyncBench) (events : List SyncEvent) (event : SyncEvent) :
    bench.triggerHistory (events ++ [event]) =
      (bench.triggerHistory events).record ⟨bench.run events, event⟩ := by
  rw [triggerHistory, trace_concat, List.foldl_append]
  rfl

/-- A running session ends in a fault, if it is not reset. -/
theorem running_op {op : ArenaOp} (hexchanges : exchanges (.op op) = true)
    (hsession : bench.memory.state = .running ∨ bench.memory.state = .fault) :
    (bench.step (.op op)).memory.state = .running ∨
      (bench.step (.op op)).memory.state = .fault := by
  cases op with
  | setState next =>
      have hnext : next ≠ .reset := bne_iff_ne.mp hexchanges
      have hstate : (bench.step (.op (.setState next))).memory.state = _ :=
        SharedMemory.state_setState bench.memory next
      rw [hstate]
      obtain hsession | hsession := hsession <;> rw [hsession] <;>
        cases next <;> simp_all [SessionState.canMoveTo]
  | setMode mode =>
      have hstate : (bench.step (.op (.setMode mode))).memory.state = _ :=
        SharedMemory.state_setMode bench.memory mode
      rwa [hstate]
  | _ => cases hexchanges

namespace Explained

theorem start (setup : SyncSetup) : Explained {} (start setup) := by
  have hidle : (SyncBench.start setup).view.client.state = .idle := rfl
  exact
    { Exchanging.start setup with
      awaiting := nofun
      running := nofun
      stage := fun _ => (ExchangeView.stage_of_idle hidle).symm
      overlaps := fun _ => (ExchangeView.clashes_of_idle hidle).symm }

/-- Step lemma for the timing core, whose step serves the trigger before the reply. -/
theorem step_loop (h : Explained history bench) :
    Explained (history.record ⟨bench, .step⟩) (bench.step .step) := by
  have hsession : (bench.step .step).memory.state = bench.memory.state :=
    bench.timing.state_step bench.memory
  have hrests : bench.timing.state = .reset ∨ bench.timing.state = .awaitStart →
      bench.view.client.state = .idle := fun hloop => hloop.elim h.restarted h.awaiting
  obtain ⟨hawaiting, hrunning, hgoes⟩ :=
    (steps_view h.toExchanging).stage h.orderly h.session hrests h.running
  refine ⟨h.toExchanging.step rfl, hawaiting, fun hnext => .inl (hsession.trans (hrunning hnext)),
    fun hnext => ?_, fun hnext => ?_⟩
  · obtain ⟨hloop, -, hstage⟩ := hgoes hnext
    rw [← h.stage hloop] at hstage
    exact hstage.symm
  · exact (hgoes hnext).2.1.symm

theorem trigger_running (h : Explained history bench)
    (hloop : (bench.step .trigger).timing.state = .running) :
    (bench.step .trigger).memory.state = .running ∨
      (bench.step .trigger).memory.state = .fault := by
  have hstate : (bench.step .trigger).memory.state = bench.memory.state :=
    (bench.service.trigger_frame bench.memory).2.2
  rw [hstate]
  exact h.running hloop

/-- Every event goes into the history. -/
theorem step (h : Explained history bench) {event : SyncEvent}
    (hexchanges : exchanges event = true) :
    Explained (history.record ⟨bench, event⟩) (bench.step event) := by
  have hnext := h.toExchanging.step hexchanges
  cases event with
  | step => exact h.step_loop
  | trigger =>
      obtain ⟨hraises, hview, -⟩ | ⟨hraises, hview, -⟩ := bench.trigger_cases
      · have hrecord : history.record ⟨bench, .trigger⟩ = history.raise := by
          simp only [TriggerHistory.record, hraises, if_true]
        refine ⟨hnext, h.awaiting, h.trigger_running, fun hloop => ?_, fun hloop => ?_⟩
        · rw [hrecord, hview, history.stage_raise]
          exact h.stage hloop
        · rw [hrecord, hview, history.overlaps_raise, h.stage hloop, h.overlaps hloop]
          exact bench.view.clashes_raised.symm
      · have hrecord : history.record ⟨bench, .trigger⟩ = history := by
          simp only [TriggerHistory.record, hraises]
          rfl
        rw [hrecord]
        refine ⟨hnext, h.awaiting, h.trigger_running, ?_, ?_⟩
        · rw [hview]
          exact h.stage
        · rw [hview]
          exact h.overlaps
  | serve =>
      obtain ⟨-, hkept, hnone⟩ | ⟨hunread, counter, outcome, hanswers⟩ := h.serve_cases
      · have hrecord : history.record ⟨bench, .serve⟩ = history := by
          simp only [TriggerHistory.record, Transition.answer?, hnone]
          rfl
        rw [hrecord, hkept]
        exact h
      · have hrecord : history.record ⟨bench, .serve⟩ = { history with stage := .answered } := by
          simp only [TriggerHistory.record, Transition.answer?, hanswers.answer]
          rfl
        have hwaits : (bench.view.answered counter outcome).client.state = .replyPending :=
          (h.orderly.request hunread).1
        rw [hrecord]
        refine ⟨hnext, h.awaiting, ?_, fun hloop => ?_, fun hloop => ?_⟩
        · rw [hanswers.session]
          exact h.running
        · rw [hanswers.view, ExchangeView.stage_of_pending hwaits]
          rfl
        · rw [hanswers.view, ExchangeView.clashes_of_pending hwaits]
          exact (h.overlaps hloop).trans (ExchangeView.clashes_of_pending hwaits)
  | resetService => cases hexchanges
  | advance | setGpio | setClock =>
      exact ⟨hnext, h.awaiting, h.running, h.stage, h.overlaps⟩
  | op op =>
      have hview := view_op hexchanges bench
      refine ⟨hnext, h.awaiting, fun hloop => ?_, ?_, ?_⟩
      · exact running_op hexchanges (h.running hloop)
      · rw [hview]
        exact h.stage
      · rw [hview]
        exact h.overlaps

/-- By induction on the events of a run. -/
theorem run (setup : SyncSetup) {events : List SyncEvent}
    (hexchanges : ∀ event ∈ events, exchanges event = true) :
    Explained ((SyncBench.start setup).triggerHistory events)
      ((SyncBench.start setup).run events) := by
  induction events using List.reverseRecOn with
  | nil => exact start setup
  | append_singleton events event ih =>
      have hbefore := ih fun earlier hmem => hexchanges earlier (List.mem_append_left _ hmem)
      rw [triggerHistory_concat, run_append]
      exact hbefore.step (hexchanges event (by simp))

end Explained

/-- A step of the loop stops at the triggers that came too soon, and at nothing else. -/
structure StopsAtOverlap (history : TriggerHistory) (transition : Transition) : Prop where
  faults : transition.after.timing.state = .fault ↔ history.early = true ∨ history.hasty = true
  runs : transition.after.timing.state = .running ↔ history.early = false ∧ history.hasty = false
  status : transition.after.memory.arena.pru1Status =
    if history.early || history.hasty then
      (transition.before.memory.arena.pru1Status.report .pru1 .syncStateViolation
        (Timer.counter transition.before.timing.timer) 0).2
    else transition.before.memory.arena.pru1Status

/-- In a running session the loop stops with a violation if and only if a trigger has been raised
since its last step, while the last request was unanswered or with the answer uncollected. -/
theorem stopsAtOverlap_step (setup : SyncSetup) {events : List SyncEvent}
    (hexchanges : ∀ event ∈ events, exchanges event = true)
    (hloop : ((start setup).run events).timing.state = .running)
    (hsession : ((start setup).run events).memory.state = .running) :
    StopsAtOverlap ((start setup).triggerHistory events) ⟨(start setup).run events, .step⟩ := by
  have h := Explained.run setup hexchanges
  have hsteps := steps_view h.toExchanging
  have hoverlaps := h.overlaps (by rw [hloop]; decide)
  rw [hloop, hsession] at hsteps
  obtain ⟨hnext, hstatus⟩ := hsteps.faults
  rw [← hoverlaps, TriggerHistory.overlaps] at hnext hstatus
  refine ⟨?_, ?_, hstatus⟩
  · rw [Transition.after, hnext, ← Bool.or_eq_true]
    generalize (_ || _) = soon
    cases soon <;> decide
  · rw [Transition.after, hnext, ← Bool.or_eq_false_iff]
    generalize (_ || _) = soon
    cases soon <;> decide

/-- A trigger that was raised before the service answered, and one that came after the loop had
collected the answer. -/
theorem stopsAtOverlap_step_early :
    let early := startup ++ [.trigger, .step, .trigger, .serve]
    let late := startup ++ [.trigger, .step, .serve, .step, .trigger]
    StopsAtOverlap ((start shortPeriod).triggerHistory early)
        ⟨(start shortPeriod).run early, .step⟩ ∧
      (start shortPeriod).triggerHistory early = { stage := .answered, early := true } ∧
      StopsAtOverlap ((start shortPeriod).triggerHistory late)
        ⟨(start shortPeriod).run late, .step⟩ ∧
      (start shortPeriod).triggerHistory late = {} := by
  have hearly : ∀ event ∈ startup ++ [.trigger, .step, .trigger, .serve],
      exchanges event = true := by decide +kernel
  have hlate : ∀ event ∈ startup ++ [.trigger, .step, .serve, .step, .trigger],
      exchanges event = true := by decide +kernel
  exact ⟨stopsAtOverlap_step shortPeriod hearly (by decide +kernel) (by decide +kernel),
    by decide +kernel,
    stopsAtOverlap_step shortPeriod hlate (by decide +kernel) (by decide +kernel),
    by decide +kernel⟩

/-- The service has answered the request before it raises the next trigger.  The loop comes to its
next step with both before it, and stops. -/
theorem stopsAtOverlap_step_hasty :
    let events := startup ++ [.trigger, .step, .serve, .trigger]
    let last : Transition := ⟨(start shortPeriod).run events, .step⟩
    ((start shortPeriod).answersIn events).length = last.before.timing.stats.syncRequests ∧
      (start shortPeriod).triggerHistory events = { stage := .answered, hasty := true } ∧
      last.before.memory.replyPending = true ∧ last.before.timing.state = .running ∧
      last.after.timing.state = .fault ∧
      last.after.memory.arena.pru1Status.event .pru1 = ⟨.pru1, .syncStateViolation, 0, 0⟩ := by
  decide +kernel

end SyncBench

end HarvestTestbed
