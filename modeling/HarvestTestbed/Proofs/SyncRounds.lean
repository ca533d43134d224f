import HarvestTestbed.Proofs.ExchangeSteps
import HarvestTestbed.Proofs.PeriodTimeline

/-!
# Rounds of the sync exchange

A round begins with a trigger that a client at rest turns into a request.  The request waits until
the service runs, and the service finds the time of the trigger that it belongs to; the reply waits
until the client collects it.  Without a reset there is never more than one message on its way, so
that nobody is refused, every request is answered once, and the only events that the exchange itself
reports are a violation and a doubtful timestamp.
-/

namespace HarvestTestbed

/-- Whether a wait ends at a boundary, so that the trigger is raised. -/
def Alignment.raises : Alignment → Bool
  | .aligned _ _ => true
  | .resynced _ _ => false
  | .stalled => false

namespace SyncService

/-- Without a request there is nothing to serve. -/
theorem serve_of_read {service : SyncService} {memory : SharedMemory}
    (hread : memory.timingPending = false) : service.serve memory = (none, service, memory) := by
  rw [serve, SharedMemory.syncReceive_of_read hread]

/-- A request that waits is answered with the time of the trigger. -/
theorem serve_of_waiting {service : SyncService} {memory : SharedMemory}
    {counter number : UInt32} {time : UInt64}
    (hwaits : Channel.waiting? .pru1 memory.arena.pru1ToHost =
      some ⟨.pru1, .syncRequest, counter, number⟩)
    (hfree : memory.replyPending = false) (htime : service.triggerTime = some time) :
    let outcome := (service.controller.handleRequest counter time).1
    let served := service.serve memory
    served.1 = some outcome ∧ served.2.1.triggerTime = none ∧
      served.2.2.arena =
        { memory.arena with
          pru1ToHost := { memory.arena.pru1ToHost with unread := 0 }
          hostToPru1 := Channel.replied .host memory.arena.hostToPru1 outcome.reply
          hostStatus := judged memory.arena.hostStatus counter outcome.spacing } := by
  intro outcome served
  have hserved : served = (some outcome,
      (service.answer memory.syncReceive.2 counter time).2) := by
    simp only [served, serve]
    rw [SharedMemory.syncReceive_of_waiting hwaits]
    simp only [if_true, htime]
    rfl
  have harena : memory.syncReceive.2.arena =
      { memory.arena with pru1ToHost := { memory.arena.pru1ToHost with unread := 0 } } := by
    rw [SharedMemory.syncReceive_of_waiting hwaits]
    rfl
  have hread : memory.syncReceive.2.replyPending = false := by
    rw [SharedMemory.replyPending, harena]
    exact hfree
  have hanswered := service.arena_answer hread counter time
  simp only at hanswered
  rw [harena] at hanswered
  rw [hserved]
  exact ⟨rfl, rfl, hanswered⟩

/-- A request that waits without a trigger is taken and dropped. -/
theorem serve_of_untimed {service : SyncService} {memory : SharedMemory} {counter number : UInt32}
    (hwaits : Channel.waiting? .pru1 memory.arena.pru1ToHost =
      some ⟨.pru1, .syncRequest, counter, number⟩)
    (htime : service.triggerTime = none) :
    (service.serve memory).2.2.syncSlots =
      ({ memory.arena.pru1ToHost with unread := 0 }, memory.arena.hostToPru1) := by
  have hserved : (service.serve memory).2.2 = memory.syncReceive.2.notify .host .invalidCommand
      MessageType.syncRequest.toWord counter := by
    rw [serve, SharedMemory.syncReceive_of_waiting hwaits]
    simp only [if_true, htime]
  rw [hserved, SharedMemory.syncSlots_notify, SharedMemory.syncReceive_of_waiting hwaits]
  rfl

end SyncService

namespace ExchangeView

def answered (view : ExchangeView) (counter : UInt32) (outcome : SyncOutcome) : ExchangeView :=
  { view with
    request := { view.request with unread := 0 }
    reply := Channel.replied .host view.reply outcome.reply
    hostStatus := SyncService.judged view.hostStatus counter outcome.spacing }

/-- Besides the order in the slots, a client that waits has a message on its way, and the service
holds the time that a request needs: that of a request which waits, and that of a trigger which is
going to be one. -/
structure Orderly (view : ExchangeView) (time : Option UInt64) : Prop extends view.InOrder where
  pending : view.client.state = .replyPending →
    view.request.isUnread = true ∨ view.reply.isUnread = true
  requestTime : view.request.isUnread = true → time.isSome = true
  triggerTime : view.raised = true → view.client.state = .idle → time.isSome = true

variable {view after : ExchangeView} {time : Option UInt64} {counter : UInt32}
variable {own next : LoopState} {session : SessionState}

theorem Orderly.lowered (h : view.Orderly time) : { view with raised := false }.Orderly time where
  request := h.request
  reply := h.reply
  pending := h.pending
  requestTime := h.requestTime
  triggerTime := nofun

theorem Orderly.works (h : view.Orderly time) (hworks : view.Works counter next after) :
    after.Orderly time := by
  have hnext := h.toInOrder.works hworks
  cases hworks with
  | violates =>
      exact
        { hnext with
          pending := h.pending
          requestTime := h.requestTime
          triggerTime := nofun }
  | requests hraised hidle =>
      exact
        { hnext with
          pending := fun _ => .inl rfl
          requestTime := fun _ => h.triggerTime hraised hidle
          triggerTime := nofun }
  | collects hlow =>
      exact
        { hnext with
          pending := nofun
          requestTime := h.requestTime
          triggerTime := fun hraised => absurd (hlow.symm.trans hraised) Bool.false_ne_true }
  | rests => exact h

/-- A client that waits has a message in exactly one of the slots. -/
theorem Orderly.one_waits (h : view.Orderly time) (hwaits : view.client.state = .replyPending) :
    (view.request.isUnread ^^ view.reply.isUnread) = true := by
  cases hrequest : view.request.isUnread with
  | true => rw [(h.request hrequest).2.1, Bool.xor_false]
  | false =>
      have hreply := (h.pending hwaits).resolve_left (Bool.eq_false_iff.mp hrequest)
      rw [hreply, Bool.xor_true, Bool.not_false]

/-- A step of the timing core keeps the exchange orderly, in a session that is not being reset. -/
theorem Orderly.steps (h : view.Orderly time) (hsession : session ≠ .reset)
    (hrestarted : own = .reset → view.client.state = .idle)
    (hsteps : view.Steps counter own session next after) : after.Orderly time := by
  cases hsteps with
  | acknowledges => exact absurd rfl hsession
  | clears =>
      have hclient : view.client.reset = view.client := by
        rw [SyncClient.reset, ← hrestarted rfl]
      rw [hclient]
      exact h
  | awaits => exact h.lowered
  | works hworks => exact h.works hworks
  | leaves | stands => exact h

/-- Out of a reset no step leads into one. -/
theorem Steps.ne_reset (hsteps : view.Steps counter own session next after)
    (hsession : session ≠ .reset) : next ≠ .reset := by
  cases hsteps with
  | acknowledges => exact absurd rfl hsession
  | clears | stands =>
      rw [if_neg hsession]
      decide
  | awaits | leaves => cases session <;> simp_all [Handshake.follow]
  | works hworks => cases hworks <;> decide

/-- Every request that was sent is counted, and waits until it is answered. -/
theorem Steps.sent (hsteps : view.Steps counter own session next after) (h : view.InOrder)
    (hsession : session ≠ .reset) :
    after.sent + view.request.isUnread.toNat = view.sent + after.request.isUnread.toNat := by
  cases hsteps with
  | acknowledges => exact absurd rfl hsession
  | works hworks =>
      cases hworks with
      | requests _ hidle =>
          rw [(h.of_idle hidle).1]
          rfl
      | violates | collects | rests => rfl
  | clears | awaits | leaves | stands => rfl

/-- A request that waits carries the counter of the step that sent it. -/
theorem Steps.asked (hsteps : view.Steps counter own session next after)
    (hsent : after.sent = view.sent + 1) :
    ∃ number, Channel.waiting? .pru1 after.request =
      some ⟨.pru1, .syncRequest, counter, number⟩ := by
  cases hsteps with
  | works hworks =>
      cases hworks with
      | requests => exact ⟨_, Channel.waiting?_filled (by decide) _ _ _ _⟩
      | violates | collects | rests => exact absurd hsent (Nat.succ_ne_self _).symm
  | acknowledges => exact absurd hsent.symm (Nat.succ_ne_zero _)
  | clears | awaits | leaves | stands => exact absurd hsent (Nat.succ_ne_self _).symm

/-- No step touches a request that waits. -/
theorem Steps.request (hsteps : view.Steps counter own session next after) (h : view.InOrder)
    (hunread : view.request.isUnread = true) : after.request = view.request := by
  cases hsteps with
  | works hworks =>
      cases hworks with
      | requests _ hidle => exact absurd ((h.of_idle hidle).1.symm.trans hunread) Bool.false_ne_true
      | violates | collects | rests => rfl
  | acknowledges | clears | awaits | leaves | stands => rfl

/-- The only event that a step reports, outside of a reset, is a violation. -/
theorem Steps.status (hsteps : view.Steps counter own session next after)
    (hsession : session ≠ .reset) :
    (after.status = view.status ∨
        after.status = (view.status.report .pru1 .syncStateViolation counter 0).2) ∧
      after.hostStatus = view.hostStatus := by
  cases hsteps with
  | acknowledges => exact absurd rfl hsession
  | works hworks =>
      cases hworks with
      | violates => exact ⟨.inr rfl, rfl⟩
      | requests | collects | rests => exact ⟨.inl rfl, rfl⟩
  | clears | awaits | leaves | stands => exact ⟨.inl rfl, rfl⟩

/-- An answer takes the request away and leaves the reply for the client that waits. -/
theorem Orderly.answered (h : view.Orderly time) (hunread : view.request.isUnread = true)
    (counter : UInt32) (outcome : SyncOutcome) : (view.answered counter outcome).Orderly none := by
  have hwaits := (h.request hunread).1
  exact
    { request := nofun
      reply := fun _ => ⟨hwaits, _, Channel.waitingReply?_replied .host _ outcome.reply⟩
      pending := fun _ => .inr rfl
      requestTime := nofun
      triggerTime := fun _ hidle => by
        have hclient : view.client.state = .idle := hidle
        rw [hwaits] at hclient
        cases hclient }

end ExchangeView

namespace SyncBench

def view (bench : SyncBench) : ExchangeView :=
  bench.timing.exchange bench.memory

/-- Loop and service in an orderly exchange, in a session without a reset. -/
structure Exchanging (bench : SyncBench) : Prop where
  orderly : bench.view.Orderly bench.service.triggerTime
  session : bench.memory.state ≠ .reset
  restarted : bench.timing.state = .reset → bench.timing.client.state = .idle

/-- Whether an event belongs to the exchange, to the timer or to the session, and does not ask for a
reset. -/
def exchanges : SyncEvent → Bool
  | .resetService => false
  | .op (.setState next) => next != .reset
  | .op (.setMode _) => true
  | .op _ => false
  | _ => true

/-! ## What the events do to the exchange -/

/-- The service answers the request with a counter value that waits. -/
structure Answers (bench : SyncBench) (counter : UInt32) (outcome : SyncOutcome) : Prop where
  waits : ∃ number, Channel.waiting? .pru1 bench.view.request =
    some ⟨.pru1, .syncRequest, counter, number⟩
  handled : ∃ time, bench.service.triggerTime = some time ∧
    outcome = (bench.service.controller.handleRequest counter time).1
  answer : (bench.service.serve bench.memory).1 = some outcome
  noted : (bench.step .serve).service.triggerTime = none
  view : (bench.step .serve).view = bench.view.answered counter outcome
  session : (bench.step .serve).memory.state = bench.memory.state

variable {bench : SyncBench}

/-- In an orderly exchange a request finds the time of its trigger and room for the reply. -/
theorem Exchanging.serve_cases (h : bench.Exchanging) :
    (bench.view.request.isUnread = false ∧ bench.step .serve = bench ∧
        (bench.service.serve bench.memory).1 = none) ∨
      bench.view.request.isUnread = true ∧ ∃ counter outcome, bench.Answers counter outcome := by
  cases hunread : bench.view.request.isUnread with
  | false =>
      have hserved : bench.service.serve bench.memory = (none, bench.service, bench.memory) :=
        SyncService.serve_of_read hunread
      exact .inl ⟨rfl, by simp only [step, hserved], by rw [hserved]⟩
  | true =>
      obtain ⟨-, hfree, counter, number, hwaits⟩ := h.orderly.request hunread
      obtain ⟨time, htime⟩ := Option.isSome_iff_exists.mp (h.orderly.requestTime hunread)
      obtain ⟨hanswer, hnone, harena⟩ := SyncService.serve_of_waiting hwaits hfree htime
      refine .inr ⟨rfl, counter, _, ⟨number, hwaits⟩, ⟨time, htime, rfl⟩, hanswer, hnone, ?_, ?_⟩
      · have hview : (bench.step .serve).view =
            bench.timing.exchange (bench.service.serve bench.memory).2.2 := rfl
        rw [hview, TimingLoop.exchange, harena]
        rfl
      · have hstate : (bench.step .serve).memory.state =
            (bench.service.serve bench.memory).2.2.arena.state := rfl
        rw [hstate, harena]
        rfl

/-- The service raises the trigger and remembers the time, or does neither. -/
theorem trigger_cases (bench : SyncBench) :
    ((bench.service.trigger bench.memory).1.raises = true ∧
        (bench.step .trigger).view = { bench.view with raised := true } ∧
        (bench.step .trigger).service.triggerTime.isSome = true) ∨
      (bench.service.trigger bench.memory).1.raises = false ∧
        (bench.step .trigger).view = bench.view ∧
        (bench.step .trigger).service.triggerTime = bench.service.triggerTime := by
  simp only [step, SyncService.trigger]
  split
  · rename_i haligned
    exact .inl ⟨by rw [haligned]; rfl, rfl, rfl⟩
  · rename_i hresynced
    exact .inr ⟨by rw [hresynced]; rfl, rfl, rfl⟩
  · rename_i hstalled
    exact .inr ⟨by rw [hstalled]; rfl, rfl, rfl⟩

/-- A move of the session does not concern the exchange. -/
theorem view_op {op : ArenaOp} (hexchanges : exchanges (.op op) = true) (bench : SyncBench) :
    (bench.step (.op op)).view = bench.view := by
  cases op with
  | setState next =>
      simp only [step, ArenaOp.apply, SharedMemory.setState]
      split <;> rfl
  | setMode mode =>
      simp only [step, ArenaOp.apply, SharedMemory.setMode]
      split <;> rfl
  | _ => cases hexchanges

theorem state_op {op : ArenaOp} (hexchanges : exchanges (.op op) = true)
    (hsession : bench.memory.state ≠ .reset) : (bench.step (.op op)).memory.state ≠ .reset := by
  cases op with
  | setState next =>
      have hnext : next ≠ .reset := bne_iff_ne.mp hexchanges
      have hstate : (bench.step (.op (.setState next))).memory.state = _ :=
        SharedMemory.state_setState bench.memory next
      rw [hstate]
      split
      · exact hnext
      · exact hsession
  | setMode mode =>
      have hstate : (bench.step (.op (.setMode mode))).memory.state = _ :=
        SharedMemory.state_setMode bench.memory mode
      rwa [hstate]
  | _ => cases hexchanges

theorem steps_view (h : bench.Exchanging) :
    bench.view.Steps (Timer.counter bench.timing.timer) bench.timing.state bench.memory.state
      (bench.step .step).timing.state (bench.step .step).view :=
  bench.timing.steps_step bench.memory fun _ _ => h.orderly.toInOrder

/-- Nothing is on its way at the start. -/
theorem start_quiet (setup : SyncSetup) :
    (start setup).view.raised = false ∧ (start setup).view.request.isUnread = false ∧
      (start setup).view.reply.isUnread = false ∧ (start setup).memory.state = .idle := by
  obtain ⟨hstate, hlow, hslots, -⟩ := SharedMemory.split_quiet setup.pool
  exact ⟨hlow, congrArg (fun slots => slots.1.isUnread) hslots,
    congrArg (fun slots => slots.2.isUnread) hslots, hstate⟩

namespace Exchanging

/-- Every event of a session without a reset keeps the exchange orderly. -/
theorem step (h : bench.Exchanging) {event : SyncEvent} (hexchanges : exchanges event = true) :
    (bench.step event).Exchanging := by
  cases event with
  | step =>
      have hsteps := steps_view h
      have hnext := hsteps.ne_reset h.session
      exact
        { orderly := h.orderly.steps h.session h.restarted hsteps
          session := fun hreset =>
            h.session ((bench.timing.state_step bench.memory).symm.trans hreset)
          restarted := fun hreset => absurd hreset hnext }
  | trigger =>
      obtain ⟨-, -, hstate⟩ := bench.service.trigger_frame bench.memory
      refine ⟨?_, fun hreset => h.session (hstate.symm.trans hreset), h.restarted⟩
      obtain ⟨-, hview, htime⟩ | ⟨-, hview, htime⟩ := bench.trigger_cases
      · rw [hview]
        exact
          { request := h.orderly.request
            reply := h.orderly.reply
            pending := h.orderly.pending
            requestTime := fun _ => htime
            triggerTime := fun _ _ => htime }
      · rw [hview, htime]
        exact h.orderly
  | serve =>
      obtain ⟨-, hkept, -⟩ | ⟨hunread, counter, outcome, hanswers⟩ := h.serve_cases
      · rw [hkept]
        exact h
      · refine ⟨?_, fun hreset => h.session (hanswers.session.symm.trans hreset), h.restarted⟩
        rw [hanswers.view, hanswers.noted]
        exact h.orderly.answered hunread counter outcome
  | advance | setGpio | setClock => exact ⟨h.orderly, h.session, h.restarted⟩
  | resetService => cases hexchanges
  | op op =>
      refine ⟨?_, state_op hexchanges h.session, h.restarted⟩
      rw [(view_op hexchanges bench)]
      exact h.orderly

theorem run (h : bench.Exchanging) {events : List SyncEvent}
    (hexchanges : ∀ event ∈ events, exchanges event = true) : (bench.run events).Exchanging := by
  induction events generalizing bench with
  | nil => exact h
  | cons event events ih =>
      exact ih (h.step (hexchanges event List.mem_cons_self))
        fun later hlater => hexchanges later (List.mem_cons_of_mem _ hlater)

theorem start (setup : SyncSetup) : (start setup).Exchanging := by
  obtain ⟨hlow, hrequest, hreply, hstate⟩ := start_quiet setup
  refine ⟨?_, by rw [hstate]; decide, fun _ => rfl⟩
  exact
    { request := fun hunread => absurd (hrequest.symm.trans hunread) Bool.false_ne_true
      reply := fun hunread => absurd (hreply.symm.trans hunread) Bool.false_ne_true
      pending := nofun
      requestTime := fun hunread => absurd (hrequest.symm.trans hunread) Bool.false_ne_true
      triggerTime := fun hraised => absurd (hlow.symm.trans hraised) Bool.false_ne_true }

end Exchanging

/-! ## Requests and answers along a run -/

/-- Whether the timing core sends a request at a transition. -/
def Transition.asks (transition : Transition) : Bool :=
  transition.after.timing.stats.syncRequests == transition.before.timing.stats.syncRequests + 1

/-- What the service answers in a run. -/
def answersIn (bench : SyncBench) (events : List SyncEvent) : List SyncOutcome :=
  (bench.trace events).filterMap Transition.answer?

/-- A transition at which nobody is refused: what is reported is at most a violation and a doubtful
timestamp, and the service answers if and only if a request waits. -/
structure Transition.Undisturbed (transition : Transition) : Prop where
  status : transition.after.view.status = transition.before.view.status ∨
    ∃ counter, transition.after.view.status =
      (transition.before.view.status.report .pru1 .syncStateViolation counter 0).2
  hostStatus : transition.after.view.hostStatus = transition.before.view.hostStatus ∨
    ∃ delta counter, transition.after.view.hostStatus =
      (transition.before.view.hostStatus.report .host .doubtfulTimestamp delta counter).2
  answers : ∀ outcome, transition.answer? = some outcome →
    transition.before.memory.timingPending = true ∧
      transition.after.memory.timingPending = false ∧
      transition.after.memory.waitingReply? = some outcome.reply
  rests : transition.event = .serve → transition.answer? = none →
    transition.before.memory.timingPending = false ∧ transition.after = transition.before

/-- A request that was sent at a counter value and not answered yet. -/
structure Asked (bench : SyncBench) (counter : UInt32) : Prop where
  exchanging : bench.Exchanging
  waits : ∃ number, Channel.waiting? .pru1 bench.memory.arena.pru1ToHost =
    some ⟨.pru1, .syncRequest, counter, number⟩

theorem Asked.unread {counter : UInt32} (h : bench.Asked counter) :
    bench.view.request.isUnread = true := by
  obtain ⟨number, hwaits⟩ := h.waits
  by_contra hread
  have hnone : Channel.waiting? .pru1 bench.memory.arena.pru1ToHost = none :=
    Channel.waiting?_of_read (Bool.eq_false_iff.mpr hread)
  rw [hnone] at hwaits
  cases hwaits

/-- Until the service runs, nothing happens to the request. -/
theorem Asked.step {counter : UInt32} (h : bench.Asked counter) {event : SyncEvent}
    (hexchanges : exchanges event = true) (hevent : event ≠ .serve) :
    (bench.step event).Asked counter := by
  refine ⟨h.exchanging.step hexchanges, ?_⟩
  have hkept : (bench.step event).view.request = bench.view.request := by
    cases event with
    | step => exact (steps_view h.exchanging).request h.exchanging.orderly.toInOrder h.unread
    | trigger =>
        obtain ⟨-, hview, -⟩ | ⟨-, hview, -⟩ := bench.trigger_cases
        · rw [hview]
        · rw [hview]
    | serve => exact absurd rfl hevent
    | resetService => cases hexchanges
    | advance | setGpio | setClock => rfl
    | op op => exact congrArg ExchangeView.request (view_op hexchanges bench)
  obtain ⟨number, hwaits⟩ := h.waits
  exact ⟨number, (congrArg (Channel.waiting? .pru1) hkept).trans hwaits⟩

theorem Asked.run {counter : UInt32} (h : bench.Asked counter) {events : List SyncEvent}
    (hexchanges : ∀ event ∈ events, exchanges event = true) (hwaits : .serve ∉ events) :
    (bench.run events).Asked counter := by
  induction events generalizing bench with
  | nil => exact h
  | cons event events ih =>
      obtain ⟨hevent, hlater⟩ := List.ne_and_not_mem_of_not_mem_cons hwaits
      exact ih (h.step (hexchanges event List.mem_cons_self) (Ne.symm hevent))
        (fun later hmem => hexchanges later (List.mem_cons_of_mem _ hmem)) hlater

/-- The service answers the request with the counter value and the time of the trigger. -/
theorem Asked.answer {counter : UInt32} (h : bench.Asked counter) :
    ∃ time, bench.service.triggerTime = some time ∧
      (Transition.mk bench .serve).answer? =
        some (bench.service.controller.handleRequest counter time).1 := by
  obtain ⟨number, hwaits⟩ := h.waits
  obtain ⟨hread, -⟩ | ⟨-, counter', outcome, hanswers⟩ := h.exchanging.serve_cases
  · exact absurd (hread.symm.trans h.unread) Bool.false_ne_true
  · obtain ⟨number', hwaits'⟩ := hanswers.waits
    obtain ⟨-, -, rfl, -⟩ := Message.mk.inj (Option.some.inj (hwaits.symm.trans hwaits'))
    obtain ⟨time, htime, rfl⟩ := hanswers.handled
    exact ⟨time, htime, hanswers.answer⟩

theorem Exchanging.asked (h : bench.Exchanging)
    (hasks : (Transition.mk bench .step).asks = true) :
    (bench.step .step).Asked (Timer.counter bench.timing.timer) where
  exchanging := h.step rfl
  waits := (steps_view h).asked (beq_iff_eq.mp hasks)

theorem Exchanging.undisturbed (h : bench.Exchanging) {event : SyncEvent}
    (hexchanges : exchanges event = true) : (Transition.mk bench event).Undisturbed := by
  have hquiet : ∀ {event : SyncEvent}, (Transition.mk bench event).answer? = none →
      event ≠ .serve →
      ((bench.step event).view.status = bench.view.status ∨ ∃ counter,
        (bench.step event).view.status =
          (bench.view.status.report .pru1 .syncStateViolation counter 0).2) →
      (bench.step event).view.hostStatus = bench.view.hostStatus →
      (Transition.mk bench event).Undisturbed := by
    intro event hanswer hevent hstatus hhost
    exact
      { status := hstatus
        hostStatus := .inl hhost
        answers := fun outcome houtcome => by
          rw [hanswer] at houtcome
          cases houtcome
        rests := fun hserve => absurd hserve hevent }
  cases event with
  | step =>
      obtain ⟨hstatus, hhost⟩ := (steps_view h).status h.session
      exact hquiet rfl (by simp) (hstatus.imp id fun hviolated => ⟨_, hviolated⟩) hhost
  | trigger =>
      obtain ⟨-, hview, -⟩ | ⟨-, hview, -⟩ := bench.trigger_cases
      · exact hquiet rfl (by simp) (.inl (by rw [hview])) (by rw [hview])
      · exact hquiet rfl (by simp) (.inl (by rw [hview])) (by rw [hview])
  | serve =>
      obtain ⟨hread, hkept, hnone⟩ | ⟨hunread, counter, outcome, hanswers⟩ := h.serve_cases
      · have hafter : (Transition.mk bench .serve).after = bench := hkept
        exact
          { status := .inl (by rw [hafter])
            hostStatus := .inl (by rw [hafter])
            answers := fun outcome houtcome => by
              rw [Transition.answer?, hnone] at houtcome
              cases houtcome
            rests := fun _ _ => ⟨hread, hafter⟩ }
      · have hview : (Transition.mk bench .serve).after.view =
            bench.view.answered counter outcome := hanswers.view
        exact
          { status := .inl (by rw [hview]; rfl)
            hostStatus := by
              rw [hview]
              exact (SyncService.judged_cases _ counter outcome.spacing).imp id
                (Exists.imp fun _ hjudged => ⟨counter, hjudged⟩)
            answers := fun other hother => by
              obtain rfl := Option.some.inj (hanswers.answer.symm.trans hother)
              refine ⟨hunread, ?_, ?_⟩
              · exact congrArg (fun view => view.request.isUnread) hview
              · have hreply := congrArg (fun view => Channel.waitingReply? .host view.reply) hview
                exact hreply.trans (Channel.waitingReply?_replied .host _ _)
            rests := fun _ hnone =>
              absurd (hanswers.answer.symm.trans hnone) (Option.some_ne_none _) }
  | resetService => cases hexchanges
  | advance | setGpio | setClock => exact hquiet rfl (by simp) (.inl rfl) rfl
  | op op =>
      have hview := view_op hexchanges bench
      exact hquiet rfl (by simp) (.inl (congrArg ExchangeView.status hview))
        (congrArg ExchangeView.hostStatus hview)

/-- A trigger never meets a request that is still unread. -/
theorem Exchanging.accepted (h : bench.Exchanging) (counter : UInt32) :
    (bench.timing.client.onTrigger counter bench.memory.takeSyncTrigger.2).1 ≠ .lost := by
  intro hlost
  cases hclient : bench.timing.client.state with
  | replyPending =>
      rw [SyncClient.onTrigger, hclient] at hlost
      cases hlost
  | idle =>
      have hread : bench.memory.takeSyncTrigger.2.arena.pru1ToHost.isUnread = false :=
        (h.orderly.of_idle hclient).1
      rw [SyncClient.onTrigger_of_idle hclient hread] at hlost
      cases hlost

/-- What a transition adds to the requests sent is answered, or waits. -/
theorem Exchanging.accounted (h : bench.Exchanging) {event : SyncEvent}
    (hexchanges : exchanges event = true) :
    (bench.step event).view.sent + bench.view.request.isUnread.toNat =
      bench.view.sent + (Transition.mk bench event).answer?.isSome.toNat +
        (bench.step event).view.request.isUnread.toNat := by
  cases event with
  | step => exact (steps_view h).sent h.orderly.toInOrder h.session
  | trigger =>
      obtain ⟨-, hview, -⟩ | ⟨-, hview, -⟩ := bench.trigger_cases
      · rw [hview]
        rfl
      · rw [hview]
        rfl
  | serve =>
      obtain ⟨hread, hkept, hnone⟩ | ⟨hunread, counter, outcome, hanswers⟩ := h.serve_cases
      · rw [hkept, Transition.answer?, hnone]
        rfl
      · rw [hanswers.view, hunread, Transition.answer?, hanswers.answer]
        rfl
  | resetService => cases hexchanges
  | advance | setGpio | setClock => rfl
  | op op =>
      rw [view_op hexchanges bench]
      rfl

theorem answersIn_concat (bench : SyncBench) (events : List SyncEvent) (event : SyncEvent) :
    (bench.answersIn (events ++ [event])).length = (bench.answersIn events).length +
      (Transition.mk (bench.run events) event).answer?.isSome.toNat := by
  rw [answersIn, trace_concat, List.filterMap_append, List.length_append]
  congr 1
  cases hanswer : (Transition.mk (bench.run events) event).answer? <;> simp [hanswer]

/-- Every request of a run was answered once, or is the one that waits. -/
theorem Exchanging.accounted_run (h : bench.Exchanging) {events : List SyncEvent}
    (hexchanges : ∀ event ∈ events, exchanges event = true) :
    (bench.run events).view.sent + bench.view.request.isUnread.toNat =
      bench.view.sent + (bench.answersIn events).length +
        (bench.run events).view.request.isUnread.toNat := by
  induction events using List.reverseRecOn with
  | nil => rfl
  | append_singleton events event ih =>
      have hearlier : ∀ event ∈ events, exchanges event = true := fun event hmem =>
        hexchanges event (List.mem_append_left _ hmem)
      have hbefore := ih hearlier
      have hlast := (h.run hearlier).accounted (hexchanges event (by simp))
      rw [run_append, answersIn_concat]
      change ((bench.run events).step event).view.sent + _ =
        _ + ((bench.run events).step event).view.request.isUnread.toNat
      omega

theorem Exchanging.undisturbed_run (h : bench.Exchanging) {events : List SyncEvent}
    (hexchanges : ∀ event ∈ events, exchanges event = true) :
    ∀ transition ∈ bench.trace events, transition.Undisturbed := by
  induction events generalizing bench with
  | nil => exact fun transition hmem => absurd hmem List.not_mem_nil
  | cons event events ih =>
      intro transition hmem
      obtain rfl | hlater := List.mem_cons.mp hmem
      · exact h.undisturbed (hexchanges event List.mem_cons_self)
      · exact ih (h.step (hexchanges event List.mem_cons_self))
          (fun later hlater => hexchanges later (List.mem_cons_of_mem _ hlater)) transition hlater

/-! ## Rounds -/

/-- What a run makes of the exchange. -/
structure InRounds (first : SyncBench) (events : List SyncEvent) : Prop where
  /-- A client at rest finds both slots empty. -/
  idle : (first.run events).timing.client.state = .idle →
    (first.run events).memory.timingPending = false ∧
      (first.run events).memory.replyPending = false
  /-- For a client that waits there is a message in exactly one of them. -/
  pending : (first.run events).timing.client.state = .replyPending →
    ((first.run events).memory.timingPending ^^ (first.run events).memory.replyPending) = true
  /-- No trigger is lost to a request that is still unread. -/
  accepted : ∀ counter, ((first.run events).timing.client.onTrigger counter
    (first.run events).memory.takeSyncTrigger.2).1 ≠ .lost
  /-- Every request was answered once, or is the one that waits. -/
  accounted : (first.run events).timing.stats.syncRequests =
    (first.answersIn events).length + (first.run events).memory.timingPending.toNat
  undisturbed : ∀ transition ∈ first.trace events, transition.Undisturbed
  /-- The next service answers the request, with the counter value of the step that sent it. -/
  answered : ∀ earlier between, events = earlier ++ .step :: between → .serve ∉ between →
    (Transition.mk (first.run earlier) .step).asks = true →
    ∃ time, (first.run events).service.triggerTime = some time ∧
      (Transition.mk (first.run events) .serve).answer? =
        some ((first.run events).service.controller.handleRequest
          (Timer.counter (first.run earlier).timing.timer) time).1

/-- From the start, and without a reset, the exchange goes in rounds. -/
theorem inRounds_start (setup : SyncSetup) {events : List SyncEvent}
    (hexchanges : ∀ event ∈ events, exchanges event = true) :
    InRounds (start setup) events := by
  have hstart := Exchanging.start setup
  have h := hstart.run hexchanges
  constructor
  case idle => exact h.orderly.of_idle
  case pending => exact h.orderly.one_waits
  case accepted => exact h.accepted
  case accounted =>
    have hsum := hstart.accounted_run hexchanges
    have hnone : (start setup).view.sent = 0 := rfl
    rw [(start_quiet setup).2.1, hnone, Nat.zero_add] at hsum
    exact hsum
  case undisturbed => exact hstart.undisturbed_run hexchanges
  case answered =>
    rintro earlier between rfl hwaits hasks
    have hearlier := hstart.run fun event hmem =>
      hexchanges event (List.mem_append_left _ hmem)
    have hlater := (hearlier.asked hasks).run (fun event hmem =>
      hexchanges event (List.mem_append_right _ (List.mem_cons_of_mem _ hmem))) hwaits
    rw [run_append]
    exact hlater.answer

/-- Two rounds, with a trigger that is given up before the start. -/
theorem inRounds_start_twice :
    let events := .trigger :: startup ++ exchange ++ [.trigger, .step]
    (∀ event ∈ events, exchanges event = true) ∧
      InRounds (start shortPeriod) events ∧
      (Transition.mk ((start shortPeriod).run (.trigger :: startup ++ exchange ++ [.trigger]))
        .step).asks = true ∧
      ((start shortPeriod).run events).timing.stats.syncRequests = 2 ∧
      ((start shortPeriod).answersIn events).length = 1 := by
  have hexchanges : ∀ event ∈ .trigger :: startup ++ exchange ++ [.trigger, .step],
      exchanges event = true := by decide +kernel
  exact ⟨hexchanges, inRounds_start shortPeriod hexchanges, by decide +kernel,
    by decide +kernel, by decide +kernel⟩

end SyncBench

end HarvestTestbed
