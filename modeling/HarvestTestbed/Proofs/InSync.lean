import HarvestTestbed.Proofs.SyncTimeline
import HarvestTestbed.Proofs.TimerAdvance

/-!
# Loop and service in sync

In a session without a reset the exchange between the timing loop and the sync service stays in
order, whatever the other actors do: what the loop keeps for the next wrap names the boundary that
the service announced last, and the timer wraps at the end of the period that the loop announced.
-/

namespace HarvestTestbed

/-- The loop, the service and what is between them, in a session without a reset. -/
structure InSync (cfg : SyncConfig) (bench : SyncBench) : Prop where
  session : bench.memory.state ≠ .reset
  restarted : bench.timing.state = .reset →
    bench.timing.client.state = .idle ∧ bench.timing.nextReply = none
  exchange : Exchange bench.memory bench.timing.client.state bench.timing.nextReply
    bench.service.controller.boundary
  anchored : bench.memory.replyPending = true ∨ bench.timing.nextReply ≠ none ∨
    0 < bench.timing.stats.repliesApplied → bench.service.controller.anchored = true
  period : bench.timing.state ≠ .reset →
    bench.timing.timer.period = max bench.timing.periodTicks.toNat 1
  loopCfg : bench.timing.cfg = cfg
  hostCfg : bench.service.controller.cfg = cfg

namespace SyncBench

/-- Whether an event leaves the session out of the reset and the slots of the exchange to the loop
and the service. -/
def staysInSync : SyncEvent → Bool
  | .resetService => false
  | .op op =>
      match op with
      | .syncReceive | .syncTryReceive | .sendReply _ | .trySendReply _ | .receiveReply
      | .tryReceiveReply | .timingSend _ _ _ | .timingTrySend _ _ _ | .setState .reset
      | .requestReset | .completeReset => false
      | _ => true
  | _ => true

theorem syncSlots_apply {op : ArenaOp} (hstays : staysInSync (.op op) = true)
    (memory : SharedMemory) : (op.apply memory).syncSlots = memory.syncSlots := by
  cases op with
  | syncReceive | syncTryReceive | sendReply | trySendReply | receiveReply | tryReceiveReply
  | timingSend | timingTrySend | requestReset | completeReset => cases hstays
  | notify => exact memory.syncSlots_notify _ _ _ _
  | setState next =>
      simp only [ArenaOp.apply, SharedMemory.setState]
      split <;> rfl
  | setMode mode =>
      simp only [ArenaOp.apply, SharedMemory.setMode]
      split <;> rfl
  | _ => rfl

theorem state_apply {op : ArenaOp} (hstays : staysInSync (.op op) = true) {memory : SharedMemory}
    (hsession : memory.state ≠ .reset) : (op.apply memory).state ≠ .reset := by
  cases op with
  | syncReceive | syncTryReceive | sendReply | trySendReply | receiveReply | tryReceiveReply
  | timingSend | timingTrySend | requestReset | completeReset => cases hstays
  | notify =>
      have hkept := SharedMemory.control_notify memory
      rwa [ArenaOp.apply, SharedMemory.state_of_control (hkept _ _ _ _)]
  | setState next =>
      have hnext : next ≠ .reset := by
        rintro rfl
        cases hstays
      rw [ArenaOp.apply, SharedMemory.state_setState]
      split
      · exact hnext
      · exact hsession
  | setMode mode => rwa [ArenaOp.apply, SharedMemory.state_setMode]
  | _ => exact hsession

end SyncBench

namespace InSync

variable {cfg : SyncConfig} {bench : SyncBench}

theorem start {setup : SyncSetup} {clock : SteppingClock}
    (hnew : SyncService.new setup.cfg clock = .ok setup.service) :
    InSync setup.cfg (SyncBench.start setup) := by
  have hservice : setup.service.controller = .start setup.cfg := by
    simp only [SyncService.new, SyncController.new] at hnew
    cases hvalid : setup.cfg.validate with
    | error fault => simp [hvalid, bind, Except.bind] at hnew
    | ok =>
        simp only [hvalid, bind, Except.bind, pure, Except.pure, Except.ok.injEq] at hnew
        rw [← hnew]
  obtain ⟨hstate, -, hslots, -⟩ := SharedMemory.split_quiet setup.pool
  have hrequest : (SyncBench.start setup).memory.timingPending = false :=
    congrArg (fun slots => slots.1.isUnread) hslots
  have hreply : (SyncBench.start setup).memory.replyPending = false :=
    congrArg (fun slots => slots.2.isUnread) hslots
  have hsession : (SyncBench.start setup).memory.state = .idle := hstate
  constructor
  case session => rw [hsession]; decide
  case restarted => exact fun _ => ⟨rfl, rfl⟩
  case exchange =>
    exact
      { requested := fun hwaits => absurd (hrequest.symm.trans hwaits) Bool.false_ne_true
        replied := fun hwaits => absurd (hreply.symm.trans hwaits) Bool.false_ne_true
        kept := fun _ _ hkept => by cases hkept }
  case anchored =>
    rintro (hwaits | hkept | happlied)
    · exact absurd (hreply.symm.trans hwaits) Bool.false_ne_true
    · exact absurd rfl hkept
    · exact absurd happlied (Nat.lt_irrefl 0)
  case period => exact fun hrunning => absurd rfl hrunning
  case loopCfg => rfl
  case hostCfg => exact congrArg SyncController.cfg hservice

/-- A step of a running loop: it serves the exchange, then a wrap begins a period with what the
exchange has brought. -/
structure Stepped (bench : SyncBench) (served : TimingLoop SimulatedTimer) : Prop where
  exchange : Exchange (bench.step .step).memory served.client.state served.nextReply
    bench.service.controller.boundary
  read : (bench.step .step).memory.replyPending = false
  timeline : served.timeline = bench.timing.timeline
  cfg : served.cfg = bench.timing.cfg
  origin : served.nextReply ≠ none →
    bench.timing.nextReply ≠ none ∨ bench.memory.replyPending = true
  timer : bench.timing.timer.wrapped = true ∧
      served.Turns (bench.step .step).timing (bench.step .step).memory ∨
    bench.timing.timer.wrapped = false ∧ served.SameSync (bench.step .step).timing

theorem stepped (h : InSync cfg bench) (hloop : bench.timing.state = .running)
    (hnext : (bench.step .step).timing.state = .running) :
    ∃ served, Stepped bench served := by
  obtain ⟨-, -, hstep⟩ := TimingLoop.step_of_running hloop hnext
  obtain ⟨client, requests, htriggered⟩ := bench.timing.serveTrigger_eq bench.memory
  have hslot := bench.timing.replySlot_serveTrigger bench.memory
  have hexchange := h.exchange.serveTrigger
  simp only at hstep
  generalize (bench.timing.serveTrigger bench.memory).2 = triggered
    at hstep htriggered hslot hexchange
  obtain ⟨client', reply, hreplied⟩ := triggered.1.serveReply_eq triggered.2
  obtain ⟨hexchange, hread⟩ := hexchange.serveReply
  have horigin := @TimingLoop.nextReply_serveReply _ triggered.1 triggered.2
  generalize triggered.1.serveReply triggered.2 = replied at hstep hreplied hexchange hread horigin
  have hslots := replied.1.syncSlots_serveTimer replied.2
  have htimer := replied.1.serveTimer_cases replied.2
  generalize replied.1.serveTimer replied.2 = timed at hstep hslots htimer
  have harena := timed.1.arena_captureEdges timed.2
  have hsame := timed.1.sameSync_captureEdges timed.2
  have htiming : (bench.step .step).timing = (timed.1.captureEdges timed.2).1 :=
    congrArg Prod.fst hstep
  have hmemory : (bench.step .step).memory = (timed.1.captureEdges timed.2).2 :=
    congrArg Prod.snd hstep
  have hslots : (timed.1.captureEdges timed.2).2.syncSlots = replied.2.syncSlots := by
    rw [SharedMemory.syncSlots, harena]
    exact hslots
  have htimeline : replied.1.timeline = bench.timing.timeline ∧
      replied.1.cfg = bench.timing.cfg := by
    rw [hreplied, htriggered]
    exact ⟨rfl, rfl⟩
  have hkept : triggered.1.nextReply = bench.timing.nextReply := by rw [htriggered]
  have hwaits : triggered.2.replyPending = bench.memory.replyPending :=
    congrArg Slot.isUnread hslot
  rw [hkept, hwaits] at horigin
  refine ⟨replied.1, ?_⟩
  constructor
  case exchange =>
    rw [hmemory]
    exact hexchange.of_slots hslots
  case read =>
    rw [hmemory]
    exact (congrArg (fun slots : Slot 2 × Slot 5 => slots.2.isUnread) hslots).trans hread
  case timeline => exact htimeline.1
  case cfg => exact htimeline.2
  case origin => exact horigin
  case timer =>
    rw [hmemory, htiming]
    have hwrapped : replied.1.timer.wrapped = bench.timing.timer.wrapped :=
      congrArg Timeline.wrapped htimeline.1
    rw [← hwrapped]
    exact htimer.imp (And.imp id fun hturns => hturns.trans hsame harena)
      (And.imp id fun hquiet => hquiet.trans hsame)

/-! ## A step of the bench -/

/-- What the exchange does not rest on may change. -/
theorem moved (h : InSync cfg bench) {next : SyncBench} (hsession : next.memory.state ≠ .reset)
    (hslots : next.memory.syncSlots = bench.memory.syncSlots)
    (hclient : next.timing.client.state = bench.timing.client.state)
    (hreply : next.timing.nextReply = bench.timing.nextReply)
    (happlied : next.timing.stats.repliesApplied = bench.timing.stats.repliesApplied)
    (hcfg : next.timing.cfg = bench.timing.cfg)
    (hreset : next.timing.state = .reset → bench.timing.state = .reset)
    (hperiod : next.timing.state ≠ .reset →
      next.timing.timer.period = max next.timing.periodTicks.toNat 1)
    (hcontroller : next.service.controller = bench.service.controller) : InSync cfg next where
  session := hsession
  restarted hloop := by rw [hclient, hreply]; exact h.restarted (hreset hloop)
  exchange := by rw [hclient, hreply, hcontroller]; exact h.exchange.of_slots hslots
  anchored := by
    have hpending : next.memory.replyPending = bench.memory.replyPending :=
      congrArg (fun slots : Slot 2 × Slot 5 => slots.2.isUnread) hslots
    rw [hpending, hreply, happlied, hcontroller]
    exact h.anchored
  period := hperiod
  loopCfg := hcfg.trans h.loopCfg
  hostCfg := by rw [hcontroller]; exact h.hostCfg

/-- The service keeps its side of the exchange. -/
theorem serve (h : InSync cfg bench) : InSync cfg (bench.step .serve) where
  session := by
    have hstate := SharedMemory.state_of_control
      (SharedMemory.control_of_ledger (bench.service.ledger_serve bench.memory))
    exact fun hreset => h.session (hstate.symm.trans hreset)
  restarted := h.restarted
  exchange := h.exchange.serve
  anchored := by
    change (bench.service.serve bench.memory).2.2.replyPending = true ∨ _ →
      (bench.service.serve bench.memory).2.1.controller.anchored = true
    obtain ⟨counter, time, -, hcontroller⟩ | ⟨-, hcontroller, hslot⟩ :=
      bench.service.serve_cases bench.memory
    · rw [hcontroller]
      exact fun _ => (bench.service.controller.anchored_handleRequest counter time).1
    · rw [hcontroller, SharedMemory.replyPending, hslot]
      exact h.anchored
  period := h.period
  loopCfg := h.loopCfg
  hostCfg := by
    change (bench.service.serve bench.memory).2.1.controller.cfg = cfg
    obtain ⟨counter, time, -, hcontroller⟩ | ⟨-, hcontroller, -⟩ :=
      bench.service.serve_cases bench.memory
    · rw [hcontroller]
      exact (bench.service.controller.anchored_handleRequest counter time).2.trans h.hostCfg
    · rw [hcontroller]
      exact h.hostCfg

namespace Stepped

variable {served : TimingLoop SimulatedTimer}

/-- The exchange goes on from what was served, unless a wrap has used it up. -/
theorem exchange_next (h : Stepped bench served) :
    Exchange (bench.step .step).memory (bench.step .step).timing.client.state
      (bench.step .step).timing.nextReply bench.service.controller.boundary := by
  obtain ⟨-, hturns⟩ | ⟨-, hsame⟩ := h.timer
  · rw [hturns.client, hturns.nextReply]
    exact h.exchange.forget
  · rw [hsame.client, hsame.nextReply]
    exact h.exchange

/-- A reply that is kept or has been applied was so before, or waited. -/
theorem origin_next (h : Stepped bench served)
    (hreply : (bench.step .step).timing.nextReply ≠ none ∨
      0 < (bench.step .step).timing.stats.repliesApplied) :
    bench.memory.replyPending = true ∨ bench.timing.nextReply ≠ none ∨
      0 < bench.timing.stats.repliesApplied := by
  have hserved : served.nextReply ≠ none → bench.memory.replyPending = true ∨
      bench.timing.nextReply ≠ none ∨ 0 < bench.timing.stats.repliesApplied := fun hkept =>
    (h.origin hkept).elim (fun hbefore => .inr (.inl hbefore)) .inl
  change _ ∨ 0 < (bench.step .step).timing.timeline.applied at hreply
  obtain ⟨-, hturns⟩ | ⟨-, hsame⟩ := h.timer
  · have happlied := hreply.resolve_left fun hnext => hnext hturns.nextReply
    rw [hturns.timeline, h.timeline, Timeline.applied_turn] at happlied
    cases hkept : served.nextReply with
    | none =>
        rw [hkept] at happlied
        exact .inr (.inr happlied)
    | some reply => exact hserved (by rw [hkept]; nofun)
  · rw [hsame.nextReply, hsame.timeline, h.timeline] at hreply
    exact hreply.elim hserved fun happlied => .inr (.inr happlied)

theorem period_next (h : Stepped bench served)
    (hperiod : bench.timing.timer.period = max bench.timing.periodTicks.toNat 1) :
    (bench.step .step).timing.timer.period =
      max (bench.step .step).timing.periodTicks.toNat 1 := by
  have hbefore : bench.timing.timeline.period = max bench.timing.timeline.ticks.toNat 1 := hperiod
  change (bench.step .step).timing.timeline.period =
    max (bench.step .step).timing.timeline.ticks.toNat 1
  obtain ⟨-, hturns⟩ | ⟨-, hsame⟩ := h.timer
  · rw [hturns.timeline, h.timeline]
    exact Timeline.period_turn hbefore _ _
  · rw [hsame.timeline, h.timeline]
    exact hbefore

theorem cfg_next (h : Stepped bench served) : (bench.step .step).timing.cfg = bench.timing.cfg := by
  obtain ⟨-, hturns⟩ | ⟨-, hsame⟩ := h.timer
  · exact hturns.cfg.trans h.cfg
  · exact hsame.cfg.trans h.cfg

end Stepped

/-- A running loop that stays in the running state. -/
theorem of_stepped (h : InSync cfg bench) (hloop : bench.timing.state = .running)
    (hnext : (bench.step .step).timing.state = .running)
    {served : TimingLoop SimulatedTimer} (hstepped : Stepped bench served) :
    InSync cfg (bench.step .step) where
  session hreset := h.session ((bench.timing.state_step bench.memory).symm.trans hreset)
  restarted hreset := by
    rw [hnext] at hreset
    cases hreset
  exchange := hstepped.exchange_next
  anchored hreplied := h.anchored (hstepped.origin_next (hreplied.resolve_left fun hpending =>
    absurd (hstepped.read.symm.trans hpending) Bool.false_ne_true))
  period _ := hstepped.period_next (h.period (by rw [hloop]; decide))
  loopCfg := hstepped.cfg_next.trans h.loopCfg
  hostCfg := h.hostCfg

theorem step_loop (h : InSync cfg bench) : InSync cfg (bench.step .step) := by
  by_cases hruns : bench.timing.state = .running ∧ (bench.step .step).timing.state = .running
  · obtain ⟨hloop, hnext⟩ := hruns
    obtain ⟨served, hstepped⟩ := h.stepped hloop hnext
    exact h.of_stepped hloop hnext hstepped
  · have hstate : (bench.step .step).timing.state = (bench.timing.dispatch bench.memory).1 :=
      bench.timing.state_step_eq bench.memory
    have hidles := TimingLoop.idles_dispatch h.session h.restarted fun hloop hdispatch =>
      hruns ⟨hloop, hstate.trans hdispatch⟩
    obtain ⟨hsame, hslots⟩ := bench.timing.step_of_sameSync bench.memory
    have htimeline := hsame.timeline
    have hnext : (bench.step .step).timing.state ≠ .reset := by
      rw [hstate]
      exact hidles.state
    have hsession : (bench.step .step).memory.state ≠ .reset := fun hreset =>
      h.session ((bench.timing.state_step bench.memory).symm.trans hreset)
    refine h.moved hsession (hslots.trans hidles.slots)
      ((congrArg SyncClient.state hsame.client).trans hidles.client)
      (hsame.nextReply.trans hidles.nextReply)
      ((congrArg Timeline.applied htimeline).trans hidles.applied) (hsame.cfg.trans hidles.cfg)
      (fun hreset => absurd hreset hnext) (fun _ => ?_) rfl
    change (bench.step .step).timing.timeline.period =
      max (bench.step .step).timing.timeline.ticks.toNat 1
    have hkept : (bench.step .step).timing.timeline = _ := htimeline
    rw [hkept]
    exact hidles.period ((Classical.em _).imp id h.period)

/-- Every event that keeps to the session keeps loop and service in sync. -/
theorem step (h : InSync cfg bench) {event : SyncEvent}
    (hstays : SyncBench.staysInSync event = true) :
    InSync cfg (bench.step event) := by
  cases event with
  | step => exact h.step_loop
  | advance ticks =>
      have hperiod := bench.timing.timer.period_advance ticks
      exact h.moved h.session rfl rfl rfl rfl rfl id
        (fun hstarted => hperiod.trans (h.period hstarted)) rfl
  | setGpio levels => exact h.moved h.session rfl rfl rfl rfl rfl id h.period rfl
  | trigger =>
      obtain ⟨hcontroller, hslots, hstate⟩ := bench.service.trigger_frame bench.memory
      have hsession : (bench.step .trigger).memory.state ≠ .reset := fun hreset =>
        h.session (hstate.symm.trans hreset)
      exact h.moved hsession hslots rfl rfl rfl rfl id h.period hcontroller
  | serve => exact h.serve
  | resetService => cases hstays
  | setClock clock => exact { h with }
  | op op =>
      exact h.moved (SyncBench.state_apply hstays h.session)
        (SyncBench.syncSlots_apply hstays bench.memory) rfl rfl rfl rfl id h.period rfl

theorem run (h : InSync cfg bench) {events : List SyncEvent}
    (hstays : ∀ event ∈ events, SyncBench.staysInSync event = true) :
    InSync cfg (bench.run events) := by
  induction events generalizing bench with
  | nil => exact h
  | cons event events ih =>
      exact ih (h.step (hstays event List.mem_cons_self))
        fun later hlater => hstays later (List.mem_cons_of_mem _ hlater)

end InSync

end HarvestTestbed
