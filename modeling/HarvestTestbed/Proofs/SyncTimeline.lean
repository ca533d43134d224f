import HarvestTestbed.Proofs.SyncExchange

/-!
# The timeline of the timing loop

The loop announces a timestamp for every period.  Only a latched wrap moves this timeline: the
period that begins takes its length and its timestamp from the reply that is there, or is as long as
the last one.
-/

namespace HarvestTestbed

/-- Where the timer stands in the present period, how long that is, and what was announced. -/
structure Timeline where
  counter : ℕ
  wrapped : Bool
  /-- The wrap value of the timer. -/
  period : ℕ
  /-- The length of the period in ticks. -/
  ticks : UInt32
  timestamp : UInt64
  /-- How many replies were applied. -/
  applied : ℕ
  deriving DecidableEq, Repr

namespace TimingLoop

def timeline (loop : TimingLoop SimulatedTimer) : Timeline where
  counter := loop.timer.counter
  wrapped := loop.timer.wrapped
  period := loop.timer.period
  ticks := loop.periodTicks
  timestamp := loop.periodTimestamp
  applied := loop.stats.repliesApplied

end TimingLoop

/-- A period begins: with the reply that is there, or as long as the last one. -/
def Timeline.turn (timeline : Timeline) (tick : UInt64) : Option SyncReply → Timeline
  | some reply =>
      { timeline with
        wrapped := false
        period := max reply.syncInterval.toNat 1
        ticks := reply.syncInterval
        timestamp := reply.nextTimestamp
        applied := timeline.applied + 1 }
  | none =>
      { timeline with
        wrapped := false
        timestamp := timeline.timestamp + timeline.ticks.toUInt64 * tick }

namespace Timeline

theorem applied_turn (timeline : Timeline) (tick : UInt64) (reply? : Option SyncReply) :
    (timeline.turn tick reply?).applied = timeline.applied + reply?.isSome.toNat := by
  cases reply? <;> rfl

/-- The timer wraps at the end of the period. -/
theorem period_turn {timeline : Timeline} (hperiod : timeline.period = max timeline.ticks.toNat 1)
    (tick : UInt64) (reply? : Option SyncReply) :
    (timeline.turn tick reply?).period = max (timeline.turn tick reply?).ticks.toNat 1 := by
  cases reply? with
  | none => exact hperiod
  | some reply => rfl

end Timeline

/-- The loop without what it measures, counts and paces: what the sync exchange and the timeline
rest on. -/
structure TimingLoop.SameSync (loop next : TimingLoop SimulatedTimer) : Prop where
  client : next.client = loop.client
  nextReply : next.nextReply = loop.nextReply
  timeline : next.timeline = loop.timeline
  cfg : next.cfg = loop.cfg

namespace TimingLoop

theorem SameSync.trans {loop next last : TimingLoop SimulatedTimer} (h : SameSync loop next)
    (hnext : SameSync next last) : SameSync loop last where
  client := hnext.client.trans h.client
  nextReply := hnext.nextReply.trans h.nextReply
  timeline := hnext.timeline.trans h.timeline
  cfg := hnext.cfg.trans h.cfg

theorem sameSync_sample (loop : TimingLoop SimulatedTimer) (memory : SharedMemory) :
    SameSync loop (loop.sample memory).1 := by
  simp only [sample, armNext]
  split <;> exact ⟨rfl, rfl, rfl, rfl⟩

theorem sameSync_captureEdges (loop : TimingLoop SimulatedTimer) (memory : SharedMemory) :
    SameSync loop (loop.captureEdges memory).1 := by
  obtain ⟨levels, edges, dropped, heq⟩ := loop.captureEdges_eq memory
  rw [heq]
  exact ⟨rfl, rfl, rfl, rfl⟩

/-- Applying a reply turns the timeline; without one it is extended by the period
that has elapsed. -/
theorem timeline_applyReply (loop : TimingLoop SimulatedTimer)
    (hwrapped : loop.timer.wrapped = false) :
    loop.applyReply.timeline = loop.timeline.turn loop.cfg.tick loop.nextReply := by
  rw [applyReply]
  cases loop.nextReply <;> simp [timeline, Timeline.turn, applyPeriod, Timer.setPeriod, hwrapped]

end TimingLoop

/-- A period begins: the reply is used up, and the timestamp is announced. -/
structure TimingLoop.Turns (loop next : TimingLoop SimulatedTimer) (after : SharedMemory) :
    Prop where
  client : next.client = loop.client
  nextReply : next.nextReply = none
  timeline : next.timeline = loop.timeline.turn loop.cfg.tick loop.nextReply
  cfg : next.cfg = loop.cfg
  announced : after.arena.bufferTimestamp = next.periodTimestamp

namespace TimingLoop

/-- What follows the turn within a step does not show. -/
theorem Turns.trans {loop next last : TimingLoop SimulatedTimer} {memory after : SharedMemory}
    (h : Turns loop next memory) (hnext : SameSync next last)
    (harena : after.arena = memory.arena) : Turns loop last after where
  client := hnext.client.trans h.client
  nextReply := hnext.nextReply.trans h.nextReply
  timeline := hnext.timeline.trans h.timeline
  cfg := hnext.cfg.trans h.cfg
  announced := by
    rw [harena, h.announced]
    exact (congrArg Timeline.timestamp hnext.timeline).symm

/-- Of a period that begins, the timeline sees the reply and the announcement. -/
theorem turns_beginPeriod (loop : TimingLoop SimulatedTimer) (memory : SharedMemory)
    (hwrapped : loop.timer.wrapped = false) :
    Turns loop (loop.beginPeriod memory).1 (loop.beginPeriod memory).2 := by
  obtain ⟨opened, hbegin, hclient, hreply, htimeline, hcfg⟩ :
      ∃ opened : TimingLoop SimulatedTimer,
      loop.beginPeriod memory = opened.sample (memory.raiseBufferSwap opened.periodTimestamp) ∧
      opened.client = loop.applyReply.client ∧ opened.nextReply = loop.applyReply.nextReply ∧
      opened.timeline = loop.applyReply.timeline ∧ opened.cfg = loop.applyReply.cfg :=
    ⟨_, rfl, rfl, rfl, rfl, rfl⟩
  have hkept : loop.applyReply.client = loop.client ∧ loop.applyReply.nextReply = none ∧
      loop.applyReply.cfg = loop.cfg := by
    rw [applyReply]
    split
    · exact ⟨rfl, rfl, rfl⟩
    · exact ⟨rfl, by assumption, rfl⟩
  have hsame := opened.sameSync_sample (memory.raiseBufferSwap opened.periodTimestamp)
  rw [hbegin]
  exact
    { client := hsame.client.trans (hclient.trans hkept.1)
      nextReply := hsame.nextReply.trans (hreply.trans hkept.2.1)
      timeline := hsame.timeline.trans (htimeline.trans (loop.timeline_applyReply hwrapped))
      cfg := hsame.cfg.trans (hcfg.trans hkept.2.2)
      announced := (congrArg Timeline.timestamp hsame.timeline).symm }

/-- The loop after it has taken both events of its timer. -/
def quieted (loop : TimingLoop SimulatedTimer) : TimingLoop SimulatedTimer :=
  { loop with timer := { loop.timer with wrapped := false, matched := false } }

/-- What a step makes of the timer: a wrap begins a period, and nothing else moves the timeline. -/
theorem serveTimer_cases (loop : TimingLoop SimulatedTimer) (memory : SharedMemory) :
    loop.timer.wrapped = true ∧
        Turns loop (loop.serveTimer memory).1 (loop.serveTimer memory).2 ∨
      loop.timer.wrapped = false ∧ SameSync loop (loop.serveTimer memory).1 := by
  cases hwrapped : loop.timer.wrapped with
  | true =>
      have hserved : loop.serveTimer memory =
          { loop with timer := { loop.timer with wrapped := false } }.beginPeriod memory := by
        simp only [serveTimer, Timer.takeWrap, hwrapped]
      have hturns := turns_beginPeriod
        { loop with timer := { loop.timer with wrapped := false } } memory rfl
      rw [hserved]
      exact .inl ⟨rfl, { hturns with }⟩
  | false =>
      have hquiet : SameSync loop loop.quieted :=
        ⟨rfl, rfl, by rw [timeline, timeline, hwrapped]; rfl, rfl⟩
      refine .inr ⟨rfl, ?_⟩
      cases hmatched : loop.timer.matched with
      | true =>
          have hserved : loop.serveTimer memory = loop.quieted.sample memory := by
            simp only [serveTimer, Timer.takeWrap, Timer.takeSampleMatch, hwrapped, hmatched,
              quieted]
          rw [hserved]
          exact hquiet.trans (loop.quieted.sameSync_sample memory)
      | false =>
          have hserved : loop.serveTimer memory = (loop.quieted, memory) := by
            simp only [serveTimer, Timer.takeWrap, Timer.takeSampleMatch, hwrapped, hmatched,
              quieted]
          rw [hserved]
          exact hquiet

/-- Wraps and samples leave the exchange alone. -/
theorem syncSlots_serveTimer {T : Type} [Timer T] (loop : TimingLoop T) (memory : SharedMemory) :
    (loop.serveTimer memory).2.syncSlots = memory.syncSlots := by
  rw [serveTimer]
  split
  · rfl
  · split <;> rfl

theorem arena_captureEdges {T : Type} [Timer T] (loop : TimingLoop T) (memory : SharedMemory) :
    (loop.captureEdges memory).2.arena = memory.arena := by
  simp only [captureEdges]
  split <;> rfl

/-- A step in which the loop does not run, in a session that is not being reset. -/
structure Idles (loop : TimingLoop SimulatedTimer) (memory : SharedMemory)
    (moved : LoopState × TimingLoop SimulatedTimer × SharedMemory) : Prop where
  state : moved.1 ≠ .reset
  client : moved.2.1.client.state = loop.client.state
  nextReply : moved.2.1.nextReply = loop.nextReply
  applied : moved.2.1.stats.repliesApplied = loop.stats.repliesApplied
  cfg : moved.2.1.cfg = loop.cfg
  slots : moved.2.2.syncSlots = memory.syncSlots
  period : loop.state = .reset ∨ loop.timer.period = max loop.periodTicks.toNat 1 →
    moved.2.1.timer.period = max moved.2.1.periodTicks.toNat 1

theorem Idles.of_timer {loop : TimingLoop SimulatedTimer} {memory after : SharedMemory}
    {next : LoopState} (timer : SimulatedTimer) (levels : UInt32) (hstarted : loop.state ≠ .reset)
    (hnext : next ≠ .reset) (hperiod : timer.period = loop.timer.period)
    (hslots : after.syncSlots = memory.syncSlots) :
    Idles loop memory (next, { loop with timer := timer, lastGpio := levels }, after) where
  state := hnext
  client := rfl
  nextReply := rfl
  applied := rfl
  cfg := rfl
  slots := hslots
  period hbefore := hperiod.trans (hbefore.resolve_left hstarted)

/-- Unless the loop runs before and after, its step neither begins a period nor
serves the exchange. -/
theorem idles_dispatch {loop : TimingLoop SimulatedTimer} {memory : SharedMemory}
    (hsession : memory.state ≠ .reset)
    (hrestarted : loop.state = .reset → loop.client.state = .idle ∧ loop.nextReply = none)
    (hidles : loop.state = .running → (loop.dispatch memory).1 ≠ .running) :
    Idles loop memory (loop.dispatch memory) := by
  have hkept : ∀ {next : LoopState} {after : SharedMemory}, loop.state ≠ .reset →
      next ≠ .reset → after.syncSlots = memory.syncSlots → Idles loop memory (next, loop, after) :=
    fun hstarted hnext hslots => .of_timer loop.timer loop.lastGpio hstarted hnext rfl hslots
  cases hloop : loop.state with
  | reset =>
      obtain ⟨hclient, hreply⟩ := hrestarted hloop
      have hdispatch : loop.dispatch memory =
          (.awaitStart, { loop.clear with resetAcked := false }, memory) := by
        rw [dispatch, hloop]
        exact loop.stepReset_of_ne hsession
      rw [hdispatch]
      exact ⟨by simp, hclient.symm, hreply.symm, rfl, rfl, rfl, fun _ => rfl⟩
  | awaitStart =>
      have hstarted : loop.state ≠ .reset := by rw [hloop]; decide
      have hstate : memory.takeSyncTrigger.2.state = memory.state := rfl
      rw [dispatch, hloop]
      simp only [stepAwaitStart, hstate]
      cases hmemory : memory.state with
      | running => exact .of_timer _ _ hstarted (by decide) rfl rfl
      | reset => exact absurd hmemory hsession
      | fault => exact hkept hstarted (by decide) rfl
      | idle | armed => exact hkept hstarted (by decide) rfl
  | running =>
      have hstarted : loop.state ≠ .reset := by rw [hloop]; decide
      have hnext := hidles hloop
      have hdispatch : loop.dispatch memory = loop.stepRunning memory := by rw [dispatch, hloop]
      rw [hdispatch, stepRunning] at hnext ⊢
      cases hmemory : memory.state with
      | running =>
          simp only [hmemory, work] at hnext ⊢
          have hviolated := @serveTrigger_of_violation _ _ loop memory
          split at hnext <;> rename_i heq <;> rw [heq] at hviolated
          · obtain ⟨hsame, hslots⟩ := hviolated rfl
            simp only at hsame hslots ⊢
            rw [hsame]
            exact hkept hstarted (by decide) hslots
          · exact absurd rfl hnext
      | reset => exact absurd hmemory hsession
      | fault => exact hkept hstarted (by decide) rfl
      | idle | armed => exact hkept hstarted (by decide) rfl
  | fault =>
      have hdispatch : loop.dispatch memory = (.fault, loop, memory) := by
        rw [dispatch, hloop]
        simp only [stepFault, if_neg hsession]
      rw [hdispatch]
      exact hkept (by rw [hloop]; decide) (by decide) rfl

/-- The change of state at the end of a step does not touch the exchange and the timeline. -/
theorem step_of_sameSync (loop : TimingLoop SimulatedTimer) (memory : SharedMemory) :
    SameSync (loop.dispatch memory).2.1 (loop.step memory).1 ∧
      (loop.step memory).2.syncSlots = (loop.dispatch memory).2.2.syncSlots := by
  simp only [step]
  split <;> exact ⟨⟨rfl, rfl, rfl, rfl⟩, rfl⟩

end TimingLoop

end HarvestTestbed
