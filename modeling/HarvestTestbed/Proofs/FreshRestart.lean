import HarvestTestbed.Proofs.Bench
import HarvestTestbed.Proofs.SamplingFrame
import HarvestTestbed.Proofs.TwinRuns

/-!
# A reset leaves no trace in the sampling loop

A loop that acknowledged a reset has dropped its buffers, its statistics are zero, and the rest of
the session is cleared once more by the step with which it leaves the reset state.  If the reset was
finished in the meantime, the arena is like a new one.  From then on nothing that the loop does
tells whether it ran before: the codes and levels it sets, the buffers it hands over and its
statistics are those of a new loop on a new arena, whatever happens to both.

The acknowledgement has to belong to the stay in which the reset is finished.  A loop that holds an
older one does not reset its statistics.
-/

namespace HarvestTestbed

namespace SamplingLoop

variable {F G : Type} [Frontend F] [Frontend G] {setup : EngineSetup}
variable {loop : SamplingLoop F} {memory : SharedMemory}

/-! ## Steps in the reset state -/

theorem step_of_reset (hloop : loop.state = .reset) (hsession : memory.state = .reset) :
    loop.step memory = loop.clear.acknowledge (loop.dropBuffers memory) := by
  have hfreed : (loop.dropBuffers memory).state = .reset :=
    (SharedMemory.state_of_control (loop.control_dropBuffers memory)).trans hsession
  simp only [step, dispatch, hloop, stepReset, if_pos hfreed, if_true]

def restarted (loop : SamplingLoop F) : SamplingLoop F :=
  { loop.clear with resetAcked := false, state := .awaitStart }

theorem step_of_ne_reset (hloop : loop.state = .reset) (hsession : memory.state ≠ .reset) :
    loop.step memory = (loop.restarted, (loop.dropBuffers memory).log .debug
      ("pru0 " ++ LoopState.reset.name ++ " -> " ++ LoopState.awaitStart.name)) := by
  have hne : LoopState.awaitStart ≠ .reset := by decide
  simp only [step, dispatch, hloop, stepReset_of_ne loop hsession, if_neg hne]
  rfl

/-- A loop takes the latch of its acknowledgement in the reset state only. -/
theorem step_acknowledging (hbefore : loop.resetAcked = false)
    (hafter : (loop.step memory).1.resetAcked = true) :
    loop.state = .reset ∧
      (loop.step memory).1 = { loop.clear with stats := {}, resetAcked := true } := by
  have hlatched : (loop.handshake memory).stepped.latched = true := by
    rw [← (loop.step_cases memory).1]
    exact hafter
  have hboth : loop.state = .reset ∧ memory.state = .reset := by
    simp only [Handshake.stepped, handshake, hbefore] at hlatched
    cases hloop : loop.state <;> simp only [hloop] at hlatched
    case reset =>
      split at hlatched
      · rename_i hsession
        exact ⟨rfl, hsession⟩
      · cases hlatched
    all_goals cases hlatched
  have hopen : loop.clear.resetAcked = false := hbefore
  rw [step_of_reset hboth.1 hboth.2, acknowledge, hopen]
  exact ⟨hboth.1, rfl⟩

/-- Of a session the loop keeps nothing that the step out of the reset state will not clear. -/
structure AtRest (setup : EngineSetup) (loop : SamplingLoop F) : Prop where
  state : loop.state = .reset
  stats : loop.stats = {}
  current : loop.current = none
  pending : loop.pending = none
  engines : loop.engines.Fits setup

namespace AtRest

theorem clear (h : loop.AtRest setup) : loop.clear.AtRest setup :=
  ⟨h.state, h.stats, rfl, rfl, h.engines.reset⟩

omit [Frontend F] in
theorem dropBuffers (h : loop.AtRest setup) (memory : SharedMemory) :
    loop.dropBuffers memory = memory := by
  simp [SamplingLoop.dropBuffers, h.current, h.pending]

omit [Frontend F] in
theorem holdings (h : loop.AtRest setup) : loop.holdings = [] := by
  simp [SamplingLoop.holdings, h.current, h.pending]

omit [Frontend F] in
theorem onLoop (h : loop.AtRest setup) (event : SamplingEvent) :
    (event.onLoop loop).AtRest setup := by
  cases event with
  | appendTrace more =>
      exact ⟨h.state, h.stats, h.current, h.pending,
        h.engines.setCache (h.engines.cache.append more)⟩
  | step | op | claim | recycle | dropFilled => exact h

/-- A loop that has acknowledged stays at rest as long as the session stays in the reset state. -/
theorem step (h : loop.AtRest setup) (hacked : loop.resetAcked = true)
    (hsession : memory.state = .reset) :
    (loop.step memory).1.AtRest setup ∧ (loop.step memory).1.resetAcked = true := by
  have hkept : loop.clear.resetAcked = true := hacked
  rw [step_of_reset h.state hsession, acknowledge, if_pos hkept]
  exact ⟨h.clear, hkept⟩

/-- Loops at rest with one setup and one trace run alike once they have left the reset state. -/
theorem twin {F' G' : Type} [Frontend F'] [Frontend G'] {matched : FrontendMatch F' G'}
    {right : SamplingLoop G} (h : loop.AtRest setup) (hright : right.AtRest setup)
    (hsource : loop.engines.cache.source = right.engines.cache.source) {frontend : F'}
    {frontend' : G'} (hfrontend : matched.rel frontend frontend') :
    (loop.restarted.withFrontend frontend).Twin matched setup
      (right.restarted.withFrontend frontend') := by
  obtain ⟨hengines, hcache⟩ := h.engines.reset_eq hright.engines hsource
  have hcast : right.restarted.withFrontend frontend' =
      (loop.restarted.withFrontend frontend).recast frontend' right.engines.reset.cache
        right.bufferTimestamp := by
    simp only [restarted, withFrontend, recast, SamplingLoop.clear, h.stats, hright.stats,
      SamplingLoop.mk.injEq, true_and, and_true]
    exact hengines
  rw [hcast]
  exact .recast frontend' right.engines.reset.cache right.bufferTimestamp hfrontend hcache
    h.engines.reset fun hfilling => by cases hfilling

end AtRest

end SamplingLoop

/-! ## The arena of a finished reset -/

/-- A finished reset leaves a memory like that of an arena that starts over, with no buffer held and
none handed over. -/
theorem SharedMemory.mirror_startedOver {count capacity : ℕ} {memory : SharedMemory}
    {consumers : List ConsumerHandle} {pool : BufferPool}
    (hpool : BufferPool.new count capacity = .ok pool)
    (hself : memory.Mirror count capacity True [] consumers memory)
    (hreset : memory.completeReset.1 = .ok ()) :
    consumers = [] ∧ memory.completeReset.2.Mirror count capacity False [] []
      (Custody.startedOver memory.mode pool).memory := by
  have hready := (completeReset_eq_ok_iff memory).mp hreset
  obtain ⟨next, hreclaim, heq⟩ := completeReset_of_ready hready
  have hnone := (hself.left_owned.eq_nil_of_held hready.2.2).2
  subst hnone
  let custody : Custody := { memory := memory }
  have htidy : custody.Alike capacity True custody := ⟨hself.alike, rfl, rfl⟩
  have hattached : pool.attached = false := by rw [BufferPool.eq_of_new hpool]
  have halike := Custody.alike_afterReset htidy hself.left_owned hready hreclaim hattached
    (BufferPool.size_of_new hpool) (BufferPool.rel_new hpool hself.left_owned.size_eq)
  have hsplit := Ownership.split hpool (split_of_new hpool)
  rw [heq]
  refine ⟨rfl, hself.left_owned.afterReset hreclaim,
    (hsplit.apply (.setMode memory.mode)).apply (.notify .host .restart 0 0), halike, ?_, ?_⟩
  · intro handle fill hmem
    cases hmem
  · intro index buffer hbuffer
    rw [pool_afterReset, BufferPool.handed?_of_reclaim hreclaim] at hbuffer
    cases hbuffer

/-! ## Benches -/

namespace SamplingBench

variable {F G : Type} [Frontend F] [Frontend G]
variable {count capacity : ℕ} {setup : EngineSetup}

/-- A loop acknowledges a reset with the step after `before`; the session stays in the reset state
during `stay`; then the reset is finished, and after `between`, in which the loop takes no step, it
finds the session outside of the reset state. -/
structure Restarts (bench : SamplingBench F) (before stay between : List SamplingEvent) :
    Prop where
  waiting : (bench.run before).loop.resetAcked = false
  acknowledged : (bench.run (before ++ [.step])).loop.resetAcked = true
  stays : ∀ n ≤ stay.length, (bench.run (before ++ [.step] ++ stay.take n)).memory.state = .reset
  completed : (bench.run (before ++ [.step] ++ stay)).memory.completeReset.1 = .ok ()
  silent : ∀ event ∈ between, event.isStep = false
  leaves :
    (bench.run (before ++ [.step] ++ stay ++ .op .completeReset :: between)).memory.state ≠ .reset

/-- From now on the same is seen of both, whatever happens: the front-ends follow one script, but
their cycle counters may start anywhere. -/
def SeenAlike (left : SamplingBench F) (right : SamplingBench G) : Prop :=
  ∀ (script : FrontendScript) (offset offset' : UInt32) (later : List SamplingEvent),
    ((left.attach { script := script, offset := offset }).run later).observe =
      ((right.attach { script := script, offset := offset' }).run later).observe

/-- Two benches whose loops are at rest, over one trace, on memories that are alike and of which no
buffer is held by a loop. -/
structure Resting (count capacity : ℕ) (setup : EngineSetup) (left : SamplingBench F)
    (right : SamplingBench G) : Prop where
  mirrored : Mirrored count capacity False [] left right
  left_rest : left.loop.AtRest setup
  right_rest : right.loop.AtRest setup
  source : left.loop.engines.cache.source = right.loop.engines.cache.source

theorem Resting.run {left : SamplingBench F} {right : SamplingBench G}
    (h : Resting count capacity setup left right) {events : List SamplingEvent}
    (hevents : ∀ event ∈ events, event.isStep = false) :
    Resting count capacity setup (left.run events) (right.run events) := by
  induction events generalizing left right with
  | nil => exact h
  | cons event events ih =>
      have hevent := hevents event List.mem_cons_self
      apply ih _ fun other hmem => hevents other (List.mem_cons_of_mem _ hmem)
      refine ⟨h.mirrored.step hevent, ?_, ?_, ?_⟩
      · rw [loop_step hevent]
        exact h.left_rest.onLoop event
      · rw [loop_step hevent]
        exact h.right_rest.onLoop event
      · rw [loop_step hevent, loop_step hevent]
        cases event with
        | appendTrace more => exact congrArg (Trace.append · more) h.source
        | step | op | claim | recycle | dropFilled => exact h.source

/-- Once both loops have left the reset state, benches with scripted front-ends are alike. -/
theorem Resting.restart {left : SamplingBench F} {right : SamplingBench G}
    (h : Resting count capacity setup left right) (hsession : left.memory.state ≠ .reset) :
    (left.step .step).loop.state = .awaitStart ∧ (right.step .step).loop.state = .awaitStart ∧
      ∀ (script : FrontendScript) (offset offset' : UInt32),
        Paired count capacity False (.scripted offset offset') setup
          ((left.step .step).attach { script := script, offset := offset })
          ((right.step .step).attach { script := script, offset := offset' }) := by
  obtain ⟨⟨hconsumers, hmemory⟩, hleft, hright, hsource⟩ := h
  have hsession' : right.memory.state ≠ .reset := hmemory.alike.state ▸ hsession
  have hstep := SamplingLoop.step_of_ne_reset hleft.state hsession
  have hstep' := SamplingLoop.step_of_ne_reset hright.state hsession'
  rw [hleft.dropBuffers] at hstep
  rw [hright.dropBuffers] at hstep'
  simp only [SamplingBench.step, SamplingBench.attach, hstep, hstep']
  refine ⟨rfl, rfl, fun script offset offset' => ⟨hconsumers, ?_, ?_⟩⟩
  · exact hleft.twin hright hsource ⟨rfl, rfl, rfl, rfl⟩
  · exact hmemory.log .debug _

/-- While the session stays in the reset state, a loop that has acknowledged stays at rest. -/
theorem atRest_run {bench : SamplingBench F} {stay : List SamplingEvent}
    (hrest : bench.loop.AtRest setup) (hacked : bench.loop.resetAcked = true)
    (hstay : ∀ n ≤ stay.length, (bench.run (stay.take n)).memory.state = .reset) :
    (bench.run stay).loop.AtRest setup := by
  induction stay generalizing bench with
  | nil => exact hrest
  | cons event events ih =>
      have hkept : (bench.step event).loop.AtRest setup ∧
          (bench.step event).loop.resetAcked = true := by
        cases hevent : event.isStep with
        | true =>
            cases event with
            | step => exact hrest.step hacked (hstay 0 (Nat.zero_le _))
            | op | claim | recycle | dropFilled | appendTrace => cases hevent
        | false =>
            rw [loop_step hevent]
            refine ⟨hrest.onLoop event, ?_⟩
            cases event <;> exact hacked
      exact ih hkept.1 hkept.2 fun n hn => hstay (n + 1) (Nat.succ_le_succ hn)

/-- A loop that acknowledged a reset is at rest when that reset is finished. -/
theorem Restarts.atRest {bench : SamplingBench F} {before stay between : List SamplingEvent}
    (h : Restarts bench before stay between) (hfits : (bench.run before).loop.engines.Fits setup) :
    (bench.run (before ++ [.step] ++ stay)).loop.AtRest setup := by
  have hstays := h.stays
  have hacked := h.acknowledged
  simp only [run_append] at hstays hacked ⊢
  obtain ⟨hloop, heq⟩ := SamplingLoop.step_acknowledging h.waiting hacked
  refine atRest_run ?_ hacked hstays
  have hstepped : ((bench.run before).run [.step]).loop =
      { (bench.run before).loop.clear with stats := {}, resetAcked := true } := heq
  rw [hstepped]
  exact ⟨hloop, rfl, rfl, rfl, hfits.reset⟩

/-- Along every run from the start the buffers are owned as the handles say, and the engines are
those of the setup. -/
theorem paired_start_run {engines : Engines} {source : Trace} {pool : BufferPool}
    (hpool : BufferPool.new count capacity = .ok pool)
    (hengines : setup.engines source = .ok engines) (frontend : F) (events : List SamplingEvent) :
    let bench := (start pool frontend engines).run events
    bench.loop.engines.Fits setup ∧
      Mirrored count capacity True bench.loop.holdings bench bench := by
  have hpaired := (paired_start hpool hengines frontend).run events
  exact ⟨hpaired.stepped.loop.fits, hpaired.mirrored⟩

omit [Frontend G] in
/-- When the reset is finished, the bench is like one that starts over with the mode and the trace
of the moment. -/
theorem Restarts.resting {engines renewed : Engines} {source : Trace} {pool : BufferPool}
    {frontend : F} {before stay between : List SamplingEvent}
    (h : Restarts (start pool frontend engines) before stay between)
    (hpool : BufferPool.new count capacity = .ok pool)
    (hengines : setup.engines source = .ok engines) (blank : G)
    (hrenewed : setup.engines
      ((start pool frontend engines).run (before ++ [.step] ++ stay)).loop.engines.cache.source =
        .ok renewed) :
    let bench := (start pool frontend engines).run (before ++ [.step] ++ stay)
    Resting count capacity setup (bench.step (.op .completeReset))
      (startOver bench.memory.mode pool blank renewed) := by
  have hrest := h.atRest (paired_start_run hpool hengines frontend before).1
  have hself := (paired_start_run hpool hengines frontend (before ++ [.step] ++ stay)).2
  have hcompleted := h.completed
  generalize (start pool frontend engines).run (before ++ [.step] ++ stay) = bench at *
  rw [hrest.holdings] at hself
  obtain ⟨hconsumers, hmemory⟩ := SharedMemory.mirror_startedOver hpool hself.memory hcompleted
  obtain ⟨hfits, hsource⟩ := Engines.Fits.made hrenewed
  refine ⟨⟨hconsumers.symm, ?_⟩, hrest, ⟨rfl, rfl, rfl, rfl, hfits⟩, hsource.symm⟩
  simp only [SamplingBench.step, hconsumers]
  exact hmemory

/-- A reset leaves no trace in the sampling loop.  However it ran before, once it has acknowledged a
reset that was finished in the same stay and has stepped on to await the start, what is seen of it
is what is seen of a new loop with the same setup, the same trace and the same mode on a new arena,
whatever happens to both. -/
theorem seenAlike_of_restarts {engines : Engines} {source : Trace} {pool : BufferPool}
    (hpool : BufferPool.new count capacity = .ok pool)
    (hengines : setup.engines source = .ok engines) (frontend : F) (blank : G)
    {before stay between : List SamplingEvent}
    (hrestarts : Restarts (start pool frontend engines) before stay between) :
    let stayed := (start pool frontend engines).run (before ++ [.step] ++ stay)
    ∃ renewed, setup.engines stayed.loop.engines.cache.source = .ok renewed ∧
      let used := (start pool frontend engines).run
        (before ++ [.step] ++ stay ++ .op .completeReset :: between ++ [.step])
      let fresh := (startOver stayed.memory.mode pool blank renewed).run (between ++ [.step])
      used.loop.state = .awaitStart ∧ fresh.loop.state = .awaitStart ∧ used.SeenAlike fresh := by
  obtain ⟨renewed, hrenewed⟩ := Engines.exists_made hengines
    ((start pool frontend engines).run (before ++ [.step] ++ stay)).loop.engines.cache.source
  have hresting := hrestarts.resting hpool hengines blank hrenewed
  have hleaves := hrestarts.leaves
  refine ⟨renewed, hrenewed, ?_⟩
  simp only [run_append _ (before ++ [.step] ++ stay), run_append _ _ [.step]] at hleaves ⊢
  obtain ⟨hused, hfresh, hpaired⟩ := (hresting.run hrestarts.silent).restart hleaves
  exact ⟨hused, hfresh, fun script offset offset' later =>
    ((hpaired script offset offset').run later).observe⟩

/-- A reset after a sample of the emulation, whose buffer was still being filled. -/
theorem seenAlike_of_restarts_emulated :
    let setup := BenchSetup.simulated 2 1
    let before : List SamplingEvent := [.op (.setState .armed), .op (.setState .running), .step,
      .step, .op (.raiseBufferSwap 9), .op .raiseSample, .step, .op .requestReset, .step]
    let history := before ++ [.step] ++ [.op .timingAcknowledge]
    let bench := start setup.pool setup.frontend setup.engines
    (bench.run before).loop.stats.samples = 1 ∧ Restarts bench before [.op .timingAcknowledge] [] ∧
      (bench.run (history ++ [.op .completeReset] ++ [.step])).SeenAlike
        ((startOver .emulate setup.pool setup.frontend setup.engines).run [.step]) := by
  intro setup before history bench
  have hsampled : (bench.run before).loop.stats.samples = 1 := by decide +kernel
  have hrestarts : Restarts bench before [.op .timingAcknowledge] [] :=
    ⟨by decide +kernel, by decide +kernel, by decide +kernel, by decide +kernel, nofun,
      by decide +kernel⟩
  have hpool : BufferPool.new 2 1 = .ok setup.pool := rfl
  have hengines : (SessionConfig.engineSetup {}).engines ⟨#[]⟩ = .ok setup.engines := by
    rw [← SessionConfig.engines_eq]
    decide +kernel
  have hsource : (bench.run history).loop.engines.cache.source = ⟨#[]⟩ := by decide +kernel
  have hmode : (bench.run history).memory.mode = .emulate := by decide +kernel
  -- From here on the run is not evaluated any more.
  clear_value setup before
  obtain ⟨renewed, hrenewed, -, -, halike⟩ :=
    seenAlike_of_restarts hpool hengines setup.frontend setup.frontend hrestarts
  obtain rfl : renewed = setup.engines := by
    rw [hsource] at hrenewed
    exact Except.ok.inj (hrenewed.symm.trans hengines)
  rw [hmode] at halike
  exact ⟨hsampled, hrestarts, halike⟩

end SamplingBench

end HarvestTestbed
