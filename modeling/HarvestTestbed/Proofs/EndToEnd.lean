import HarvestTestbed.Proofs.Bench
import HarvestTestbed.Proofs.RecordingSteps
import HarvestTestbed.Proofs.TimingFrame

/-!
# From the triggers to the sink

The triggers that the sampling loop handles, read off its steps, delimit the periods of a run.  The
buffers that the pump shows to the sink record a subsequence of them, each one at most once and in
their order.
-/

namespace HarvestTestbed

namespace Bench

variable {F T : Type} [Frontend F] [Timer T] {count capacity : ℕ}

def Transition.handled (transition : Transition F T) : List LoopEvent :=
  match transition.event with
  | .step .sampling => transition.before.sampling.handledEvents transition.before.memory
  | _ => []

def Transition.delivered (transition : Transition F T) : List FilledBuffer :=
  match transition.event with
  | .service => (transition.before.pump.service transition.before.memory).consumed.toList
  | _ => []

/-! ## Runs -/

omit [Frontend F] [Timer T] in
theorem recording_start {setup : BenchSetup F T}
    (hnew : BufferPool.new count capacity = .ok setup.pool) :
    Recording count capacity (start setup).memory (start setup).sampling {} [] := by
  have hsplit : ({ pool := setup.pool } : SharedMemory).split.1 = .ok () :=
    SharedMemory.split_of_new hnew
  obtain ⟨pool, hattach, heq⟩ := SharedMemory.split_of_ok hsplit
  have hread : (start setup).memory.arena.pru0ToHost.isUnread = false := by
    rw [start, heq]
    rfl
  exact
    { ownership := Ownership.split hnew hsplit
      capacity_eq := fun index buffer hbuffer => by
        have hentry := BufferPool.entry?_of_new hnew index
        rw [start, heq] at hbuffer
        simp only [BufferPool.buffer?, BufferPool.entry?, BufferPool.entries_of_attach hattach]
          at hbuffer hentry
        rw [hentry] at hbuffer
        split at hbuffer
        · obtain rfl := Option.some.inj hbuffer
          rfl
        · cases hbuffer
      announced_filled := fun index hannounced => by
        rw [SharedMemory.announcedIndex?_of_read hread] at hannounced
        cases hannounced
      filling := nofun
      queue := by
        rw [SharedMemory.announced_of_read hread]
        exact .nil }

theorem recording_step {bench : Bench F T} {log : PeriodLog} {delivered : List SampleBuffer}
    (h : Recording count capacity bench.memory bench.sampling log delivered)
    (event : BenchEvent F T) :
    Recording count capacity (bench.step event).memory (bench.step event).sampling
      ((Transition.mk bench event).handled.foldl .note log)
      (delivered ++ (Transition.mk bench event).delivered.map (·.buffer)) := by
  have hquiet : Recording count capacity bench.memory bench.sampling log (delivered ++ []) := by
    rwa [List.append_nil]
  cases event with
  | setState next => exact hquiet.of_material (bench.memory.material_setState next)
  | setMode mode => exact hquiet.of_material (bench.memory.material_setMode mode)
  | requestReset => exact hquiet.of_material (bench.memory.material_setState .reset)
  | completeReset => exact hquiet.completeReset
  | step core =>
      cases core with
      | sampling => exact hquiet.step
      | timing =>
          obtain hledger | hledger := (bench.timing.step_cases bench.memory).2
          · exact hquiet.of_material (SharedMemory.material_of_ledger hledger)
          · exact hquiet.of_material (congrArg Ledger.material hledger)
  | service => exact h.service bench.pump
  | frontend | appendTrace => exact hquiet.of_loop rfl rfl rfl
  | _ => exact hquiet.of_material rfl

/-- What the loop, the pool and the pump hold at the end of a run. -/
theorem recording_run {setup : BenchSetup F T}
    (hnew : BufferPool.new count capacity = .ok setup.pool) (events : List (BenchEvent F T)) :
    Recording count capacity ((start setup).run events).memory
      ((start setup).run events).sampling
      (.ofEvents (((start setup).trace events).flatMap (·.handled)))
      ((((start setup).trace events).flatMap (·.delivered)).map (·.buffer)) := by
  induction events using List.reverseRecOn with
  | nil => exact recording_start hnew
  | append_singleton events event ih =>
      have hstep := recording_step ih event
      rw [PeriodLog.ofEvents, ← List.foldl_append, ← List.map_append] at hstep
      rw [trace_append, run_append, List.flatMap_append, List.flatMap_append]
      simp only [trace, List.flatMap_singleton]
      exact hstep

/-- The buffers that the sink sees record periods, in their order and each at most once.  A buffer
shows every sample of its period that it has room for if and only if that many can be presented. -/
theorem delivered_records {setup : BenchSetup F T}
    (hnew : BufferPool.new count capacity = .ok setup.pool) (events : List (BenchEvent F T)) :
    let transitions := (start setup).trace events
    List.SublistForall₂
      (fun filled period => Records capacity filled.buffer period ∧
        (filled.buffer.samples.toList = period.samples.take capacity ↔
          min period.samples.length capacity ≤ presentable capacity))
      (transitions.flatMap (·.delivered))
      (PeriodLog.ofEvents (transitions.flatMap (·.handled))).ended := by
  intro transitions
  have hqueue := (recording_run hnew events).queue
  rw [List.append_assoc] at hqueue
  obtain ⟨periods, hrecords, hsublist⟩ :=
    List.sublistForall₂_iff.mp (Recording.sublistForall₂_of_append hqueue)
  refine List.sublistForall₂_iff.mpr ⟨periods, ?_, hsublist⟩
  refine (List.forall₂_map_left_iff.mp hrecords).imp fun filled period hfilled => ⟨hfilled, ?_⟩
  rw [hfilled.samples]
  exact take_presentable_iff capacity period

/-- Two periods, of two samples and of one, and a single buffer with room for one sample.  It is free
again only after the second period has begun, which it therefore does not record. -/
theorem delivered_records_single :
    let setup := BenchSetup.simulated 1 1
    let events := [.setMode .disabled, .setState .armed, .setState .running, .step .sampling,
      .step .sampling, .raiseBufferSwap 1000, .step .sampling, .raiseSample, .step .sampling,
      .raiseSample, .step .sampling, .raiseBufferSwap 2000, .step .sampling, .raiseSample,
      .service, .step .sampling, .raiseSample, .raiseBufferSwap 3000, .step .sampling]
    let transitions := (start setup).trace events
    let delivered := transitions.flatMap (·.delivered)
    let periods := (PeriodLog.ofEvents (transitions.flatMap (·.handled))).ended
    BufferPool.new 1 1 = .ok setup.pool ∧ delivered.length = 1 ∧ periods.length = 2 ∧
      List.SublistForall₂
        (fun filled period => Records 1 filled.buffer period ∧
          (filled.buffer.samples.toList = period.samples.take 1 ↔
            min period.samples.length 1 ≤ presentable 1)) delivered periods :=
  ⟨rfl, by decide +kernel, by decide +kernel, @delivered_records _ _ _ _ 1 1 _ rfl _⟩

/-- A buffer of `2 ^ 32` samples shows none of the period that it records. -/
theorem delivered_records_huge :
    let setup := BenchSetup.simulated 1 4294967296
    let events := [.setMode .disabled, .setState .armed, .setState .running, .step .sampling,
      .step .sampling, .raiseBufferSwap 1000, .step .sampling, .raiseSample, .step .sampling,
      .raiseBufferSwap 2000, .step .sampling, .service]
    let transitions := (start setup).trace events
    let delivered := transitions.flatMap (·.delivered)
    let periods := (PeriodLog.ofEvents (transitions.flatMap (·.handled))).ended
    BufferPool.new 1 4294967296 = .ok setup.pool ∧
      delivered.map (·.buffer.samples.toList) = [[]] ∧
      periods.map (·.samples.take 4294967296) = [[{}]] := by
  decide +kernel

end Bench

end HarvestTestbed
