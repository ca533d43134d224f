import HarvestTestbed.Proofs.CaptureRuns
import HarvestTestbed.Proofs.ResetHandshake

/-!
# Edges and the periods they belong to

The timing core announces a period and captures edges in one step; the sampling core redirects the
edge target when it handles the swap, which is later.  An edge in between is stamped in the period
just announced, and goes into the buffer of the one before.  The theorem below says that there are
no other strays: every edge of a buffer was recorded while the loop was in the period of the buffer,
and if no announced swap was waiting at that moment, then this period was also the one announced
last.
-/

namespace HarvestTestbed

namespace SamplingLoop

variable {F : Type} [Frontend F]

theorem current_step_of_reset {loop : SamplingLoop F} (hreset : loop.state = .reset)
    (memory : SharedMemory) : (loop.step memory).1.current = none := by
  have hdispatch : (loop.dispatch memory).2.1.current = none := by
    simp only [dispatch, hreset, stepReset, acknowledge]
    split
    · split <;> rfl
    · rfl
  rw [step]
  split
  rename_i heq
  rw [heq] at hdispatch
  split <;> exact hdispatch

/-- Only a loop that waits for the start drops an announced swap without handling it. -/
theorem swapPending_step_of_not_handlesSwap {loop : SamplingLoop F} {memory : SharedMemory}
    (hquiet : loop.handlesSwap memory = false)
    (hstate : loop.state = .running ∨ loop.state = .fault) (hpending : memory.swapPending = true) :
    (loop.step memory).2.swapPending = true := by
  have hdispatch : (loop.dispatch memory).2.2 = memory := by
    rw [handlesSwap_eq, hpending, Bool.and_true, decide_eq_false_iff_not] at hquiet
    obtain hstate | hstate := hstate
    · rw [dispatch, hstate, stepRunning]
      cases hsession : memory.state with
      | running => exact absurd ⟨hstate, hsession⟩ hquiet
      | idle | armed | reset | fault => rfl
    · rw [dispatch, hstate]
      rfl
  have hkept : (loop.dispatch memory).2.2.swapPending = true := by rw [hdispatch, hpending]
  rw [step]
  split
  rename_i heq
  rw [heq] at hkept
  split <;> exact hkept

end SamplingLoop

/-- A loop that fills a buffer is in the period announced last, unless the swap is still waiting.
Where announcements are dropped, which is before a start, no buffer is being filled. -/
structure Abreast {F : Type} (memory : SharedMemory) (loop : SamplingLoop F) : Prop where
  stopped : memory.state = .idle ∨ memory.state = .armed → loop.current = none
  awaiting : loop.state = .awaitStart → loop.current = none
  announced : loop.current ≠ none → memory.swapPending = false →
    memory.arena.bufferTimestamp = loop.bufferTimestamp

namespace Abreast

variable {F : Type} {memory after : SharedMemory} {loop : SamplingLoop F}

/-- Events that leave the announcement alone or make one. -/
theorem of_low (h : Abreast memory loop)
    (hstopped : after.state = .idle ∨ after.state = .armed →
      memory.state = .idle ∨ memory.state = .armed)
    (hlow : after.swapPending = false → memory.swapPending = false ∧
      after.arena.bufferTimestamp = memory.arena.bufferTimestamp) : Abreast after loop where
  stopped hsession := h.stopped (hstopped hsession)
  awaiting := h.awaiting
  announced hfilling hquiet :=
    (hlow hquiet).2.trans (h.announced hfilling (hlow hquiet).1)

theorem of_frame (h : Abreast memory loop)
    (hstopped : after.state = .idle ∨ after.state = .armed →
      memory.state = .idle ∨ memory.state = .armed)
    (hcapture : after.capture = memory.capture) : Abreast after loop := by
  refine h.of_low hstopped fun hlow => ⟨?_, congrArg Capture.timestamp hcapture⟩
  rwa [SharedMemory.swapPending_eq_capture, hcapture] at hlow

theorem of_loop (h : Abreast memory loop) {next : SamplingLoop F}
    (hcurrent : next.current = loop.current) (hstate : next.state = loop.state)
    (htimestamp : next.bufferTimestamp = loop.bufferTimestamp) : Abreast memory next where
  stopped hsession := hcurrent.trans (h.stopped hsession)
  awaiting hawaits := hcurrent.trans (h.awaiting (hstate ▸ hawaits))
  announced hfilling hlow := by
    rw [htimestamp]
    exact h.announced (hcurrent ▸ hfilling) hlow

theorem of_empty {next : SamplingLoop F} (hcurrent : next.current = none) :
    Abreast after next where
  stopped _ := hcurrent
  awaiting _ := hcurrent
  announced hfilling := absurd hcurrent hfilling

variable [Frontend F]

/-- A swap that is handled is the one announced last. -/
theorem step_of_handlesSwap (hswap : loop.handlesSwap memory = true) :
    Abreast (loop.step memory).2 (loop.step memory).1 := by
  have htimestamp := SamplingLoop.bufferTimestamp_step_of_handlesSwap hswap
  have hkept : (loop.step memory).2.arena.bufferTimestamp = memory.arena.bufferTimestamp :=
    loop.timestamp_step memory
  have hview := (loop.step_cases memory).1
  rw [SamplingLoop.handlesSwap_eq, Bool.and_eq_true, decide_eq_true_iff] at hswap
  obtain ⟨⟨hloop, hsession⟩, -⟩ := hswap
  have hstepped : (loop.handshake memory).stepped =
      { loop.handshake memory with loop := .running } := by
    simp [SamplingLoop.handshake, Handshake.stepped, Handshake.follow, hloop, hsession]
  rw [hstepped] at hview
  have hnext : (loop.step memory).1.state = .running := congrArg Handshake.loop hview
  have hafter : (loop.step memory).2.state = .running :=
    (congrArg Handshake.session hview).trans hsession
  exact
    { stopped := by simp [hafter]
      awaiting := by simp [hnext]
      announced := fun _ _ => hkept.trans htimestamp.symm }

/-- A loop that goes on filling a buffer has not been waiting for a start, and goes on running or
stays in its fault. -/
theorem step_of_filling (h : Abreast memory loop) (hquiet : loop.handlesSwap memory = false)
    (hcurrent : loop.current ≠ none) (hloop : loop.state = .running ∨ loop.state = .fault) :
    Abreast (loop.step memory).2 (loop.step memory).1 := by
  have hview := (loop.step_cases memory).1
  have hsession : (loop.step memory).2.state = memory.state := by
    have hsession := congrArg Handshake.session hview
    rwa [Handshake.session_stepped] at hsession
  have hstarted : ¬ (memory.state = .idle ∨ memory.state = .armed) := mt h.stopped hcurrent
  constructor
  case stopped => exact fun hstopped => absurd (hsession ▸ hstopped) hstarted
  case awaiting =>
    intro hnext
    have hstepped : (loop.handshake memory).stepped.loop = .awaitStart :=
      (congrArg Handshake.loop hview).symm.trans hnext
    simp only [Handshake.stepped, SamplingLoop.handshake] at hstepped
    obtain hloop | hloop := hloop <;> simp only [hloop] at hstepped
    · cases hstate : memory.state <;> simp [Handshake.follow, hstate] at hstepped hstarted
    · by_cases hreset : memory.state = .reset <;> simp [hreset] at hstepped
  case announced =>
    intro hfilling hlow
    have hbefore : memory.swapPending = false := by
      cases hpending : memory.swapPending with
      | false => rfl
      | true =>
          rw [SamplingLoop.swapPending_step_of_not_handlesSwap hquiet hloop hpending] at hlow
          exact hlow
    have hperiod := (SamplingLoop.period_step_of_not_handlesSwap hquiet).resolve_right hfilling
    have htimestamp : (loop.step memory).1.bufferTimestamp = loop.bufferTimestamp :=
      congrArg Prod.snd hperiod
    rw [htimestamp]
    exact (loop.timestamp_step memory).trans (h.announced hcurrent hbefore)

/-- A step that handles the waiting swap catches up with the announcement. -/
theorem step (h : Abreast memory loop) : Abreast (loop.step memory).2 (loop.step memory).1 := by
  cases hswap : loop.handlesSwap memory with
  | true => exact step_of_handlesSwap hswap
  | false =>
      by_cases hcurrent : loop.current = none
      · obtain hperiod | hnone := SamplingLoop.period_step_of_not_handlesSwap hswap
        · exact of_empty ((congrArg Prod.fst hperiod).trans hcurrent)
        · exact of_empty hnone
      · cases hloop : loop.state with
        | reset => exact of_empty (SamplingLoop.current_step_of_reset hloop memory)
        | awaitStart => exact absurd (h.awaiting hloop) hcurrent
        | running => exact h.step_of_filling hswap hcurrent (.inl hloop)
        | fault => exact h.step_of_filling hswap hcurrent (.inr hloop)

omit [Frontend F] in
/-- The session leaves the reset otherwise than for idle, or by a reset that is finished. -/
theorem setState (h : Abreast memory loop) {next : SessionState}
    (hends : memory.state = .reset → next ≠ .idle) : Abreast (memory.setState next).2 loop := by
  refine h.of_frame ?_ (memory.capture_setState next)
  rw [SharedMemory.state_setState]
  cases hstate : memory.state <;> cases next <;>
    simp_all [SessionState.canMoveTo]

omit [Frontend F] in
theorem completeReset {count capacity : ℕ} {log : PeriodLog} {delivered : List SampleBuffer}
    (h : Abreast memory loop)
    (hrecording : Recording count capacity memory loop log delivered) :
    Abreast memory.completeReset.2 loop := by
  by_cases hready : memory.ReadyToComplete
  · obtain ⟨hhandles, -⟩ := hrecording.ownership.eq_nil_of_held hready.2.2
    rw [SamplingLoop.handles, List.append_eq_nil_iff, Option.toList_eq_nil_iff] at hhandles
    exact of_empty hhandles.1
  · obtain ⟨fault, heq⟩ := SharedMemory.completeReset_of_not_ready hready
    rw [heq]
    exact h

omit [Frontend F] in
theorem captures {recorded : Option (EdgeEvent × SharedMemory)} (h : Abreast memory loop)
    (hstate : after.state = memory.state)
    (hcaptures : TimingLoop.Captures memory after recorded) : Abreast after loop := by
  obtain ⟨noted, -, hannounces, hafter⟩ := hcaptures
  have hkept : after.capture.trigger = noted.capture.trigger ∧
      after.capture.timestamp = noted.capture.timestamp := by
    cases recorded with
    | none => exact ⟨congrArg Capture.trigger hafter, congrArg Capture.timestamp hafter⟩
    | some edge =>
        have htrigger := congrArg Capture.trigger hafter.2
        have htimestamp := congrArg Capture.timestamp hafter.2
        exact ⟨htrigger, htimestamp⟩
  refine h.of_low (by rw [hstate]; exact id) fun hlow => ?_
  rw [SharedMemory.swapPending_eq_capture, hkept.1] at hlow
  obtain ⟨hbefore, htimestamp⟩ := hannounces.of_low hlow
  exact ⟨hbefore, hkept.2.trans htimestamp⟩

end Abreast

namespace Bench

variable {F T : Type} [Frontend F] [Timer T]

def transitions (moments : List (Moment F T)) : List (Transition F T) :=
  moments.filterMap (·.transition?)

theorem abreast_advance {count capacity : ℕ} {bench : Bench F T} {log : PeriodLog}
    {delivered : List SampleBuffer} (h : Abreast bench.memory bench.sampling)
    (hrecording : Recording count capacity bench.memory bench.sampling log delivered)
    {event : CaptureEvent F T} (hends : EndsByFinishing (transitions [⟨bench, event⟩])) :
    Abreast (bench.advance event).memory (bench.advance event).sampling := by
  obtain event | event := event
  case recordEdge => exact h.of_low id fun hlow => ⟨hlow, rfl⟩
  case bench =>
    cases event with
    | step core =>
        cases core with
        | sampling => exact h.step
        | timing =>
            exact h.captures (bench.timing.state_step bench.memory)
              (bench.timing.captures_step bench.memory)
    | completeReset => exact h.completeReset hrecording
    | service =>
        refine h.of_frame ?_ (bench.pump.capture_service bench.memory)
        obtain hstate | hstate := bench.pump.state_service bench.memory
        · simp only [advance, Bench.step, hstate, imp_self]
        · simp [advance, Bench.step, hstate]
    | setState next =>
        refine h.setState ?_
        rintro hreset rfl
        have hidle : (bench.memory.setState .idle).2.state = .idle := by
          rw [SharedMemory.state_setState, hreset]
          rfl
        have hfinishes := hends ⟨bench, .setState .idle⟩ (by simp [transitions, Moment.transition?])
          hreset hidle
        cases hfinishes
    | requestReset => exact h.setState fun _ => by decide
    | setMode mode =>
        have hstate := bench.memory.state_setMode mode
        exact h.of_frame (fun hstopped => hstate ▸ hstopped) (bench.memory.capture_setMode mode)
    | frontend | appendTrace => exact h.of_loop rfl rfl rfl
    | raiseBufferSwap timestamp => exact h.of_low id nofun
    | _ => exact h.of_frame id rfl

variable {count capacity : ℕ} {setup : BenchSetup F T}

/-- By induction on the moments of a run. -/
theorem abreast_run (hnew : BufferPool.new count capacity = .ok setup.pool)
    (events : List (CaptureEvent F T))
    (hends : EndsByFinishing (transitions ((start setup).moments events))) :
    Abreast ((start setup).advances events).memory ((start setup).advances events).sampling := by
  induction events using List.reverseRecOn with
  | nil => exact .of_empty rfl
  | append_singleton events event ih =>
      obtain ⟨log, delivered, hrecording⟩ := exists_recording_run hnew events
      rw [moments_concat, transitions, List.filterMap_append] at hends
      have hlast : EndsByFinishing (transitions [⟨(start setup).advances events, event⟩]) :=
        fun transition hmem => hends transition (List.mem_append_right _ hmem)
      rw [advances_concat]
      exact abreast_advance (ih hends.of_append) hrecording hlast

/-! ## The stamps on a page -/

theorem mem_stamps_follow {moment : Moment F T} {index : UInt32} {page : Page} {stamp : Stamp}
    (hstamp : stamp ∈ (moment.follow index page).stamps) :
    (moment.follow index page).timestamp = page.timestamp ∧
      (stamp ∈ page.stamps ∨
        moment.before.sampling.current = some ⟨index⟩ ∧ stamp ∈ moment.stamps) := by
  rw [Moment.follow] at hstamp ⊢
  split at hstamp
  · cases hstamp
  · rename_i hnot
    rw [if_neg hnot]
    split at hstamp
    · rename_i hcurrent
      rw [if_pos hcurrent]
      exact ⟨rfl, (List.mem_append.mp hstamp).imp_right fun hmem => ⟨hcurrent, hmem⟩⟩
    · rename_i hother
      rw [if_neg hother]
      exact ⟨rfl, .inl hstamp⟩

omit [Frontend F] in
/-- An edge is stamped with the period that the loop is in, and with the announcement as it is or
as the step that records the edge has just made it. -/
theorem exists_stamp_eq {moment : Moment F T} {stamp : Stamp} (hstamp : stamp ∈ moment.stamps) :
    ∃ event noted, stamp = moment.before.sampling.stamp event noted ∧
      moment.before.memory.capture.Announces noted.capture := by
  obtain ⟨before, event⟩ := moment
  obtain event | event := event
  case recordEdge => exact ⟨event, before.memory, List.mem_singleton.mp hstamp, .inl rfl⟩
  case bench =>
    cases event with
    | step core =>
        cases core with
        | sampling => cases hstamp
        | timing =>
            simp only [Moment.stamps, Option.mem_toList, Option.map_eq_some_iff] at hstamp
            obtain ⟨edge, hedge, rfl⟩ := hstamp
            obtain ⟨noted, -, hannounces, hafter⟩ := before.timing.captures_step before.memory
            rw [hedge] at hafter
            exact ⟨edge.1, edge.2, rfl, hafter.1 ▸ hannounces⟩
    | _ => cases hstamp

omit [Frontend F] in
/-- Where no swap waits, an edge is recorded in the period that the loop has handled last. -/
theorem announced_of_mem_stamps {moment : Moment F T} {stamp : Stamp}
    (habreast : Abreast moment.before.memory moment.before.sampling)
    (hfilling : moment.before.sampling.current ≠ none)
    (hstamp : stamp ∈ moment.stamps) (hquiet : stamp.waiting = false) :
    stamp.announced = stamp.handled := by
  obtain ⟨event, noted, rfl, hannounces⟩ := exists_stamp_eq hstamp
  obtain ⟨hlow, htimestamp⟩ := hannounces.of_low hquiet
  exact htimestamp.trans (habreast.announced hfilling hlow)

/-- The edges on a page were recorded while the loop was in the period of the page. -/
theorem handled_of_mem_page (hnew : BufferPool.new count capacity = .ok setup.pool)
    (events : List (CaptureEvent F T)) {index : UInt32} {stamp : Stamp}
    (hstamp : stamp ∈ (page ((start setup).moments events) index).stamps) :
    stamp.handled = (page ((start setup).moments events) index).timestamp := by
  induction events using List.reverseRecOn with
  | nil => cases hstamp
  | append_singleton events event ih =>
      rw [moments_concat, page_concat] at hstamp ⊢
      obtain ⟨htimestamp, hbefore | ⟨hcurrent, hnow⟩⟩ := mem_stamps_follow hstamp
      · rw [htimestamp]
        exact ih hbefore
      · obtain ⟨edge, noted, rfl, -⟩ := exists_stamp_eq hnow
        rw [htimestamp]
        exact ((capturing_run hnew events).paged.current _ hcurrent).2

theorem announced_of_mem_page (hnew : BufferPool.new count capacity = .ok setup.pool)
    (events : List (CaptureEvent F T))
    (hends : EndsByFinishing (transitions ((start setup).moments events))) {index : UInt32}
    {stamp : Stamp} (hstamp : stamp ∈ (page ((start setup).moments events) index).stamps)
    (hquiet : stamp.waiting = false) : stamp.announced = stamp.handled := by
  induction events using List.reverseRecOn with
  | nil => cases hstamp
  | append_singleton events event ih =>
      rw [moments_concat, page_concat] at hstamp
      rw [moments_concat, transitions, List.filterMap_append] at hends
      obtain ⟨-, hbefore | ⟨hcurrent, hnow⟩⟩ := mem_stamps_follow hstamp
      · exact ih hends.of_append hbefore
      · exact announced_of_mem_stamps (abreast_run hnew events hends.of_append)
          (Option.ne_none_iff_exists'.mpr ⟨_, hcurrent⟩) hnow hquiet

/-- A buffer that is shown to the sink comes with the edges that were recorded while the sampling
loop was in the period of the buffer.  Such an edge was stamped in this period if and only if the
period announced last was the one handled last, and always if no announced swap was waiting. -/
theorem edges_stamped (hnew : BufferPool.new count capacity = .ok setup.pool)
    (events : List (CaptureEvent F T)) :
    let bench := (start setup).advances events
    let moments := (start setup).moments events
    ∀ filled, (bench.pump.service bench.memory).consumed = some filled →
      filled.edges = (page moments filled.index).log ∧
      (∀ stamp ∈ (page moments filled.index).stamps, stamp.handled = filled.buffer.timestamp ∧
        (stamp.announced = filled.buffer.timestamp ↔ stamp.announced = stamp.handled)) ∧
      (EndsByFinishing (transitions moments) →
        ∀ stamp ∈ (page moments filled.index).stamps, stamp.waiting = false →
          stamp.announced = filled.buffer.timestamp) := by
  intro bench moments filled hconsumed
  obtain ⟨log, delivered, hrecording⟩ := exists_recording_run hnew events
  obtain ⟨hlog, htimestamp⟩ :=
    ((capturing_run hnew events).service hrecording _).2 filled hconsumed
  have hhandled : ∀ stamp ∈ (page moments filled.index).stamps,
      stamp.handled = filled.buffer.timestamp := by
    intro stamp hstamp
    rw [htimestamp]
    exact handled_of_mem_page hnew events hstamp
  refine ⟨hlog, fun stamp hstamp => ⟨hhandled stamp hstamp, ?_⟩, ?_⟩
  · rw [hhandled stamp hstamp]
  · intro hends stamp hstamp hquiet
    rw [← hhandled stamp hstamp]
    exact announced_of_mem_page hnew events hends hstamp hquiet

/-- An edge that is recorded after its period was handled. -/
theorem edges_stamped_handled :
    let setup := BenchSetup.simulated 2 4
    let events := [.bench (.setMode .disabled), .bench (.setState .armed),
      .bench (.setState .running), .bench (.step .sampling), .bench (.step .sampling),
      .bench (.raiseBufferSwap 1000), .bench (.step .sampling), .recordEdge ⟨0, 1100, 1⟩,
      .bench (.raiseBufferSwap 2000), .bench (.step .sampling)]
    let bench := (start setup).advances events
    let moments := (start setup).moments events
    BufferPool.new 2 4 = .ok setup.pool ∧ EndsByFinishing (transitions moments) ∧
      ((bench.pump.service bench.memory).consumed.map fun filled =>
        (filled.buffer.timestamp, (page moments filled.index).stamps)) =
          some (1000, [⟨⟨0, 1100, 1⟩, 1000, 1000, false⟩]) ∧
      ∀ filled, (bench.pump.service bench.memory).consumed = some filled →
        filled.edges = (page moments filled.index).log ∧
        (∀ stamp ∈ (page moments filled.index).stamps, stamp.handled = filled.buffer.timestamp ∧
          (stamp.announced = filled.buffer.timestamp ↔ stamp.announced = stamp.handled)) ∧
        (EndsByFinishing (transitions moments) →
          ∀ stamp ∈ (page moments filled.index).stamps, stamp.waiting = false →
            stamp.announced = filled.buffer.timestamp) :=
  ⟨rfl, by decide +kernel, by decide +kernel, @edges_stamped _ _ _ _ 2 4 _ rfl _⟩

/-- A line changes while the second of two periods begins.  The timing core announces the period
and records the edge in one step, and the edge is shown to the sink with the first period. -/
theorem edges_stamped_stray :
    let cfg : SyncConfig :=
      { period := 5000, tick := 5, samplesPerPeriod := 4, spinWindow := 0 }
    let setup : BenchSetup SimulatedFrontend SimulatedTimer :=
      { BenchSetup.simulated 2 4 with cfg := cfg, timer := .new cfg.nominalTicks }
    let events := [.setMode .disabled, .setState .armed, .setState .running, .step .sampling,
      .step .sampling, .step .timing, .step .timing, .timer { period := 1000, wrapped := true },
      .step .timing, .step .sampling,
      .timer { period := 1000, wrapped := true, matched := true, gpio := 1 }, .step .timing,
      .step .sampling].map CaptureEvent.bench
    let bench := (start setup).advances events
    let moments := (start setup).moments events
    EndsByFinishing (transitions moments) ∧
      ((bench.pump.service bench.memory).consumed.map fun filled =>
        (filled.buffer.timestamp, filled.edges.events,
          (page moments filled.index).stamps.map (·.announced))) =
            some (5000, #[⟨0, 10000, 1⟩], [10000]) := by
  decide +kernel

end Bench

end HarvestTestbed
