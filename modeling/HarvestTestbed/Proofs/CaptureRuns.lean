import HarvestTestbed.Proofs.CapturingSteps
import HarvestTestbed.Proofs.EndToEnd

/-!
# Edge capture over whole runs

A run is followed moment by moment, and for every buffer a page is kept of the edges recorded since
it last became the one being filled.  At every moment edges go into the buffer that the sampling
loop fills, which belongs to the producer, and nowhere else.  What the sink sees with a buffer is
the log of its page.
-/

namespace HarvestTestbed

/-- An event of a run in which edges are also recorded through the port of the timing core. -/
inductive CaptureEvent (F T : Type)
  | bench (event : BenchEvent F T)
  | recordEdge (event : EdgeEvent)

namespace Bench

variable {F T : Type} [Frontend F] [Timer T]

def advance (bench : Bench F T) : CaptureEvent F T → Bench F T
  | .bench event => bench.step event
  | .recordEdge event => { bench with memory := (bench.memory.recordEdge event).2 }

def advances (bench : Bench F T) (events : List (CaptureEvent F T)) : Bench F T :=
  events.foldl advance bench

structure Moment (F T : Type) where
  before : Bench F T
  event : CaptureEvent F T

def moments (bench : Bench F T) : List (CaptureEvent F T) → List (Moment F T)
  | [] => []
  | event :: events => ⟨bench, event⟩ :: (bench.advance event).moments events

theorem advances_concat (bench : Bench F T) (events : List (CaptureEvent F T))
    (event : CaptureEvent F T) :
    bench.advances (events ++ [event]) = (bench.advances events).advance event :=
  List.foldl_concat _ _ _ _

theorem moments_concat (bench : Bench F T) (events : List (CaptureEvent F T))
    (event : CaptureEvent F T) :
    bench.moments (events ++ [event]) =
      bench.moments events ++ [⟨bench.advances events, event⟩] := by
  induction events generalizing bench with
  | nil => rfl
  | cons first events ih =>
      rw [List.cons_append, moments, ih, moments, List.cons_append]
      rfl

namespace Moment

def after (moment : Moment F T) : Bench F T :=
  moment.before.advance moment.event

/-- The transition of the bench, unless an edge is recorded through the port. -/
def transition? (moment : Moment F T) : Option (Transition F T) :=
  match moment.event with
  | .bench event => some ⟨moment.before, event⟩
  | .recordEdge _ => none

/-- What is noted of the edges that are recorded. -/
def stamps (moment : Moment F T) : List Stamp :=
  let before := moment.before
  match moment.event with
  | .bench (.step .timing) =>
      ((before.timing.recordedEdge? before.memory).map fun edge =>
        before.sampling.stamp edge.1 edge.2).toList
  | .recordEdge event => [before.sampling.stamp event before.memory]
  | .bench _ => []

def handlesSwap (moment : Moment F T) : Bool :=
  match moment.event with
  | .bench (.step .sampling) => moment.before.sampling.handlesSwap moment.before.memory
  | _ => false

/-- Whether a buffer becomes the one being filled, be it for the first period or again. -/
def begins (moment : Moment F T) (index : UInt32) : Prop :=
  moment.after.sampling.current = some ⟨index⟩ ∧
    (moment.before.sampling.current ≠ some ⟨index⟩ ∨ moment.handlesSwap = true)

instance (moment : Moment F T) (index : UInt32) : Decidable (moment.begins index) :=
  inferInstanceAs (Decidable (_ ∧ _))

/-- The page of a buffer after a moment. -/
def follow (moment : Moment F T) (index : UInt32) (page : Page) : Page :=
  if moment.begins index then { timestamp := moment.after.sampling.bufferTimestamp }
  else if moment.before.sampling.current = some ⟨index⟩ then page.add moment.stamps
  else page

end Moment

/-- The edges recorded for a buffer since it last became the one being filled. -/
def page (moments : List (Moment F T)) (index : UInt32) : Page :=
  moments.foldl (fun page moment => moment.follow index page) {}

theorem page_concat (moments : List (Moment F T)) (moment : Moment F T) (index : UInt32) :
    page (moments ++ [moment]) index = moment.follow index (page moments index) :=
  List.foldl_concat _ _ _ _

/-! ## Following one moment -/

/-- A loop that handles no swap begins no period. -/
theorem Moment.follow_of_quiet {moment : Moment F T} (hquiet : moment.handlesSwap = false)
    (hcurrent : moment.after.sampling.current = moment.before.sampling.current ∨
      moment.after.sampling.current = none) (pages : UInt32 → Page) :
    (fun index => moment.follow index (pages index)) =
      moment.before.sampling.note moment.stamps pages := by
  funext index
  have hnot : ¬ moment.begins index := by
    rintro ⟨hafter, hbefore | hswap⟩
    · obtain hsame | hnone := hcurrent
      · exact hbefore (hsame ▸ hafter)
      · simp [hnone] at hafter
    · simp [hquiet] at hswap
  rw [follow, if_neg hnot]
  rfl

theorem Moment.follow_of_still {moment : Moment F T} (hquiet : moment.handlesSwap = false)
    (hcurrent : moment.after.sampling.current = moment.before.sampling.current ∨
      moment.after.sampling.current = none)
    (hnothing : moment.stamps = []) (pages : UInt32 → Page) :
    (fun index => moment.follow index (pages index)) = pages := by
  rw [follow_of_quiet hquiet hcurrent, hnothing, SamplingLoop.note_nil]

theorem Moment.follow_of_swap {moment : Moment F T} (hswap : moment.handlesSwap = true)
    (hnothing : moment.stamps = []) (pages : UInt32 → Page) :
    (fun index => moment.follow index (pages index)) =
      moment.after.sampling.reopen pages := by
  funext index
  simp only [follow, begins, hswap, or_true, and_true, hnothing, Page.add_nil, ite_self]
  rfl

theorem exists_recording_advance {count capacity : ℕ} {bench : Bench F T}
    (h : ∃ log delivered, Recording count capacity bench.memory bench.sampling log delivered)
    (event : CaptureEvent F T) :
    ∃ log delivered,
      Recording count capacity (bench.advance event).memory (bench.advance event).sampling log
        delivered := by
  obtain ⟨log, delivered, h⟩ := h
  cases event with
  | bench event => exact ⟨_, _, recording_step h event⟩
  | recordEdge event =>
      exact ⟨log, delivered,
        h.of_material (SharedMemory.material_of_ledger (bench.memory.ledger_recordEdge event))⟩

theorem capturing_step_sampling {count capacity : ℕ} {bench : Bench F T} {log : PeriodLog}
    {delivered : List SampleBuffer} {pages : UInt32 → Page}
    (h : Capturing bench.memory bench.sampling pages)
    (hrecording : Recording count capacity bench.memory bench.sampling log delivered) :
    Capturing (bench.step (.step .sampling)).memory (bench.step (.step .sampling)).sampling
      (fun index => Moment.follow ⟨bench, .bench (.step .sampling)⟩ index (pages index)) := by
  have hstep := h.step hrecording
  cases hswap : bench.sampling.handlesSwap bench.memory with
  | true =>
      rw [hswap] at hstep
      rw [Moment.follow_of_swap (by exact hswap) rfl]
      exact hstep
  | false =>
      have hperiod := SamplingLoop.period_step_of_not_handlesSwap hswap
      rw [hswap] at hstep
      rw [Moment.follow_of_still (by exact hswap)
        (by exact hperiod.imp_left (congrArg Prod.fst)) rfl]
      exact hstep

/-- What the pages say stays true when the next moment is followed. -/
theorem capturing_advance {count capacity : ℕ} {bench : Bench F T} {log : PeriodLog}
    {delivered : List SampleBuffer} {pages : UInt32 → Page}
    (h : Capturing bench.memory bench.sampling pages)
    (hrecording : Recording count capacity bench.memory bench.sampling log delivered)
    (event : CaptureEvent F T) :
    Capturing (bench.advance event).memory (bench.advance event).sampling
      (fun index => Moment.follow ⟨bench, event⟩ index (pages index)) := by
  obtain event | event := event
  case recordEdge =>
    rw [Moment.follow_of_quiet rfl (.inl rfl)]
    exact h.record hrecording (bench.sampling.stamp event bench.memory)
  case bench =>
    cases event with
    | step core =>
        cases core with
        | sampling => exact capturing_step_sampling h hrecording
        | timing =>
            rw [Moment.follow_of_quiet rfl (.inl rfl)]
            exact h.captures hrecording (bench.timing.captures_step bench.memory)
              (bench.timing.material_step bench.memory)
    | completeReset =>
        rw [Moment.follow_of_still rfl (.inl rfl) rfl]
        exact h.completeReset hrecording
    | service =>
        rw [Moment.follow_of_still rfl (.inl rfl) rfl]
        exact (h.service hrecording bench.pump).1
    | setState next =>
        rw [Moment.follow_of_still rfl (.inl rfl) rfl]
        exact h.of_session (bench.memory.material_setState next)
          (bench.memory.capture_setState next)
    | requestReset =>
        rw [Moment.follow_of_still rfl (.inl rfl) rfl]
        exact h.of_session (bench.memory.material_setState .reset)
          (bench.memory.capture_setState .reset)
    | setMode mode =>
        rw [Moment.follow_of_still rfl (.inl rfl) rfl]
        exact h.of_session (bench.memory.material_setMode mode)
          (bench.memory.capture_setMode mode)
    | frontend | appendTrace =>
        rw [Moment.follow_of_still rfl (.inl rfl) rfl]
        exact h.of_loop rfl rfl rfl
    | _ =>
        rw [Moment.follow_of_still rfl (.inl rfl) rfl]
        exact h.of_material rfl rfl rfl

/-! ## Following a run -/

variable {count capacity : ℕ} {setup : BenchSetup F T}

omit [Frontend F] [Timer T] in
theorem capturing_start (hnew : BufferPool.new count capacity = .ok setup.pool) :
    Capturing (start setup).memory (start setup).sampling fun _ => {} := by
  obtain ⟨pool, -, heq⟩ := SharedMemory.split_of_ok (SharedMemory.split_of_new hnew)
  have hread : (start setup).memory.arena.pru0ToHost.isUnread = false := by
    rw [start, heq]
    rfl
  refine ⟨⟨?_, ?_, ?_⟩, ?_⟩
  · exact fun _ hcurrent => absurd hcurrent.symm (Option.some_ne_none _)
  · exact fun _ _ hpending => absurd hpending.symm (Option.some_ne_none _)
  · simp [SharedMemory.announcedIndex?_of_read hread]
  · rw [start, heq]
    rfl

theorem exists_recording_run (hnew : BufferPool.new count capacity = .ok setup.pool)
    (events : List (CaptureEvent F T)) :
    ∃ log delivered, Recording count capacity ((start setup).advances events).memory
      ((start setup).advances events).sampling log delivered := by
  induction events using List.reverseRecOn with
  | nil => exact ⟨_, _, recording_start hnew⟩
  | append_singleton events event ih =>
      rw [advances_concat]
      exact exists_recording_advance ih event

/-- The pages of a run say what the logs are. -/
theorem capturing_run (hnew : BufferPool.new count capacity = .ok setup.pool)
    (events : List (CaptureEvent F T)) :
    Capturing ((start setup).advances events).memory ((start setup).advances events).sampling
      (page ((start setup).moments events)) := by
  induction events using List.reverseRecOn with
  | nil => exact capturing_start hnew
  | append_singleton events event ih =>
      obtain ⟨log, delivered, hrecording⟩ := exists_recording_run hnew events
      rw [advances_concat, moments_concat]
      have hpages :
          page ((start setup).moments events ++ [⟨(start setup).advances events, event⟩]) =
            fun index => Moment.follow ⟨(start setup).advances events, event⟩ index
              (page ((start setup).moments events) index) := by
        funext index
        exact page_concat _ _ index
      rw [hpages]
      exact capturing_advance ih hrecording event

omit [Frontend F] in
/-- A log is left alone by whatever the timing core does, unless its buffer is being filled. -/
theorem edges?_of_not_current {bench : Bench F T} {index : UInt32}
    (htarget : bench.memory.capture.target = .of bench.sampling.current)
    (hother : bench.sampling.current ≠ some ⟨index⟩) :
    (∀ event, (bench.memory.recordEdge event).2.pool.edges? index =
        bench.memory.pool.edges? index) ∧
      (bench.timing.step bench.memory).2.pool.edges? index = bench.memory.pool.edges? index := by
  have hrecord : ∀ (memory : SharedMemory) event,
      memory.capture.target = bench.memory.capture.target →
        (memory.recordEdge event).2.pool.edges? index = memory.pool.edges? index := by
    intro memory event hsame
    rw [SharedMemory.edges?_recordEdge, if_neg]
    rwa [hsame, htarget, EdgeTarget.of_eq_iff]
  refine ⟨fun event => hrecord bench.memory event rfl, ?_⟩
  obtain ⟨noted, -, hannounces, hafter⟩ := bench.timing.captures_step bench.memory
  have hnoted : noted.pool.edges? index = bench.memory.pool.edges? index :=
    SharedMemory.edges?_of_logs hannounces.keeps.1 index
  cases hedge : bench.timing.recordedEdge? bench.memory with
  | none =>
      rw [hedge] at hafter
      rw [SharedMemory.edges?_of_logs (congrArg Capture.logs hafter), hnoted]
  | some edge =>
      rw [hedge] at hafter
      rw [SharedMemory.edges?_of_logs (congrArg Capture.logs hafter.2),
        hrecord noted edge.1 hannounces.keeps.2, hnoted]

/-- Edges go into the buffer that is being filled, which belongs to the producer, and the log of no
other buffer changes.  A buffer that is shown to the sink comes with the log of the edges recorded
since it last became the one being filled. -/
theorem edges_confined (hnew : BufferPool.new count capacity = .ok setup.pool)
    (events : List (CaptureEvent F T)) :
    let bench := (start setup).advances events
    let target := bench.memory.arena.edgeTarget.value
    (target.active = true → bench.sampling.current = some ⟨target.index⟩ ∧
      bench.memory.pool.owner? target.index = some .producer) ∧
    (∀ index owner, bench.memory.pool.owner? index = some owner → owner ≠ .producer →
      (∀ event, (bench.memory.recordEdge event).2.pool.edges? index =
        bench.memory.pool.edges? index) ∧
      (bench.timing.step bench.memory).2.pool.edges? index = bench.memory.pool.edges? index) ∧
    ∀ filled, (bench.pump.service bench.memory).consumed = some filled →
      filled.edges = (page ((start setup).moments events) filled.index).log := by
  intro bench target
  obtain ⟨log, delivered, hrecording⟩ := exists_recording_run hnew events
  have hcapturing := capturing_run hnew events
  have htarget : target = .of bench.sampling.current := hcapturing.target
  refine ⟨fun hactive => ?_, fun index owner howner hne => ?_, fun filled hconsumed => ?_⟩
  · have hcurrent : bench.sampling.current = some ⟨target.index⟩ := by
      rw [← EdgeTarget.of_eq_iff, ← htarget, ← hactive]
    exact ⟨hcurrent, hrecording.owner?_current hcurrent⟩
  · refine edges?_of_not_current hcapturing.target fun hcurrent => hne ?_
    have hproducer := hrecording.owner?_current hcurrent
    rw [howner] at hproducer
    exact Option.some.inj hproducer
  · exact ((hcapturing.service hrecording bench.pump).2 filled hconsumed).1

/-- An edge in each of two periods.  The first one is shown to the sink, the second one goes into
the buffer that is filled in the meantime. -/
theorem edges_confined_two :
    let setup := BenchSetup.simulated 2 4
    let events := [.bench (.setMode .disabled), .bench (.setState .armed),
      .bench (.setState .running), .bench (.step .sampling), .bench (.step .sampling),
      .bench (.raiseBufferSwap 1000), .bench (.step .sampling), .recordEdge ⟨0, 1100, 1⟩,
      .bench (.raiseBufferSwap 2000), .bench (.step .sampling), .recordEdge ⟨0, 2100, 0⟩]
    let bench := (start setup).advances events
    let target := bench.memory.arena.edgeTarget.value
    BufferPool.new 2 4 = .ok setup.pool ∧
      ((bench.pump.service bench.memory).consumed.map fun filled => filled.edges.events) =
        some #[⟨0, 1100, 1⟩] ∧
      target = ⟨1, true⟩ ∧ bench.memory.pool.owner? 0 = some .filled ∧
      (target.active = true → bench.sampling.current = some ⟨target.index⟩ ∧
        bench.memory.pool.owner? target.index = some .producer) ∧
      (∀ index owner, bench.memory.pool.owner? index = some owner → owner ≠ .producer →
        (∀ event, (bench.memory.recordEdge event).2.pool.edges? index =
          bench.memory.pool.edges? index) ∧
        (bench.timing.step bench.memory).2.pool.edges? index =
          bench.memory.pool.edges? index) ∧
      ∀ filled, (bench.pump.service bench.memory).consumed = some filled →
        filled.edges = (page ((start setup).moments events) filled.index).log :=
  ⟨rfl, by decide +kernel, by decide +kernel, by decide +kernel,
    @edges_confined _ _ _ _ 2 4 _ rfl _⟩

end Bench

end HarvestTestbed
