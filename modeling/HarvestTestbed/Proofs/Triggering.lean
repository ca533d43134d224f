import HarvestTestbed.Proofs.TimingFrame

/-!
# What a step of the timing loop raises

What a running loop raises comes from its timer: a latched wrap begins a period with its first
sample, and otherwise a latched match is a sample.  The counters of the loop say what was raised,
and the sampling core finds just that.
-/

namespace HarvestTestbed

namespace TimingLoop

variable {T : Type} [Timer T]

/-! ## The pieces of a step, as far as the timer is concerned -/

/-- A trigger concerns the sync client only. -/
theorem serveTrigger_eq (loop : TimingLoop T) (memory : SharedMemory) :
    ∃ client requests, (loop.serveTrigger memory).2.1 =
      { loop with client := client, stats := { loop.stats with syncRequests := requests } } := by
  rw [serveTrigger]
  split
  · exact ⟨loop.client, loop.stats.syncRequests, rfl⟩
  · simp only
    split
    · exact ⟨_, _, rfl⟩
    · exact ⟨_, loop.stats.syncRequests, rfl⟩
    · exact ⟨_, loop.stats.syncRequests, rfl⟩

omit [Timer T] in
/-- A reply is kept, and nothing else is done. -/
theorem serveReply_eq (loop : TimingLoop T) (memory : SharedMemory) :
    ∃ client reply, (loop.serveReply memory).1 =
      { loop with client := client, nextReply := reply } := by
  rw [serveReply]
  split
  · exact ⟨loop.client, loop.nextReply, rfl⟩
  · split
    · exact ⟨_, _, rfl⟩
    · exact ⟨_, loop.nextReply, rfl⟩

/-- Capturing edges counts them. -/
theorem captureEdges_eq (loop : TimingLoop T) (memory : SharedMemory) :
    ∃ levels edges dropped, (loop.captureEdges memory).1 =
      { loop with
        lastGpio := levels
        stats := { loop.stats with edges := edges, edgesDropped := dropped } } := by
  simp only [captureEdges]
  split
  · exact ⟨loop.lastGpio, loop.stats.edges, loop.stats.edgesDropped, rfl⟩
  · split
    · exact ⟨_, _, loop.stats.edgesDropped, rfl⟩
    · exact ⟨_, loop.stats.edges, _, rfl⟩

/-- A step that stays in the running state serves the client, then the timer. -/
theorem step_of_running {loop : TimingLoop T} {memory : SharedMemory}
    (hloop : loop.state = .running) (hnext : (loop.step memory).1.state = .running) :
    memory.state = .running ∧ (loop.serveTrigger memory).1 = true ∧
      loop.step memory =
        let triggered := (loop.serveTrigger memory).2
        let replied := triggered.1.serveReply triggered.2
        let timed := replied.1.serveTimer replied.2
        timed.1.captureEdges timed.2 := by
  have hdispatch : loop.dispatch memory = loop.stepRunning memory := by rw [dispatch, hloop]
  rw [stepRunning] at hdispatch
  cases hsession : memory.state with
  | running =>
      rw [hsession] at hdispatch
      simp only [work] at hdispatch
      split at hdispatch <;> rename_i heq
      · rw [step, hdispatch] at hnext
        simp [hloop] at hnext
      · refine ⟨rfl, by rw [heq], ?_⟩
        rw [step, hdispatch, heq]
        exact if_pos hloop.symm
  | idle | armed | reset | fault =>
      rw [hsession] at hdispatch
      rw [step, hdispatch] at hnext
      simp [hloop] at hnext

/-! ## The counters -/

def raisesSample (loop : TimingLoop T) (memory : SharedMemory) : Bool :=
  (loop.step memory).1.stats.samples == loop.stats.samples + 1

def beginsPeriod (loop : TimingLoop T) (memory : SharedMemory) : Bool :=
  (loop.step memory).1.stats.periods == loop.stats.periods + 1

/-- How many periods were begun and how many samples were raised. -/
def counts (loop : TimingLoop T) : ℕ × ℕ :=
  (loop.stats.periods, loop.stats.samples)

/-- A sample is counted once, and arms the compare or leaves the timer alone. -/
theorem counts_sample (loop : TimingLoop T) (memory : SharedMemory) :
    (loop.sample memory).1.counts = (loop.stats.periods, loop.stats.samples + 1) := by
  simp only [sample, armNext]
  split <;> rfl

theorem counts_beginPeriod (loop : TimingLoop T) (memory : SharedMemory) :
    (loop.beginPeriod memory).1.counts = (loop.stats.periods + 1, loop.stats.samples + 1) := by
  have hcounts : loop.applyReply.counts = loop.counts := by
    rw [applyReply]
    split <;> rfl
  obtain ⟨hperiods, hsamples⟩ := Prod.mk.inj hcounts
  simp only [beginPeriod, counts_sample, hperiods, hsamples]

end TimingLoop

/-- The triggers that wait for the sampling core, that of the swap and that of the sample. -/
def SharedMemory.raised (memory : SharedMemory) : Bool × Bool :=
  (memory.swapPending, memory.samplePending)

theorem SharedMemory.hidesTiming_raised : HidesTiming SharedMemory.raised where
  takeSyncTrigger _ := rfl
  timingSend _ _ _ _ := rfl
  receiveReply _ := rfl
  notify _ _ _ _ := rfl

namespace TimingLoop

variable {T : Type} [Timer T]

/-- What a step raises, as the counters and the triggers show it, and the timer it leaves. -/
structure Raises (loop : TimingLoop T) (memory : SharedMemory) (period sample : Bool)
    (next : TimingLoop T) (after : SharedMemory) : Prop where
  counts : next.counts = (loop.stats.periods + period.toNat, loop.stats.samples + sample.toNat)
  raised : after.raised = (memory.swapPending || period, memory.samplePending || sample)

/-- The timer alone decides what is raised: a wrap begins a period with its first sample, and
otherwise a match is a sample. -/
theorem raises_serveTimer (loop : TimingLoop T) (memory : SharedMemory) :
    let wrap := Timer.takeWrap loop.timer
    let hit := Timer.takeSampleMatch wrap.2
    Raises loop memory wrap.1 (wrap.1 || hit.1) (loop.serveTimer memory).1
      (loop.serveTimer memory).2 := by
  intro wrap hit
  rw [serveTimer]
  split <;> rename_i timer hwrap
  · have hperiod : wrap.1 = true := congrArg Prod.fst hwrap
    rw [hperiod]
    refine ⟨counts_beginPeriod _ memory, ?_⟩
    simp only [Bool.or_true, Bool.true_or]
    rfl
  · have hperiod : wrap.1 = false := congrArg Prod.fst hwrap
    have hrest : wrap.2 = timer := congrArg Prod.snd hwrap
    rw [hperiod]
    split <;> rename_i timer' hmatch
    · have hsample : hit.1 = true := by
        simp only [hit, hrest, hmatch]
      rw [hsample]
      refine ⟨counts_sample _ memory, ?_⟩
      simp only [Bool.or_true, Bool.or_false]
      rfl
    · have hsample : hit.1 = false := by
        simp only [hit, hrest, hmatch]
      rw [hsample]
      refine ⟨rfl, ?_⟩
      simp only [Bool.or_false]
      rfl

/-- Without a wrap or a match the timer only loses the flags. -/
theorem timer_serveTimer {loop : TimingLoop T} (memory : SharedMemory)
    (hwrap : (Timer.takeWrap loop.timer).1 = false)
    (hmatch : (Timer.takeSampleMatch (Timer.takeWrap loop.timer).2).1 = false) :
    (loop.serveTimer memory).1.timer =
      (Timer.takeSampleMatch (Timer.takeWrap loop.timer).2).2 := by
  rw [serveTimer]
  split <;> rename_i timer heq
  · rw [heq] at hwrap
    cases hwrap
  · rw [heq] at hmatch ⊢
    simp only at hmatch ⊢
    split <;> rename_i timer' heq'
    · rw [heq'] at hmatch
      cases hmatch
    · rw [heq']

/-- A step that stays in the running state raises what its timer has latched. -/
theorem raises_step {loop : TimingLoop T} {memory : SharedMemory}
    (hloop : loop.state = .running) (hnext : (loop.step memory).1.state = .running) :
    let wrap := Timer.takeWrap loop.timer
    let hit := Timer.takeSampleMatch wrap.2
    Raises loop memory wrap.1 (wrap.1 || hit.1) (loop.step memory).1 (loop.step memory).2 ∧
      (wrap.1 = false → hit.1 = false → (loop.step memory).1.timer = hit.2) := by
  intro wrap hit
  obtain ⟨-, -, hstep⟩ := step_of_running hloop hnext
  obtain ⟨client, requests, htriggered⟩ := loop.serveTrigger_eq memory
  have hasked := loop.view_serveTrigger SharedMemory.hidesTiming_raised memory
  simp only at hstep
  generalize (loop.serveTrigger memory).2 = triggered at hstep htriggered hasked
  obtain ⟨client', reply, hreplied⟩ := triggered.1.serveReply_eq triggered.2
  have hreceived := triggered.1.view_serveReply SharedMemory.hidesTiming_raised triggered.2
  generalize triggered.1.serveReply triggered.2 = replied at hstep hreplied hreceived
  have htimer : replied.1.timer = loop.timer := by
    rw [hreplied, htriggered]
  have hcounts : replied.1.counts = loop.counts := by
    rw [hreplied, htriggered]
    rfl
  have hraised : replied.2.raised = memory.raised := hreceived.trans hasked
  have htimed := raises_serveTimer replied.1 replied.2
  have hquiet := @timer_serveTimer _ _ replied.1 replied.2
  rw [htimer] at htimed hquiet
  generalize replied.1.serveTimer replied.2 = timed at hstep htimed hquiet
  obtain ⟨levels, edges, dropped, hcaptured⟩ := timed.1.captureEdges_eq timed.2
  obtain ⟨hperiods, hsamples⟩ := Prod.mk.inj hcounts
  obtain ⟨hswap, hsample⟩ := Prod.mk.inj hraised
  refine ⟨⟨?_, ?_⟩, fun hwrap hmatch => ?_⟩
  · have hkept : (loop.step memory).1.counts = timed.1.counts := by
      rw [hstep, hcaptured]
      rfl
    rw [hkept, htimed.counts, hperiods, hsamples]
  · have hkept : (loop.step memory).2.raised = timed.2.raised := by
      rw [hstep, captureEdges]
      split <;> rfl
    rw [hkept, htimed.raised, hswap, hsample]
  · rw [hstep, hcaptured]
    exact hquiet hwrap hmatch

/-- The change of state at the end of a step is not noticed by the timer and the counters. -/
theorem step_of_counts (loop : TimingLoop T) (memory : SharedMemory) :
    (loop.step memory).1.counts = (loop.dispatch memory).2.1.counts ∧
      (loop.step memory).1.timer = (loop.dispatch memory).2.1.timer := by
  simp only [step]
  split <;> exact ⟨rfl, rfl⟩

/-- A running loop that stops counts nothing and does not touch the timer. -/
theorem dispatch_of_leaving {loop : TimingLoop T} {memory : SharedMemory}
    (hloop : loop.state = .running) (hnext : (loop.dispatch memory).1 ≠ .running) :
    (loop.dispatch memory).2.1.counts = loop.counts ∧
      (loop.dispatch memory).2.1.timer = loop.timer := by
  have hdispatch : loop.dispatch memory = loop.stepRunning memory := by rw [dispatch, hloop]
  rw [hdispatch, stepRunning] at hnext ⊢
  cases hsession : memory.state with
  | running =>
      obtain ⟨client, requests, htriggered⟩ := loop.serveTrigger_eq memory
      simp only [hsession, work] at hnext ⊢
      split at hnext <;> rename_i heq <;> rw [heq] at htriggered
      · simp only at htriggered ⊢
        rw [htriggered]
        exact ⟨rfl, rfl⟩
      · exact absurd rfl hnext
  | idle | armed | reset | fault => exact ⟨rfl, rfl⟩

/-- Outside the running state nothing is counted; the counters may start anew. -/
theorem counts_of_not_running {loop : TimingLoop T} (hloop : loop.state ≠ .running)
    (memory : SharedMemory) :
    (loop.step memory).1.counts = loop.counts ∨ (loop.step memory).1.counts = (0, 0) := by
  rw [(loop.step_of_counts memory).1, dispatch]
  cases hstate : loop.state with
  | running => exact absurd hstate hloop
  | reset =>
      simp only [stepReset, acknowledge]
      split
      · split
        · exact .inl rfl
        · exact .inr rfl
      · exact .inl rfl
  | awaitStart =>
      simp only [stepAwaitStart]
      split <;> exact .inl rfl
  | fault => exact .inl rfl

omit [Timer T] in
theorem Raises.flags {loop next : TimingLoop T} {memory after : SharedMemory}
    {period sample : Bool} (h : Raises loop memory period sample next after) :
    (next.stats.periods == loop.stats.periods + 1) = period ∧
      (next.stats.samples == loop.stats.samples + 1) = sample := by
  obtain ⟨hperiods, hsamples⟩ := Prod.mk.inj h.counts
  rw [hperiods, hsamples]
  cases period <;> cases sample <;> simp

/-- The state that the work of a step leads to is the state after it. -/
theorem state_step_eq (loop : TimingLoop T) (memory : SharedMemory) :
    (loop.step memory).1.state = (loop.dispatch memory).1 := by
  have hreset : (loop.stepReset memory).2.1.state = loop.state := by
    simp only [stepReset, acknowledge]
    split
    · split <;> rfl
    · rfl
  have hkept : (loop.dispatch memory).2.1.state = loop.state := by
    rw [dispatch]
    split
    · exact hreset
    · exact congrArg Prod.fst (loop.stepAwaitStart_cases memory).2.1
    · exact congrArg Prod.fst (loop.stepRunning_cases memory).2.1
    · rfl
  simp only [step]
  split
  · rename_i hsame
    exact hkept.trans hsame.symm
  · rfl

/-- Only a loop that runs and goes on running begins a period, and only at a wrap. -/
theorem beginsPeriod_eq_true {loop : TimingLoop T} {memory : SharedMemory}
    (hbegins : loop.beginsPeriod memory = true) :
    loop.state = .running ∧ (loop.step memory).1.state = .running ∧
      (Timer.takeWrap loop.timer).1 = true := by
  have hmoved : (loop.step memory).1.counts ≠ loop.counts ∧
      (loop.step memory).1.counts ≠ (0, 0) := by
    have hperiods : (loop.step memory).1.stats.periods = loop.stats.periods + 1 :=
      beq_iff_eq.mp hbegins
    constructor <;>
      (intro hcounts
       have hsame := congrArg Prod.fst hcounts
       simp only [counts, hperiods] at hsame
       omega)
  have hloop : loop.state = .running := by
    by_contra hloop
    obtain hcounts | hcounts := counts_of_not_running hloop memory
    · exact hmoved.1 hcounts
    · exact hmoved.2 hcounts
  have hnext : (loop.step memory).1.state = .running := by
    by_contra hnext
    rw [state_step_eq] at hnext
    obtain ⟨hcounts, -⟩ := loop.step_of_counts memory
    exact hmoved.1 (hcounts.trans (dispatch_of_leaving hloop hnext).1)
  obtain ⟨hperiod, -⟩ := (raises_step hloop hnext).1.flags
  exact ⟨hloop, hnext, hperiod.symm.trans hbegins⟩

end TimingLoop

end HarvestTestbed
