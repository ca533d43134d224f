import HarvestTestbed.Proofs.FirstSample
import HarvestTestbed.Proofs.SyncTimeline

/-!
# How the samples of a period are paced

A period is divided into intervals of whole ticks, and the ticks that are left over go to its first
intervals, one each.  The loop arms the compare for one sample at a time: when a sample is raised,
for the next one.

Wraps and matches are latched apart, and a step handles one of them.  A wrap begins a period
whatever is latched besides, so a match may be left over that was meant for the period before.
-/

namespace HarvestTestbed

/-- What the samples of a loop are paced by.  The timer is taken without its lines. -/
structure Pacer where
  timer : SimulatedTimer
  /-- The number of samples in a period. -/
  samples : UInt32
  /-- The length of a period that nothing corrects. -/
  nominal : UInt32
  /-- The length of the period. -/
  ticks : UInt32
  interval : UInt32
  compensation : UInt32
  /-- How many samples are left that get an extra tick. -/
  left : UInt32
  nextCompare : UInt32
  /-- How many samples of the period were raised. -/
  index : UInt32
  deriving DecidableEq, Repr

def TimingLoop.pacer (loop : TimingLoop SimulatedTimer) : Pacer where
  timer := loop.timer.setGpio 0
  samples := loop.cfg.samplesPerPeriod
  nominal := loop.cfg.nominalTicks
  ticks := loop.periodTicks
  interval := loop.sampleInterval
  compensation := loop.compensation
  left := loop.compensationLeft
  nextCompare := loop.nextCompare
  index := loop.sampleIndex

namespace Pacer

def advance (pacer : Pacer) (ticks : ℕ) : Pacer :=
  { pacer with timer := pacer.timer.advance ticks }

/-- Both events of the timer are taken. -/
def quieted (pacer : Pacer) : Pacer :=
  { pacer with timer := { pacer.timer with wrapped := false, matched := false } }

/-- A sample is raised, and the compare is armed for the next one if the period has one left. -/
def sample (pacer : Pacer) : Pacer :=
  if pacer.index + 1 < pacer.samples then
    let extra : UInt32 := if 0 < pacer.left then 1 else 0
    let compare := pacer.nextCompare + (pacer.interval + extra)
    { pacer with
      timer := { pacer.timer with compare := some compare.toNat }
      left := pacer.left - extra
      nextCompare := compare
      index := pacer.index + 1 }
  else { pacer with index := pacer.index + 1 }

/-- The period that follows a wrap is as a reply has it, or as the last one. -/
def divided (pacer : Pacer) : Option SyncReply → Pacer
  | some reply =>
      { pacer with
        timer := { pacer.timer with wrapped := false, period := max reply.syncInterval.toNat 1 }
        ticks := reply.syncInterval
        interval := reply.sampleInterval
        compensation := reply.compensation }
  | none => { pacer with timer := { pacer.timer with wrapped := false } }

/-- No sample of the period was raised yet.  A latched match stays latched. -/
def opened (pacer : Pacer) (reply? : Option SyncReply) : Pacer :=
  { pacer.divided reply? with
    left := (pacer.divided reply?).compensation
    nextCompare := 0
    index := 0 }

/-- A wrap begins a period with its first sample, and otherwise a match is a sample. -/
def serve (pacer : Pacer) (reply? : Option SyncReply) : Pacer :=
  if pacer.timer.wrapped then (pacer.opened reply?).sample
  else if pacer.timer.matched then pacer.quieted.sample
  else pacer

def cleared (pacer : Pacer) : Pacer :=
  { pacer with
    timer := { pacer.timer with period := max pacer.nominal.toNat 1 }
    ticks := pacer.nominal
    interval := pacer.nominal / max pacer.samples 1
    compensation := pacer.nominal % max pacer.samples 1
    index := 0 }

end Pacer

namespace TimingLoop

/-- The reply that is there when a step handles the timer. -/
def replyAt (loop : TimingLoop SimulatedTimer) (memory : SharedMemory) : Option SyncReply :=
  let triggered := (loop.serveTrigger memory).2
  (triggered.1.serveReply triggered.2).1.nextReply

theorem pacer_sample (loop : TimingLoop SimulatedTimer) (memory : SharedMemory) :
    (loop.sample memory).1.pacer = loop.pacer.sample := by
  simp only [sample, armNext, Pacer.sample]
  have hindex : loop.pacer.index = loop.sampleIndex := rfl
  have hsamples : loop.pacer.samples = loop.cfg.samplesPerPeriod := rfl
  rw [hindex, hsamples]
  split <;> rfl

theorem pacer_beginPeriod (loop : TimingLoop SimulatedTimer) (memory : SharedMemory) :
    ({ loop with timer := { loop.timer with wrapped := false } }.beginPeriod memory).1.pacer =
      (loop.pacer.opened loop.nextReply).sample := by
  rw [beginPeriod, pacer_sample, applyReply]
  cases hreply : loop.nextReply <;> rfl

/-- What the timer does to the samples does not depend on the memory. -/
theorem pacer_serveTimer (loop : TimingLoop SimulatedTimer) (memory : SharedMemory) :
    (loop.serveTimer memory).1.pacer = loop.pacer.serve loop.nextReply := by
  have hwrap : loop.pacer.timer.wrapped = loop.timer.wrapped := rfl
  have hmatch : loop.pacer.timer.matched = loop.timer.matched := rfl
  rw [Pacer.serve, hwrap, hmatch]
  cases hwrapped : loop.timer.wrapped with
  | true =>
    have hserved : loop.serveTimer memory =
        { loop with timer := { loop.timer with wrapped := false } }.beginPeriod memory := by
      simp only [serveTimer, Timer.takeWrap, hwrapped]
    rw [hserved, pacer_beginPeriod]
    rfl
  | false =>
    cases hmatched : loop.timer.matched with
    | true =>
      have hserved : loop.serveTimer memory = loop.quieted.sample memory := by
        simp only [serveTimer, Timer.takeWrap, Timer.takeSampleMatch, hwrapped, hmatched, quieted]
      rw [hserved, pacer_sample]
      rfl
    | false =>
      have hserved : (loop.serveTimer memory).1 = loop.quieted := by
        simp only [serveTimer, Timer.takeWrap, Timer.takeSampleMatch, hwrapped, hmatched, quieted]
      have htimer : { loop.timer with wrapped := false, matched := false } = loop.timer :=
        SimulatedTimer.take_of_low hwrapped hmatched
      rw [hserved, quieted, htimer]
      rfl

/-- A step that stays in the running state serves the timer, with the reply that is there. -/
theorem pacer_step_of_running {loop : TimingLoop SimulatedTimer} {memory : SharedMemory}
    (hloop : loop.state = .running) (hnext : (loop.step memory).1.state = .running) :
    (loop.step memory).1.pacer = loop.pacer.serve (loop.replyAt memory) := by
  obtain ⟨-, -, hstep⟩ := step_of_running hloop hnext
  obtain ⟨client, requests, htriggered⟩ := loop.serveTrigger_eq memory
  simp only at hstep
  rw [replyAt]
  generalize (loop.serveTrigger memory).2 = triggered at hstep htriggered ⊢
  obtain ⟨client', reply, hreplied⟩ := triggered.1.serveReply_eq triggered.2
  generalize triggered.1.serveReply triggered.2 = replied at hstep hreplied ⊢
  have hkept : replied.1.pacer = loop.pacer := by
    rw [hreplied, htriggered]
    rfl
  obtain ⟨levels, edges, dropped, hcaptured⟩ :=
    (replied.1.serveTimer replied.2).1.captureEdges_eq (replied.1.serveTimer replied.2).2
  rw [hstep, hcaptured, ← hkept, ← pacer_serveTimer]
  rfl

/-- The flags of the timer are what a step of a running loop goes by. -/
theorem flags_of_running {loop : TimingLoop SimulatedTimer} {memory : SharedMemory}
    (hloop : loop.state = .running) (hnext : (loop.step memory).1.state = .running) :
    loop.beginsPeriod memory = loop.pacer.timer.wrapped ∧
      loop.raisesSample memory = (loop.pacer.timer.wrapped || loop.pacer.timer.matched) :=
  (raises_step hloop hnext).1.flags

/-- A running loop that stops leaves the pacer as it is. -/
theorem pacer_dispatch_of_leaving {loop : TimingLoop SimulatedTimer} {memory : SharedMemory}
    (hloop : loop.state = .running) (hnext : (loop.dispatch memory).1 ≠ .running) :
    (loop.dispatch memory).2.1.pacer = loop.pacer := by
  have hdispatch : loop.dispatch memory = loop.stepRunning memory := by rw [dispatch, hloop]
  rw [hdispatch, stepRunning] at hnext ⊢
  cases hsession : memory.state with
  | running =>
    obtain ⟨client, requests, htriggered⟩ := loop.serveTrigger_eq memory
    simp only [hsession, work] at hnext ⊢
    split at hnext <;> rename_i heq <;> rw [heq] at htriggered
    · simp only at htriggered ⊢
      rw [htriggered]
      rfl
    · exact absurd rfl hnext
  | idle | armed | reset | fault => rfl

/-- What a step makes of the pacer: a running loop serves its timer, a reset clears the session, a
loop that starts to run discards what was latched, and nothing else paces. -/
theorem pacer_step_cases (loop : TimingLoop SimulatedTimer) (memory : SharedMemory) :
    (loop.state = .running ∧ (loop.step memory).1.state = .running ∧
        (loop.step memory).1.pacer = loop.pacer.serve (loop.replyAt memory)) ∨
      (loop.state = .reset ∧ (loop.step memory).1.state ≠ .running ∧
        (loop.step memory).1.pacer = loop.pacer.cleared) ∨
      (loop.state = .awaitStart ∧ (loop.step memory).1.pacer = loop.pacer.quieted) ∨
      (loop.state ≠ .reset ∧ (loop.step memory).1.state ≠ .running ∧
        (loop.step memory).1.pacer = loop.pacer) := by
  have hmoved : (loop.step memory).1.pacer = (loop.dispatch memory).2.1.pacer := by
    simp only [step]
    split <;> rfl
  rw [hmoved, state_step_eq]
  cases hloop : loop.state with
  | running =>
    by_cases hnext : (loop.dispatch memory).1 = .running
    · have hstays := (loop.state_step_eq memory).trans hnext
      exact .inl ⟨rfl, hnext, hmoved.symm.trans (pacer_step_of_running hloop hstays)⟩
    · exact .inr (.inr (.inr ⟨by simp, hnext, pacer_dispatch_of_leaving hloop hnext⟩))
  | reset =>
    refine .inr (.inl ⟨rfl, ?_⟩)
    rw [dispatch, hloop]
    simp only [stepReset, acknowledge]
    split
    · split <;> exact ⟨by simp, rfl⟩
    · exact ⟨by simp, rfl⟩
  | awaitStart =>
    rw [dispatch, hloop]
    simp only [stepAwaitStart]
    cases memory.takeSyncTrigger.2.state with
    | running => exact .inr (.inr (.inl ⟨trivial, rfl⟩))
    | idle | armed | reset | fault => exact .inr (.inr (.inr ⟨by simp, by simp, rfl⟩))
  | fault =>
    rw [dispatch, hloop]
    refine .inr (.inr (.inr ⟨by simp, ?_, rfl⟩))
    simp only [stepFault]
    split <;> simp

end TimingLoop

/-! ## Positions of the samples -/

namespace Pacer

variable {pacer : Pacer} {number : ℕ}

/-- Where in a period a sample is due, in ticks since the wrap. -/
def position (pacer : Pacer) (number : ℕ) : ℕ :=
  number * pacer.interval.toNat + min number pacer.compensation.toNat

@[simp]
theorem position_zero (pacer : Pacer) : pacer.position 0 = 0 := by
  simp [position]

/-- Two samples are an interval apart, and one tick more while there are surplus
ticks to give away. -/
theorem position_succ (pacer : Pacer) (number : ℕ) :
    pacer.position (number + 1) = pacer.position number + (pacer.interval.toNat +
      if number < pacer.compensation.toNat then 1 else 0) := by
  rw [position, position, Nat.succ_mul]
  split <;> omega

/-- The pacer is at a sample of the period: so many were raised, and the next one is what the
compare was computed for last. -/
structure Tracks (pacer : Pacer) (number : ℕ) : Prop where
  index : pacer.index.toNat = number
  left : number < pacer.samples.toNat → pacer.left.toNat = pacer.compensation.toNat - number
  next : number < pacer.samples.toNat → pacer.nextCompare = .ofNat (pacer.position number)

/-- A period is divided as another one. -/
structure SameDivision (opened pacer : Pacer) : Prop where
  samples : pacer.samples = opened.samples
  ticks : pacer.ticks = opened.ticks
  interval : pacer.interval = opened.interval
  compensation : pacer.compensation = opened.compensation

theorem SameDivision.position {opened : Pacer} (h : SameDivision opened pacer) (number : ℕ) :
    pacer.position number = opened.position number := by
  rw [Pacer.position, Pacer.position, h.interval, h.compensation]

theorem SameDivision.trans {opened next : Pacer} (h : SameDivision opened pacer)
    (hnext : SameDivision pacer next) : SameDivision opened next where
  samples := hnext.samples.trans h.samples
  ticks := hnext.ticks.trans h.ticks
  interval := hnext.interval.trans h.interval
  compensation := hnext.compensation.trans h.compensation

theorem SameDivision.symm {opened : Pacer} (h : SameDivision opened pacer) :
    SameDivision pacer opened where
  samples := h.samples.symm
  ticks := h.ticks.symm
  interval := h.interval.symm
  compensation := h.compensation.symm

theorem sameDivision_advance (pacer : Pacer) (ticks : ℕ) :
    SameDivision pacer (pacer.advance ticks) :=
  ⟨rfl, rfl, rfl, rfl⟩

theorem sameDivision_quieted (pacer : Pacer) : SameDivision pacer pacer.quieted :=
  ⟨rfl, rfl, rfl, rfl⟩

theorem Tracks.advance (h : pacer.Tracks number) (ticks : ℕ) :
    (pacer.advance ticks).Tracks number :=
  ⟨h.index, h.left, h.next⟩

theorem Tracks.quieted (h : pacer.Tracks number) : pacer.quieted.Tracks number :=
  ⟨h.index, h.left, h.next⟩

/-- A period begins before its first sample. -/
theorem tracks_opened (pacer : Pacer) (reply? : Option SyncReply) :
    (pacer.opened reply?).Tracks 0 where
  index := rfl
  left _ := rfl
  next _ := by
    rw [position_zero]
    rfl

@[simp]
theorem samples_opened (pacer : Pacer) (reply? : Option SyncReply) :
    (pacer.opened reply?).samples = pacer.samples := by
  cases reply? <;> rfl

@[simp]
theorem matched_opened (pacer : Pacer) (reply? : Option SyncReply) :
    (pacer.opened reply?).timer.matched = pacer.timer.matched := by
  cases reply? <;> rfl

@[simp]
theorem counter_opened (pacer : Pacer) (reply? : Option SyncReply) :
    (pacer.opened reply?).timer.counter = pacer.timer.counter := by
  cases reply? <;> rfl

@[simp]
theorem compare_opened (pacer : Pacer) (reply? : Option SyncReply) :
    (pacer.opened reply?).timer.compare = pacer.timer.compare := by
  cases reply? <;> rfl

/-- Raising a sample arms the compare at most. -/
theorem timer_sample (pacer : Pacer) :
    ∃ compare, pacer.sample.timer = { pacer.timer with compare := compare } := by
  rw [sample]
  split
  · exact ⟨_, rfl⟩
  · exact ⟨pacer.timer.compare, rfl⟩

@[simp]
theorem matched_sample (pacer : Pacer) : pacer.sample.timer.matched = pacer.timer.matched := by
  obtain ⟨compare, htimer⟩ := pacer.timer_sample
  rw [htimer]

/-- No wrap is left when the timer is served. -/
theorem wrapped_serve (pacer : Pacer) (reply? : Option SyncReply) :
    (pacer.serve reply?).timer.wrapped = false := by
  rw [serve]
  split
  case isTrue =>
    obtain ⟨compare, htimer⟩ := (pacer.opened reply?).timer_sample
    rw [htimer]
    cases reply? <;> rfl
  case isFalse hlow =>
    split
    · obtain ⟨compare, htimer⟩ := pacer.quieted.timer_sample
      rw [htimer]
      rfl
    · exact Bool.eq_false_of_not_eq_true hlow

@[simp]
theorem nominal_sample (pacer : Pacer) : pacer.sample.nominal = pacer.nominal := by
  rw [sample]
  split <;> rfl

theorem sameDivision_sample (pacer : Pacer) : SameDivision pacer pacer.sample := by
  rw [sample]
  split <;> exact ⟨rfl, rfl, rfl, rfl⟩

/-- The sample that is raised is not the last one. -/
theorem Tracks.arms (h : pacer.Tracks number) (hnext : number + 1 < pacer.samples.toNat) :
    (pacer.index + 1).toNat = number + 1 ∧ pacer.index + 1 < pacer.samples := by
  have hsize := pacer.samples.toNat_lt
  have hindex : (pacer.index + 1).toNat = number + 1 := by
    rw [UInt32.toNat_add, h.index]
    exact Nat.mod_eq_of_lt (by simp; omega)
  exact ⟨hindex, UInt32.lt_iff_toNat_lt.mpr (hindex ▸ hnext)⟩

/-- The extra tick of the interval after a sample. -/
theorem Tracks.extra (h : pacer.Tracks number) (hcurrent : number < pacer.samples.toNat) :
    (if 0 < pacer.left then 1 else 0 : UInt32).toNat =
        (if number < pacer.compensation.toNat then 1 else 0) ∧
      (if 0 < pacer.left then 1 else 0 : UInt32) ≤ pacer.left := by
  have hleft := h.left hcurrent
  have hpos : 0 < pacer.left ↔ number < pacer.compensation.toNat := by
    rw [UInt32.lt_iff_toNat_lt, hleft, UInt32.toNat_zero]
    omega
  by_cases hextra : number < pacer.compensation.toNat
  · rw [if_pos (hpos.mpr hextra), if_pos hextra]
    exact ⟨rfl, UInt32.le_iff_toNat_le.mpr (by rw [hleft, UInt32.toNat_one]; omega)⟩
  · rw [if_neg (mt hpos.mp hextra), if_neg hextra]
    exact ⟨rfl, UInt32.le_iff_toNat_le.mpr (Nat.zero_le _)⟩

/-- As long as the period has a sample left the compare is armed for it. -/
theorem Tracks.sample_of_lt (h : pacer.Tracks number) (hnext : number + 1 < pacer.samples.toNat) :
    pacer.sample.Tracks (number + 1) ∧
      pacer.sample.timer =
        { pacer.timer with compare := some (pacer.position (number + 1) % UInt32.size) } := by
  have hcurrent : number < pacer.samples.toNat := Nat.lt_of_succ_lt hnext
  obtain ⟨hindex, harms⟩ := h.arms hnext
  obtain ⟨hextra, hle⟩ := h.extra hcurrent
  have hleft := h.left hcurrent
  have hcompare : pacer.nextCompare + (pacer.interval + if 0 < pacer.left then 1 else 0) =
      .ofNat (pacer.position (number + 1)) := by
    apply UInt32.toNat_inj.mp
    rw [h.next hcurrent, UInt32.toNat_add, UInt32.toNat_add, UInt32.toNat_ofNat',
      UInt32.toNat_ofNat', position_succ, hextra, Nat.mod_add_mod, Nat.add_mod_mod]
  have hdivision := pacer.sameDivision_sample
  have hsampled : pacer.sample =
      { pacer with
        timer := { pacer.timer with compare := some (pacer.position (number + 1) % UInt32.size) }
        left := pacer.left - if 0 < pacer.left then 1 else 0
        nextCompare := .ofNat (pacer.position (number + 1))
        index := pacer.index + 1 } := by
    rw [sample, if_pos harms]
    simp only [hcompare, UInt32.toNat_ofNat']
  refine ⟨⟨?_, fun _ => ?_, fun _ => ?_⟩, by rw [hsampled]⟩
  · rw [hsampled]
    exact hindex
  · rw [hdivision.compensation, hsampled, UInt32.toNat_sub_of_le _ _ hle, hleft, hextra]
    split <;> omega
  · rw [hdivision.position, hsampled]

/-- After its last sample the period arms nothing. -/
theorem Tracks.sample_of_le (h : pacer.Tracks number) (hlast : pacer.samples.toNat ≤ number + 1)
    (hsize : number + 1 < UInt32.size) :
    pacer.sample = { pacer with index := pacer.index + 1 } ∧ pacer.sample.Tracks (number + 1) := by
  have hindex : (pacer.index + 1).toNat = number + 1 := by
    rw [UInt32.toNat_add, h.index]
    exact Nat.mod_eq_of_lt hsize
  have hnone : ¬ pacer.index + 1 < pacer.samples := by
    rw [UInt32.lt_iff_toNat_lt, hindex]
    omega
  have hsampled : pacer.sample = { pacer with index := pacer.index + 1 } := by
    rw [sample, if_neg hnone]
  rw [hsampled]
  refine ⟨rfl, hindex, fun hmore => absurd hmore ?_, fun hmore => absurd hmore ?_⟩ <;>
    · dsimp only
      omega

end Pacer

end HarvestTestbed
