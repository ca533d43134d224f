import Mathlib.Data.Nat.Find
import Mathlib.Order.Bounds.Basic
import HarvestTestbed.Proofs.FixedPoint
import HarvestTestbed.Sync.Alignment

/-!
# One wait for a boundary

The clock and the deadlines are words that wrap, so a wait is only looked at where none of its sums
leaves the words: the first reading, the boundary after it, the deadline after the one waited for, and
the readings of the spin (`TriggerAligner.WaitFits`).  Then a clock that moves reaches every deadline
(`SteppingClock.exists_reaches`), and the first reading at the deadline or after it is late by less
than a step, unless the clock was past the deadline from the start.
-/

namespace HarvestTestbed

/-- A sum that fits is not wrapped. -/
theorem toNat_add_of_lt {left right : UInt64} (h : left.toNat + right.toNat < UInt64.size) :
    (left + right).toNat = left.toNat + right.toNat :=
  (UInt64.toNat_add _ _).trans (Nat.mod_eq_of_lt h)

/-! ## Spins that reach their deadline -/

namespace SteppingClock

variable {clock : SteppingClock} {deadline : UInt64} {count more : ℕ}

/-- So many readings do not move the clock past the largest word. -/
def Fits (clock : SteppingClock) (count : ℕ) : Prop :=
  clock.now.toNat + count * clock.step.toNat < UInt64.size

theorem Fits.mono (h : clock.Fits more) (hcount : count ≤ more) : clock.Fits count := by
  have hmul := Nat.mul_le_mul_right clock.step.toNat hcount
  rw [Fits] at h ⊢
  omega

theorem toNat_reading (h : clock.Fits count) :
    (clock.reading count).toNat = clock.now.toNat + count * clock.step.toNat := by
  rw [Fits] at h
  rw [reading, UInt64.toNat_add, UInt64.toNat_mul, UInt64.toNat_ofNat', Nat.mod_mul_mod,
    Nat.add_mod_mod, Nat.mod_eq_of_lt h]

def lastReading (clock : SteppingClock) : UInt64 :=
  clock.now - clock.step

/-- No reading of a spin moves the clock past the largest word: each follows readings that have not
reached the deadline. -/
def SpinFits (clock : SteppingClock) (deadline : UInt64) : Prop :=
  ∀ count, (∀ earlier < count,
    clock.now.toNat + earlier * clock.step.toNat < deadline.toNat) → clock.Fits (count + 1)

/-- Two steps of room behind the deadline are enough for a spin. -/
theorem spinFits_of_lt (hnow : clock.Fits 1)
    (hdeadline : deadline.toNat + 2 * clock.step.toNat ≤ UInt64.size) :
    clock.SpinFits deadline := by
  intro count hbefore
  cases count with
  | zero => exact hnow
  | succ count =>
      have hlast := hbefore count count.lt_succ_self
      rw [Fits, Nat.add_mul, Nat.add_mul]
      omega

/-- What a spin has done when it ends: it has reached the deadline, at once or within a step. -/
structure Reaches (clock : SteppingClock) (deadline time : UInt64) (after : SteppingClock) :
    Prop where
  spin : clock.spinUntil deadline = (some time, after)
  step_eq : after.step = clock.step
  reached : deadline.toNat ≤ time.toNat
  moved : after.now.toNat = time.toNat + clock.step.toNat
  now_le : clock.now.toNat ≤ time.toNat
  soon : time = clock.now ∨ time.toNat < deadline.toNat + clock.step.toNat

/-- A spin ends at a reading that has reached the deadline, if there is one that does not wrap. -/
theorem exists_reaches_of_reading {last : ℕ} (hlast : deadline ≤ clock.reading last)
    (hfits : clock.Fits (last + 1)) : ∃ time after, clock.Reaches deadline time after := by
  cases hspin : (clock.spinUntil deadline).1 with
  | none =>
      have hnever := (spinUntil_eq_none_iff clock deadline).mp hspin last
      exact absurd hlast (UInt64.not_le.mpr hnever)
  | some time =>
      obtain ⟨hafter, count, rfl, hle, hbefore⟩ := spinUntil_eq_some hspin
      have hcount : count ≤ last := by
        by_contra hlater
        exact absurd hlast (UInt64.not_le.mpr (hbefore last (Nat.not_le.mp hlater)))
      have hnext : clock.Fits (count + 1) := hfits.mono (Nat.succ_le_succ hcount)
      have htime := toNat_reading (hnext.mono (Nat.le_succ count))
      use clock.reading count, { clock with now := clock.reading count + clock.step }
      constructor
      case spin => exact Prod.ext hspin hafter
      case step_eq => rfl
      case reached => exact UInt64.le_iff_toNat_le.mp hle
      case moved =>
        rw [Fits, Nat.add_mul, Nat.one_mul, ← Nat.add_assoc, ← htime] at hnext
        exact toNat_add_of_lt hnext
      case now_le => omega
      case soon =>
        cases count with
        | zero => exact .inl (reading_zero clock)
        | succ count =>
            right
            have hearlier := UInt64.lt_iff_toNat_lt.mp (hbefore count count.lt_succ_self)
            rw [toNat_reading (hnext.mono (by omega))] at hearlier
            rw [htime, Nat.add_mul]
            omega

/-- A clock that moves reaches every deadline, as long as the readings of the spin do not wrap. -/
theorem exists_reaches (hstep : 0 < clock.step.toNat) (hfits : clock.SpinFits deadline) :
    ∃ time after, clock.Reaches deadline time after := by
  have hreached : ∃ count, deadline.toNat ≤ clock.now.toNat + count * clock.step.toNat := by
    use deadline.toNat
    have hmul := Nat.le_mul_of_pos_right deadline.toNat hstep
    omega
  have hall : clock.Fits (Nat.find hreached + 1) :=
    hfits _ fun _ hbefore => Nat.not_le.mp (Nat.find_min hreached hbefore)
  apply exists_reaches_of_reading _ hall
  rw [UInt64.le_iff_toNat_le, toNat_reading (hall.mono (Nat.le_succ _))]
  exact Nat.find_spec hreached

theorem toNat_now_read (h : clock.Fits 1) :
    clock.read.2.now.toNat = clock.now.toNat + clock.step.toNat := by
  rw [Fits, Nat.one_mul] at h
  exact toNat_add_of_lt h

theorem toNat_now_sleepUntil (clock : SteppingClock) (deadline : UInt64) :
    (clock.sleepUntil deadline).now.toNat = max clock.now.toNat deadline.toNat := by
  change (if clock.now ≤ deadline then deadline else clock.now).toNat = _
  split_ifs with hle
  · exact (max_eq_right (UInt64.le_iff_toNat_le.mp hle)).symm
  · rw [UInt64.le_iff_toNat_le, not_le] at hle
    exact (max_eq_left hle.le).symm

end SteppingClock

/-! ## One wait -/

namespace TriggerAligner

variable {aligner : TriggerAligner} {clock : SteppingClock}

/-- The first multiple of the period after a time. -/
def boundaryAfter (period time : ℕ) : ℕ :=
  (time / period + 1) * period

theorem lt_boundaryAfter {period : ℕ} (hperiod : 0 < period) (time : ℕ) :
    time < boundaryAfter period time := by
  rw [boundaryAfter, mul_comm]
  exact Nat.lt_mul_div_succ time hperiod

theorem isLeast_boundaryAfter {period : ℕ} (hperiod : 0 < period) (time : ℕ) :
    IsLeast {boundary | period ∣ boundary ∧ time < boundary} (boundaryAfter period time) := by
  constructor
  · exact ⟨Nat.dvd_mul_left _ _, lt_boundaryAfter hperiod time⟩
  · rintro _ ⟨⟨count, rfl⟩, hafter⟩
    rw [boundaryAfter, mul_comm period]
    apply Nat.mul_le_mul_right
    exact (Nat.div_lt_iff_lt_mul hperiod).mpr (mul_comm period count ▸ hafter)

theorem toNat_nextBoundary (hperiod : 0 < aligner.period.toNat) {now : UInt64}
    (hfits : boundaryAfter aligner.period.toNat now.toNat < UInt64.size) :
    (aligner.nextBoundary now).toNat = boundaryAfter aligner.period.toNat now.toNat := by
  have hquotient : now.toNat / aligner.period.toNat + 1 < UInt64.size :=
    (Nat.le_mul_of_pos_right _ hperiod).trans_lt hfits
  rw [nextBoundary, UInt64.toNat_mul, UInt64.toNat_add, UInt64.toNat_div, UInt64.toNat_one,
    Nat.mod_eq_of_lt hquotient]
  exact Nat.mod_eq_of_lt hfits

/-- The boundary that a wait waits for. -/
def due (aligner : TriggerAligner) (now : UInt64) : UInt64 :=
  aligner.deadline.getD (aligner.nextBoundary now)

/-- The boundary was missed by more than a period. -/
def Missed (aligner : TriggerAligner) (now : UInt64) : Prop :=
  (aligner.due now).toNat + aligner.period.toNat < now.toNat

/-- No sum of a wait leaves the words: the first reading, the boundary after it where that is needed,
the deadline after the one waited for, and the readings of the spin. -/
structure WaitFits (aligner : TriggerAligner) (clock : SteppingClock) : Prop where
  first : clock.Fits 1
  boundary : aligner.deadline = none ∨ aligner.Missed clock.now →
    boundaryAfter aligner.period.toNat clock.now.toNat < UInt64.size
  next : ¬ aligner.Missed clock.now →
    (aligner.due clock.now).toNat + aligner.period.toNat < UInt64.size
  spin : ¬ aligner.Missed clock.now →
    (aligner.sleepBefore clock.read.2 clock.now (aligner.due clock.now)).SpinFits
      (aligner.due clock.now)

/-- The comparison is with the sum pinned at the largest word, which no reading is after. -/
theorem missed_iff (aligner : TriggerAligner) (now : UInt64) :
    Saturating.add64 (aligner.due now) aligner.period < now ↔ aligner.Missed now := by
  have hnow : now.toNat < UInt64.size := now.toNat_lt
  rw [Missed, UInt64.lt_iff_toNat_lt, Saturating.toNat_add64]
  omega

/-- A wait is decided by the boundary that is due. -/
theorem wait_eq (aligner : TriggerAligner) (clock : SteppingClock) :
    aligner.wait clock =
      if Saturating.add64 (aligner.due clock.now) aligner.period < clock.now then
        (.resynced (aligner.nextBoundary clock.now)
            ((clock.now - aligner.due clock.now) / aligner.period),
          { aligner with deadline := some (aligner.nextBoundary clock.now) }, clock.read.2)
      else
        match (aligner.sleepBefore clock.read.2 clock.now (aligner.due clock.now)).spinUntil
            (aligner.due clock.now) with
        | (some time, after) =>
            (.aligned (aligner.due clock.now) (time - aligner.due clock.now),
              { aligner with deadline := some (aligner.due clock.now + aligner.period) }, after)
        | (none, after) => (.stalled, aligner, after) :=
  rfl

theorem wait_of_missed (hmissed : aligner.Missed clock.now) :
    aligner.wait clock =
      (.resynced (aligner.nextBoundary clock.now)
          ((clock.now - aligner.due clock.now) / aligner.period),
        { aligner with deadline := some (aligner.nextBoundary clock.now) }, clock.read.2) := by
  rw [wait_eq, if_pos ((missed_iff _ _).mpr hmissed)]

theorem wait_of_reaches {time : UInt64} {after : SteppingClock}
    (hmissed : ¬ aligner.Missed clock.now)
    (hreaches : (aligner.sleepBefore clock.read.2 clock.now (aligner.due clock.now)).Reaches
      (aligner.due clock.now) time after) :
    aligner.wait clock =
      (.aligned (aligner.due clock.now) (time - aligner.due clock.now),
        { aligner with deadline := some (aligner.due clock.now + aligner.period) }, after) := by
  rw [wait_eq, if_neg (mt (missed_iff _ _).mp hmissed), hreaches.spin]

/-- A sleep does not move the clock back, and never past the boundary. -/
theorem now_sleepBefore (aligner : TriggerAligner) (clock : SteppingClock) (now deadline : UInt64) :
    (aligner.sleepBefore clock now deadline).step = clock.step ∧
      clock.now.toNat ≤ (aligner.sleepBefore clock now deadline).now.toNat ∧
      ((aligner.sleepBefore clock now deadline).now = clock.now ∨
        (aligner.sleepBefore clock now deadline).now.toNat ≤ deadline.toNat) := by
  rw [sleepBefore]
  split_ifs with hearly
  · have hwindow : aligner.spinWindow ≤ deadline := by
      have hdeadline : deadline.toNat < UInt64.size := deadline.toNat_lt
      rw [UInt64.lt_iff_toNat_lt, Saturating.toNat_add64] at hearly
      rw [UInt64.le_iff_toNat_le]
      omega
    have hsleep := clock.toNat_now_sleepUntil (deadline - aligner.spinWindow)
    rw [UInt64.toNat_sub_of_le _ _ hwindow] at hsleep
    refine ⟨rfl, by omega, ?_⟩
    obtain hle | hgt := le_or_gt (deadline.toNat - aligner.spinWindow.toNat) clock.now.toNat
    · left
      apply UInt64.toNat_inj.mp
      omega
    · right
      omega
  · exact ⟨rfl, le_rfl, .inl rfl⟩

theorem boundaryAfter_le (period time : ℕ) : boundaryAfter period time ≤ time + period := by
  rw [boundaryAfter, Nat.add_mul, Nat.one_mul]
  exact Nat.add_le_add_right (Nat.div_mul_le_self _ _) _

/-- Two periods and two steps of room are enough for a wait. -/
theorem waitFits_of_le {limit : ℕ} (hperiod : 0 < aligner.period.toNat)
    (hnow : clock.now.toNat ≤ limit) (hdeadline : (aligner.deadline.getD 0).toNat ≤ limit)
    (hlimit : limit + 2 * aligner.period.toNat + 2 * clock.step.toNat < UInt64.size) :
    aligner.WaitFits clock := by
  have hboundary := boundaryAfter_le aligner.period.toNat clock.now.toNat
  have hfirst : clock.Fits 1 := by
    rw [SteppingClock.Fits]
    omega
  have hdue : (aligner.due clock.now).toNat ≤ limit + aligner.period.toNat := by
    rw [due]
    cases hscheduled : aligner.deadline with
    | none =>
        rw [Option.getD_none, toNat_nextBoundary hperiod (by omega)]
        omega
    | some deadline =>
        rw [hscheduled] at hdeadline
        exact hdeadline.trans (Nat.le_add_right _ _)
  constructor
  case first => exact hfirst
  case boundary => exact fun _ => by omega
  case next => exact fun _ => by omega
  case spin =>
    intro _
    obtain ⟨hstep, -, hpast⟩ :=
      aligner.now_sleepBefore clock.read.2 clock.now (aligner.due clock.now)
    have hread := SteppingClock.toNat_now_read hfirst
    have hstep' : clock.read.2.step = clock.step := rfl
    apply SteppingClock.spinFits_of_lt
    · rw [SteppingClock.Fits, hstep, hstep']
      obtain heq | hle := hpast
      · rw [heq]
        omega
      · omega
    · rw [hstep, hstep']
      omega

/-- How a wait comes out that reaches its boundary. -/
structure Reaches (aligner : TriggerAligner) (clock : SteppingClock) (late : UInt64)
    (after : SteppingClock) : Prop where
  wait_eq : aligner.wait clock =
    (.aligned (aligner.due clock.now) late,
      { aligner with deadline := some (aligner.due clock.now + aligner.period) }, after)
  step_eq : after.step = clock.step
  moved : after.now.toNat = (aligner.due clock.now).toNat + late.toNat + clock.step.toNat
  passed : clock.now.toNat < after.now.toNat
  soon : clock.now.toNat < (aligner.due clock.now).toNat → late.toNat < clock.step.toNat

theorem reaches_of_spin {time : UInt64} {after : SteppingClock} (hmoves : 0 < clock.step.toNat)
    (hfits : aligner.WaitFits clock) (hmissed : ¬ aligner.Missed clock.now)
    (hspin : (aligner.sleepBefore clock.read.2 clock.now (aligner.due clock.now)).Reaches
      (aligner.due clock.now) time after) :
    aligner.Reaches clock (time - aligner.due clock.now) after := by
  have hwait := wait_of_reaches hmissed hspin
  have hread := SteppingClock.toNat_now_read hfits.first
  have hsame : clock.read.2.step = clock.step := rfl
  obtain ⟨hstep, hback, hpast⟩ :=
    aligner.now_sleepBefore clock.read.2 clock.now (aligner.due clock.now)
  generalize aligner.sleepBefore clock.read.2 clock.now (aligner.due clock.now) = slept at *
  rw [hsame] at hstep
  have hlate : (time - aligner.due clock.now).toNat =
      time.toNat - (aligner.due clock.now).toNat :=
    UInt64.toNat_sub_of_le _ _ (UInt64.le_iff_toNat_le.mpr hspin.reached)
  have hmoved := hspin.moved
  have hreached := hspin.reached
  have hnow := hspin.now_le
  rw [hstep] at hmoved
  constructor
  case wait_eq => exact hwait
  case step_eq => rw [hspin.step_eq, hstep]
  case moved => omega
  case passed => omega
  case soon =>
    intro hearly
    -- Neither the first reading nor the sleep has moved the clock a step past the boundary.
    have hslept : slept.now.toNat < (aligner.due clock.now).toNat + clock.step.toNat := by
      obtain heq | hle := hpast
      · rw [heq]
        omega
      · omega
    obtain heq | hlt := hspin.soon
    · have htime : time.toNat = slept.now.toNat := congrArg UInt64.toNat heq
      omega
    · rw [hstep] at hlt
      omega

/-- A wait that has not missed its boundary reaches it. -/
theorem exists_reaches (hmoves : 0 < clock.step.toNat) (hfits : aligner.WaitFits clock)
    (hmissed : ¬ aligner.Missed clock.now) : ∃ late after, aligner.Reaches clock late after := by
  have hslept := (aligner.now_sleepBefore clock.read.2 clock.now (aligner.due clock.now)).1
  obtain ⟨time, after, hspin⟩ :=
    SteppingClock.exists_reaches (hslept.symm ▸ hmoves) (hfits.spin hmissed)
  exact ⟨_, _, reaches_of_spin hmoves hfits hmissed hspin⟩

end TriggerAligner

end HarvestTestbed
