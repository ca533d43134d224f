import Mathlib
import HarvestTestbed.Proofs.TimerAdvance

/-!
# An advance counts ticks

An advance moves the timer in strides, each of which ends at the next wrap at the latest.  This file
proves that nobody can tell the strides from single ticks.  Advancing twice is advancing once by the
sum; the strides come to an end, and there are no more of them than wraps and one; and from a
counter below its period the counter is the number of ticks modulo the period.  The values that the
ticks reach lie between one and the period, so an armed value of zero is never matched, and one
equal to the period is matched by the tick that wraps.

A period that was shortened below the counter is no exception to the first two: the timer wraps with
its next tick, and is below its period from then on.
-/

namespace HarvestTestbed.SimulatedTimer

inductive Reachable : SimulatedTimer → Prop
  | new (period : UInt32) : Reachable (.new period)
  | advance {timer : SimulatedTimer} (ticks : UInt32) :
      Reachable timer → Reachable (timer.advance ticks.toNat)
  | setPeriod {timer : SimulatedTimer} (ticks : UInt32) :
      Reachable timer → Reachable (Timer.setPeriod timer ticks)
  | setSampleCompare {timer : SimulatedTimer} (ticks : UInt32) :
      Reachable timer → Reachable (Timer.setSampleCompare timer ticks)
  | takeWrap {timer : SimulatedTimer} : Reachable timer → Reachable (Timer.takeWrap timer).2
  | takeSampleMatch {timer : SimulatedTimer} :
      Reachable timer → Reachable (Timer.takeSampleMatch timer).2
  | setGpio {timer : SimulatedTimer} (levels : UInt32) :
      Reachable timer → Reachable (timer.setGpio levels)

/-- The strides of an advance: as long as ticks are left, one stride towards the next wrap. -/
inductive Loops : SimulatedTimer → ℕ → ℕ → SimulatedTimer → Prop
  | done (timer : SimulatedTimer) : Loops timer 0 0 timer
  | stride {timer final : SimulatedTimer} {ticks strides : ℕ} (hleft : 0 < ticks)
      (hrest : Loops (timer.stride (min ticks timer.ticksToWrap))
        (ticks - min ticks timer.ticksToWrap) strides final) :
      Loops timer ticks (strides + 1) final

variable {timer : SimulatedTimer} {ticks : ℕ}

/-! ## Values fit a word -/

/-- An advance leaves the counter below the period, or where it was. -/
theorem counter_advance_le (timer : SimulatedTimer) (ticks : ℕ) :
    (timer.advance ticks).counter ≤ max timer.counter (timer.period - 1) := by
  induction ticks using Nat.strong_induction_on generalizing timer with
  | h ticks ih =>
    obtain hshort | hwraps := Nat.lt_or_ge ticks timer.ticksToWrap
    · rw [advance_of_lt hshort]
      rw [ticksToWrap] at hshort
      simp only
      omega
    · have hpos := timer.one_le_ticksToWrap
      have hrest := ih (ticks - timer.ticksToWrap) (by omega) timer.afterWrap
      rw [advance_of_le hwraps]
      refine hrest.trans ?_
      rw [afterWrap_eq]
      simp only [period_latchMatch]
      omega

/-- The bounds of the words of a timer.  The counter is below a period that was once set. -/
structure InWords (timer : SimulatedTimer) : Prop where
  counter : timer.counter + 1 < UInt32.size
  period : timer.period < UInt32.size

theorem Reachable.inWords (h : timer.Reachable) : timer.InWords := by
  have hzero : 0 + 1 < UInt32.size := by decide
  induction h with
  | new period => exact ⟨hzero, max_lt period.toNat_lt hzero⟩
  | @advance timer ticks _ ih =>
    obtain ⟨hcounter, hperiod⟩ := ih
    have hle := timer.counter_advance_le ticks.toNat
    exact ⟨by omega, by rwa [period_advance]⟩
  | setPeriod ticks _ ih => exact ⟨ih.counter, max_lt ticks.toNat_lt hzero⟩
  | setSampleCompare _ _ ih | takeWrap _ ih | takeSampleMatch _ ih | setGpio _ _ ih =>
    exact ⟨ih.counter, ih.period⟩

/-- No stride counts beyond a word. -/
theorem InWords.stride_lt (h : timer.InWords) (ticks : ℕ) :
    timer.counter + min ticks timer.ticksToWrap < UInt32.size := by
  obtain ⟨hcounter, hperiod⟩ := h
  rw [ticksToWrap]
  omega

/-! ## The strides end -/

theorem advance_of_pos (hpos : 0 < ticks) :
    timer.advance ticks = (timer.stride (min ticks timer.ticksToWrap)).advance
      (ticks - min ticks timer.ticksToWrap) := by
  rw [advance, if_neg hpos.ne']

theorem exists_loops (timer : SimulatedTimer) (ticks : ℕ) :
    ∃ strides ≤ timer.wraps ticks + 1, timer.Loops ticks strides (timer.advance ticks) := by
  induction ticks using Nat.strong_induction_on generalizing timer with
  | h ticks ih =>
    obtain rfl | hpos := Nat.eq_zero_or_pos ticks
    · rw [advance_zero]
      exact ⟨0, Nat.zero_le _, .done timer⟩
    obtain hshort | hwraps := Nat.lt_or_ge ticks timer.ticksToWrap
    · refine ⟨1, Nat.le_add_left _ _, .stride hpos ?_⟩
      rw [advance_of_pos hpos, Nat.min_eq_left hshort.le, Nat.sub_self, advance_zero]
      exact .done _
    · have hstep := timer.one_le_ticksToWrap
      obtain ⟨strides, hle, hloops⟩ :=
        ih (ticks - timer.ticksToWrap) (by omega) timer.afterWrap
      refine ⟨strides + 1, ?_, .stride hpos ?_⟩
      · rw [wraps, if_neg hwraps.not_gt]
        exact Nat.succ_le_succ hle
      · rw [Nat.min_eq_right hwraps, advance_of_le hwraps]
        exact hloops

/-! ## Ticks below the period -/

/-- A tick counts, wraps at the end of the period and looks at the value it reaches. -/
theorem advance_one (hbelow : timer.counter < timer.period) :
    timer.advance 1 =
      { timer.latchMatch 1 with
        counter := (timer.counter + 1) % timer.period
        wrapped := timer.wrapped || decide (timer.counter + 1 = timer.period) } := by
  obtain hinside | hlast := Nat.lt_or_eq_of_le (show timer.counter + 1 ≤ timer.period from hbelow)
  · have hshort : 1 < timer.ticksToWrap := by
      rw [ticksToWrap]
      omega
    rw [advance_of_lt hshort, Nat.mod_eq_of_lt hinside, decide_eq_false hinside.ne, Bool.or_false,
      ← timer.wrapped_latchMatch 1]
  · have hwraps : timer.ticksToWrap = 1 := by
      rw [ticksToWrap]
      omega
    rw [advance_one_of_last hwraps, afterWrap_eq, hwraps, hlast, Nat.mod_self,
      decide_eq_true rfl, Bool.or_true]

theorem counter_advance (hbelow : timer.counter < timer.period) (ticks : ℕ) :
    (timer.advance ticks).counter = (timer.counter + ticks) % timer.period := by
  have hpos : 0 < timer.period := (Nat.zero_le _).trans_lt hbelow
  induction ticks with
  | zero => rw [advance_zero, Nat.add_zero, Nat.mod_eq_of_lt hbelow]
  | succ ticks ih =>
    have hstill : (timer.advance ticks).counter < (timer.advance ticks).period := by
      rw [ih, period_advance]
      exact Nat.mod_lt _ hpos
    rw [advance_add, advance_one hstill, ih, period_advance, Nat.mod_add_mod, Nat.add_assoc]

theorem wraps_eq (hbelow : timer.counter < timer.period) (ticks : ℕ) :
    timer.wraps ticks = (timer.counter + ticks) / timer.period := by
  induction ticks using Nat.strong_induction_on generalizing timer with
  | h ticks ih =>
    have hdistance : timer.ticksToWrap = timer.period - timer.counter := by
      rw [ticksToWrap]
      omega
    rw [wraps]
    split
    case isTrue hshort => rw [Nat.div_eq_of_lt (by omega)]
    case isFalse hwraps =>
      have hperiod : timer.afterWrap.period = timer.period := by
        rw [afterWrap_eq]
        exact timer.period_latchMatch _
      have hcounter : timer.afterWrap.counter = 0 := by rw [afterWrap_eq]
      have hrest : timer.counter + ticks = ticks - timer.ticksToWrap + timer.period := by omega
      rw [ih _ (by omega) (by omega), hcounter, hperiod, hrest, Nat.zero_add,
        Nat.add_div_right _ (by omega)]

/-- One of the ticks reaches the armed value. -/
def Hits (timer : SimulatedTimer) (ticks : ℕ) : Prop :=
  ∃ passed < ticks, timer.compare = some ((timer.counter + passed) % timer.period + 1)

theorem latches_advance_one (hbelow : timer.counter < timer.period) :
    (timer.compare = some (timer.counter + 1) ∧ (timer.advance 1).matched = true ∧
        (timer.advance 1).compare = none) ∨
      timer.compare ≠ some (timer.counter + 1) ∧ (timer.advance 1).matched = timer.matched ∧
        (timer.advance 1).compare = timer.compare := by
  rw [advance_one hbelow]
  obtain ⟨value, harmed, hahead, hreached, hlatch⟩ | ⟨hmiss, hlatch⟩ := timer.latchMatch_cases 1
  · obtain rfl : value = timer.counter + 1 := by omega
    exact .inl ⟨harmed, by rw [hlatch], by rw [hlatch]⟩
  · refine .inr ⟨fun harmed => ?_, by rw [hlatch], by rw [hlatch]⟩
    exact absurd (hmiss _ harmed (Nat.lt_succ_self _)) (lt_irrefl _)

/-- An advance latches a match, and disarms, if one of its ticks reaches the armed value. -/
theorem latches_advance (hbelow : timer.counter < timer.period) (ticks : ℕ) :
    (timer.Hits ticks ∧ (timer.advance ticks).matched = true ∧
        (timer.advance ticks).compare = none) ∨
      ¬ timer.Hits ticks ∧ (timer.advance ticks).matched = timer.matched ∧
        (timer.advance ticks).compare = timer.compare := by
  induction ticks with
  | zero =>
    rw [advance_zero]
    exact .inr ⟨fun ⟨_, hnone, _⟩ => absurd hnone (Nat.not_lt_zero _), rfl, rfl⟩
  | succ ticks ih =>
    have hcounter := counter_advance hbelow ticks
    have hstill : (timer.advance ticks).counter < (timer.advance ticks).period := by
      rw [hcounter, period_advance]
      exact Nat.mod_lt _ ((Nat.zero_le _).trans_lt hbelow)
    rw [advance_add]
    obtain ⟨⟨passed, hearlier, hreached⟩, hmatched, hdisarmed⟩ | ⟨hmiss, hmatched, hcompare⟩ := ih
    · obtain ⟨hnone, hkept⟩ := compare_advance hdisarmed 1
      exact .inl ⟨⟨passed, hearlier.trans (Nat.lt_succ_self _), hreached⟩,
        hkept.trans hmatched, hnone⟩
    · obtain ⟨harmed, hlatched⟩ | ⟨harmed, hkept, hnone⟩ := latches_advance_one hstill
      · rw [hcompare, hcounter] at harmed
        exact .inl ⟨⟨ticks, Nat.lt_succ_self _, harmed⟩, hlatched⟩
      · rw [hcompare, hcounter] at harmed
        refine .inr ⟨?_, hkept.trans hmatched, hnone.trans hcompare⟩
        rintro ⟨passed, hpassed, hreached⟩
        obtain hearlier | rfl := Nat.lt_succ_iff_lt_or_eq.mp hpassed
        · exact hmiss ⟨passed, hearlier, hreached⟩
        · exact harmed hreached

/-! ## Main result -/

/-- What an advance does to a timer whose counter is below its period. -/
structure Counts (timer : SimulatedTimer) (ticks : ℕ) : Prop where
  counter : (timer.advance ticks).counter = (timer.counter + ticks) % timer.period
  wraps : timer.wraps ticks = (timer.counter + ticks) / timer.period
  /-- A wrap is latched if the period ends on the way. -/
  wrapped : (timer.advance ticks).wrapped = true ↔
    timer.wrapped = true ∨ timer.period ≤ timer.counter + ticks
  /-- A match is latched if a tick reaches the armed value, counted from one to the period. -/
  matched : (timer.advance ticks).matched = true ↔ timer.matched = true ∨ timer.Hits ticks
  /-- A match disarms the timer. -/
  compare : ∀ value, (timer.advance ticks).compare = some value ↔
    timer.compare = some value ∧ ¬ timer.Hits ticks
  period : (timer.advance ticks).period = timer.period

theorem counts_of_lt (hbelow : timer.counter < timer.period) (ticks : ℕ) : timer.Counts ticks where
  counter := counter_advance hbelow ticks
  wraps := wraps_eq hbelow ticks
  wrapped := by
    have hdistance : timer.ticksToWrap ≤ ticks ↔ timer.period ≤ timer.counter + ticks := by
      rw [ticksToWrap]
      omega
    rw [wrapped_advance, Bool.or_eq_true, decide_eq_true_iff, hdistance]
  matched := by
    obtain ⟨hhit, hmatched, -⟩ | ⟨hmiss, hmatched, -⟩ := latches_advance hbelow ticks
    · exact iff_of_true hmatched (.inr hhit)
    · rw [hmatched, or_iff_left hmiss]
  compare value := by
    obtain ⟨hhit, -, hcompare⟩ | ⟨hmiss, -, hcompare⟩ := latches_advance hbelow ticks
    · rw [hcompare]
      exact iff_of_false (Option.some_ne_none value).symm fun hstill => hstill.2 hhit
    · rw [hcompare, and_iff_left hmiss]
  period := timer.period_advance ticks

/-- Two advances of a reachable timer are one, and neither counts beyond a word; the strides of an
advance end from every state; and from a counter below the period they count modulo the period. -/
theorem advance_counts :
    (∀ timer : SimulatedTimer, timer.Reachable →
        (∀ ticks more : UInt32, ticks.toNat + more.toNat < UInt32.size →
          (timer.advance ticks.toNat).advance more.toNat =
            timer.advance (ticks + more).toNat) ∧
          ∀ ticks, timer.counter + min ticks timer.ticksToWrap < UInt32.size) ∧
      (∀ (timer : SimulatedTimer) (ticks : ℕ),
        ∃ strides ≤ timer.wraps ticks + 1, timer.Loops ticks strides (timer.advance ticks)) ∧
      ∀ (timer : SimulatedTimer) (ticks : ℕ), timer.counter < timer.period →
        timer.Counts ticks := by
  refine ⟨fun timer hreachable => ⟨fun ticks more hfits => ?_, hreachable.inWords.stride_lt⟩,
    exists_loops, fun timer ticks hbelow => counts_of_lt hbelow ticks⟩
  rw [UInt32.toNat_add, Nat.mod_eq_of_lt hfits, advance_add]

/-- The period is shortened below the counter.  The timer wraps with its next tick, and sixty ticks
later it has wrapped once more and matched the last value of its new period. -/
theorem advance_counts_shortened :
    let timer : SimulatedTimer :=
      Timer.setSampleCompare (Timer.setPeriod ((new 100).advance 80) 50) 50
    timer.Reachable ∧ timer.period ≤ timer.counter ∧
      (timer.advance 1).advance 60 = timer.advance 61 ∧
      (∃ strides ≤ timer.wraps 61 + 1, timer.Loops 61 strides (timer.advance 61)) ∧
      (timer.advance 1).counter < (timer.advance 1).period ∧ (timer.advance 1).Counts 60 ∧
      (timer.advance 61).counter = 10 ∧ (timer.advance 61).matched = true := by
  intro timer
  have hreachable : timer.Reachable :=
    .setSampleCompare 50 (.setPeriod 50 (.advance 80 (.new 100)))
  have hbelow : (timer.advance 1).counter < (timer.advance 1).period := by decide +kernel
  obtain ⟨hreaches, hends, hcounts⟩ := advance_counts
  exact ⟨hreachable, by decide +kernel, (hreaches timer hreachable).1 1 60 (by decide),
    hends timer 61, hbelow, hcounts _ 60 hbelow, by decide +kernel, by decide +kernel⟩

end HarvestTestbed.SimulatedTimer
