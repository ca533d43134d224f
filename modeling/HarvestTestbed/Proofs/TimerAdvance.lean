import Mathlib
import HarvestTestbed.Simulation.Timer

/-!
# How the simulated timer moves

Short of the next wrap an advance only adds to the counter and latches the match on its way.  From
there on it is an advance of a timer that has just wrapped.
-/

namespace HarvestTestbed.SimulatedTimer

theorem one_le_ticksToWrap (timer : SimulatedTimer) : 1 ≤ timer.ticksToWrap :=
  Nat.le_max_right _ _

/-- A timer that is short of its wrap has a counter below its period. -/
theorem add_lt_period {timer : SimulatedTimer} {ticks : ℕ} (hpos : 0 < ticks)
    (hshort : ticks < timer.ticksToWrap) : timer.counter + ticks < timer.period := by
  rw [ticksToWrap] at hshort
  omega

theorem period_le_add (timer : SimulatedTimer) :
    timer.period ≤ timer.counter + timer.ticksToWrap := by
  rw [ticksToWrap]
  omega

/-! ## Latching a match -/

@[simp]
theorem period_latchMatch (timer : SimulatedTimer) (ticks : ℕ) :
    (timer.latchMatch ticks).period = timer.period := by
  rw [latchMatch]
  split
  · split <;> rfl
  · rfl

@[simp]
theorem wrapped_latchMatch (timer : SimulatedTimer) (ticks : ℕ) :
    (timer.latchMatch ticks).wrapped = timer.wrapped := by
  rw [latchMatch]
  split
  · split <;> rfl
  · rfl

theorem latchMatch_zero (timer : SimulatedTimer) : timer.latchMatch 0 = timer := by
  rw [latchMatch]
  split
  · rw [if_neg]
    omega
  · rfl

/-! ## Short advances -/

/-- An armed value that is passed on the way is latched. -/
theorem latchMatch_of_hit {timer : SimulatedTimer} {value ticks : ℕ}
    (harmed : timer.compare = some value) (hahead : timer.counter < value)
    (hreached : value ≤ timer.counter + ticks) :
    timer.latchMatch ticks = { timer with matched := true, compare := none } := by
  rw [latchMatch, harmed]
  exact if_pos ⟨hahead, hreached⟩

/-- Otherwise nothing is latched. -/
theorem latchMatch_of_miss {timer : SimulatedTimer} {ticks : ℕ}
    (hmiss : ∀ value, timer.compare = some value → timer.counter < value →
      timer.counter + ticks < value) : timer.latchMatch ticks = timer := by
  rw [latchMatch]
  split
  · rename_i value harmed
    refine if_neg fun hpassed => ?_
    exact absurd (hmiss value harmed hpassed.1) hpassed.2.not_gt
  · rfl

theorem latchMatch_cases (timer : SimulatedTimer) (ticks : ℕ) :
    (∃ value, timer.compare = some value ∧ timer.counter < value ∧
        value ≤ timer.counter + ticks ∧
        timer.latchMatch ticks = { timer with matched := true, compare := none }) ∨
      (∀ value, timer.compare = some value → timer.counter < value →
        timer.counter + ticks < value) ∧ timer.latchMatch ticks = timer := by
  by_cases hhit : ∃ value, timer.compare = some value ∧ timer.counter < value ∧
      value ≤ timer.counter + ticks
  · obtain ⟨value, harmed, hahead, hreached⟩ := hhit
    exact .inl ⟨value, harmed, hahead, hreached, latchMatch_of_hit harmed hahead hreached⟩
  · have hmiss : ∀ value, timer.compare = some value → timer.counter < value →
        timer.counter + ticks < value := by
      intro value harmed hahead
      by_contra hreached
      exact hhit ⟨value, harmed, hahead, Nat.le_of_not_lt hreached⟩
    exact .inr ⟨hmiss, latchMatch_of_miss hmiss⟩

/-- Counting on in two strides latches what one stride does. -/
theorem latchMatch_add (timer : SimulatedTimer) (ticks more : ℕ) :
    ({ timer.latchMatch ticks with counter := timer.counter + ticks }).latchMatch more =
      { timer.latchMatch (ticks + more) with counter := timer.counter + ticks } := by
  obtain ⟨value, harmed, hahead, hreached, hlatch⟩ | ⟨hmiss, hlatch⟩ :=
    timer.latchMatch_cases ticks
  · have hfurther : value ≤ timer.counter + (ticks + more) := by omega
    rw [hlatch, latchMatch_of_hit harmed hahead hfurther]
    exact latchMatch_of_miss fun value harmed => by cases harmed
  · rw [hlatch]
    obtain ⟨value, harmed, hahead, hreached, hwhole⟩ | ⟨hmissAll, hwhole⟩ :=
      timer.latchMatch_cases (ticks + more)
    · have hlater := hmiss value harmed hahead
      rw [hwhole]
      exact latchMatch_of_hit harmed hlater (by simp only; omega)
    · rw [hwhole]
      refine latchMatch_of_miss fun value harmed hahead => ?_
      have := hmissAll value harmed (by simp only at hahead; omega)
      simp only
      omega

def counted (timer : SimulatedTimer) (ticks : ℕ) : SimulatedTimer :=
  { timer.latchMatch ticks with counter := timer.counter + ticks }

theorem counted_add (timer : SimulatedTimer) (ticks more : ℕ) :
    (timer.counted ticks).counted more = timer.counted (ticks + more) := by
  rw [counted, counted, latchMatch_add, counted, Nat.add_assoc]

/-! ## Advancing -/

@[simp]
theorem advance_zero (timer : SimulatedTimer) : timer.advance 0 = timer := by
  rw [advance, if_pos rfl]

/-- Short of the wrap the counter counts. -/
theorem advance_of_lt {timer : SimulatedTimer} {ticks : ℕ} (hshort : ticks < timer.ticksToWrap) :
    timer.advance ticks =
      { timer.latchMatch ticks with counter := timer.counter + ticks } := by
  obtain rfl | hpos := Nat.eq_zero_or_pos ticks
  · rw [advance_zero, latchMatch_zero]
    rfl
  · have hbelow := add_lt_period hpos hshort
    rw [advance, if_neg (by omega)]
    simp only [Nat.min_eq_left hshort.le, Nat.sub_self, advance_zero]
    rw [stride]
    exact if_neg (by omega)

/-- The timer just after its next wrap. -/
def afterWrap (timer : SimulatedTimer) : SimulatedTimer :=
  timer.stride timer.ticksToWrap

theorem afterWrap_eq (timer : SimulatedTimer) :
    timer.afterWrap =
      { timer.latchMatch timer.ticksToWrap with counter := 0, wrapped := true } := by
  rw [afterWrap, stride]
  exact if_pos timer.period_le_add

/-- An advance past the wrap goes on from there. -/
theorem advance_of_le {timer : SimulatedTimer} {ticks : ℕ} (hwraps : timer.ticksToWrap ≤ ticks) :
    timer.advance ticks = timer.afterWrap.advance (ticks - timer.ticksToWrap) := by
  have hpos := timer.one_le_ticksToWrap
  rw [advance, if_neg (by omega)]
  simp only [Nat.min_eq_right hwraps]
  rfl

@[simp]
theorem period_advance (timer : SimulatedTimer) (ticks : ℕ) :
    (timer.advance ticks).period = timer.period := by
  induction ticks using Nat.strong_induction_on generalizing timer with
  | h ticks ih =>
      obtain hshort | hwraps := Nat.lt_or_ge ticks timer.ticksToWrap
      · rw [advance_of_lt hshort]
        exact timer.period_latchMatch ticks
      · have hpos := timer.one_le_ticksToWrap
        rw [advance_of_le hwraps, ih _ (by omega), afterWrap_eq]
        exact timer.period_latchMatch _

/-- A wrap stays latched, and one on the way is latched. -/
theorem wrapped_advance (timer : SimulatedTimer) (ticks : ℕ) :
    (timer.advance ticks).wrapped = (timer.wrapped || decide (timer.ticksToWrap ≤ ticks)) := by
  induction ticks using Nat.strong_induction_on generalizing timer with
  | h ticks ih =>
      obtain hshort | hwraps := Nat.lt_or_ge ticks timer.ticksToWrap
      · rw [advance_of_lt hshort, decide_eq_false (by omega), Bool.or_false]
        exact timer.wrapped_latchMatch ticks
      · have hpos := timer.one_le_ticksToWrap
        rw [advance_of_le hwraps, ih _ (by omega), afterWrap_eq, decide_eq_true hwraps,
          Bool.or_true, Bool.true_or]

/-- The last tick before a wrap. -/
theorem advance_one_of_last {timer : SimulatedTimer} (hlast : timer.ticksToWrap = 1) :
    timer.advance 1 = timer.afterWrap := by
  rw [advance_of_le hlast.le, hlast, Nat.sub_self, advance_zero]

/-- A tick that latches a wrap leaves the counter at zero. -/
theorem counter_advance_one {timer : SimulatedTimer} (hlow : timer.wrapped = false)
    (hwraps : (timer.advance 1).wrapped = true) : (timer.advance 1).counter = 0 := by
  rw [wrapped_advance, hlow, Bool.false_or, decide_eq_true_iff] at hwraps
  have hlast : timer.ticksToWrap = 1 := le_antisymm hwraps timer.one_le_ticksToWrap
  rw [advance_one_of_last hlast, afterWrap_eq]

/-- A match stays latched. -/
theorem matched_advance {timer : SimulatedTimer} (hmatched : timer.matched = true) (ticks : ℕ) :
    (timer.advance ticks).matched = true := by
  have hlatch : ∀ {timer : SimulatedTimer}, timer.matched = true → ∀ ticks,
      (timer.latchMatch ticks).matched = true := by
    intro timer hmatched ticks
    obtain ⟨-, -, -, -, hlatch⟩ | ⟨-, hlatch⟩ := timer.latchMatch_cases ticks
    · rw [hlatch]
    · rw [hlatch]
      exact hmatched
  induction ticks using Nat.strong_induction_on generalizing timer with
  | h ticks ih =>
      obtain hshort | hwraps := Nat.lt_or_ge ticks timer.ticksToWrap
      · rw [advance_of_lt hshort]
        exact hlatch hmatched ticks
      · have hpos := timer.one_le_ticksToWrap
        rw [advance_of_le hwraps]
        refine ih _ (by omega) ?_
        rw [afterWrap_eq]
        exact hlatch hmatched _

/-- Two advances are one. -/
theorem advance_add (timer : SimulatedTimer) (ticks more : ℕ) :
    timer.advance (ticks + more) = (timer.advance ticks).advance more := by
  induction ticks using Nat.strong_induction_on generalizing timer with
  | h ticks ih =>
      obtain hshort | hwraps := Nat.lt_or_ge ticks timer.ticksToWrap
      · have hleft : (timer.counted ticks).ticksToWrap = timer.ticksToWrap - ticks := by
          simp only [ticksToWrap, counted, period_latchMatch] at hshort ⊢
          omega
        have hcounted : timer.advance ticks = timer.counted ticks := advance_of_lt hshort
        rw [hcounted]
        obtain hstill | hlong := Nat.lt_or_ge (ticks + more) timer.ticksToWrap
        · have hmore : more < (timer.counted ticks).ticksToWrap := by omega
          calc timer.advance (ticks + more)
              = timer.counted (ticks + more) := advance_of_lt hstill
            _ = (timer.counted ticks).counted more := (timer.counted_add ticks more).symm
            _ = (timer.counted ticks).advance more := (advance_of_lt hmore).symm
        · have hwrap : (timer.counted ticks).afterWrap = timer.afterWrap := by
            rw [afterWrap_eq, afterWrap_eq, counted, latchMatch_add, ← counted, hleft,
              Nat.add_sub_cancel' hshort.le]
          have hmore : (timer.counted ticks).ticksToWrap ≤ more := by omega
          calc timer.advance (ticks + more)
              = timer.afterWrap.advance (ticks + more - timer.ticksToWrap) := advance_of_le hlong
            _ = (timer.counted ticks).afterWrap.advance
                  (more - (timer.counted ticks).ticksToWrap) := by
                rw [hwrap, hleft]
                congr 1
                omega
            _ = (timer.counted ticks).advance more := (advance_of_le hmore).symm
      · have hpos := timer.one_le_ticksToWrap
        rw [advance_of_le hwraps, advance_of_le (by omega), ← ih _ (by omega)]
        congr 1
        omega

/-- The levels of the lines do not matter to the counter. -/
theorem advance_setGpio (timer : SimulatedTimer) (levels : UInt32) (ticks : ℕ) :
    (timer.setGpio levels).advance ticks = (timer.advance ticks).setGpio levels := by
  have hlatch : ∀ (timer : SimulatedTimer) (ticks : ℕ),
      (timer.setGpio levels).latchMatch ticks = (timer.latchMatch ticks).setGpio levels := by
    intro timer ticks
    obtain ⟨value, harmed, hahead, hreached, hlatch⟩ | ⟨hmiss, hlatch⟩ :=
      timer.latchMatch_cases ticks
    · rw [hlatch]
      exact latchMatch_of_hit harmed hahead hreached
    · rw [hlatch]
      exact latchMatch_of_miss hmiss
  induction ticks using Nat.strong_induction_on generalizing timer with
  | h ticks ih =>
      have hleft : (timer.setGpio levels).ticksToWrap = timer.ticksToWrap := rfl
      obtain hshort | hwraps := Nat.lt_or_ge ticks timer.ticksToWrap
      · rw [advance_of_lt hshort, advance_of_lt (hleft ▸ hshort), hlatch]
        rfl
      · have hpos := timer.one_le_ticksToWrap
        have hwrap : (timer.setGpio levels).afterWrap = timer.afterWrap.setGpio levels := by
          rw [afterWrap_eq, afterWrap_eq, hleft, hlatch]
          rfl
        rw [advance_of_le hwraps, advance_of_le (hleft ▸ hwraps), hleft, hwrap, ih _ (by omega)]

def wraps (timer : SimulatedTimer) (ticks : ℕ) : ℕ :=
  if ticks < timer.ticksToWrap then 0
  else timer.afterWrap.wraps (ticks - timer.ticksToWrap) + 1
termination_by ticks
decreasing_by
  have hpos := timer.one_le_ticksToWrap
  omega

theorem wraps_eq_zero_iff {timer : SimulatedTimer} {ticks : ℕ} :
    timer.wraps ticks = 0 ↔ ticks < timer.ticksToWrap := by
  rw [wraps]
  split <;> simp_all

/-- An advance without a wrap counts on, towards the same wrap. -/
theorem advance_of_wraps_zero {timer : SimulatedTimer} {ticks : ℕ}
    (hnone : timer.wraps ticks = 0) :
    (timer.advance ticks).counter = timer.counter + ticks ∧
      (timer.advance ticks).wrapped = timer.wrapped ∧
      max timer.period (timer.counter + ticks + 1) = max timer.period (timer.counter + 1) := by
  have hshort := wraps_eq_zero_iff.mp hnone
  refine ⟨by rw [advance_of_lt hshort], ?_, ?_⟩
  · rw [wrapped_advance, decide_eq_false (by omega), Bool.or_false]
  · rw [ticksToWrap] at hshort
    omega

/-- After an advance with one wrap the counter shows the ticks since then. -/
theorem advance_of_wraps_one {timer : SimulatedTimer} {ticks : ℕ}
    (hone : timer.wraps ticks = 1) :
    (timer.advance ticks).wrapped = true ∧
      timer.counter + ticks =
        max timer.period (timer.counter + 1) + (timer.advance ticks).counter := by
  have hwraps : timer.ticksToWrap ≤ ticks := by
    by_contra hshort
    have hnone := wraps_eq_zero_iff.mpr (Nat.lt_of_not_le hshort)
    omega
  have hafter : timer.afterWrap.wraps (ticks - timer.ticksToWrap) = 0 := by
    rw [wraps, if_neg (by omega)] at hone
    omega
  have hcounter := (advance_of_wraps_zero hafter).1
  refine ⟨by rw [wrapped_advance, decide_eq_true hwraps, Bool.or_true], ?_⟩
  rw [advance_of_le hwraps, hcounter, afterWrap_eq]
  rw [ticksToWrap] at hwraps ⊢
  simp only
  omega

/-- An advance arms nothing. -/
theorem compare_advance {timer : SimulatedTimer} (hnone : timer.compare = none) (ticks : ℕ) :
    (timer.advance ticks).compare = none ∧ (timer.advance ticks).matched = timer.matched := by
  have hlatch : ∀ {timer : SimulatedTimer}, timer.compare = none → ∀ ticks,
      timer.latchMatch ticks = timer := by
    intro timer hnone ticks
    rw [latchMatch, hnone]
  induction ticks using Nat.strong_induction_on generalizing timer with
  | h ticks ih =>
      obtain hshort | hwraps := Nat.lt_or_ge ticks timer.ticksToWrap
      · rw [advance_of_lt hshort, hlatch hnone]
        exact ⟨hnone, rfl⟩
      · have hpos := timer.one_le_ticksToWrap
        have hafter : timer.afterWrap = { timer with counter := 0, wrapped := true } := by
          rw [afterWrap_eq, hlatch hnone]
        have hcompare : timer.afterWrap.compare = none := by
          rw [hafter]
          exact hnone
        obtain ⟨hstill, hmatched⟩ := ih (ticks - timer.ticksToWrap) (by omega) hcompare
        rw [advance_of_le hwraps]
        exact ⟨hstill, hmatched.trans (by rw [hafter])⟩

/-! ## Taking the flags -/

/-- Taking flags that are not set changes nothing. -/
theorem take_of_low {timer : SimulatedTimer} (hwrapped : timer.wrapped = false)
    (hmatched : timer.matched = false) :
    (Timer.takeSampleMatch (Timer.takeWrap timer).2).2 = timer := by
  obtain ⟨counter, period, compare, wrapped, matched, gpio⟩ := timer
  obtain rfl : wrapped = false := hwrapped
  obtain rfl : matched = false := hmatched
  rfl

end HarvestTestbed.SimulatedTimer
