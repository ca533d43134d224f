/-!
# A stepping clock

The simulated wall clock moves only when it is read, by a fixed step, or slept on.  Times are
64-bit nanoseconds and wrap, so a clock with a large step also runs backwards, and a spin may reach
its deadline across the wrap.  The main statements say that a spin answers the first reading that
has reached the deadline, and that it answers nothing only if no reading ever does.
-/

namespace HarvestTestbed

structure SteppingClock where
  now : UInt64
  step : UInt64
  deriving DecidableEq, Repr, Inhabited

namespace SteppingClock

def read (clock : SteppingClock) : UInt64 × SteppingClock :=
  (clock.now, { clock with now := clock.now + clock.step })

/-- Sleeps until a deadline; one in the past does not move the clock. -/
def sleepUntil (clock : SteppingClock) (deadline : UInt64) : SteppingClock :=
  { clock with now := max clock.now deadline }

def set (clock : SteppingClock) (time : UInt64) : SteppingClock :=
  { clock with now := time }

def advance (clock : SteppingClock) (delta : UInt64) : SteppingClock :=
  { clock with now := clock.now + delta }

/-- What the clock shows after `count` readings. -/
def reading (clock : SteppingClock) (count : Nat) : UInt64 :=
  clock.now + UInt64.ofNat count * clock.step

/-- The number of different readings; after that many the readings repeat. -/
def cycle (clock : SteppingClock) : Nat :=
  UInt64.size / Nat.gcd UInt64.size clock.step.toNat

private theorem toNat_pred {count : UInt64} (hcount : count ≠ 0) :
    (count - 1).toNat + 1 = count.toNat := by
  have hpos : count.toNat ≠ 0 := fun hzero => hcount (UInt64.toNat_inj.1 hzero)
  have hone : (1 : UInt64) ≤ count := by
    rw [UInt64.le_iff_toNat_le, UInt64.toNat_one]
    omega
  rw [UInt64.toNat_sub_of_le _ _ hone, UInt64.toNat_one]
  omega

/-- The first of `now`, `now + step`, … that has reached a deadline, when at most `more` steps are
made. -/
def firstFrom? (step deadline more now : UInt64) : Option UInt64 :=
  if deadline ≤ now then some now
  else if more = 0 then none
  else firstFrom? step deadline (more - 1) (now + step)
termination_by more.toNat
decreasing_by
  rename_i hmore
  have hpred := toNat_pred hmore
  omega

/-- Reads the clock until it has reached a deadline; answers the last reading.  A whole cycle of
readings before the deadline means that the spin does not end. -/
def spinUntil (clock : SteppingClock) (deadline : UInt64) : Option UInt64 × SteppingClock :=
  match firstFrom? clock.step deadline (UInt64.ofNat (clock.cycle - 1)) clock.now with
  | some time => (some time, { clock with now := time + clock.step })
  | none => (none, clock)

/-! ### Readings -/

@[simp]
theorem reading_zero (clock : SteppingClock) : clock.reading 0 = clock.now := by
  simp [reading]

theorem reading_succ (clock : SteppingClock) (count : Nat) :
    clock.reading (count + 1) = clock.read.2.reading count := by
  simp only [reading, read, UInt64.ofNat_add, UInt64.add_mul]
  rw [UInt64.add_comm (UInt64.ofNat count * clock.step), UInt64.add_assoc]
  simp

theorem cycle_pos (clock : SteppingClock) : 0 < clock.cycle := by
  apply Nat.div_pos
  · exact Nat.le_of_dvd (by decide) (Nat.gcd_dvd_left _ _)
  · exact Nat.gcd_pos_of_pos_left _ (by decide)

theorem cycle_le_size (clock : SteppingClock) : clock.cycle ≤ UInt64.size :=
  Nat.div_le_self _ _

theorem ofNat_cycle_mul_step (clock : SteppingClock) :
    UInt64.ofNat clock.cycle * clock.step = 0 := by
  apply UInt64.toNat_inj.1
  have hsize := Nat.gcd_dvd_left UInt64.size clock.step.toNat
  obtain ⟨steps, hsteps⟩ := Nat.gcd_dvd_right UInt64.size clock.step.toNat
  have hproduct : clock.cycle * clock.step.toNat = UInt64.size * steps := by
    calc clock.cycle * clock.step.toNat
        = clock.cycle * (Nat.gcd UInt64.size clock.step.toNat * steps) := by rw [← hsteps]
      _ = clock.cycle * Nat.gcd UInt64.size clock.step.toNat * steps := by rw [Nat.mul_assoc]
      _ = UInt64.size * steps := by rw [cycle, Nat.div_mul_cancel hsize]
  rw [UInt64.toNat_mul, UInt64.toNat_ofNat', Nat.mod_mul_mod, hproduct]
  exact Nat.mul_mod_right _ _

/-- The readings repeat after a cycle. -/
theorem reading_mod_cycle (clock : SteppingClock) (count : Nat) :
    clock.reading (count % clock.cycle) = clock.reading count := by
  have hsplit : UInt64.ofNat count * clock.step =
      UInt64.ofNat (count % clock.cycle) * clock.step := by
    conv => lhs; rw [← Nat.mod_add_div count clock.cycle]
    rw [UInt64.ofNat_add, UInt64.ofNat_mul, UInt64.add_mul,
      UInt64.mul_comm (UInt64.ofNat clock.cycle), UInt64.mul_assoc, ofNat_cycle_mul_step]
    simp
  rw [reading, reading, hsplit]

/-! ### Spinning -/

theorem firstFrom?_eq_none_iff (step deadline more now : UInt64) :
    firstFrom? step deadline more now = none ↔
      ∀ count, count ≤ more.toNat → SteppingClock.reading ⟨now, step⟩ count < deadline := by
  fun_induction firstFrom? step deadline more now with
  | case1 more now hreached =>
    refine ⟨fun hnone => absurd hnone (by simp), fun hbefore => ?_⟩
    have hnow := hbefore 0 (Nat.zero_le _)
    rw [reading_zero] at hnow
    exact absurd hreached (UInt64.not_le.2 hnow)
  | case2 now hbefore =>
    refine ⟨fun _ count hcount => ?_, fun _ => rfl⟩
    obtain rfl : count = 0 := by simpa using hcount
    simpa using UInt64.not_le.1 hbefore
  | case3 more now hbefore hmore ih =>
    have hpred := toNat_pred hmore
    rw [ih]
    constructor
    · intro hlater count hcount
      cases count with
      | zero => simpa using UInt64.not_le.1 hbefore
      | succ count =>
        rw [reading_succ]
        exact hlater count (by omega)
    · intro hall count hcount
      have hnext := hall (count + 1) (by omega)
      rwa [reading_succ] at hnext

theorem firstFrom?_eq_some {step deadline more now time : UInt64}
    (hfirst : firstFrom? step deadline more now = some time) :
    ∃ count, time = SteppingClock.reading ⟨now, step⟩ count ∧ deadline ≤ time ∧
      ∀ earlier, earlier < count → SteppingClock.reading ⟨now, step⟩ earlier < deadline := by
  fun_induction firstFrom? step deadline more now with
  | case1 more now hreached =>
    obtain rfl : now = time := by simpa using hfirst
    exact ⟨0, (reading_zero ⟨now, step⟩).symm, hreached, fun earlier hearlier => absurd hearlier (by omega)⟩
  | case2 now hbefore => exact nomatch hfirst
  | case3 more now hbefore hmore ih =>
    obtain ⟨count, htime, hreached, hearly⟩ := ih hfirst
    refine ⟨count + 1, by rw [reading_succ]; exact htime, hreached, fun earlier hearlier => ?_⟩
    cases earlier with
    | zero => simpa using UInt64.not_le.1 hbefore
    | succ earlier =>
      rw [reading_succ]
      exact hearly earlier (by omega)

/-- A spin does not end exactly if no reading ever reaches the deadline. -/
theorem spinUntil_eq_none_iff (clock : SteppingClock) (deadline : UInt64) :
    (clock.spinUntil deadline).1 = none ↔ ∀ count, clock.reading count < deadline := by
  have hlast : (UInt64.ofNat (clock.cycle - 1)).toNat = clock.cycle - 1 := by
    have hpos := clock.cycle_pos
    have hle := clock.cycle_le_size
    exact UInt64.toNat_ofNat_of_lt' (by omega)
  have hnone : (clock.spinUntil deadline).1 = none ↔
      firstFrom? clock.step deadline (UInt64.ofNat (clock.cycle - 1)) clock.now = none := by
    rw [spinUntil]
    split <;> simp_all
  rw [hnone, firstFrom?_eq_none_iff, hlast]
  constructor
  · intro hcycle count
    rw [← reading_mod_cycle]
    have hlt := Nat.mod_lt count clock.cycle_pos
    exact hcycle _ (by omega)
  · exact fun hall count _ => hall count

/-- A spin that ends answers the first reading that has reached the deadline, and leaves the clock
one step after it. -/
theorem spinUntil_eq_some {clock : SteppingClock} {deadline time : UInt64}
    (hspin : (clock.spinUntil deadline).1 = some time) :
    (clock.spinUntil deadline).2 = { clock with now := time + clock.step } ∧
      ∃ count, time = clock.reading count ∧ deadline ≤ time ∧
        ∀ earlier, earlier < count → clock.reading earlier < deadline := by
  rw [spinUntil] at hspin ⊢
  split at hspin
  · rename_i first hfirst
    obtain rfl : first = time := by simpa using hspin
    exact ⟨rfl, firstFrom?_eq_some hfirst⟩
  · exact nomatch hspin

end SteppingClock

end HarvestTestbed
