import Mathlib.Algebra.Order.Group.Abs
import Mathlib.Tactic.Ring
import HarvestTestbed.Proofs.FixedPoint

/-!
# The accuracy of table division

A table entry stands for all divisors of a mantissa bucket, and it is the reciprocal of the middle of
the bucket.  So a divisor is off by half a bucket at most, which is one part in 513, and the entry is
rounded down by one part in `2 ^ 30` at most.  Together the entry is within a four hundredth of the
reciprocal of the divisor (`le_reciprocal`, `reciprocal_le`), and the quotient is within a four
hundredth of the exact one and one unit.
-/

namespace HarvestTestbed

/-! ## Mantissa buckets -/

theorem reciprocalBuckets_eq : reciprocalBuckets = 256 :=
  rfl

theorem mantissaBucket_lt (divisor exponent : ℕ) : mantissaBucket divisor exponent < 256 :=
  Nat.mod_lt _ (by decide)

/-- A divisor between two bounds, in 256ths of the power of two that it has reached. -/
def InBucket (divisor exponent bucket : ℕ) : Prop :=
  (256 + bucket) * 2 ^ exponent ≤ 256 * divisor ∧
    256 * divisor < (257 + bucket) * 2 ^ exponent

/-- A divisor of more than nine bits loses its low bits. -/
theorem inBucket_of_dropped {divisor places : ℕ} (hlow : 2 ^ (8 + places) ≤ divisor)
    (hhigh : divisor < 2 ^ (8 + places + 1)) :
    InBucket divisor (8 + places) (mantissaBucket divisor (8 + places)) := by
  have hpower : 2 ^ (8 + places) = 256 * 2 ^ places := Nat.pow_add 2 8 places
  have hpos : 0 < 2 ^ places := Nat.two_pow_pos places
  rw [pow_succ, hpower] at hhigh
  rw [hpower] at hlow
  have hge : 256 ≤ divisor / 2 ^ places := (Nat.le_div_iff_mul_le hpos).mpr hlow
  have hlt : divisor / 2 ^ places < 512 := by
    rw [Nat.div_lt_iff_lt_mul hpos]
    omega
  have hbucket : 256 + mantissaBucket divisor (8 + places) = divisor / 2 ^ places := by
    rw [mantissaBucket, reciprocalBuckets_eq, reciprocalBits, if_pos (Nat.le_add_right _ _),
      Nat.add_sub_cancel_left, Nat.shiftRight_eq_div_pow]
    omega
  have hmod : divisor < (divisor / 2 ^ places + 1) * 2 ^ places := by
    rw [mul_comm]
    exact Nat.lt_mul_div_succ divisor hpos
  constructor
  · calc
      (256 + mantissaBucket divisor (8 + places)) * 2 ^ (8 + places)
          = 256 * (divisor / 2 ^ places * 2 ^ places) := by rw [hbucket, hpower, mul_left_comm]
      _ ≤ 256 * divisor := Nat.mul_le_mul_left _ (Nat.div_mul_le_self _ _)
  · calc
      256 * divisor < 256 * ((divisor / 2 ^ places + 1) * 2 ^ places) :=
        Nat.mul_lt_mul_of_pos_left hmod (by decide)
      _ = (257 + mantissaBucket divisor (8 + places)) * 2 ^ (8 + places) := by
        rw [← hbucket, hpower, mul_left_comm, Nat.add_right_comm]

/-- A divisor of up to eight bits is the low end of its bucket. -/
theorem inBucket_of_exact {divisor exponent : ℕ} (hlow : 2 ^ exponent ≤ divisor)
    (hhigh : divisor < 2 ^ (exponent + 1)) (hexponent : exponent < 8) :
    InBucket divisor exponent (mantissaBucket divisor exponent) := by
  have hpower : 2 ^ exponent * 2 ^ (8 - exponent) = 256 := by
    rw [← Nat.pow_add, Nat.add_sub_cancel' hexponent.le]
  have hge : 256 ≤ divisor * 2 ^ (8 - exponent) :=
    calc
      256 = 2 ^ exponent * 2 ^ (8 - exponent) := hpower.symm
      _ ≤ divisor * 2 ^ (8 - exponent) := Nat.mul_le_mul_right _ hlow
  have hlt : divisor * 2 ^ (8 - exponent) < 512 :=
    calc
      divisor * 2 ^ (8 - exponent) < 2 ^ (exponent + 1) * 2 ^ (8 - exponent) :=
        Nat.mul_lt_mul_of_pos_right hhigh (Nat.two_pow_pos _)
      _ = 2 ^ exponent * 2 ^ (8 - exponent) * 2 := by rw [pow_succ, mul_right_comm]
      _ = 512 := by rw [hpower]
  have hbucket : 256 + mantissaBucket divisor exponent = divisor * 2 ^ (8 - exponent) := by
    rw [mantissaBucket, reciprocalBuckets_eq, reciprocalBits, if_neg (by omega), Nat.shiftLeft_eq]
    omega
  have hexact : (256 + mantissaBucket divisor exponent) * 2 ^ exponent = 256 * divisor := by
    rw [hbucket, mul_assoc, mul_comm (2 ^ (8 - exponent)), hpower, mul_comm]
  constructor
  · exact hexact.le
  · rw [← hexact]
    exact Nat.mul_lt_mul_of_pos_right (by omega) (Nat.two_pow_pos _)

/-- The eight bits behind the highest bit of a divisor select its bucket. -/
theorem inBucket_mantissaBucket {divisor : ℕ} (hdivisor : divisor ≠ 0) :
    InBucket divisor divisor.log2 (mantissaBucket divisor divisor.log2) := by
  have hlow := Nat.log2_self_le hdivisor
  have hhigh := Nat.lt_log2_self (n := divisor)
  generalize divisor.log2 = exponent at hlow hhigh ⊢
  obtain hlarge | hsmall := le_or_gt 8 exponent
  · obtain ⟨places, rfl⟩ := Nat.exists_eq_add_of_le hlarge
    exact inBucket_of_dropped hlow hhigh
  · exact inBucket_of_exact hlow hhigh hsmall

/-! ## Table entries -/

/-- An entry is `2 ^ 40` divided by the middle of its bucket in 512ths, rounded down. -/
theorem reciprocalEntry_eq (bucket : ℕ) : reciprocalEntry bucket = 2 ^ 40 / (513 + 2 * bucket) := by
  have hmiddle : 2 * 256 + 2 * bucket + 1 = 513 + 2 * bucket := by omega
  have hone : (1 <<< 31) * (2 * 256) = 2 ^ 40 := rfl
  rw [reciprocalEntry, reciprocalBuckets_eq, hmiddle, hone]

theorem reciprocalEntry_bounds (bucket : ℕ) :
    reciprocalEntry bucket * (513 + 2 * bucket) ≤ 2 ^ 40 ∧
      2 ^ 40 < (reciprocalEntry bucket + 1) * (513 + 2 * bucket) := by
  rw [reciprocalEntry_eq]
  constructor
  · exact Nat.div_mul_le_self _ _
  · rw [mul_comm]
    exact Nat.lt_mul_div_succ _ (by omega)

/-- The table is of 31-bit words. -/
theorem reciprocalEntry_lt (bucket : ℕ) : reciprocalEntry bucket < 2 ^ 31 := by
  rw [reciprocalEntry_eq, Nat.div_lt_iff_lt_mul (by omega)]
  omega

/-- At the low end of a bucket an entry falls short by a four hundredth at most. -/
theorem le_reciprocalEntry {bucket : ℕ} (hbucket : bucket < 256) :
    399 * 2 ^ 39 ≤ 400 * ((256 + bucket) * reciprocalEntry bucket) := by
  obtain ⟨hle, hlt⟩ := reciprocalEntry_bounds bucket
  have hlow : reciprocalEntry bucket * 513 ≤ reciprocalEntry bucket * (513 + 2 * bucket) :=
    Nat.mul_le_mul_left _ (by omega)
  have hmiddle : 2 * ((256 + bucket) * reciprocalEntry bucket) + reciprocalEntry bucket =
      reciprocalEntry bucket * (513 + 2 * bucket) := by ring
  have hone : 2 ^ 40 = 2 * 2 ^ 39 := rfl
  rw [hone] at hle hlt
  rw [Nat.add_mul, Nat.one_mul] at hlt
  -- The bound of a bucket is small beside the unit, which stays closed.
  generalize hhalf : 2 ^ 39 = half at *
  omega

/-- At the high end of a bucket an entry is too large by a four hundredth at most. -/
theorem reciprocalEntry_le (bucket : ℕ) :
    400 * ((257 + bucket) * reciprocalEntry bucket) ≤ 401 * 2 ^ 39 := by
  obtain ⟨hle, -⟩ := reciprocalEntry_bounds bucket
  have hlow : reciprocalEntry bucket * 513 ≤ reciprocalEntry bucket * (513 + 2 * bucket) :=
    Nat.mul_le_mul_left _ (by omega)
  have hmiddle : 2 * ((257 + bucket) * reciprocalEntry bucket) =
      reciprocalEntry bucket * (513 + 2 * bucket) + reciprocalEntry bucket := by ring
  omega

/-! ## The reciprocal of a divisor -/

/-- The table entry that stands for a divisor. -/
def tableReciprocal (divisor : ℕ) : ℕ :=
  reciprocalEntry (mantissaBucket divisor divisor.log2)

/-- The units of a table entry in one, for a divisor. -/
def tableUnit (divisor : ℕ) : ℕ :=
  2 ^ (31 + divisor.log2)

theorem tableUnit_eq (divisor : ℕ) : 256 * tableUnit divisor = 2 ^ 39 * 2 ^ divisor.log2 := by
  rw [tableUnit, Nat.pow_add, ← mul_assoc]
  rfl

variable {divisor : ℕ}

theorem le_reciprocal (hdivisor : divisor ≠ 0) :
    399 * tableUnit divisor ≤ 400 * (divisor * tableReciprocal divisor) := by
  have hbucket := (inBucket_mantissaBucket hdivisor).1
  have hentry := le_reciprocalEntry (mantissaBucket_lt divisor divisor.log2)
  apply Nat.le_of_mul_le_mul_left (c := 256) _ (by decide)
  calc
    256 * (399 * tableUnit divisor) = 399 * 2 ^ 39 * 2 ^ divisor.log2 := by
      rw [mul_left_comm, tableUnit_eq, mul_assoc]
    _ ≤ 400 * ((256 + mantissaBucket divisor divisor.log2) * tableReciprocal divisor) *
        2 ^ divisor.log2 := Nat.mul_le_mul_right _ hentry
    _ = 400 * ((256 + mantissaBucket divisor divisor.log2) * 2 ^ divisor.log2 *
        tableReciprocal divisor) := by ring
    _ ≤ 400 * (256 * divisor * tableReciprocal divisor) :=
      Nat.mul_le_mul_left _ (Nat.mul_le_mul_right _ hbucket)
    _ = 256 * (400 * (divisor * tableReciprocal divisor)) := by ring

theorem reciprocal_le (hdivisor : divisor ≠ 0) :
    400 * (divisor * tableReciprocal divisor) ≤ 401 * tableUnit divisor := by
  have hbucket := (inBucket_mantissaBucket hdivisor).2
  have hentry := reciprocalEntry_le (mantissaBucket divisor divisor.log2)
  apply Nat.le_of_mul_le_mul_left (c := 256) _ (by decide)
  calc
    256 * (400 * (divisor * tableReciprocal divisor)) =
        400 * (256 * divisor * tableReciprocal divisor) := by ring
    _ ≤ 400 * ((257 + mantissaBucket divisor divisor.log2) * 2 ^ divisor.log2 *
        tableReciprocal divisor) := Nat.mul_le_mul_left _ (Nat.mul_le_mul_right _ hbucket.le)
    _ = 400 * ((257 + mantissaBucket divisor divisor.log2) * tableReciprocal divisor) *
        2 ^ divisor.log2 := by ring
    _ ≤ 401 * 2 ^ 39 * 2 ^ divisor.log2 := Nat.mul_le_mul_right _ hentry
    _ = 256 * (401 * tableUnit divisor) := by rw [mul_left_comm, tableUnit_eq, mul_assoc]

theorem tableUnit_pos (divisor : ℕ) : 0 < tableUnit divisor :=
  Nat.two_pow_pos _

theorem tableReciprocal_pos (hdivisor : divisor ≠ 0) : 0 < tableReciprocal divisor := by
  have hunit := tableUnit_pos divisor
  have hle := le_reciprocal hdivisor
  apply Nat.pos_of_ne_zero
  intro hzero
  rw [hzero] at hle
  omega

/-! ## Quotients -/

/-- The quotient that the table gives, in units and of any size. -/
def tableQuotient (numerator divisor : ℕ) : ℕ :=
  numerator * tableReciprocal divisor / tableUnit divisor

theorem tableQuotient_bounds (numerator divisor : ℕ) :
    tableQuotient numerator divisor * tableUnit divisor ≤ numerator * tableReciprocal divisor ∧
      numerator * tableReciprocal divisor <
        (tableQuotient numerator divisor + 1) * tableUnit divisor := by
  constructor
  · exact Nat.div_mul_le_self _ _
  · rw [mul_comm (_ + 1)]
    exact Nat.lt_mul_div_succ _ (tableUnit_pos divisor)

/-- No entry is above one, so neither is a quotient above its numerator. -/
theorem tableQuotient_le (numerator divisor : ℕ) : tableQuotient numerator divisor ≤ numerator := by
  have hunit : 2 ^ 31 ≤ tableUnit divisor := Nat.pow_le_pow_right (by decide) (by omega)
  apply Nat.div_le_of_le_mul
  rw [mul_comm (tableUnit divisor)]
  exact Nat.mul_le_mul_left _ ((reciprocalEntry_lt _).le.trans hunit)

/-- A table quotient falls short of the exact one by a four hundredth and one unit at most. -/
theorem le_tableQuotient (numerator : ℕ) (hdivisor : divisor ≠ 0) :
    399 * (numerator / divisor) ≤ 400 * tableQuotient numerator divisor + 400 := by
  have hlt := (tableQuotient_bounds numerator divisor).2
  have hquotient : numerator / divisor * divisor ≤ numerator := Nat.div_mul_le_self _ _
  apply Nat.le_of_lt
  apply Nat.lt_of_mul_lt_mul_right (a := tableUnit divisor)
  calc
    399 * (numerator / divisor) * tableUnit divisor =
        numerator / divisor * (399 * tableUnit divisor) := by ring
    _ ≤ numerator / divisor * (400 * (divisor * tableReciprocal divisor)) :=
      Nat.mul_le_mul_left _ (le_reciprocal hdivisor)
    _ = 400 * (numerator / divisor * divisor * tableReciprocal divisor) := by ring
    _ ≤ 400 * (numerator * tableReciprocal divisor) :=
      Nat.mul_le_mul_left _ (Nat.mul_le_mul_right _ hquotient)
    _ < 400 * ((tableQuotient numerator divisor + 1) * tableUnit divisor) :=
      Nat.mul_lt_mul_of_pos_left hlt (by decide)
    _ = (400 * tableQuotient numerator divisor + 400) * tableUnit divisor := by ring

/-- A table quotient is above the exact one by a four hundredth and one unit at most. -/
theorem tableQuotient_le_quotient (numerator : ℕ) (hdivisor : divisor ≠ 0) :
    400 * tableQuotient numerator divisor ≤ 401 * (numerator / divisor) + 400 := by
  have hle := (tableQuotient_bounds numerator divisor).1
  have hquotient : numerator < (numerator / divisor + 1) * divisor := by
    rw [mul_comm]
    exact Nat.lt_mul_div_succ numerator (Nat.pos_of_ne_zero hdivisor)
  apply Nat.le_of_lt_succ
  apply Nat.lt_of_mul_lt_mul_right (a := tableUnit divisor)
  calc
    400 * tableQuotient numerator divisor * tableUnit divisor =
        400 * (tableQuotient numerator divisor * tableUnit divisor) := mul_assoc _ _ _
    _ ≤ 400 * (numerator * tableReciprocal divisor) := Nat.mul_le_mul_left _ hle
    _ < 400 * ((numerator / divisor + 1) * divisor * tableReciprocal divisor) :=
      Nat.mul_lt_mul_of_pos_left
        (Nat.mul_lt_mul_of_pos_right hquotient (tableReciprocal_pos hdivisor)) (by decide)
    _ = (numerator / divisor + 1) * (400 * (divisor * tableReciprocal divisor)) := by ring
    _ ≤ (numerator / divisor + 1) * (401 * tableUnit divisor) :=
      Nat.mul_le_mul_left _ (reciprocal_le hdivisor)
    _ = (401 * (numerator / divisor) + 400 + 1) * tableUnit divisor := by ring

/-- No quotient is too large for a word, so the division never saturates. -/
theorem toNat_divideByTable (numerator : UInt64) (divisor : UInt32) :
    (divideByTable numerator divisor).toNat =
      tableQuotient numerator.toNat (max divisor.toNat 1) := by
  have hle := tableQuotient_le numerator.toNat (max divisor.toNat 1)
  have hlt : numerator.toNat < UInt64.size := numerator.toNat_lt
  have hplaces (exponent : ℕ) : (-(-(31 + exponent : ℤ))).toNat = 31 + exponent := by omega
  rw [divideByTable, UFixed.toNat_shiftSaturating_of_nonpos (by omega), hplaces]
  exact min_eq_left (hle.trans (Nat.le_sub_one_of_lt hlt))

/-- For every numerator and every divisor, zero counting as one, the division by the table never
saturates and is within a four hundredth of the exact quotient and one unit. -/
theorem divideByTable_close (numerator : UInt64) (divisor : UInt32) :
    (divideByTable numerator divisor).toNat =
        tableQuotient numerator.toNat (max divisor.toNat 1) ∧
      400 * |((divideByTable numerator divisor).toNat : ℤ) -
          (numerator.toNat / max divisor.toNat 1 : ℕ)| ≤
        (numerator.toNat / max divisor.toNat 1 : ℕ) + 400 := by
  have hpositive : max divisor.toNat 1 ≠ 0 := by omega
  have hlow := le_tableQuotient numerator.toNat hpositive
  have hhigh := tableQuotient_le_quotient numerator.toNat hpositive
  rw [toNat_divideByTable]
  generalize numerator.toNat / max divisor.toNat 1 = quotient at *
  generalize tableQuotient numerator.toNat (max divisor.toNat 1) = approximate at *
  constructor
  · rfl
  · obtain habs | habs := abs_cases ((approximate : ℤ) - quotient)
    all_goals omega

end HarvestTestbed
