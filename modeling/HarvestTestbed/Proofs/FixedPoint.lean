import Mathlib.Order.Lattice
import Mathlib.Algebra.Ring.Nat
import HarvestTestbed.Number.Reciprocal

/-!
# The order of fixed-point values

Two fixed-point values of one scale are ordered as their raw words are, so they form a linear
order, and the maximum, the minimum and the limits that the operations use are those of this order.
What an operation does to the raw word is said on natural numbers, where only the final clamp is
left of the saturation.
-/

namespace HarvestTestbed

namespace UFixed

variable {frac : ℕ} {x y low high : UFixed frac}

/-! ## The order -/

theorem le_iff_toNat : x ≤ y ↔ x.raw.toNat ≤ y.raw.toNat :=
  UInt64.le_iff_toNat_le

theorem lt_iff_toNat : x < y ↔ x.raw.toNat < y.raw.toNat :=
  UInt64.lt_iff_toNat_lt

/-- Values of one scale are equal if their raw words are. -/
theorem toNat_inj : x.raw.toNat = y.raw.toNat ↔ x = y := by
  rw [UInt64.toNat_inj]
  constructor
  · intro hraw
    cases x
    cases y
    exact congrArg UFixed.mk hraw
  · intro heq
    rw [heq]

instance : LinearOrder (UFixed frac) where
  le_refl _ := le_iff_toNat.mpr le_rfl
  le_trans _ _ _ hxy hyz := le_iff_toNat.mpr ((le_iff_toNat.mp hxy).trans (le_iff_toNat.mp hyz))
  lt_iff_le_not_ge _ _ := by
    simp only [le_iff_toNat, lt_iff_toNat]
    exact Nat.lt_iff_le_and_not_ge
  le_antisymm _ _ hxy hyx :=
    toNat_inj.mp (Nat.le_antisymm (le_iff_toNat.mp hxy) (le_iff_toNat.mp hyx))
  le_total _ _ := by
    simp only [le_iff_toNat]
    exact Nat.le_total _ _
  toDecidableLE := inferInstance
  min_def _ _ := rfl
  max_def _ _ := rfl

theorem zero_le (x : UFixed frac) : zero ≤ x :=
  le_iff_toNat.mpr (Nat.zero_le _)

theorem isZero_iff : x.isZero = true ↔ x = zero := by
  rw [isZero, decide_eq_true_eq, ← toNat_inj, ← UInt64.toNat_inj]
  rfl

theorem toNat_max (x y : UFixed frac) : (max x y).raw.toNat = max x.raw.toNat y.raw.toNat := by
  obtain hle | hle := le_total x y
  · rw [max_eq_right hle, max_eq_right (le_iff_toNat.mp hle)]
  · rw [max_eq_left hle, max_eq_left (le_iff_toNat.mp hle)]

theorem toNat_min (x y : UFixed frac) : (min x y).raw.toNat = min x.raw.toNat y.raw.toNat := by
  obtain hle | hle := le_total x y
  · rw [min_eq_left hle, min_eq_left (le_iff_toNat.mp hle)]
  · rw [min_eq_right hle, min_eq_right (le_iff_toNat.mp hle)]

/-- A clamped value keeps a lower bound that the upper limit keeps as well. -/
theorem le_clampTo (hy : x ≤ y) (hhigh : x ≤ high) : x ≤ y.clampTo low high := by
  rw [clampTo]
  split_ifs with hlow
  · exact hy.trans hlow.le
  · exact hhigh
  · exact hy

/-- A clamped value keeps an upper bound that the lower limit keeps as well. -/
theorem clampTo_le (hy : y ≤ x) (hlow : low ≤ x) : y.clampTo low high ≤ x := by
  rw [clampTo]
  split_ifs with _ hhigh
  · exact hlow
  · exact hhigh.le.trans hy
  · exact hy

/-! ## Sums and differences -/

/-- A difference stops at zero, as that of natural numbers does. -/
theorem toNat_sub (x y : UFixed frac) : (x - y).raw.toNat = x.raw.toNat - y.raw.toNat :=
  Saturating.toNat_sub64 _ _

theorem sub_le (x y : UFixed frac) : x - y ≤ x := by
  rw [le_iff_toNat, toNat_sub]
  exact Nat.sub_le _ _

@[simp]
protected theorem sub_self (x : UFixed frac) : x - x = zero := by
  rw [← toNat_inj, toNat_sub, Nat.sub_self]
  rfl

/-- A sum stops at the largest word. -/
theorem toNat_add (x y : UFixed frac) :
    (x + y).raw.toNat = min (x.raw.toNat + y.raw.toNat) (UInt64.size - 1) :=
  Saturating.toNat_add64 _ _

theorem le_add (x y : UFixed frac) : x ≤ x + y := by
  have hx : x.raw.toNat < UInt64.size := x.raw.toNat_lt
  rw [le_iff_toNat, toNat_add]
  omega

@[simp]
protected theorem add_zero (x : UFixed frac) : x + zero = x :=
  congrArg UFixed.mk (Saturating.add64_zero x.raw)

/-! ## Scales -/

theorem toNat_ofInt (value : UInt64) :
    (ofInt value : UFixed frac).raw.toNat = min (value.toNat * 2 ^ frac) (UInt64.size - 1) := by
  rw [ofInt, toNat_clampWord64, Nat.shiftLeft_eq]

/-- A 32-bit word never saturates with up to 32 fractional bits. -/
theorem toNat_ofInt_word_of_le (hfrac : frac ≤ 32) (value : UInt32) :
    (ofInt value.toUInt64 : UFixed frac).raw.toNat = value.toNat * 2 ^ frac := by
  have hlt : value.toNat < 2 ^ 32 := value.toNat_lt
  have hfits : value.toNat * 2 ^ frac < UInt64.size :=
    calc
      value.toNat * 2 ^ frac ≤ value.toNat * 2 ^ 32 :=
        Nat.mul_le_mul_left _ (Nat.pow_le_pow_right (by decide) hfrac)
      _ < 2 ^ 32 * 2 ^ 32 := Nat.mul_lt_mul_of_pos_right hlt (by decide)
      _ = UInt64.size := rfl
  rw [toNat_ofInt, UInt32.toNat_toUInt64]
  omega

/-- A word of 32 bits always fits with 32 fractional bits. -/
theorem toNat_ofInt_word (value : UInt32) :
    (ofInt value.toUInt64 : UFixed 32).raw.toNat = value.toNat * 2 ^ 32 :=
  toNat_ofInt_word_of_le le_rfl value

theorem toNat_ofInt_one : (ofInt 1 : UFixed 32).raw.toNat = 2 ^ 32 :=
  toNat_ofInt_word 1

theorem toNat_toInt (x : UFixed frac) : x.toInt.toNat = x.raw.toNat / 2 ^ frac := by
  rw [toInt, Nat.shiftRight_eq_div_pow, UInt64.toNat_ofNat_of_lt']
  exact (Nat.div_le_self _ _).trans_lt x.raw.toNat_lt

/-- The integer part of a value with 32 fractional bits always fits a 32-bit word. -/
theorem toNat_toWord32 (x : UFixed 32) : x.toWord32.toNat = x.raw.toNat / 2 ^ 32 := by
  have hlt : x.raw.toNat < 2 ^ 64 := x.raw.toNat_lt
  have hsize : UInt32.size = 2 ^ 32 := rfl
  rw [toWord32, toNat_clampWord32, toNat_toInt]
  omega

theorem toWord32_le_toWord32 (hle : x ≤ y) : x.toWord32 ≤ y.toWord32 := by
  apply clampWord32_le
  rw [toNat_toInt, toNat_toInt]
  exact Nat.div_le_div_right (le_iff_toNat.mp hle)

theorem ofInt_word_le_ofInt_word {value other : UInt32} (hle : value ≤ other) :
    (ofInt value.toUInt64 : UFixed frac) ≤ ofInt other.toUInt64 := by
  apply clampWord64_le
  rw [Nat.shiftLeft_eq, Nat.shiftLeft_eq]
  exact Nat.mul_le_mul_right _ (UInt32.le_iff_toNat_le.mp hle)

/-- A whole number is at most a value when it is at most its integer part. -/
theorem ofInt_word_le_iff (value : UInt32) (x : UFixed 32) :
    (ofInt value.toUInt64 : UFixed 32) ≤ x ↔ value ≤ x.toWord32 := by
  rw [le_iff_toNat, toNat_ofInt_word, UInt32.le_iff_toNat_le, toNat_toWord32,
    Nat.le_div_iff_mul_le (by decide)]

/-! ## Products and quotients -/

theorem toNat_shiftSaturating_of_nonpos {value : ℕ} {shift : ℤ} (hshift : shift ≤ 0) :
    (shiftSaturating value shift).toNat =
      min (value / 2 ^ (-shift).toNat) (UInt64.size - 1) := by
  rw [shiftSaturating, if_neg (by omega)]
  split_ifs with hzero
  · have heq : shift = 0 := le_antisymm hshift hzero
    simp [heq, toNat_clampWord64]
  · rw [toNat_clampWord64, Nat.shiftRight_eq_div_pow]

theorem toNat_mulInt (x : UFixed frac) (factor : UInt64) :
    (x.mulInt factor).raw.toNat = min (x.raw.toNat * factor.toNat) (UInt64.size - 1) :=
  Saturating.toNat_mul64 _ _

/-- A product that gives up places rounds down once. -/
theorem toNat_mulInto_of_le {rhs out : ℕ} (hout : out ≤ frac + rhs) (x : UFixed frac)
    (y : UFixed rhs) :
    (x.mulInto y out).raw.toNat =
      min (x.raw.toNat * y.raw.toNat / 2 ^ (frac + rhs - out)) (UInt64.size - 1) := by
  have hshift : (-((out : ℤ) - (frac + rhs))).toNat = frac + rhs - out := by omega
  rw [mulInto, toNat_shiftSaturating_of_nonpos (by omega), hshift]

/-- A product that loses fractional bits is monotone in its first factor. -/
theorem mulInto_le_mulInto {rhs out : ℕ} (hout : out ≤ frac + rhs) (hle : x ≤ y)
    (factor : UFixed rhs) : x.mulInto factor out ≤ y.mulInto factor out := by
  have hproduct : x.raw.toNat * factor.raw.toNat ≤ y.raw.toNat * factor.raw.toNat :=
    Nat.mul_le_mul_right _ (le_iff_toNat.mp hle)
  have hshifted := Nat.div_le_div_right (c := 2 ^ (frac + rhs - out)) hproduct
  rw [le_iff_toNat, toNat_mulInto_of_le hout, toNat_mulInto_of_le hout]
  omega

theorem zero_mulInto {rhs out : ℕ} (hout : out ≤ frac + rhs) (y : UFixed rhs) :
    (zero : UFixed frac).mulInto y out = zero := by
  rw [← toNat_inj, toNat_mulInto_of_le hout]
  simp [zero]

@[simp]
theorem zero_divTable (divisor : UInt32) : (zero : UFixed frac).divTable divisor = zero := by
  have hshift : (-(31 + ((max divisor.toNat 1).log2 : ℤ))) ≤ 0 := by omega
  rw [← toNat_inj, divTable, divideByTable, toNat_shiftSaturating_of_nonpos hshift]
  simp [zero]

end UFixed

end HarvestTestbed
