import Mathlib.Algebra.Order.Floor.Semifield
import Mathlib.Data.Rat.Floor
import HarvestTestbed.Proofs.FixedPoint

/-!
# Exact scaling

A product of two scales and a change of scale are exact up to one saturation: the result is the
exact value in whole units of the new scale, rounded down once, or the largest word when that is
smaller.  The single exception is a zero that moves upwards by 128 places or more.  It is pinned like
every other value there, although zero is what the exact value is.

The cores compute on registers: the product of two words has 128 bits, and a move that would shift
bits out of the register is told by its leading zeros before it is made.  A last section says that
this is the same computation, so that nothing overflows on the way.
-/

namespace HarvestTestbed

namespace UFixed

variable {frac rhs out : ℕ}

/-! ## Whole units -/

/-- The whole units in `value * 2 ^ places`. -/
def wholeUnits (value : ℕ) (places : ℤ) : ℕ :=
  ⌊(value : ℚ) * 2 ^ places⌋₊

theorem wholeUnits_natCast (value places : ℕ) : wholeUnits value places = value * 2 ^ places := by
  have hcast : (value : ℚ) * 2 ^ (places : ℤ) = ((value * 2 ^ places : ℕ) : ℚ) := by
    rw [zpow_natCast]
    push_cast
    rfl
  rw [wholeUnits, hcast, Nat.floor_natCast]

theorem wholeUnits_neg (value places : ℕ) : wholeUnits value (-places) = value / 2 ^ places := by
  have hcast : (value : ℚ) * 2 ^ (-places : ℤ) = (value : ℚ) / (2 ^ places : ℕ) := by
    rw [zpow_neg, zpow_natCast, ← div_eq_mul_inv]
    push_cast
    rfl
  rw [wholeUnits, hcast, Nat.floor_div_eq_div]

@[simp]
theorem wholeUnits_zero (places : ℤ) : wholeUnits 0 places = 0 := by
  simp [wholeUnits]

/-- A value that is not zero leaves every word when it moves by 64 places or more. -/
theorem le_wholeUnits {value : ℕ} {places : ℤ} (hvalue : value ≠ 0) (hplaces : 64 ≤ places) :
    UInt64.size ≤ wholeUnits value places := by
  obtain ⟨count, rfl⟩ := Int.eq_ofNat_of_zero_le (show 0 ≤ places by omega)
  rw [wholeUnits_natCast]
  calc
    UInt64.size = 1 * 2 ^ 64 := rfl
    _ ≤ value * 2 ^ count :=
      Nat.mul_le_mul (Nat.one_le_iff_ne_zero.mpr hvalue)
        (Nat.pow_le_pow_right (by decide) (by omega))

/-- A word is the exact value `value * 2 ^ places` up to one saturation. -/
def ExactTo (word : UInt64) (value : ℕ) (places : ℤ) : Prop :=
  word.toNat = min (wholeUnits value places) (UInt64.size - 1)

/-! ## One move of the binary point -/

theorem toNat_shiftSaturating_of_lt {value : ℕ} {shift : ℤ} (hshift : shift < 128) :
    (shiftSaturating value shift).toNat = min (wholeUnits value shift) (UInt64.size - 1) := by
  obtain ⟨count, rfl | rfl⟩ := shift.eq_nat_or_neg
  · rw [shiftSaturating, if_neg (by omega), if_pos (Int.natCast_nonneg count), toNat_clampWord64,
      Nat.shiftLeft_eq, Int.toNat_natCast, wholeUnits_natCast]
  · rw [toNat_shiftSaturating_of_nonpos (by omega), wholeUnits_neg, neg_neg, Int.toNat_natCast]

theorem shiftSaturating_of_le {value : ℕ} {shift : ℤ} (hshift : 128 ≤ shift) :
    shiftSaturating value shift = 0xffffffffffffffff := by
  rw [shiftSaturating, if_pos hshift]

/-- A move is exact unless it takes a zero upwards by 128 places or more. -/
theorem exactTo_shiftSaturating_iff (value : ℕ) (shift : ℤ) :
    ExactTo (shiftSaturating value shift) value shift ↔ value ≠ 0 ∨ shift < 128 := by
  obtain hnear | hfar := lt_or_ge shift 128
  · simp [ExactTo, toNat_shiftSaturating_of_lt hnear, hnear]
  have hlargest : (0xffffffffffffffff : UInt64).toNat = UInt64.size - 1 := rfl
  rw [ExactTo, shiftSaturating_of_le hfar, hlargest]
  constructor
  · intro hexact
    left
    rintro rfl
    rw [wholeUnits_zero] at hexact
    exact absurd hexact (by decide)
  · rintro (hvalue | hnear)
    · have hlarge := le_wholeUnits hvalue (show 64 ≤ shift by omega)
      omega
    · omega

/-! ## Registers -/

/-- The move on a 128-bit register.  A value with too few leading zeros for the move would lose bits;
it is pinned instead of moved. -/
def shiftRegister (register : BitVec 128) (shift : ℤ) : UInt64 :=
  if 0 ≤ shift then
    if 128 ≤ shift ∨ register ≠ 0 ∧ register.clz.toNat < shift then 0xffffffffffffffff
    else clampWord64 (register <<< shift.toNat).toNat
  else if 128 ≤ -shift then 0
  else clampWord64 (register >>> (-shift).toNat).toNat

def widen (word : UInt64) : BitVec 128 :=
  word.toBitVec.setWidth 128

/-- An integer in a 64-bit register, moved upwards by less than 64 places. -/
def shiftWord (word : UInt64) (places : ℕ) : UInt64 :=
  if 0xffffffffffffffff >>> UInt64.ofNat places < word then 0xffffffffffffffff
  else word <<< UInt64.ofNat places

theorem toNat_widen (word : UInt64) : (widen word).toNat = word.toNat := by
  have hlt : word.toNat < 2 ^ 128 := word.toNat_lt.trans (by decide)
  rw [widen, BitVec.toNat_setWidth, UInt64.toNat_toBitVec, Nat.mod_eq_of_lt hlt]

/-- The product of two words fits the register. -/
theorem toNat_widen_mul (left right : UInt64) :
    (widen left * widen right).toNat = left.toNat * right.toNat := by
  have hlt : left.toNat * right.toNat < 2 ^ 128 :=
    calc
      left.toNat * right.toNat < 2 ^ 64 * 2 ^ 64 := Nat.mul_lt_mul'' left.toNat_lt right.toNat_lt
      _ = 2 ^ 128 := rfl
  rw [BitVec.toNat_mul, toNat_widen, toNat_widen, Nat.mod_eq_of_lt hlt]

/-- Too few leading zeros are exactly those with which the move leaves the register. -/
theorem clz_lt_iff {register : BitVec 128} (hregister : register ≠ 0) {places : ℕ}
    (hplaces : places < 128) :
    register.clz.toNat < places ↔ 2 ^ 128 ≤ register.toNat * 2 ^ places := by
  have hlow : 2 ^ (128 - 1 - register.clz.toNat) ≤ register.toNat :=
    BitVec.two_pow_sub_clz_le_toNat_of_ne_zero (by decide) hregister
  have hhigh : register.toNat < 2 ^ (128 - register.clz.toNat) := BitVec.toNat_lt_two_pow_sub_clz
  constructor
  · intro hfew
    calc
      2 ^ 128 ≤ 2 ^ (128 - 1 - register.clz.toNat + places) :=
        Nat.pow_le_pow_right (by decide) (by omega)
      _ = 2 ^ (128 - 1 - register.clz.toNat) * 2 ^ places := Nat.pow_add _ _ _
      _ ≤ register.toNat * 2 ^ places := Nat.mul_le_mul_right _ hlow
  · intro hlost
    by_contra henough
    apply absurd hlost
    rw [Nat.not_le]
    calc
      register.toNat * 2 ^ places < 2 ^ (128 - register.clz.toNat) * 2 ^ places :=
        Nat.mul_lt_mul_of_pos_right hhigh (Nat.two_pow_pos _)
      _ = 2 ^ (128 - register.clz.toNat + places) := (Nat.pow_add _ _ _).symm
      _ ≤ 2 ^ 128 := Nat.pow_le_pow_right (by decide) (by omega)

theorem clampWord64_of_le {value : ℕ} (hvalue : UInt64.size ≤ value) :
    clampWord64 value = 0xffffffffffffffff := by
  apply UInt64.toNat_inj.mp
  rw [toNat_clampWord64, min_eq_right (by omega)]
  rfl

/-- Nothing overflows in the register. -/
theorem shiftRegister_eq (register : BitVec 128) (shift : ℤ) :
    shiftRegister register shift = shiftSaturating register.toNat shift := by
  rw [shiftRegister, shiftSaturating]
  obtain ⟨places, rfl | rfl⟩ := shift.eq_nat_or_neg
  · by_cases hfar : 128 ≤ (places : ℤ)
    · simp [hfar]
    have hplaces : places < 128 := by omega
    by_cases hregister : register = 0
    · simp [hregister, hfar]
    simp only [Int.natCast_nonneg, if_true, hfar, false_or, ne_eq, hregister, not_false_eq_true,
      true_and, if_false, Nat.cast_lt, clz_lt_iff hregister hplaces, Int.toNat_natCast]
    split_ifs with hlost
    · symm
      apply clampWord64_of_le
      rw [Nat.shiftLeft_eq]
      exact le_trans (by decide) hlost
    · rw [BitVec.toNat_shiftLeft, Nat.shiftLeft_eq, Nat.mod_eq_of_lt (Nat.not_le.mp hlost)]
  · obtain rfl | hpos := Nat.eq_zero_or_pos places
    · simp
    have hneg : ¬ 0 ≤ -(places : ℤ) := by omega
    simp only [hneg, if_false, neg_neg, Int.toNat_natCast]
    rw [if_neg (show ¬ 128 ≤ -(places : ℤ) by omega)]
    split_ifs with hfar
    · have hgone : register.toNat >>> places = 0 := by
        rw [Nat.shiftRight_eq_div_pow]
        apply Nat.div_eq_of_lt
        exact register.isLt.trans_le (Nat.pow_le_pow_right (by decide) (by omega))
      rw [hgone]
      rfl
    · rw [BitVec.toNat_ushiftRight]

theorem ofInt_eq_shiftWord (hfrac : frac < 64) (value : UInt64) :
    (ofInt value : UFixed frac).raw = shiftWord value frac := by
  have hplaces : (UInt64.ofNat frac).toNat % 64 = frac := by
    rw [UInt64.toNat_ofNat_of_lt' (hfrac.trans (by decide)), Nat.mod_eq_of_lt hfrac]
  have hlimit : ((0xffffffffffffffff : UInt64) >>> UInt64.ofNat frac).toNat =
      (2 ^ 64 - 1) / 2 ^ frac := by
    rw [UInt64.toNat_shiftRight, hplaces, Nat.shiftRight_eq_div_pow]
    rfl
  have hfits : value.toNat ≤ (2 ^ 64 - 1) / 2 ^ frac ↔ value.toNat * 2 ^ frac ≤ 2 ^ 64 - 1 :=
    Nat.le_div_iff_mul_le (Nat.two_pow_pos _)
  rw [ofInt, shiftWord]
  split_ifs with hlarge
  · rw [UInt64.lt_iff_toNat_lt, hlimit] at hlarge
    apply clampWord64_of_le
    rw [Nat.shiftLeft_eq]
    have hover := mt hfits.mpr hlarge.not_ge
    change 2 ^ 64 ≤ _
    omega
  · rw [UInt64.lt_iff_toNat_lt, hlimit, not_lt, hfits] at hlarge
    apply UInt64.toNat_inj.mp
    rw [toNat_clampWord64, UInt64.toNat_shiftLeft, hplaces, Nat.shiftLeft_eq,
      Nat.mod_eq_of_lt (Nat.lt_of_le_of_lt hlarge (by decide))]
    exact min_eq_left hlarge

/-! ## Scaling -/

/-- How a product delivered with `out` places, the change to `out` places and the fixed-point form of
an integer come out. -/
structure Scales (x : UFixed frac) (y : UFixed rhs) (value : UInt64) (out : ℕ) : Prop where
  product : ExactTo (x.mulInto y out).raw (x.raw.toNat * y.raw.toNat) (out - (frac + rhs)) ↔
    (x ≠ zero ∧ y ≠ zero) ∨ out < frac + rhs + 128
  product_pinned : frac + rhs + 128 ≤ out → x.mulInto y out = largest
  product_register :
    (x.mulInto y out).raw = shiftRegister (widen x.raw * widen y.raw) (out - (frac + rhs))
  rescaled : ExactTo (x.rescale out).raw x.raw.toNat (out - frac) ↔ x ≠ zero ∨ out < frac + 128
  rescaled_pinned : frac + 128 ≤ out → x.rescale out = largest
  rescaled_register : (x.rescale out).raw = shiftRegister (widen x.raw) (out - frac)
  integer : ExactTo (ofInt value : UFixed frac).raw value.toNat frac
  integer_register : frac < 64 → (ofInt value : UFixed frac).raw = shiftWord value frac

theorem toNat_ne_zero_iff (x : UFixed frac) : x.raw.toNat ≠ 0 ↔ x ≠ zero :=
  not_congr (toNat_inj (y := zero))

/-- Products, changes of scale and integers are exact up to one saturation for every word and every
scale, except that a zero that moves upwards by 128 places or more is pinned at the largest word; and
the registers that compute them lose nothing on the way. -/
theorem scales_up_to_saturation (x : UFixed frac) (y : UFixed rhs) (value : UInt64) (out : ℕ) :
    Scales x y value out := by
  constructor
  case product =>
    have hproduct : x.raw.toNat * y.raw.toNat ≠ 0 ↔ x ≠ zero ∧ y ≠ zero := by
      rw [mul_ne_zero_iff, toNat_ne_zero_iff, toNat_ne_zero_iff]
    have hplaces : (out : ℤ) - (frac + rhs) < 128 ↔ out < frac + rhs + 128 := by omega
    rw [mulInto, exactTo_shiftSaturating_iff, hproduct, hplaces]
  case product_pinned =>
    intro hfar
    rw [mulInto, shiftSaturating_of_le (by omega)]
    rfl
  case product_register => rw [mulInto, shiftRegister_eq, toNat_widen_mul]
  case rescaled =>
    have hplaces : (out : ℤ) - frac < 128 ↔ out < frac + 128 := by omega
    rw [rescale, exactTo_shiftSaturating_iff, toNat_ne_zero_iff, hplaces]
  case rescaled_pinned =>
    intro hfar
    rw [rescale, shiftSaturating_of_le (by omega)]
    rfl
  case rescaled_register => rw [rescale, shiftRegister_eq, toNat_widen]
  case integer => rw [ExactTo, toNat_ofInt, wholeUnits_natCast]
  case integer_register => exact fun hfrac => ofInt_eq_shiftWord hfrac value

/-- A zero comes out as the largest word with 200 fractional bits, in a product as well. -/
theorem pinned_zero :
    ¬ ∀ (frac rhs out : ℕ) (x : UFixed frac) (y : UFixed rhs),
      frac ≤ 200 → rhs ≤ 200 → out ≤ 200 →
        ExactTo (x.mulInto y out).raw (x.raw.toNat * y.raw.toNat) (out - (frac + rhs)) ∧
          ExactTo (x.rescale out).raw x.raw.toNat (out - frac) := by
  intro hexact
  have hzero := hexact 0 8 200 zero largest (by decide) (by decide) (by decide)
  rw [mulInto, rescale, exactTo_shiftSaturating_iff, exactTo_shiftSaturating_iff] at hzero
  exact absurd hzero (by decide)

end UFixed

end HarvestTestbed
