import Mathlib.Algebra.Order.Field.Basic
import Mathlib.Data.Rat.Cast.Order
import Mathlib.Tactic.Linarith
import HarvestTestbed.Calibration

/-!
# Round trips through a calibration

A quantity that is converted to a code and back comes out at most as large as it was.  It loses less
than one code and one unit: the first conversion rounds down to a whole code, the second to a whole
unit, and the offset is taken away and added again without loss.  Both channels are the same round
trip, with the two gains exchanged (`thereAndBack`).

No conversion ever turns two values around.
-/

namespace HarvestTestbed

/-! ## Two roundings -/

/-- The units that are left of some units after a conversion at `codes` codes for `units` units, and
the conversion back. -/
def thereAndBack (codes units value : ℕ) : ℕ :=
  value * codes / units * units / codes

theorem thereAndBack_le (codes units value : ℕ) : thereAndBack codes units value ≤ value := by
  apply Nat.div_le_of_le_mul
  rw [mul_comm codes]
  exact Nat.div_mul_le_self _ _

/-- Less than one code and one unit are lost. -/
theorem lt_thereAndBack {codes units : ℕ} (hcodes : 0 < codes) (hunits : 0 < units) (value : ℕ) :
    (value : ℚ) - thereAndBack codes units value < units / codes + 1 := by
  have hcode : value * codes < value * codes / units * units + units :=
    Nat.lt_div_mul_add hunits
  have hunit : value * codes / units * units < thereAndBack codes units value * codes + codes :=
    Nat.lt_div_mul_add hcodes
  have hboth : value * codes < (thereAndBack codes units value + 1) * codes + units := by
    rw [Nat.add_mul, Nat.one_mul]
    omega
  have hpos : (0 : ℚ) < codes := Nat.cast_pos.mpr hcodes
  have hcast : (value : ℚ) * codes < (thereAndBack codes units value + 1) * codes + units := by
    exact_mod_cast hboth
  rw [← sub_lt_iff_lt_add, lt_div_iff₀ hpos]
  linarith

/-- A value that a conversion to codes of so many units brings back: it is not above the value, and
less than one code and one unit below. -/
structure ComesBack (code : ℚ) (back value : UInt32) : Prop where
  le : back ≤ value
  lt : (value.toNat : ℚ) - back.toNat < code + 1

/-- A conversion that turns no two words around. -/
def Rising (convert : UInt32 → UInt32) : Prop :=
  ∀ low high, low ≤ high → convert low ≤ convert high

/-! ## Clamps -/

theorem toNat_clampSigned32 (value : ℤ) :
    (clampSigned32 value).toNat = min value.toNat (UInt32.size - 1) :=
  toNat_clampWord32 _

theorem clampSigned32_le {low high : ℤ} (h : low ≤ high) :
    clampSigned32 low ≤ clampSigned32 high :=
  clampWord32_le (Int.toNat_le_toNat h)

/-- The units above an offset, brought back and clamped. -/
theorem comesBack_clamp {codes units : ℕ} (hcodes : 0 < codes) (hunits : 0 < units)
    {offset : ℤ} {value : UInt32} (hoffset : offset ≤ value.toNat) :
    ComesBack (units / codes)
      (clampSigned32 (thereAndBack codes units (value.toNat - offset).toNat + offset)) value := by
  have hvalue : value.toNat < UInt32.size := value.toNat_lt
  have habove : ((value.toNat - offset : ℤ).toNat : ℤ) = value.toNat - offset :=
    Int.toNat_of_nonneg (by omega)
  have hle := thereAndBack_le codes units (value.toNat - offset : ℤ).toNat
  have hlt := lt_thereAndBack hcodes hunits (value.toNat - offset : ℤ).toNat
  generalize thereAndBack codes units (value.toNat - offset : ℤ).toNat = back at *
  have hback : (clampSigned32 (back + offset)).toNat = (back + offset : ℤ).toNat := by
    rw [toNat_clampSigned32]
    omega
  constructor
  · rw [UInt32.le_iff_toNat_le, hback]
    omega
  · -- The clamp at zero can only raise the value that came back.
    have hloss : (value.toNat : ℤ) - (back + offset : ℤ).toNat ≤
        (value.toNat - offset : ℤ).toNat - back := by omega
    rw [hback]
    calc
      (value.toNat : ℚ) - (back + offset : ℤ).toNat ≤
          (value.toNat - offset : ℤ).toNat - back := by exact_mod_cast hloss
      _ < units / codes + 1 := hlt

/-! ## Input channels -/

namespace AdcCalibration

/-- The reading that a quantity would produce if there were no largest word. -/
def unlimitedRaw (cal : AdcCalibration) (si : UInt32) : ℕ :=
  ((si.toNat - cal.offset.toInt : ℤ).toNat <<< gainBits) / max cal.gain.toNat 1

variable {cal : AdcCalibration}

/-- A greater quantity never gives a smaller reading. -/
theorem rising_siToRaw : Rising cal.siToRaw := by
  intro low high h
  rw [UInt32.le_iff_toNat_le] at h
  apply clampWord32_le
  apply Nat.div_le_div_right
  rw [Nat.shiftLeft_eq, Nat.shiftLeft_eq]
  exact Nat.mul_le_mul_right _ (Int.toNat_le_toNat (by omega))

theorem rising_rawToSi : Rising cal.rawToSi := by
  intro low high h
  rw [UInt32.le_iff_toNat_le] at h
  have hscaled : (low.toNat * cal.gain.toNat) >>> gainBits ≤
      (high.toNat * cal.gain.toNat) >>> gainBits := by
    rw [Nat.shiftRight_eq_div_pow, Nat.shiftRight_eq_div_pow]
    exact Nat.div_le_div_right (Nat.mul_le_mul_right _ h)
  apply clampSigned32_le
  omega

/-- A quantity above the offset whose reading fits a word loses less than one
reading's worth of units. -/
theorem comesBack_siToRaw (hgain : cal.gain ≠ 0) {si : UInt32}
    (hoffset : cal.offset.toInt ≤ si.toNat) (hfits : cal.unlimitedRaw si < UInt32.size) :
    ComesBack (cal.gain.toNat / 2 ^ gainBits) (cal.rawToSi (cal.siToRaw si)) si := by
  have hpos : 0 < cal.gain.toNat :=
    UInt32.lt_iff_toNat_lt.mp (UInt32.pos_iff_ne_zero.mpr hgain)
  have hraw : (cal.siToRaw si).toNat = cal.unlimitedRaw si := by
    rw [siToRaw, toNat_clampWord32]
    exact min_eq_left (Nat.le_sub_one_of_lt hfits)
  have hback := comesBack_clamp (Nat.two_pow_pos gainBits) hpos hoffset
  rw [rawToSi, hraw, unlimitedRaw, max_eq_left hpos, Nat.shiftLeft_eq, Nat.shiftRight_eq_div_pow]
  push_cast at hback
  exact hback

end AdcCalibration

/-! ## Output channels -/

namespace DacCalibration

variable {cal : DacCalibration}

theorem toNat_voltageToRaw (cal : DacCalibration) (voltage : UInt32) :
    (cal.voltageToRaw voltage).toNat =
      min ((voltage.toNat - cal.offset.toInt : ℤ).toNat * cal.inverseGain.toNat / 2 ^ gainBits)
        maxDacCode := by
  rw [voltageToRaw, Nat.shiftRight_eq_div_pow]
  exact UInt32.toNat_ofNat_of_lt' (lt_of_le_of_lt (min_le_right _ _) (by decide))

theorem rising_voltageToRaw : Rising cal.voltageToRaw := by
  intro low high h
  rw [UInt32.le_iff_toNat_le] at h
  rw [UInt32.le_iff_toNat_le, toNat_voltageToRaw, toNat_voltageToRaw]
  apply min_le_min_right
  apply Nat.div_le_div_right
  exact Nat.mul_le_mul_right _ (Int.toNat_le_toNat (by omega))

theorem rising_rawToVoltage : Rising cal.rawToVoltage := by
  intro low high h
  rw [UInt32.le_iff_toNat_le] at h
  have hscaled : (low.toNat <<< gainBits) / max cal.inverseGain.toNat 1 ≤
      (high.toNat <<< gainBits) / max cal.inverseGain.toNat 1 := by
    rw [Nat.shiftLeft_eq, Nat.shiftLeft_eq]
    exact Nat.div_le_div_right (Nat.mul_le_mul_right _ h)
  apply clampSigned32_le
  omega

/-- A voltage above the offset that is not cut off loses less than one code's worth of units. -/
theorem comesBack_voltageToRaw (hgain : cal.inverseGain ≠ 0) {voltage : UInt32}
    (hoffset : cal.offset.toInt ≤ voltage.toNat)
    (hcode : (cal.voltageToRaw voltage).toNat < maxDacCode) :
    ComesBack (2 ^ gainBits / cal.inverseGain.toNat) (cal.rawToVoltage (cal.voltageToRaw voltage))
      voltage := by
  have hpos : 0 < cal.inverseGain.toNat :=
    UInt32.lt_iff_toNat_lt.mp (UInt32.pos_iff_ne_zero.mpr hgain)
  have hraw := toNat_voltageToRaw cal voltage
  rw [hraw, min_lt_iff, or_iff_left (lt_irrefl _)] at hcode
  rw [min_eq_left hcode.le] at hraw
  have hback := comesBack_clamp hpos (Nat.two_pow_pos gainBits) hoffset
  rw [rawToVoltage, hraw, max_eq_left hpos, Nat.shiftLeft_eq]
  push_cast at hback
  exact hback

end DacCalibration

/-! ## Both channels -/

/-- With gains that are not zero, whatever the offsets: a quantity from the offset on whose reading is
not limited, and a voltage from the offset on whose code is not the largest, come back at most as large
and less than one code and one unit smaller; and none of the four conversions turns two words
around. -/
theorem comesBack_calibrated (adc : AdcCalibration) (dac : DacCalibration) (hadc : adc.gain ≠ 0)
    (hdac : dac.inverseGain ≠ 0) :
    (∀ si : UInt32, adc.offset.toInt ≤ si.toNat → adc.unlimitedRaw si < UInt32.size →
      ComesBack (adc.gain.toNat / 2 ^ 20) (adc.rawToSi (adc.siToRaw si)) si) ∧
    (∀ voltage : UInt32, dac.offset.toInt ≤ voltage.toNat →
      (dac.voltageToRaw voltage).toNat < 0xffff →
      ComesBack (2 ^ 20 / dac.inverseGain.toNat) (dac.rawToVoltage (dac.voltageToRaw voltage))
        voltage) ∧
    Rising adc.rawToSi ∧ Rising adc.siToRaw ∧ Rising dac.voltageToRaw ∧ Rising dac.rawToVoltage :=
  ⟨fun _ hoffset hfits => AdcCalibration.comesBack_siToRaw hadc hoffset hfits,
    fun _ hoffset hcode => DacCalibration.comesBack_voltageToRaw hdac hoffset hcode,
    AdcCalibration.rising_rawToSi, AdcCalibration.rising_siToRaw,
    DacCalibration.rising_voltageToRaw, DacCalibration.rising_rawToVoltage⟩

/-- The largest gain with a negative offset, and the default output channel with a positive one: both
lose nearly a whole code, the quantity down to the clamp at zero. -/
theorem comesBack_calibrated_odd :
    let adc : AdcCalibration := { gain := 4294967295, offset := -3 }
    let dac : DacCalibration := { offset := 1000 }
    ComesBack (4294967295 / 2 ^ 20) (adc.rawToSi (adc.siToRaw 4092)) 4092 ∧
      ComesBack (2 ^ 20 / 13744) (dac.rawToVoltage (dac.voltageToRaw 1076)) 1076 ∧
      adc.rawToSi (adc.siToRaw 4092) = 0 ∧ dac.rawToVoltage (dac.voltageToRaw 1076) = 1000 := by
  intro adc dac
  have hback := comesBack_calibrated adc dac (by decide) (by decide)
  exact ⟨hback.1 4092 (by decide) (by decide), hback.2.1 1076 (by decide) (by decide), by decide,
    by decide⟩

end HarvestTestbed
