import HarvestTestbed.Proofs.TableDivision
import HarvestTestbed.Proofs.PowerFlow

/-!
# The order of table division

Table division is off by up to a four hundredth, but never in a way that turns an order around.
Divisors of one power of two are in the order of their buckets, and the entries fall from bucket to
bucket.  From one power of two to the next the entry jumps up again, by less than the factor of two
that the unit grows by: even the first entry is at most twice the last one.  So the reciprocal of a
larger divisor is no larger (`tableReciprocal_mul_le`), and the final shift, which drops a fraction,
keeps that (`tableQuotient_le_tableQuotient`).

The converter divides twice: a headroom by the series resistor, and the balance of the powers by the
storage voltage.  Either way the current is no larger when the divisor is larger.
-/

namespace HarvestTestbed

/-! ## Reciprocals -/

variable {smaller larger : ℕ}

theorem bucket_le_of_inBucket {exponent bucket other : ℕ} (hle : smaller ≤ larger)
    (hsmaller : InBucket smaller exponent bucket) (hlarger : InBucket larger exponent other) :
    bucket ≤ other := by
  have hlt : (256 + bucket) * 2 ^ exponent < (257 + other) * 2 ^ exponent :=
    calc
      (256 + bucket) * 2 ^ exponent ≤ 256 * smaller := hsmaller.1
      _ ≤ 256 * larger := Nat.mul_le_mul_left _ hle
      _ < (257 + other) * 2 ^ exponent := hlarger.2
  have hbucket : 256 + bucket < 257 + other := Nat.lt_of_mul_lt_mul_right hlt
  omega

theorem reciprocalEntry_antitone : Antitone reciprocalEntry := by
  intro bucket other hle
  rw [reciprocalEntry_eq, reciprocalEntry_eq]
  apply Nat.div_le_div_left
  · omega
  · omega

/-- No entry of the table is more than twice another one. -/
theorem reciprocalEntry_le_two_mul (bucket : ℕ) {other : ℕ} (hother : other < 256) :
    reciprocalEntry bucket ≤ 2 * reciprocalEntry other :=
  calc
    reciprocalEntry bucket ≤ reciprocalEntry 0 := reciprocalEntry_antitone (Nat.zero_le _)
    _ ≤ 2 * reciprocalEntry 255 := by decide
    _ ≤ 2 * reciprocalEntry other :=
      Nat.mul_le_mul_left _ (reciprocalEntry_antitone (Nat.le_of_lt_succ hother))

/-- The unit at least doubles from one power of two to the next. -/
theorem two_mul_tableUnit_le (hlt : smaller.log2 < larger.log2) :
    2 * tableUnit smaller ≤ tableUnit larger :=
  calc
    2 * tableUnit smaller = 2 ^ (31 + smaller.log2 + 1) := (pow_succ' _ _).symm
    _ ≤ tableUnit larger := Nat.pow_le_pow_right (by decide) (by omega)

/-- The reciprocal of a larger divisor is no larger, each in its own unit. -/
theorem tableReciprocal_mul_le (hsmaller : smaller ≠ 0) (hle : smaller ≤ larger) :
    tableReciprocal larger * tableUnit smaller ≤ tableReciprocal smaller * tableUnit larger := by
  have hlarger : larger ≠ 0 := by omega
  have hlog : smaller.log2 ≤ larger.log2 :=
    (Nat.le_log2 hlarger).mpr ((Nat.log2_self_le hsmaller).trans hle)
  obtain hsame | hlonger := hlog.eq_or_lt
  · -- Within a power of two the unit is the same, and the buckets are in order.
    have hbucket := inBucket_mantissaBucket hsmaller
    rw [hsame] at hbucket
    rw [tableUnit, tableUnit, hsame]
    apply Nat.mul_le_mul_right
    rw [tableReciprocal, tableReciprocal, hsame]
    apply reciprocalEntry_antitone
    exact bucket_le_of_inBucket hle hbucket (inBucket_mantissaBucket hlarger)
  · -- Across powers of two the entry may double, but so does the unit.
    calc
      tableReciprocal larger * tableUnit smaller ≤
          2 * tableReciprocal smaller * tableUnit smaller :=
        Nat.mul_le_mul_right _ (reciprocalEntry_le_two_mul _ (mantissaBucket_lt _ _))
      _ = tableReciprocal smaller * (2 * tableUnit smaller) := by
        rw [mul_comm 2, mul_assoc]
      _ ≤ tableReciprocal smaller * tableUnit larger :=
        Nat.mul_le_mul_left _ (two_mul_tableUnit_le hlonger)

/-! ## Quotients -/

/-- More divided by less gives no less. -/
theorem tableQuotient_le_tableQuotient {few many : ℕ} (hnumerator : few ≤ many)
    (hsmaller : smaller ≠ 0) (hle : smaller ≤ larger) :
    tableQuotient few larger ≤ tableQuotient many smaller := by
  have hquotient := (tableQuotient_bounds few larger).1
  apply (Nat.le_div_iff_mul_le (tableUnit_pos smaller)).mpr
  apply Nat.le_of_mul_le_mul_right _ (tableUnit_pos larger)
  calc
    tableQuotient few larger * tableUnit smaller * tableUnit larger =
        tableQuotient few larger * tableUnit larger * tableUnit smaller := mul_right_comm _ _ _
    _ ≤ few * tableReciprocal larger * tableUnit smaller := Nat.mul_le_mul_right _ hquotient
    _ = few * (tableReciprocal larger * tableUnit smaller) := mul_assoc _ _ _
    _ ≤ many * (tableReciprocal smaller * tableUnit larger) :=
      Nat.mul_le_mul hnumerator (tableReciprocal_mul_le hsmaller hle)
    _ = many * tableReciprocal smaller * tableUnit larger := (mul_assoc _ _ _).symm

theorem divideByTable_le_divideByTable {few many : UInt64} {smaller larger : UInt32}
    (hnumerator : few ≤ many) (hdivisor : smaller ≤ larger) :
    divideByTable few larger ≤ divideByTable many smaller := by
  have hpositive : max smaller.toNat 1 ≤ max larger.toNat 1 :=
    max_le_max_right 1 (UInt32.le_iff_toNat_le.mp hdivisor)
  rw [UInt64.le_iff_toNat_le, toNat_divideByTable, toNat_divideByTable]
  apply tableQuotient_le_tableQuotient (UInt64.le_iff_toNat_le.mp hnumerator) _ hpositive
  omega

theorem UFixed.divTable_le_divTable {frac : ℕ} {x y : UFixed frac} {smaller larger : UInt32}
    (hle : x ≤ y) (hdivisor : smaller ≤ larger) : x.divTable larger ≤ y.divTable smaller :=
  divideByTable_le_divideByTable hle hdivisor

/-! ## Currents of the converter -/

namespace Converter

variable {cfg : ConverterConfig} {converter : Converter} {state : ConverterState}

/-- A resistor of zero is none, so the least resistor lets every current through. -/
theorem resistorLimit_le_resistorLimit {smaller larger low high : UInt32} (current : UInt32)
    (hresistor : smaller ≤ larger) (hheadroom : low ≤ high) :
    resistorLimit { cfg with inputResistor := larger } current low ≤
      resistorLimit { cfg with inputResistor := smaller } current high := by
  by_cases hsmaller : 0 < smaller
  · have hlarger : 0 < larger := UInt32.lt_of_lt_of_le hsmaller hresistor
    have hlimit : ((UFixed.ofInt low.toUInt64 : UFixed 0).divTable larger).toWord32 ≤
        ((UFixed.ofInt high.toUInt64 : UFixed 0).divTable smaller).toWord32 := by
      apply UFixed.toWord32_le_toWord32
      exact UFixed.divTable_le_divTable (UFixed.ofInt_word_le_ofInt_word hheadroom) hresistor
    rw [resistorLimit, resistorLimit, if_pos hlarger, if_pos hsmaller]
    exact Std.le_min_iff.mpr ⟨Std.min_le_left, UInt32.le_trans Std.min_le_right hlimit⟩
  · have hnone : resistorLimit { cfg with inputResistor := smaller } current high = current :=
      if_neg hsmaller
    rw [hnone]
    exact resistorLimit_le _ _ _

/-- The current through the input diode into the storage capacitor, where there is no boost
regulator. -/
def diodeCurrent (cfg : ConverterConfig) (storage voltage current : UInt32) : UInt32 :=
  if voltage ≤ storage then 0 else resistorLimit cfg current (voltage - storage)

/-- Without boost the power that flows in is that of the diode current at the storage voltage. -/
theorem toNat_inputPower_direct (hstorage : converter.cfg.enableStorage = true)
    (hboost : converter.cfg.enableBoost = false) (voltage current : UInt32) :
    (converter.inputPhase voltage current).state.inputPower.raw.toNat =
      min (converter.state.storageLevel.toNat *
        (diodeCurrent converter.cfg converter.state.storageLevel
          (limitedVoltage converter.cfg voltage)
          (min current converter.cfg.inputCurrentMax)).toNat * 256) (UInt64.size - 1) := by
  rw [toNat_inputPower, chargePoint, diodeCurrent, hboost, hstorage]
  by_cases hblocked : limitedVoltage converter.cfg voltage ≤ converter.state.storageLevel
  · simp [hblocked]
  · simp [hblocked, unitEfficiency]

theorem diodeCurrent_le_diodeCurrent {smaller larger lower higher : UInt32}
    (hresistor : smaller ≤ larger) (hstorage : lower ≤ higher) (voltage current : UInt32) :
    diodeCurrent { cfg with inputResistor := larger } higher voltage current ≤
      diodeCurrent { cfg with inputResistor := smaller } lower voltage current := by
  rw [diodeCurrent, diodeCurrent]
  split_ifs with hhigher hlower hlower
  · exact UInt32.le_refl _
  · exact UInt32.zero_le
  · exact absurd (UInt32.le_trans hlower hstorage) hhigher
  · have hhigh : higher ≤ voltage := UInt32.le_of_lt (UInt32.not_le.mp hhigher)
    have hheadroom : voltage - higher ≤ voltage - lower := by
      rw [UInt32.le_iff_toNat_le, UInt32.toNat_sub_of_le _ _ hhigh,
        UInt32.toNat_sub_of_le _ _ (UInt32.le_trans hstorage hhigh)]
      exact Nat.sub_le_sub_left (UInt32.le_iff_toNat_le.mp hstorage) _
    exact resistorLimit_le_resistorLimit current hresistor hheadroom

/-- A larger resistor lets in no more power. -/
theorem inputPower_le_inputPower {smaller larger : UInt32} (hstorage : cfg.enableStorage = true)
    (hboost : cfg.enableBoost = false) (hresistor : smaller ≤ larger) (cal : Calibration)
    (state : ConverterState) (voltage current : UInt32) :
    let fitted (resistor : UInt32) : Converter :=
      ⟨{ cfg with inputResistor := resistor }, cal, state⟩
    ((fitted larger).inputPhase voltage current).state.inputPower ≤
      ((fitted smaller).inputPhase voltage current).state.inputPower := by
  intro fitted
  have hcurrent : diodeCurrent (fitted larger).cfg state.storageLevel
      (limitedVoltage cfg voltage) (min current cfg.inputCurrentMax) ≤
      diodeCurrent (fitted smaller).cfg state.storageLevel
        (limitedVoltage cfg voltage) (min current cfg.inputCurrentMax) :=
    diodeCurrent_le_diodeCurrent hresistor (UInt32.le_refl _) _ _
  rw [UFixed.le_iff_toNat, toNat_inputPower_direct hstorage hboost,
    toNat_inputPower_direct hstorage hboost]
  apply min_le_min_right
  apply Nat.mul_le_mul_right
  apply Nat.mul_le_mul_left
  exact UInt32.le_iff_toNat_le.mp hcurrent

/-- The current at which the storage phase balances the powers. -/
def balanceCurrent (state : ConverterState) : UFixed 8 :=
  let difference :=
    if state.outputPower ≤ state.inputPower then state.inputPower - state.outputPower
    else state.outputPower - state.inputPower
  difference.divTable (max state.storageLevel 1)

/-- The storage voltage moves by the charge of this current, up to the limit of the input. -/
theorem balancedStorage_eq (cfg : ConverterConfig) (state : ConverterState) :
    balancedStorage cfg state =
      let change : StorageVoltage :=
        (balanceCurrent state).mulInto (⟨cfg.timeConstant.toUInt64⟩ : UFixed 28) 32
      let next :=
        if state.outputPower ≤ state.inputPower then state.storage + change
        else state.storage - change
      if !cfg.enableBoost && !state.inputPower.isZero then
        min next (max (.ofInt state.inputVoltage.toUInt64) state.storage)
      else next :=
  rfl

theorem balanceCurrent_le_balanceCurrent {lower higher : StorageVoltage} (hle : lower ≤ higher) :
    balanceCurrent { state with storage := higher } ≤
      balanceCurrent { state with storage := lower } := by
  have hlevel : max lower.toWord32 1 ≤ max higher.toWord32 1 := by
    rw [UInt32.le_iff_toNat_le, UInt32.toNat_max, UInt32.toNat_max]
    exact max_le_max_right _ (UInt32.le_iff_toNat_le.mp (UFixed.toWord32_le_toWord32 hle))
  exact UFixed.divTable_le_divTable le_rfl hlevel

/-- What flows in above what flows out raises a higher storage voltage by no more. -/
theorem rise_le_rise {lower higher : StorageVoltage}
    (hcharging : state.outputPower ≤ state.inputPower) (hle : lower ≤ higher) :
    balancedStorage cfg { state with storage := higher } - higher ≤
      balancedStorage cfg { state with storage := lower } - lower := by
  have hcurrent : balanceCurrent { state with storage := higher } ≤
      balanceCurrent { state with storage := lower } := balanceCurrent_le_balanceCurrent hle
  have hchange := UFixed.mulInto_le_mulInto (show 32 ≤ 8 + 28 by decide) hcurrent
    ⟨cfg.timeConstant.toUInt64⟩
  rw [UFixed.le_iff_toNat] at hle hchange ⊢
  simp only [balancedStorage_eq, if_pos hcharging, UFixed.toNat_sub]
  split
  · simp only [UFixed.toNat_min, UFixed.toNat_max, UFixed.toNat_add]
    omega
  · simp only [UFixed.toNat_add]
    omega

end Converter

/-- Table division keeps the order of the numerators and turns that of the divisors around.  So
neither a larger resistor nor a higher storage voltage lets a larger current through the input
diode, and powers that are not in balance make no larger current at a higher storage voltage. -/
theorem tableDivision_ordered :
    (∀ (few many : UInt64) (divisor : UInt32), few ≤ many →
      divideByTable few divisor ≤ divideByTable many divisor) ∧
    (∀ (numerator : UInt64) (smaller larger : UInt32), smaller ≤ larger →
      divideByTable numerator larger ≤ divideByTable numerator smaller) ∧
    (∀ (cfg : ConverterConfig) (smaller larger lower higher voltage current : UInt32),
      smaller ≤ larger → lower ≤ higher →
        Converter.diodeCurrent { cfg with inputResistor := larger } higher voltage current ≤
          Converter.diodeCurrent { cfg with inputResistor := smaller } lower voltage current) ∧
    (∀ (state : ConverterState) (lower higher : StorageVoltage), lower ≤ higher →
      Converter.balanceCurrent { state with storage := higher } ≤
        Converter.balanceCurrent { state with storage := lower }) := by
  refine ⟨?numerators, ?divisors, ?resistors, ?storage⟩
  case numerators =>
    intro few many divisor hle
    exact divideByTable_le_divideByTable hle (UInt32.le_refl divisor)
  case divisors =>
    intro numerator smaller larger hle
    exact divideByTable_le_divideByTable (UInt64.le_refl numerator) hle
  case resistors =>
    intro cfg smaller larger lower higher voltage current hresistor hstorage
    exact Converter.diodeCurrent_le_diodeCurrent hresistor hstorage voltage current
  case storage =>
    intro state lower higher hle
    exact Converter.balanceCurrent_le_balanceCurrent hle

/-- From the last divisor below a power of two to the power itself, where the table starts anew: as
a plain divisor, as a resistor and as a storage voltage.  All three quotients fall. -/
theorem tableDivision_ordered_next_power :
    let cfg : ConverterConfig := {}
    let charging : ConverterState :=
      { ConverterState.initial cfg with inputPower := ⟨384000000000⟩ }
    let diode (resistor storage : UInt32) : UInt32 :=
      Converter.diodeCurrent { cfg with inputResistor := resistor } storage 4000000 1000000
    let balance (storage : StorageVoltage) : UFixed 8 :=
      Converter.balanceCurrent { charging with storage := storage }
    ((1000000000 : UInt64) ≤ 1000000512 ∧
      divideByTable 1000000000 511 ≤ divideByTable 1000000512 511) ∧
    ((511 : UInt32) ≤ 512 ∧ divideByTable 1000000000 512 ≤ divideByTable 1000000000 511 ∧
      divideByTable 1000000000 512 ≠ divideByTable 1000000000 511) ∧
    ((3000000 : UInt32) ≤ 3000001 ∧ diode 512 3000001 ≤ diode 511 3000000 ∧
      diode 512 3000001 ≠ diode 511 3000000) ∧
    ((.ofInt 4194303 : StorageVoltage) ≤ .ofInt 4194304 ∧
      balance (.ofInt 4194304) ≤ balance (.ofInt 4194303) ∧
      balance (.ofInt 4194304) ≠ balance (.ofInt 4194303)) := by
  intro cfg charging diode balance
  obtain ⟨hnumerators, hdivisors, hresistors, hstorage⟩ := tableDivision_ordered
  have hvoltage : (.ofInt 4194303 : StorageVoltage) ≤ .ofInt 4194304 := by decide
  refine ⟨⟨by decide, ?_⟩, ⟨by decide, ?_, by decide⟩, ⟨by decide, ?_, by decide +kernel⟩,
    hvoltage, ?_, by decide +kernel⟩
  · exact hnumerators 1000000000 1000000512 511 (by decide)
  · exact hdivisors 1000000000 511 512 (by decide)
  · exact hresistors cfg 511 512 3000000 3000001 4000000 1000000 (by decide) (by decide)
  · exact hstorage charging (.ofInt 4194303) (.ofInt 4194304) hvoltage

end HarvestTestbed
