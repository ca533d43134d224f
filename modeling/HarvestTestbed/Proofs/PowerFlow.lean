import HarvestTestbed.Proofs.VoltageEnvelope

/-!
# The flow of power through the converter

What the converter does to the power of a tick goes in one direction.  The input phase only takes
away: the drop, the limits, the diode and the resistor lower the voltage and the current, and no
efficiency is above one, so the power that flows in is never more than the power that was harvested.
The storage phase moves the storage voltage up when at least as much flows in as out, and down when
less does: the table division, the saturation and the limits can make the change smaller, even zero,
but never turn it around, because the limits are not on the wrong side of the voltage that they
limit.

The phases of a tick come in their order, but a converter does not keep ticks apart, so the storage
phase is looked at after phases in any order.
-/

namespace HarvestTestbed

/-! ## The input phase -/

theorem ConverterConfig.toNat_inputEfficiencyAt_le (cfg : ConverterConfig)
    (voltage current : UInt32) : (cfg.inputEfficiencyAt voltage current).toNat ≤ 256 := by
  rw [inputEfficiencyAt, UInt8.toNat_toUInt64]
  exact (UInt8.toNat_lt _).le

namespace Converter

variable {cfg : ConverterConfig} {cal : Calibration} {converter : Converter}
variable {state : ConverterState} {storage voltage current : UInt32}

/-- The harvested voltage after the drop of the input diode, within the limit of the input. -/
def limitedVoltage (cfg : ConverterConfig) (voltage : UInt32) : UInt32 :=
  min (Saturating.sub32 voltage cfg.inputDrop) cfg.inputVoltageMax

theorem limitedVoltage_le (cfg : ConverterConfig) (voltage : UInt32) :
    limitedVoltage cfg voltage ≤ voltage :=
  UInt32.le_trans Std.min_le_left (Saturating.sub32_le _ _)

theorem resistorLimit_le (cfg : ConverterConfig) (current headroom : UInt32) :
    resistorLimit cfg current headroom ≤ current := by
  rw [resistorLimit]
  split
  · exact Std.min_le_left
  · exact UInt32.le_refl _

/-- A voltage and a current within those harvested, with an efficiency of at most one. -/
structure Within (voltage current : UInt32) (point : UInt32 × UInt32 × UInt64) : Prop where
  voltage_le : point.1 ≤ voltage
  current_le : point.2.1 ≤ current
  efficiency_le : point.2.2.toNat ≤ 256

theorem within_chargePoint (cfg : ConverterConfig) (storage voltage current : UInt32) :
    Within voltage current (chargePoint cfg storage voltage current) := by
  have hzero : (0 : UInt32) ≤ voltage := UInt32.le_iff_toNat_le.mpr (Nat.zero_le _)
  have hone : unitEfficiency.toNat ≤ 256 := by decide
  rw [chargePoint]
  split_ifs with hboost hbelow hstorage hblocked
  · exact ⟨hzero, UInt32.le_refl _, cfg.toNat_inputEfficiencyAt_le _ _⟩
  · exact ⟨UInt32.le_refl _, UInt32.le_refl _, cfg.toNat_inputEfficiencyAt_le _ _⟩
  · exact ⟨hzero, UInt32.le_refl _, hone⟩
  · exact ⟨UInt32.le_of_lt (UInt32.not_le.mp hblocked), resistorLimit_le _ _ _, hone⟩
  · exact ⟨UInt32.le_refl _, UInt32.le_refl _, hone⟩

/-- No power enters through a diode that blocks. -/
theorem chargePoint_of_blocked (hstorage : cfg.enableStorage = true)
    (hboost : cfg.enableBoost = false) (hblocked : voltage ≤ storage) :
    (chargePoint cfg storage voltage current).1 = 0 := by
  simp [chargePoint, hstorage, hboost, hblocked]

/-- No power enters through a boost regulator that does not operate. -/
theorem chargePoint_of_lt_threshold (hboost : cfg.enableBoost = true)
    (hbelow : voltage < cfg.boostThreshold) :
    (chargePoint cfg storage voltage current).1 = 0 := by
  simp [chargePoint, hboost, hbelow]

/-- The power that flows in is the product of the charge point, saturated once: the product of two
32-bit words always fits. -/
theorem toNat_inputPower (converter : Converter) (voltage current : UInt32) :
    let point := chargePoint converter.cfg converter.state.storageLevel
      (limitedVoltage converter.cfg voltage) (min current converter.cfg.inputCurrentMax)
    (converter.inputPhase voltage current).state.inputPower.raw.toNat =
      min (point.1.toNat * point.2.1.toNat * point.2.2.toNat) (UInt64.size - 1) := by
  intro point
  have hproduct : point.1.toNat * point.2.1.toNat < UInt64.size :=
    Nat.mul_lt_mul'' point.1.toNat_lt point.2.1.toNat_lt
  change (((UFixed.ofInt point.1.toUInt64 : UFixed 0).mulInt point.2.1.toUInt64).mulInto
    (⟨point.2.2⟩ : UFixed 8) 8).raw.toNat = _
  rw [UFixed.toNat_mulInto_of_le (by decide), UFixed.toNat_mulInt,
    UFixed.toNat_ofInt_word_of_le (by decide), UInt32.toNat_toUInt64, pow_zero, mul_one,
    min_eq_left (Nat.le_sub_one_of_lt hproduct)]
  simp

theorem inputPower_eq_zero
    (hpoint : (chargePoint converter.cfg converter.state.storageLevel
      (limitedVoltage converter.cfg voltage) (min current converter.cfg.inputCurrentMax)).1 = 0) :
    (converter.inputPhase voltage current).state.inputPower = .zero := by
  rw [← UFixed.toNat_inj, toNat_inputPower, hpoint]
  simp [UFixed.zero]

/-- Whatever is harvested in whatever state, the input phase creates no power, counted with eight
fractional bits; and none flows in through a diode that blocks, or through a boost regulator that
does not operate. -/
theorem inputPower_le_harvested (converter : Converter) (voltage current : UInt32) :
    let limited := limitedVoltage converter.cfg voltage
    let power := (converter.inputPhase voltage current).state.inputPower
    power.raw.toNat ≤ 256 * voltage.toNat * current.toNat ∧
      (converter.cfg.enableStorage = true → converter.cfg.enableBoost = false →
        (.ofInt limited.toUInt64 : StorageVoltage) ≤ converter.state.storage → power = .zero) ∧
      (converter.cfg.enableBoost = true → limited < converter.cfg.boostThreshold →
        power = .zero) := by
  intro limited power
  refine ⟨?_, fun hstorage hboost hblocked => ?_, fun hboost hbelow => ?_⟩
  · have hwithin := within_chargePoint converter.cfg converter.state.storageLevel limited
      (min current converter.cfg.inputCurrentMax)
    have hvoltage := UInt32.le_trans hwithin.voltage_le (limitedVoltage_le _ _)
    have hcurrent := UInt32.le_trans hwithin.current_le Std.min_le_left
    calc
      power.raw.toNat ≤ _ := (toNat_inputPower converter voltage current).trans_le (min_le_left _ _)
      _ ≤ voltage.toNat * current.toNat * 256 :=
        Nat.mul_le_mul (Nat.mul_le_mul hvoltage hcurrent) hwithin.efficiency_le
      _ = 256 * voltage.toNat * current.toNat := by rw [Nat.mul_comm, ← Nat.mul_assoc]
  · exact inputPower_eq_zero
      (chargePoint_of_blocked hstorage hboost ((UFixed.ofInt_word_le_iff _ _).mp hblocked))
  · exact inputPower_eq_zero (chargePoint_of_lt_threshold hboost hbelow)

/-- Four volts and half a microampere into storage at three volts; a harvested voltage that the drop
brings down to the very voltage of the storage capacitor; and one just short of the threshold of a
boost regulator. -/
theorem inputPower_le_harvested_limits :
    let direct : ConverterConfig := { inputDrop := 300000 }
    let boosted : ConverterConfig := { enableBoost := true, boostThreshold := 500000 }
    let harvested (cfg : ConverterConfig) (voltage : UInt32) : Power :=
      ((reset ⟨cfg, {}, .initial cfg⟩).inputPhase voltage 500).state.inputPower
    (harvested direct 4000000).raw.toNat ≤ 256 * 4000000 * 500 ∧
      (harvested direct 4000000).raw.toNat = 256 * 3000000 * 500 ∧
      harvested direct 3300000 = .zero ∧ harvested boosted 499999 = .zero := by
  intro direct boosted harvested
  have hpower := fun cfg => inputPower_le_harvested (reset ⟨cfg, {}, .initial cfg⟩)
  exact ⟨(hpower direct 4000000 500).1, by decide +kernel,
    (hpower direct 3300000 500).2.1 rfl rfl (by decide),
    (hpower boosted 499999 500).2.2 rfl (by decide)⟩

/-! ## The storage phase -/

/-- As much flowing in as out leaves the storage voltage as it is. -/
theorem balancedStorage_of_eq (hbalance : state.outputPower = state.inputPower) :
    balancedStorage cfg state = state.storage := by
  simp only [balancedStorage, hbalance, le_refl, if_true, UFixed.sub_self, UFixed.zero_divTable,
    UFixed.zero_mulInto (show 32 ≤ 8 + 28 by decide), UFixed.add_zero]
  split
  · exact min_eq_left (le_max_right _ _)
  · rfl

theorem le_balancedStorage (hcharging : state.outputPower ≤ state.inputPower) :
    state.storage ≤ balancedStorage cfg state := by
  simp only [balancedStorage, if_pos hcharging]
  split
  · exact le_min (UFixed.le_add _ _) (le_max_right _ _)
  · exact UFixed.le_add _ _

theorem balancedStorage_le (hdraining : state.inputPower < state.outputPower) :
    balancedStorage cfg state ≤ state.storage := by
  simp only [balancedStorage, if_neg hdraining.not_ge]
  split
  · exact (min_le_left _ _).trans (UFixed.sub_le _ _)
  · exact UFixed.sub_le _ _

/-- Without a boost regulator nothing charges the storage capacitor above the input voltage. -/
theorem balancedStorage_le_max (hboost : cfg.enableBoost = false) :
    balancedStorage cfg state ≤ max state.storage (.ofInt state.inputVoltage.toUInt64) := by
  obtain hdraining | hcharging := lt_or_ge state.inputPower state.outputPower
  · exact (balancedStorage_le hdraining).trans (le_max_left _ _)
  cases hzero : state.inputPower.isZero with
  | false =>
      simp only [balancedStorage, hboost, hzero, Bool.not_false, Bool.and_self, if_true]
      exact (min_le_right _ _).trans (max_comm _ _).le
  | true =>
      -- The input does not limit the voltage then, but there is no power to charge with either.
      have hinput : state.inputPower = .zero := UFixed.isZero_iff.mp hzero
      have hbalance : state.outputPower = state.inputPower :=
        le_antisymm hcharging (hinput ▸ UFixed.zero_le _)
      rw [balancedStorage_of_eq hbalance]
      exact le_max_left _ _

/-- How the storage phase moves the storage voltage. -/
structure Follows (cfg : ConverterConfig) (before after : ConverterState) : Prop where
  charging : before.outputPower ≤ before.inputPower → before.storage ≤ after.storage
  draining : before.inputPower < before.outputPower → after.storage ≤ before.storage
  limited : cfg.enableBoost = false →
    after.storage ≤ max before.storage (.ofInt before.inputVoltage.toUInt64)

/-- The clamp does not turn a change around, since the storage voltage was in its range before. -/
theorem follows_storagePhase (hcfg : converter.cfg = cfg) (hstorage : cfg.enableStorage = true)
    (hrange : cfg.InRange converter.state.storage) :
    Follows cfg converter.state converter.storagePhase.state := by
  have hlow : (.ofInt 1 : StorageVoltage) ≤ converter.state.storage := hrange.ofInt_one_le
  have hhigh : converter.state.storage ≤ .ofInt cfg.storageMax.toUInt64 := hrange.le_ofInt
  subst hcfg
  constructor <;> simp only [storagePhase, hstorage, if_true]
  case charging => exact fun hcharging => UFixed.le_clampTo (le_balancedStorage hcharging) hhigh
  case draining => exact fun hdraining => UFixed.clampTo_le (balancedStorage_le hdraining) hlow
  case limited =>
    intro hboost
    exact UFixed.clampTo_le (balancedStorage_le_max hboost) (hlow.trans (le_max_left _ _))

end Converter

/-! ## Phases in any order -/

/-- One phase of a tick, or a reset. -/
inductive ConverterPhase
  | input (voltage current : UInt32)
  | output (currentRaw : UInt32)
  | storage
  | outputStage
  | reset
  deriving DecidableEq, Repr

def ConverterCall.phases : ConverterCall → List ConverterPhase
  | .tick voltage current currentRaw =>
      [.input voltage current, .output currentRaw, .storage, .outputStage]
  | .inputPhase voltage current => [.input voltage current]
  | .reset => [.reset]

namespace Converter

def phase (converter : Converter) : ConverterPhase → Converter
  | .input voltage current => converter.inputPhase voltage current
  | .output currentRaw => converter.outputPhase currentRaw
  | .storage => converter.storagePhase
  | .outputStage => converter.outputStage
  | .reset => converter.reset

def runPhases (converter : Converter) (phases : List ConverterPhase) : Converter :=
  phases.foldl phase converter

variable {cfg : ConverterConfig} {cal : Calibration} {converter : Converter}

/-- What can be called runs phases, so that phases in any order lead to every state that calls lead
to. -/
theorem run_eq_runPhases (converter : Converter) (calls : List ConverterCall) :
    converter.run calls = converter.runPhases (calls.flatMap ConverterCall.phases) := by
  induction calls generalizing converter with
  | nil => rfl
  | cons call calls ih =>
      have hcall : converter.call call = converter.runPhases call.phases := by
        cases call <;> rfl
      rw [List.flatMap_cons, runPhases, List.foldl_append]
      change (converter.call call).run calls = (converter.runPhases call.phases).runPhases _
      rw [ih, hcall]

/-- What is kept of a converter of a configuration by every phase. -/
structure Stored (cfg : ConverterConfig) (converter : Converter) : Prop where
  cfg_eq : converter.cfg = cfg
  inRange : cfg.InRange converter.state.storage

theorem Stored.phase (h : converter.Stored cfg) (hmax : 0 < cfg.storageMax.toNat)
    (phase : ConverterPhase) : (converter.phase phase).Stored cfg := by
  obtain ⟨rfl, hrange⟩ := h
  cases phase with
  | input voltage current => exact ⟨rfl, hrange⟩
  | output currentRaw =>
      simp only [Converter.phase, outputPhase]
      split <;> exact ⟨rfl, hrange⟩
  | storage => exact ⟨rfl, ConverterConfig.inRange_clampTo hmax _⟩
  | outputStage => exact ⟨rfl, inRange_checkThresholds hrange⟩
  | reset => exact ⟨rfl, (envelope_reset hmax rfl rfl).storage⟩

theorem Stored.runPhases (h : converter.Stored cfg) (hmax : 0 < cfg.storageMax.toNat)
    (phases : List ConverterPhase) : (converter.runPhases phases).Stored cfg := by
  induction phases generalizing converter with
  | nil => exact h
  | cons phase phases ih => exact ih (h.phase hmax phase)

/-- In every state that a converter with a storage capacitor can come to, the storage phase moves
the storage voltage towards the balance of the powers, and without a boost regulator not above the
voltage that the input has in this tick. -/
theorem storagePhase_follows (hnew : new cfg cal = .ok converter)
    (hstorage : cfg.enableStorage = true) (phases : List ConverterPhase) :
    Follows cfg (converter.runPhases phases).state
      (converter.runPhases phases).storagePhase.state := by
  obtain ⟨hmax, rfl⟩ := of_new hnew
  have hstart : Stored cfg (reset ⟨cfg, cal, .initial cfg⟩) :=
    ⟨rfl, (envelope_reset hmax rfl rfl).storage⟩
  obtain ⟨hcfg, hrange⟩ := hstart.runPhases hmax phases
  exact follows_storagePhase hcfg hstorage hrange

/-- A capacitor of one nanofarad just below three volts, after a phase out of turn: the charge of
one tick would lift it far above the input voltage, and it ends up at the input voltage. -/
theorem storagePhase_follows_limited :
    let cfg : ConverterConfig :=
      { timeConstant := HarvestTestbed.timeConstant 10 1, storageInit := 2999990 }
    let converter := reset ⟨cfg, {}, .initial cfg⟩
    let before := converter.runPhases [.outputStage, .input 3000000 10000000, .output 0]
    new cfg {} = .ok converter ∧ cfg.enableStorage = true ∧
      Follows cfg before.state before.storagePhase.state ∧
      before.state.outputPower < before.state.inputPower ∧
      before.storagePhase.state.storage = .ofInt before.state.inputVoltage.toUInt64 := by
  intro cfg converter before
  have hnew : new cfg {} = .ok converter := rfl
  exact ⟨hnew, rfl, storagePhase_follows hnew rfl _, by decide +kernel, by decide +kernel⟩

end Converter

end HarvestTestbed
