import HarvestTestbed.Converter.Model
import HarvestTestbed.Proofs.FixedPoint

/-!
# The voltage envelope of the converter

Power arithmetic saturates, divisions go through a table, the input limits the charge and switching
on debits the storage capacitor, but none of this can take the storage voltage out of its range:
the storage phase clamps whatever was computed, and the debit stops at the same lower bound.  The
output is read off the storage voltage at the end of every tick and of every reset, and a first
phase on its own touches neither of them.
-/

namespace HarvestTestbed

theorem DacCalibration.toNat_voltageToRaw_le (cal : DacCalibration) (voltage : UInt32) :
    (cal.voltageToRaw voltage).toNat ≤ maxDacCode := by
  have hcode : maxDacCode < UInt32.size := by decide
  rw [voltageToRaw, UInt32.toNat_ofNat_of_lt' (by omega)]
  exact Nat.min_le_right _ _

/-! ## The storage voltage -/

/-- A storage voltage between one microvolt and the maximum, with the fractional bits counted. -/
structure ConverterConfig.InRange (cfg : ConverterConfig) (storage : StorageVoltage) : Prop where
  low : 2 ^ 32 ≤ storage.raw.toNat
  high : storage.raw.toNat ≤ cfg.storageMax.toNat * 2 ^ 32

namespace ConverterConfig

variable {cfg : ConverterConfig}

/-- A usable parameter block leaves room for some voltage. -/
theorem storageMax_of_validate (hvalid : cfg.validate = .ok ()) : 0 < cfg.storageMax.toNat := by
  have hne : cfg.storageMax ≠ 0 := by
    intro hzero
    simp only [validate, hzero] at hvalid
    cases hcanary : checkCanary cfg.canary <;> simp only [hcanary] at hvalid
    · cases hvalid
    · change (if _ then _ else _) = _ at hvalid
      split_ifs at hvalid
  exact Nat.pos_of_ne_zero fun hzero => hne (UInt32.toNat_inj.mp hzero)

/-- The clamp at the end of the storage phase bounds the voltage on both sides. -/
theorem inRange_clampTo (hmax : 0 < cfg.storageMax.toNat) (storage : StorageVoltage) :
    cfg.InRange (storage.clampTo (.ofInt 1) (.ofInt cfg.storageMax.toUInt64)) := by
  have hlow := UFixed.toNat_ofInt_one
  have hhigh : (UFixed.ofInt cfg.storageMax.toUInt64 : StorageVoltage).raw.toNat =
      cfg.storageMax.toNat * 2 ^ 32 := UFixed.toNat_ofInt_word _
  rw [UFixed.clampTo]
  split
  · exact ⟨by omega, by omega⟩
  · rename_i habove
    rw [UFixed.lt_iff_toNat] at habove
    split
    · exact ⟨by omega, by omega⟩
    · rename_i hbelow
      rw [UFixed.lt_iff_toNat] at hbelow
      exact ⟨by omega, by omega⟩

theorem InRange.ofInt_one_le {storage : StorageVoltage} (h : cfg.InRange storage) :
    .ofInt 1 ≤ storage := by
  rw [UFixed.le_iff_toNat, UFixed.toNat_ofInt_one]
  exact h.low

theorem InRange.le_ofInt {storage : StorageVoltage} (h : cfg.InRange storage) :
    storage ≤ .ofInt cfg.storageMax.toUInt64 := by
  rw [UFixed.le_iff_toNat, UFixed.toNat_ofInt_word]
  exact h.high

/-- A debit stops at the lower bound. -/
theorem InRange.debit {storage : StorageVoltage} (h : cfg.InRange storage)
    (debit : StorageVoltage) : cfg.InRange (max (storage - debit) (.ofInt 1)) := by
  have hlow := UFixed.toNat_ofInt_one
  have hsub := UFixed.toNat_sub storage debit
  obtain ⟨habove, hbelow⟩ := h
  constructor <;> rw [UFixed.toNat_max] <;> omega

end ConverterConfig

namespace Converter

variable {cfg : ConverterConfig}

/-- The debit leaves at least a microvolt. -/
theorem inRange_switchOutput {state : ConverterState} (h : cfg.InRange state.storage) :
    cfg.InRange (switchOutput cfg state).storage := by
  simp only [switchOutput]
  split
  · split <;> exact h
  · split
    · exact h.debit _
    · exact h

theorem storage_switchPowerGood (cfg : ConverterConfig) (state : ConverterState) :
    (switchPowerGood cfg state).storage = state.storage := by
  rw [switchPowerGood]
  split
  · rfl
  · split <;> rfl

theorem inRange_checkThresholds {state : ConverterState} (h : cfg.InRange state.storage) :
    cfg.InRange (checkThresholds cfg state).storage := by
  simp only [checkThresholds]
  split
  · rw [storage_switchPowerGood]
    exact inRange_switchOutput h
  · exact h

/-! ## The output voltage -/

/-- The target never sees more than is stored. -/
theorem visibleVoltage_le_storageLevel (cfg : ConverterConfig) (state : ConverterState) :
    visibleVoltage cfg state ≤ state.storageLevel := by
  have hdrop := Saturating.sub32_le state.storageLevel cfg.buckDrop
  simp only [visibleVoltage]
  split
  · split
    · exact UInt32.le_trans Std.min_le_left hdrop
    · exact hdrop
  · exact UInt32.le_iff_toNat_le.mpr (Nat.zero_le _)

/-- With a buck regulator it sees no more than the output voltage. -/
theorem visibleVoltage_le_outputVoltage (hbuck : cfg.enableBuck = true) (state : ConverterState) :
    visibleVoltage cfg state ≤ cfg.outputVoltage := by
  simp only [visibleVoltage, if_pos hbuck]
  split
  · exact Std.min_le_right
  · exact UInt32.le_iff_toNat_le.mpr (Nat.zero_le _)

/-! ## The envelope -/

/-- What holds of a converter of a configuration and a calibration whenever it is called. -/
structure Envelope (cfg : ConverterConfig) (cal : Calibration) (converter : Converter) :
    Prop where
  cfg_eq : converter.cfg = cfg
  cal_eq : converter.cal = cal
  storage : cfg.InRange converter.state.storage
  output_le_storage : converter.state.outputVoltage ≤ converter.state.storageLevel
  output_le_buck : cfg.enableBuck = true → converter.state.outputVoltage ≤ cfg.outputVoltage
  output_disabled : converter.state.outputEnabled = false → converter.state.outputVoltage = 0
  code : converter.state.outputCode = cal.dacVoltage.voltageToRaw converter.state.outputVoltage
  code_le : converter.state.outputCode ≤ 0xffff

variable {cal : Calibration} {converter : Converter}

/-- Once the storage voltage is in its range, the output shown is within the envelope. -/
theorem envelope_refreshOutput (hcfg : converter.cfg = cfg) (hcal : converter.cal = cal)
    (hstorage : cfg.InRange converter.state.storage) :
    converter.refreshOutput.Envelope cfg cal := by
  subst hcfg hcal
  constructor
  case cfg_eq => rfl
  case cal_eq => rfl
  case storage => exact hstorage
  case output_le_storage => exact visibleVoltage_le_storageLevel _ _
  case output_le_buck => exact fun hbuck => visibleVoltage_le_outputVoltage hbuck _
  case output_disabled =>
    intro hdisabled
    have hoff : converter.state.outputEnabled = false := hdisabled
    simp [refreshOutput, visibleVoltage, hoff]
  case code => rfl
  case code_le => exact UInt32.le_iff_toNat_le.mpr (DacCalibration.toNat_voltageToRaw_le _ _)

theorem envelope_reset (hmax : 0 < cfg.storageMax.toNat) (hcfg : converter.cfg = cfg)
    (hcal : converter.cal = cal) : converter.reset.Envelope cfg cal := by
  have hstorage : cfg.InRange (ConverterState.initial cfg).storage := by
    simp only [ConverterState.initial]
    exact ConverterConfig.inRange_clampTo hmax _
  subst hcfg
  exact envelope_refreshOutput rfl hcal hstorage

/-- A converter is created by a reset, and only with a storage maximum above zero. -/
theorem of_new (hnew : new cfg cal = .ok converter) :
    0 < cfg.storageMax.toNat ∧ converter = reset ⟨cfg, cal, .initial cfg⟩ := by
  simp only [new] at hnew
  cases hvalid : cfg.validate with
  | error fault => rw [hvalid] at hnew; cases hnew
  | ok =>
      cases hcal : cal.validate with
      | error fault => rw [hvalid, hcal] at hnew; cases hnew
      | ok =>
          rw [hvalid, hcal] at hnew
          exact ⟨ConverterConfig.storageMax_of_validate hvalid, (Except.ok.inj hnew).symm⟩

namespace Envelope

/-- A first phase on its own changes neither the storage voltage nor the output. -/
theorem inputPhase (h : converter.Envelope cfg cal) (voltage current : UInt32) :
    (converter.inputPhase voltage current).Envelope cfg cal where
  cfg_eq := h.cfg_eq
  cal_eq := h.cal_eq
  storage := h.storage
  output_le_storage := h.output_le_storage
  output_le_buck := h.output_le_buck
  output_disabled := h.output_disabled
  code := h.code
  code_le := h.code_le

/-- Step lemma: the last two phases keep what the clamp has established. -/
theorem tick (h : converter.Envelope cfg cal) (hmax : 0 < cfg.storageMax.toNat)
    (voltage current currentRaw : UInt32) :
    (converter.tick voltage current currentRaw).Envelope cfg cal := by
  have hdrawn : ((converter.inputPhase voltage current).outputPhase currentRaw).cfg = cfg ∧
      ((converter.inputPhase voltage current).outputPhase currentRaw).cal = cal := by
    simp only [outputPhase]
    split <;> exact ⟨h.cfg_eq, h.cal_eq⟩
  rw [Converter.tick]
  generalize (converter.inputPhase voltage current).outputPhase currentRaw = drawn at hdrawn
  obtain ⟨rfl, hcal⟩ := hdrawn
  exact envelope_refreshOutput rfl hcal
    (inRange_checkThresholds (ConverterConfig.inRange_clampTo hmax _))

end Envelope

end Converter

/-! ## Runs -/

inductive ConverterCall
  | tick (voltage current currentRaw : UInt32)
  /-- A first phase that no other phase follows. -/
  | inputPhase (voltage current : UInt32)
  | reset
  deriving DecidableEq, Repr

namespace Converter

def call (converter : Converter) : ConverterCall → Converter
  | .tick voltage current currentRaw => converter.tick voltage current currentRaw
  | .inputPhase voltage current => converter.inputPhase voltage current
  | .reset => converter.reset

def run (converter : Converter) (calls : List ConverterCall) : Converter :=
  calls.foldl call converter

variable {cfg : ConverterConfig} {cal : Calibration} {converter : Converter}

theorem Envelope.call (h : converter.Envelope cfg cal) (hmax : 0 < cfg.storageMax.toNat)
    (call : ConverterCall) : (converter.call call).Envelope cfg cal := by
  cases call with
  | tick voltage current currentRaw => exact h.tick hmax voltage current currentRaw
  | inputPhase voltage current => exact h.inputPhase voltage current
  | reset => exact envelope_reset hmax h.cfg_eq h.cal_eq

/-- Run lemma, by induction on the calls. -/
theorem Envelope.run (h : converter.Envelope cfg cal) (hmax : 0 < cfg.storageMax.toNat)
    (calls : List ConverterCall) : (converter.run calls).Envelope cfg cal := by
  induction calls generalizing converter with
  | nil => exact h
  | cons call calls ih => exact ih (h.call hmax call)

/-- Whatever is measured, in whatever order a converter is called, it keeps within its envelope. -/
theorem envelope_run (hnew : new cfg cal = .ok converter) (calls : List ConverterCall) :
    (converter.run calls).Envelope cfg cal := by
  obtain ⟨hmax, rfl⟩ := of_new hnew
  have hstart : Envelope cfg cal (reset ⟨cfg, cal, .initial cfg⟩) := envelope_reset hmax rfl rfl
  exact hstart.run hmax calls

/-- A converter with a buck regulator that switches on, is drained, and switches off again. -/
theorem envelope_run_drained :
    let cfg : ConverterConfig :=
      { enableBuck := true, outputEnableDebit := 100000, timeConstant := 0xffffffff }
    let converter := reset ⟨cfg, {}, .initial cfg⟩
    let calls : List ConverterCall :=
      [.tick 0xffffffff 0xffffffff 0, .inputPhase 0 7, .tick 0 0 0xffffffff, .reset, .tick 0 0 1]
    new cfg {} = .ok converter ∧ (converter.run calls).Envelope cfg {} :=
  ⟨rfl, envelope_run rfl _⟩

end Converter

end HarvestTestbed
