import HarvestTestbed.Proofs.RoundCounter
import HarvestTestbed.Proofs.VoltageEnvelope

/-!
# The switches of the output

Two switches look at the storage voltage: one connects the output, the other is the power-good line.
Each has two thresholds, the lower one not above the upper one, and keeps its position while the
voltage is between them.  They are looked at every so many ticks only, and connecting the output
takes charge out of the storage capacitor before the power-good line is looked at.

The converter counts its ticks by a counter that starts again at every check.  Along every run this
counter is the number of ticks since the last reset, modulo the interval of the checks
(`Numbered.run`), so a tick checks the thresholds just if its number is a multiple of the interval.
With that, `switches_run` says for every tick of every run which switches it moves and what it takes
from the storage voltage.
-/

namespace HarvestTestbed

/-! ## A switch with hysteresis -/

/-- The thresholds of a switch that is on at high levels and off at low ones. -/
structure Thresholds where
  upper : UInt32
  lower : UInt32
  lower_le_upper : lower ≤ upper

namespace Thresholds

variable {thresholds : Thresholds} {on : Bool} {level : UInt32}

/-- The position that a level moves a switch to; between the thresholds it stays where it is. -/
def position (thresholds : Thresholds) (on : Bool) (level : UInt32) : Bool :=
  if thresholds.upper ≤ level then true
  else if level < thresholds.lower then false
  else on

theorem position_of_upper_le (hlevel : thresholds.upper ≤ level) :
    thresholds.position on level = true :=
  if_pos hlevel

theorem position_of_lt_lower (hlevel : level < thresholds.lower) :
    thresholds.position on level = false := by
  have hupper : level < thresholds.upper :=
    UInt32.lt_of_lt_of_le hlevel thresholds.lower_le_upper
  rw [position, if_neg (UInt32.not_le.mpr hupper), if_pos hlevel]

/-- Between the thresholds a switch remembers. -/
theorem position_between (hlow : thresholds.lower ≤ level) (hhigh : level < thresholds.upper) :
    thresholds.position on level = on := by
  rw [position, if_neg (UInt32.not_le.mpr hhigh), if_neg (UInt32.not_lt.mpr hlow)]

theorem position_of_lt_upper (hlevel : level < thresholds.upper) :
    thresholds.position false level = false := by
  rw [position, if_neg (UInt32.not_le.mpr hlevel), ite_self]

theorem position_of_lower_le (hlevel : thresholds.lower ≤ level) :
    thresholds.position true level = true := by
  rw [position, if_neg (UInt32.not_lt.mpr hlevel), ite_self]

/-- A switch that is off goes on at the upper threshold and not before. -/
theorem goesOn_iff : thresholds.position false level = true ↔ thresholds.upper ≤ level := by
  refine ⟨fun hon => UInt32.not_lt.mp fun hlow => ?_, position_of_upper_le⟩
  rw [position_of_lt_upper hlow] at hon
  cases hon

/-- A switch that is on goes off below the lower threshold and not before. -/
theorem goesOff_iff : thresholds.position true level = false ↔ level < thresholds.lower := by
  refine ⟨fun hoff => UInt32.not_le.mp fun hhigh => ?_, position_of_lt_lower⟩
  rw [position_of_lower_le hhigh] at hoff
  cases hoff

end Thresholds

/-! ## Accepted parameters -/

namespace ConverterConfig

variable {cfg : ConverterConfig}

/-- What the checks of the switches rely on. -/
structure Switchable (cfg : ConverterConfig) : Prop where
  interval_pos : 0 < cfg.checkInterval.toNat
  output : cfg.outputDisableThreshold ≤ cfg.outputEnableThreshold
  powerGood : cfg.powerGoodDisableThreshold ≤ cfg.powerGoodEnableThreshold

/-- The checks of a parameter block order the thresholds and leave no check interval empty. -/
theorem switchable_of_validate (hvalid : cfg.validate = .ok ()) : cfg.Switchable := by
  cases hcanary : checkCanary cfg.canary with
  | error fault =>
      simp only [validate, hcanary] at hvalid
      cases hvalid
  | ok =>
      simp only [validate, hcanary] at hvalid
      change (if _ then _ else _) = _ at hvalid
      split_ifs at hvalid with hinterval houtput hgood
      refine ⟨Nat.pos_of_ne_zero fun hzero => hinterval (UInt32.toNat_inj.mp hzero), ?_, ?_⟩
      · exact UInt32.not_lt.mp houtput
      · exact UInt32.not_lt.mp hgood

def Switchable.outputThresholds (h : cfg.Switchable) : Thresholds :=
  ⟨cfg.outputEnableThreshold, cfg.outputDisableThreshold, h.output⟩

def Switchable.powerGoodThresholds (h : cfg.Switchable) : Thresholds :=
  ⟨cfg.powerGoodEnableThreshold, cfg.powerGoodDisableThreshold, h.powerGood⟩

end ConverterConfig

namespace Converter

variable {cfg : ConverterConfig} {cal : Calibration} {converter : Converter}
variable {state : ConverterState} {number : ℕ}

/-! ## One check -/

/-- The storage voltage once the output has been looked at: connecting it takes the debit, but
leaves one microvolt. -/
def debitedStorage (cfg : ConverterConfig) (state : ConverterState) : StorageVoltage :=
  if state.outputEnabled = false ∧ cfg.outputEnableThreshold ≤ state.storageLevel then
    max (state.storage - .ofInt cfg.outputEnableDebit.toUInt64) (.ofInt 1)
  else state.storage

/-- Connecting the output takes its debit from the storage but never empties it. -/
theorem toNat_debitedStorage (hoff : state.outputEnabled = false)
    (hupper : cfg.outputEnableThreshold ≤ state.storageLevel) :
    (debitedStorage cfg state).raw.toNat =
      max (state.storage.raw.toNat - cfg.outputEnableDebit.toNat * 2 ^ 32) (2 ^ 32) := by
  rw [debitedStorage, if_pos ⟨hoff, hupper⟩, UFixed.toNat_max, UFixed.toNat_sub,
    UFixed.toNat_ofInt_word, UFixed.toNat_ofInt_one]

/-- The output is a switch over the storage level, with a debit when it goes on. -/
theorem switchOutput_eq (h : cfg.Switchable) (state : ConverterState) :
    switchOutput cfg state = { state with
      outputEnabled := h.outputThresholds.position state.outputEnabled state.storageLevel
      storage := debitedStorage cfg state } := by
  simp only [switchOutput, debitedStorage]
  cases hon : state.outputEnabled with
  | false =>
      simp only [Bool.false_eq_true, if_false, true_and]
      split
      case isTrue hupper => rw [Thresholds.position_of_upper_le hupper]
      case isFalse hupper =>
        rw [Thresholds.position_of_lt_upper (UInt32.not_le.mp hupper), ← hon]
  | true =>
      simp only [if_true, Bool.true_eq_false, false_and, if_false]
      split
      case isTrue hlower => rw [Thresholds.position_of_lt_lower hlower]
      case isFalse hlower =>
        rw [Thresholds.position_of_lower_le (UInt32.not_lt.mp hlower), ← hon]

/-- The power-good line is a switch over the level that is left after the debit. -/
theorem switchPowerGood_eq (h : cfg.Switchable) (state : ConverterState) :
    switchPowerGood cfg state = { state with
      powerGood := h.powerGoodThresholds.position state.powerGood state.storageLevel } := by
  simp only [switchPowerGood]
  split_ifs with hupper hlower
  · rw [Thresholds.position_of_upper_le hupper]
  · rw [Thresholds.position_of_lt_lower hlower]
  · rw [Thresholds.position_between (UInt32.not_lt.mp hlower) (UInt32.not_le.mp hupper)]

/-! ## The number of a tick -/

/-- In the last tick of a check interval both switches are looked at, the output first. -/
theorem checkThresholds_of_check (hpos : 0 < cfg.checkInterval.toNat)
    (hcount : state.checkCounter.toNat = number % cfg.checkInterval.toNat)
    (hcheck : cfg.checkInterval.toNat ∣ number + 1) :
    checkThresholds cfg state =
      switchPowerGood cfg (switchOutput cfg { state with checkCounter := 0 }) := by
  rw [checkThresholds, if_pos ((RoundCounter.interval_le_iff hpos hcount).mpr hcheck)]

/-- In any other tick only the counter moves. -/
theorem checkThresholds_of_no_check (hpos : 0 < cfg.checkInterval.toNat)
    (hcount : state.checkCounter.toNat = number % cfg.checkInterval.toNat)
    (hcheck : ¬ cfg.checkInterval.toNat ∣ number + 1) :
    checkThresholds cfg state = { state with checkCounter := state.checkCounter + 1 } := by
  rw [checkThresholds, if_neg fun hle => hcheck ((RoundCounter.interval_le_iff hpos hcount).mp hle)]

theorem checkCounter_checkThresholds (h : cfg.Switchable)
    (hcount : state.checkCounter.toNat = number % cfg.checkInterval.toNat) :
    (checkThresholds cfg state).checkCounter.toNat = (number + 1) % cfg.checkInterval.toNat := by
  rw [← RoundCounter.toNat_next h.interval_pos hcount]
  simp only [RoundCounter.interval_le_iff h.interval_pos hcount]
  by_cases hcheck : cfg.checkInterval.toNat ∣ number + 1
  · rw [checkThresholds_of_check h.interval_pos hcount hcheck, switchPowerGood_eq h,
      switchOutput_eq h, if_pos hcheck]
  · rw [checkThresholds_of_no_check h.interval_pos hcount hcheck, if_neg hcheck]

/-! ## A tick up to its last phase -/

/-- The first three phases of a tick. -/
def charge (converter : Converter) (voltage current currentRaw : UInt32) : Converter :=
  ((converter.inputPhase voltage current).outputPhase currentRaw).storagePhase

theorem tick_eq (converter : Converter) (voltage current currentRaw : UInt32) :
    converter.tick voltage current currentRaw =
      (converter.charge voltage current currentRaw).outputStage :=
  rfl

/-- What the first three phases leave to the last one. -/
structure SameSwitches (before after : Converter) : Prop where
  cfg : after.cfg = before.cfg
  outputEnabled : after.state.outputEnabled = before.state.outputEnabled
  powerGood : after.state.powerGood = before.state.powerGood
  checkCounter : after.state.checkCounter = before.state.checkCounter

theorem sameSwitches_charge (converter : Converter) (voltage current currentRaw : UInt32) :
    converter.SameSwitches (converter.charge voltage current currentRaw) := by
  simp only [charge, storagePhase, outputPhase]
  split <;> exact ⟨rfl, rfl, rfl, rfl⟩

/-- What a tick does to the switches and, in its last phase, to the storage voltage.  The tick
starts from the state `before`, its first three phases lead to the state `charged`, and its number
counts the ticks since the last reset. -/
structure Switches (cfg : ConverterConfig) (number : ℕ) (before charged after : ConverterState) :
    Prop where
  output_moves : after.outputEnabled ≠ before.outputEnabled → cfg.checkInterval.toNat ∣ number
  powerGood_moves : after.powerGood ≠ before.powerGood → cfg.checkInterval.toNat ∣ number
  connects : before.outputEnabled = false → (after.outputEnabled = true ↔
    cfg.checkInterval.toNat ∣ number ∧ cfg.outputEnableThreshold ≤ charged.storageLevel)
  disconnects : before.outputEnabled = true → (after.outputEnabled = false ↔
    cfg.checkInterval.toNat ∣ number ∧ charged.storageLevel < cfg.outputDisableThreshold)
  debited : before.outputEnabled = false → after.outputEnabled = true →
    after.storage.raw.toNat =
      max (charged.storage.raw.toNat - cfg.outputEnableDebit.toNat * 2 ^ 32) (2 ^ 32)
  undebited : ¬ (before.outputEnabled = false ∧ after.outputEnabled = true) →
    after.storage = charged.storage
  powerGood_set : cfg.checkInterval.toNat ∣ number →
    cfg.powerGoodEnableThreshold ≤ after.storageLevel → after.powerGood = true
  powerGood_cleared : cfg.checkInterval.toNat ∣ number →
    after.storageLevel < cfg.powerGoodDisableThreshold → after.powerGood = false
  powerGood_kept : cfg.checkInterval.toNat ∣ number →
    cfg.powerGoodDisableThreshold ≤ after.storageLevel →
    after.storageLevel < cfg.powerGoodEnableThreshold → after.powerGood = before.powerGood

namespace Switches

variable {before charged after : ConverterState}

/-- Between the checks nothing moves. -/
theorem of_no_check (hcheck : ¬ cfg.checkInterval.toNat ∣ number)
    (houtput : after.outputEnabled = before.outputEnabled)
    (hgood : after.powerGood = before.powerGood) (hstorage : after.storage = charged.storage) :
    Switches cfg number before charged after where
  output_moves hmoves := absurd houtput hmoves
  powerGood_moves hmoves := absurd hgood hmoves
  connects hoff := iff_of_false (by simp [houtput, hoff]) fun hconnects => hcheck hconnects.1
  disconnects hon := iff_of_false (by simp [houtput, hon]) fun hdisconnects =>
    hcheck hdisconnects.1
  debited hoff hon := absurd (hon.symm.trans (houtput.trans hoff)) (by decide)
  undebited _ := hstorage
  powerGood_set hnumber := absurd hnumber hcheck
  powerGood_cleared hnumber := absurd hnumber hcheck
  powerGood_kept hnumber := absurd hnumber hcheck

/-- At a check the output follows the voltage that the first three phases lead to, and the
power-good line the one that is left once the output has been looked at. -/
theorem of_check (h : cfg.Switchable) (hcheck : cfg.checkInterval.toNat ∣ number)
    (hon : charged.outputEnabled = before.outputEnabled)
    (houtput : after.outputEnabled =
      h.outputThresholds.position before.outputEnabled charged.storageLevel)
    (hstorage : after.storage = debitedStorage cfg charged)
    (hgood : after.powerGood =
      h.powerGoodThresholds.position before.powerGood after.storageLevel) :
    Switches cfg number before charged after where
  output_moves _ := hcheck
  powerGood_moves _ := hcheck
  connects hoff := by
    rw [houtput, hoff, Thresholds.goesOn_iff, and_iff_right hcheck]
    rfl
  disconnects hon := by
    rw [houtput, hon, Thresholds.goesOff_iff, and_iff_right hcheck]
    rfl
  debited hoff hafter := by
    rw [houtput, hoff, Thresholds.goesOn_iff] at hafter
    rw [hstorage, toNat_debitedStorage (hon.trans hoff) hafter]
  undebited hstays := by
    rw [hstorage, debitedStorage, if_neg]
    rintro ⟨hoff, hupper⟩
    rw [hon] at hoff
    refine hstays ⟨hoff, ?_⟩
    rw [houtput, hoff]
    exact Thresholds.position_of_upper_le hupper
  powerGood_set _ hupper := hgood.trans (Thresholds.position_of_upper_le hupper)
  powerGood_cleared _ hlower := hgood.trans (Thresholds.position_of_lt_lower hlower)
  powerGood_kept _ hlow hhigh := hgood.trans (Thresholds.position_between hlow hhigh)

end Switches

/-- What is known of a converter of a configuration that has run so many ticks since its last
reset. -/
structure Numbered (cfg : ConverterConfig) (number : ℕ) (converter : Converter) : Prop where
  cfg_eq : converter.cfg = cfg
  count : converter.state.checkCounter.toNat = number % cfg.checkInterval.toNat

theorem Numbered.charge (h : converter.Numbered cfg number) (voltage current currentRaw : UInt32) :
    (converter.charge voltage current currentRaw).Numbered cfg number := by
  have hsame := sameSwitches_charge converter voltage current currentRaw
  refine ⟨hsame.cfg.trans h.cfg_eq, ?_⟩
  rw [hsame.checkCounter, h.count]

theorem Numbered.switches_tick (h : converter.Numbered cfg number) (hcfg : cfg.Switchable)
    (voltage current currentRaw : UInt32) :
    Switches cfg (number + 1) converter.state
      (converter.charge voltage current currentRaw).state
      (converter.tick voltage current currentRaw).state := by
  have hsame := sameSwitches_charge converter voltage current currentRaw
  have hcharged := h.charge voltage current currentRaw
  rw [tick_eq]
  generalize converter.charge voltage current currentRaw = charged at hsame hcharged
  have hcount := hcharged.count
  simp only [outputStage, hcharged.cfg_eq]
  by_cases hcheck : cfg.checkInterval.toNat ∣ number + 1
  · rw [checkThresholds_of_check hcfg.interval_pos hcount hcheck, switchPowerGood_eq hcfg,
      switchOutput_eq hcfg]
    refine .of_check hcfg hcheck hsame.outputEnabled ?_ rfl ?_
    · rw [← hsame.outputEnabled]
      rfl
    · rw [← hsame.powerGood]
      rfl
  · rw [checkThresholds_of_no_check hcfg.interval_pos hcount hcheck]
    exact .of_no_check hcheck hsame.outputEnabled hsame.powerGood rfl

/-- The check counter follows the number of the tick modulo the check interval. -/
theorem Numbered.tick (h : converter.Numbered cfg number) (hcfg : cfg.Switchable)
    (voltage current currentRaw : UInt32) :
    (converter.tick voltage current currentRaw).Numbered cfg (number + 1) := by
  obtain ⟨hcharged, hcount⟩ := h.charge voltage current currentRaw
  refine ⟨hcharged, ?_⟩
  simp only [tick_eq, outputStage, hcharged]
  exact checkCounter_checkThresholds hcfg hcount

theorem numbered_reset (hcfg : converter.cfg = cfg) : converter.reset.Numbered cfg 0 :=
  ⟨hcfg, (Nat.zero_mod _).symm⟩

end Converter

/-! ## Runs -/

/-- The number of ticks since the last reset, once a further call is made. -/
def ConverterCall.count (number : ℕ) : ConverterCall → ℕ
  | .tick _ _ _ => number + 1
  | .inputPhase _ _ => number
  | .reset => 0

/-- The number of ticks of a run since its last reset, or since its start. -/
def ticksSinceReset (calls : List ConverterCall) : ℕ :=
  calls.foldl ConverterCall.count 0

namespace Converter

variable {cfg : ConverterConfig} {cal : Calibration} {converter : Converter} {number : ℕ}

theorem Numbered.call (h : converter.Numbered cfg number) (hcfg : cfg.Switchable)
    (call : ConverterCall) : (converter.call call).Numbered cfg (call.count number) := by
  cases call with
  | tick voltage current currentRaw => exact h.tick hcfg voltage current currentRaw
  | inputPhase voltage current => exact ⟨h.cfg_eq, h.count⟩
  | reset => exact numbered_reset h.cfg_eq

/-- By induction on the calls: a reset starts to count anew. -/
theorem Numbered.run (h : converter.Numbered cfg number) (hcfg : cfg.Switchable)
    (calls : List ConverterCall) :
    (converter.run calls).Numbered cfg (calls.foldl ConverterCall.count number) := by
  induction calls generalizing converter number with
  | nil => exact h
  | cons call calls ih => exact ih (h.call hcfg call)

theorem switchable_of_new (hnew : new cfg cal = .ok converter) : cfg.Switchable := by
  apply ConverterConfig.switchable_of_validate
  cases hvalid : cfg.validate with
  | error fault =>
      simp only [new, hvalid] at hnew
      cases hnew
  | ok => rfl

/-- In every run, whatever is measured, the switches move at the ticks whose number since the last
reset is a multiple of the interval of the checks, and there they follow the storage voltage:
the output the voltage after the first three phases, with a debit just when it is connected, and the
power-good line the voltage that this leaves. -/
theorem switches_run (hnew : new cfg cal = .ok converter) (calls : List ConverterCall)
    (voltage current currentRaw : UInt32) :
    Switches cfg (ticksSinceReset calls + 1) (converter.run calls).state
      ((converter.run calls).charge voltage current currentRaw).state
      ((converter.run calls).tick voltage current currentRaw).state := by
  have hcfg := switchable_of_new hnew
  obtain ⟨-, rfl⟩ := of_new hnew
  have hstart : Numbered cfg 0 (reset ⟨cfg, cal, .initial cfg⟩) := numbered_reset rfl
  exact (hstart.run hcfg calls).switches_tick hcfg voltage current currentRaw

/-- The third tick after a reset connects the output at five volts.  The debit leaves a tenth of a
volt, so the same check takes the power-good line down. -/
theorem switches_run_third :
    let cfg : ConverterConfig :=
      { enableBoost := true, timeConstant := 0xffffffff, storageInit := 2900000,
        checkInterval := 3, outputEnableDebit := 4900000 }
    let converter := reset ⟨cfg, {}, .initial cfg⟩
    let calls : List ConverterCall :=
      [.tick 0 0 0, .tick 0 0 0, .reset, .tick 4000000 50000 0, .inputPhase 0 7,
        .tick 4000000 50000 0]
    let before := (converter.run calls).state
    let charged := ((converter.run calls).charge 4000000 50000 0).state
    let after := ((converter.run calls).tick 4000000 50000 0).state
    new cfg {} = .ok converter ∧ ticksSinceReset calls + 1 = 3 ∧
      Switches cfg (ticksSinceReset calls + 1) before charged after ∧
      (before.outputEnabled, before.powerGood) = (false, true) ∧
      (after.outputEnabled, after.powerGood) = (true, false) ∧
      (charged.storageLevel, after.storageLevel) = (5000000, 100000) := by
  intro cfg converter calls before charged after
  have hnew : new cfg {} = .ok converter := rfl
  exact ⟨hnew, rfl, switches_run hnew calls 4000000 50000 0, by decide +kernel,
    by decide +kernel, by decide +kernel⟩

end Converter

end HarvestTestbed
