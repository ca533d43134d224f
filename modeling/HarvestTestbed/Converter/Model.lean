import HarvestTestbed.Converter.Config
import HarvestTestbed.Calibration

/-!
# The virtual converter

A harvesting front-end charges a storage capacitor that supplies the target through an optional
regulator with a hysteretic switch.  One sample tick runs four phases in order:

* the input phase computes the power that flows in,
* the output phase the power drawn by the target and by leakage,
* the storage phase integrates the balance into the storage voltage,
* the output stage evaluates the thresholds and the voltage shown to the target.

Powers are in femtowatts with eight fractional bits, the storage voltage in microvolts with
thirty-two.
-/

namespace HarvestTestbed

/-- Power in femtowatts. -/
abbrev Power := UFixed 8

/-- Storage voltage in microvolts. -/
abbrev StorageVoltage := UFixed 32

/-- The part of the converter that changes from tick to tick. -/
structure ConverterState where
  inputPower : Power
  outputPower : Power
  storage : StorageVoltage
  /-- Input voltage after drop and limits, before it is pulled down to storage. -/
  inputVoltage : UInt32
  outputEnabled : Bool
  outputVoltage : UInt32
  outputCode : UInt32
  powerGood : Bool
  startupDrainLeft : UInt32
  checkCounter : UInt32
  deriving DecidableEq, Repr, Inhabited

namespace ConverterState

/-- The integer part of the storage voltage. -/
def storageLevel (state : ConverterState) : UInt32 :=
  state.storage.toWord32

/-- The state before the first tick, with the output still dark. -/
def initial (cfg : ConverterConfig) : ConverterState :=
  let storage : StorageVoltage :=
    (UFixed.ofInt cfg.storageInit.toUInt64).clampTo (.ofInt 1) (.ofInt cfg.storageMax.toUInt64)
  { inputPower := .zero
    outputPower := .zero
    storage := storage
    inputVoltage := 0
    outputEnabled := cfg.outputEnableThreshold ≤ storage.toWord32
    outputVoltage := 0
    outputCode := 0
    powerGood := cfg.powerGoodEnableThreshold ≤ storage.toWord32
    startupDrainLeft := cfg.startupDrainDelay
    checkCounter := 0 }

end ConverterState

/-- What the caller applies to the target after a tick. -/
structure ConverterOutput where
  voltage : UInt32
  code : UInt32
  powerGood : Bool
  deriving DecidableEq, Repr, Inhabited

structure Converter where
  cfg : ConverterConfig
  cal : Calibration
  state : ConverterState
  deriving DecidableEq, Repr

namespace Converter

def visibleVoltage (cfg : ConverterConfig) (state : ConverterState) : UInt32 :=
  if state.outputEnabled then
    let voltage := Saturating.sub32 state.storageLevel cfg.buckDrop
    if cfg.enableBuck then min voltage cfg.outputVoltage else voltage
  else 0

def refreshOutput (converter : Converter) : Converter :=
  let voltage := visibleVoltage converter.cfg converter.state
  { converter with
    state := { converter.state with
      outputVoltage := voltage
      outputCode := converter.cal.dacVoltage.voltageToRaw voltage } }

/-- Returns to the initial state and restarts the startup delay. -/
def reset (converter : Converter) : Converter :=
  { converter with state := .initial converter.cfg }.refreshOutput

def new (cfg : ConverterConfig) (cal : Calibration) : Except Fault Converter := do
  cfg.validate
  cal.validate
  return reset ⟨cfg, cal, .initial cfg⟩

/-- The charge current that the series resistor lets through without boost. -/
def resistorLimit (cfg : ConverterConfig) (current headroom : UInt32) : UInt32 :=
  if 0 < cfg.inputResistor then
    min current (((UFixed.ofInt headroom.toUInt64 : UFixed 0).divTable cfg.inputResistor).toWord32)
  else current

/-- The voltage and current that enter the product of the input phase, with the efficiency. -/
def chargePoint (cfg : ConverterConfig) (storage voltage current : UInt32) :
    UInt32 × UInt32 × UInt64 :=
  if cfg.enableBoost then
    let voltage := if voltage < cfg.boostThreshold then 0 else voltage
    (voltage, current, cfg.inputEfficiencyAt voltage current)
  else if cfg.enableStorage then
    if voltage ≤ storage then (0, current, unitEfficiency)
    else (storage, resistorLimit cfg current (voltage - storage), unitEfficiency)
  else (voltage, current, unitEfficiency)

/-- First phase: the power flowing in from a harvested voltage and current. -/
def inputPhase (converter : Converter) (voltage current : UInt32) : Converter :=
  let cfg := converter.cfg
  let limited := min (Saturating.sub32 voltage cfg.inputDrop) cfg.inputVoltageMax
  let point := chargePoint cfg converter.state.storageLevel limited (min current cfg.inputCurrentMax)
  let product := (UFixed.ofInt point.1.toUInt64 : UFixed 0).mulInt point.2.1.toUInt64
  { converter with
    state := { converter.state with
      inputVoltage := limited
      inputPower := product.mulInto (⟨point.2.2⟩ : UFixed 8) 8 } }

/-- Second phase: the power drawn by the target, from the raw output current reading, and by
leakage. -/
def outputPhase (converter : Converter) (currentRaw : UInt32) : Converter :=
  let cfg := converter.cfg
  let state := converter.state
  let current := converter.cal.adcCurrent.rawToSi currentRaw
  let product := (UFixed.ofInt state.outputVoltage.toUInt64 : UFixed 0).mulInt current.toUInt64
  let load : Power := product.mulInto (⟨cfg.outputInverseEfficiencyAt current⟩ : UFixed 8) 8
  let leak := (UFixed.ofInt state.storage.toInt : UFixed 0).mulInt cfg.leakCurrent.toUInt64
  if 0 < state.startupDrainLeft then
    { converter with
      state := { state with
        startupDrainLeft := state.startupDrainLeft - 1
        outputPower := .zero } }
  else
    { converter with state := { state with outputPower := load + leak.rescale 8 } }

/-- The storage voltage after a tick, before it is clamped to its range. -/
def balancedStorage (cfg : ConverterConfig) (state : ConverterState) : StorageVoltage :=
  let old := state.storage
  let charging := state.outputPower ≤ state.inputPower
  let difference :=
    if charging then state.inputPower - state.outputPower
    else state.outputPower - state.inputPower
  let current := difference.divTable (max old.toWord32 1)
  let change : StorageVoltage := current.mulInto (⟨cfg.timeConstant.toUInt64⟩ : UFixed 28) 32
  let next := if charging then old + change else old - change
  if !cfg.enableBoost && !state.inputPower.isZero then
    min next (max (.ofInt state.inputVoltage.toUInt64) old)
  else next

/-- Third phase: integrates the power balance into the storage voltage. -/
def storagePhase (converter : Converter) : Converter :=
  let cfg := converter.cfg
  let state := converter.state
  let next : StorageVoltage :=
    if cfg.enableStorage then balancedStorage cfg state
    else .ofInt state.inputVoltage.toUInt64
  { converter with
    state := { state with
      storage := next.clampTo (.ofInt 1) (.ofInt cfg.storageMax.toUInt64) } }

/-- Switches the output with hysteresis; switching on debits the storage voltage. -/
def switchOutput (cfg : ConverterConfig) (state : ConverterState) : ConverterState :=
  if state.outputEnabled then
    if state.storageLevel < cfg.outputDisableThreshold then
      { state with outputEnabled := false }
    else state
  else if cfg.outputEnableThreshold ≤ state.storageLevel then
    let debit : StorageVoltage := .ofInt cfg.outputEnableDebit.toUInt64
    { state with outputEnabled := true, storage := max (state.storage - debit) (.ofInt 1) }
  else state

def switchPowerGood (cfg : ConverterConfig) (state : ConverterState) : ConverterState :=
  if cfg.powerGoodEnableThreshold ≤ state.storageLevel then { state with powerGood := true }
  else if state.storageLevel < cfg.powerGoodDisableThreshold then { state with powerGood := false }
  else state

/-- Counts the tick and evaluates the thresholds when their interval is over. -/
def checkThresholds (cfg : ConverterConfig) (state : ConverterState) : ConverterState :=
  let count := state.checkCounter + 1
  if cfg.checkInterval ≤ count then
    switchPowerGood cfg (switchOutput cfg { state with checkCounter := 0 })
  else { state with checkCounter := count }

/-- Fourth phase: thresholds, power-good line and output voltage. -/
def outputStage (converter : Converter) : Converter :=
  { converter with state := checkThresholds converter.cfg converter.state }.refreshOutput

def output (converter : Converter) : ConverterOutput :=
  { voltage := converter.state.outputVoltage
    code := converter.state.outputCode
    powerGood := converter.state.powerGood }

def tick (converter : Converter) (voltage current currentRaw : UInt32) : Converter :=
  (((converter.inputPhase voltage current).outputPhase currentRaw).storagePhase).outputStage

end Converter

end HarvestTestbed
