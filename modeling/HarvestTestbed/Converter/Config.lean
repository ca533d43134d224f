import HarvestTestbed.Number.Reciprocal
import HarvestTestbed.Fault

/-!
# Parameters of the virtual converter

The converter charges a storage capacitor from the harvester and supplies the target from it.
Voltages are in microvolts and currents in nanoamperes.  Efficiencies are tabulated over
logarithmic buckets of voltage and current.
-/

namespace HarvestTestbed

def tableSize : Nat := 12

/-- The unit efficiency, eight fractional bits. -/
def unitEfficiency : UInt64 := 256

/-- Sample period divided by storage capacitance, with 28 fractional bits. -/
def timeConstant (samplePeriod capacitance : UInt32) : UInt32 :=
  clampWord32 ((samplePeriod.toNat <<< 28) / max capacitance.toNat 1)

structure ConverterConfig where
  /-- Without storage the output follows the input voltage directly. -/
  enableStorage : Bool := true
  /-- With the boost regulator the input voltage is not limited by the storage voltage. -/
  enableBoost : Bool := false
  /-- With the buck regulator the output is limited to `outputVoltage`. -/
  enableBuck : Bool := false
  /-- The number of ticks after a start during which no output power is drawn. -/
  startupDrainDelay : UInt32 := 0
  inputVoltageMax : UInt32 := 10000000
  inputCurrentMax : UInt32 := 50000000
  /-- Forward drop of the input diode. -/
  inputDrop : UInt32 := 0
  /-- Series resistor that limits the charge current without boost; zero disables it. -/
  inputResistor : UInt32 := 0
  /-- The boost regulator needs at least this input voltage. -/
  boostThreshold : UInt32 := 0
  /-- Sample period over capacitance, 28 fractional bits. -/
  timeConstant : UInt32 := HarvestTestbed.timeConstant 10 10000
  storageInit : UInt32 := 3000000
  storageMax : UInt32 := 5000000
  leakCurrent : UInt32 := 0
  outputEnableThreshold : UInt32 := 3000000
  outputDisableThreshold : UInt32 := 2300000
  /-- The voltage that the output capacitor takes from storage when the output switches on. -/
  outputEnableDebit : UInt32 := 0
  /-- Thresholds are checked every this many ticks. -/
  checkInterval : UInt32 := 1
  powerGoodEnableThreshold : UInt32 := 2800000
  powerGoodDisableThreshold : UInt32 := 2400000
  outputVoltage : UInt32 := 3300000
  buckDrop : UInt32 := 0
  inputVoltageOffset : UInt32 := 17
  inputCurrentOffset : UInt32 := 10
  outputCurrentOffset : UInt32 := 10
  /-- Input efficiency by voltage bucket and current bucket, eight fractional bits. -/
  inputEfficiency : Vector (Vector UInt8 tableSize) tableSize := .replicate _ (.replicate _ 230)
  /-- Inverse output efficiency by current bucket, eight fractional bits. -/
  outputInverseEfficiency : Vector UInt32 tableSize := .replicate _ 256
  canary : UInt32 := canaryWord
  deriving DecidableEq, Repr

/-- The logarithmic bucket of a value, at most the last one. -/
def tableBucket (value offset : UInt32) : Fin tableSize :=
  let level := (value.toNat >>> min offset.toNat 31).log2
  ⟨min level (tableSize - 1), Nat.lt_of_le_of_lt (Nat.min_le_right _ _) (by decide)⟩

namespace ConverterConfig

instance : Inhabited ConverterConfig := ⟨{}⟩

/-- A usable parameter block, checked in this order. -/
def validate (cfg : ConverterConfig) : Except Fault Unit := do
  checkCanary cfg.canary
  if cfg.checkInterval = 0 then
    .error (.invalidConfig .zeroCheckInterval)
  else if cfg.outputEnableThreshold < cfg.outputDisableThreshold then
    .error (.invalidConfig .outputThresholds)
  else if cfg.powerGoodEnableThreshold < cfg.powerGoodDisableThreshold then
    .error (.invalidConfig .powerGoodThresholds)
  else if cfg.storageMax = 0 then
    .error (.invalidConfig .zeroStorageMaximum)
  else if 32 ≤ cfg.inputVoltageOffset ∨ 32 ≤ cfg.inputCurrentOffset ∨
      32 ≤ cfg.outputCurrentOffset then
    .error (.invalidConfig .tableOffsets)

def inputEfficiencyAt (cfg : ConverterConfig) (voltage current : UInt32) : UInt64 :=
  let row := cfg.inputEfficiency[tableBucket voltage cfg.inputVoltageOffset]
  row[tableBucket current cfg.inputCurrentOffset].toUInt64

def outputInverseEfficiencyAt (cfg : ConverterConfig) (current : UInt32) : UInt64 :=
  cfg.outputInverseEfficiency[tableBucket current cfg.outputCurrentOffset].toUInt64

end ConverterConfig

end HarvestTestbed
