import HarvestTestbed.Config.Session
import HarvestTestbed.Toml.Document

/-!
# Configuration texts

A configuration is written as a TOML document.  A structure is a table, or an array of its fields
in order; a time in its place reads as a structure without fields.  Fields that are not written
take their defaults, names that are not known are ignored, and elements beyond the last field as
well.  A value of a wrong kind or out of range makes the whole text unreadable, before anything is
validated.
-/

namespace HarvestTestbed

open Toml (Node Entries)

namespace Toml.Node

def natBelow? (limit : Nat) : Node → Option Nat
  | .integer value => if 0 ≤ value ∧ value < limit then some value.toNat else none
  | _ => none

def word8? (node : Node) : Option UInt8 :=
  (node.natBelow? UInt8.size).map UInt8.ofNat

def word32? (node : Node) : Option UInt32 :=
  (node.natBelow? UInt32.size).map UInt32.ofNat

def word64? (node : Node) : Option UInt64 :=
  (node.natBelow? UInt64.size).map UInt64.ofNat

def signed32? : Node → Option Int32
  | .integer value => if -0x80000000 ≤ value ∧ value ≤ 0x7fffffff then some (Int32.ofInt value) else none
  | _ => none

def boolean? : Node → Option Bool
  | .boolean value => some value
  | _ => none

def string? : Node → Option String
  | .string text => some text
  | _ => none

/-- The elements of an array, however it was written. -/
def items? : Node → Option (List Node)
  | .array items => some items
  | .tables rows => some (rows.map (.table .headed))
  | _ => none

def isEmpty : Node → Bool
  | .array items => items.isEmpty
  | .table _ entries => entries.isEmpty
  | .tables rows => rows.isEmpty
  | _ => false

/-- One of several keywords: as text, or as the name of an empty table or array. -/
def keyword? {α : Type} (ofKeyword? : String → Option α) : Node → Option α
  | .string text => ofKeyword? text
  | .table _ [(name, content)] => if content.isEmpty then ofKeyword? name else none
  | _ => none

/-- A fixed number of elements; surplus ones are ignored. -/
def vector? {α : Type} (count : Nat) (read : Node → Option α) (node : Node) :
    Option (Vector α count) := do
  let elements ← ((← node.items?).take count).mapM read
  if h : elements.length = count then some ⟨elements.toArray, by simpa using h⟩ else none

def fields? (names : List String) : Node → Option Entries
  | .table _ entries => some entries
  | .time => some []
  | node => node.items?.map fun items => names.zip items

end Toml.Node

namespace Toml.Entries

def field {α : Type} (entries : Entries) (name : String) (read : Node → Option α) (default : α) :
    Option α :=
  match entries.get? name with
  | some node => read node
  | none => some default

def required {α : Type} (entries : Entries) (name : String) (read : Node → Option α) : Option α :=
  (entries.get? name).bind read

end Toml.Entries

namespace DevicePaths

def ofNode? (node : Node) : Option DevicePaths := do
  let base : DevicePaths := {}
  let fields ← node.fields? ["device", "size_path"]
  return {
    device := ← fields.field "device" Node.string? base.device
    sizeAttribute := ← fields.field "size_path" Node.string? base.sizeAttribute }

end DevicePaths

namespace SyncConfig

def ofNode? (node : Node) : Option SyncConfig := do
  let base : SyncConfig := {}
  let fields ← node.fields? ["period_ns", "tick_ns", "samples_per_period", "spin_window_ns"]
  return {
    period := ← fields.field "period_ns" Node.word64? base.period
    tick := ← fields.field "tick_ns" Node.word64? base.tick
    samplesPerPeriod := ← fields.field "samples_per_period" Node.word32? base.samplesPerPeriod
    spinWindow := ← fields.field "spin_window_ns" Node.word64? base.spinWindow }

end SyncConfig

namespace CacheConfig

def ofNode? (node : Node) : Option CacheConfig := do
  let base : CacheConfig := {}
  let fields ← node.fields? ["enabled", "blocks", "block_samples"]
  return {
    enabled := ← fields.field "enabled" Node.boolean? base.enabled
    blocks := ← fields.field "blocks" Node.word8? base.blocks
    blockSamples := ← fields.field "block_samples" Node.word32? base.blockSamples }

end CacheConfig

namespace ConverterConfig

def fieldNames : List String :=
  ["enable_storage", "enable_boost", "enable_buck", "interval_startup_delay_drain_n",
    "V_input_max_uV", "I_input_max_nA", "V_input_drop_uV", "R_input_kOhm",
    "V_input_boost_threshold_uV", "Constant_us_per_nF_n28", "V_intermediate_init_uV",
    "V_intermediate_max_uV", "I_intermediate_leak_nA", "V_enable_output_threshold_uV",
    "V_disable_output_threshold_uV", "dV_enable_output_uV", "interval_check_thresholds_n",
    "V_pwr_good_enable_threshold_uV", "V_pwr_good_disable_threshold_uV", "V_output_uV",
    "V_buck_drop_uV", "LUT_input_V_min_log2_uV", "LUT_input_I_min_log2_nA",
    "LUT_output_I_min_log2_nA", "LUT_inp_efficiency_n8", "LUT_out_inv_efficiency_n8", "canary"]

def ofNode? (node : Node) : Option ConverterConfig := do
  let base : ConverterConfig := {}
  let fields ← node.fields? fieldNames
  return {
    enableStorage := ← fields.field "enable_storage" Node.boolean? base.enableStorage
    enableBoost := ← fields.field "enable_boost" Node.boolean? base.enableBoost
    enableBuck := ← fields.field "enable_buck" Node.boolean? base.enableBuck
    startupDrainDelay :=
      ← fields.field "interval_startup_delay_drain_n" Node.word32? base.startupDrainDelay
    inputVoltageMax := ← fields.field "V_input_max_uV" Node.word32? base.inputVoltageMax
    inputCurrentMax := ← fields.field "I_input_max_nA" Node.word32? base.inputCurrentMax
    inputDrop := ← fields.field "V_input_drop_uV" Node.word32? base.inputDrop
    inputResistor := ← fields.field "R_input_kOhm" Node.word32? base.inputResistor
    boostThreshold := ← fields.field "V_input_boost_threshold_uV" Node.word32? base.boostThreshold
    timeConstant := ← fields.field "Constant_us_per_nF_n28" Node.word32? base.timeConstant
    storageInit := ← fields.field "V_intermediate_init_uV" Node.word32? base.storageInit
    storageMax := ← fields.field "V_intermediate_max_uV" Node.word32? base.storageMax
    leakCurrent := ← fields.field "I_intermediate_leak_nA" Node.word32? base.leakCurrent
    outputEnableThreshold :=
      ← fields.field "V_enable_output_threshold_uV" Node.word32? base.outputEnableThreshold
    outputDisableThreshold :=
      ← fields.field "V_disable_output_threshold_uV" Node.word32? base.outputDisableThreshold
    outputEnableDebit := ← fields.field "dV_enable_output_uV" Node.word32? base.outputEnableDebit
    checkInterval := ← fields.field "interval_check_thresholds_n" Node.word32? base.checkInterval
    powerGoodEnableThreshold :=
      ← fields.field "V_pwr_good_enable_threshold_uV" Node.word32? base.powerGoodEnableThreshold
    powerGoodDisableThreshold :=
      ← fields.field "V_pwr_good_disable_threshold_uV" Node.word32? base.powerGoodDisableThreshold
    outputVoltage := ← fields.field "V_output_uV" Node.word32? base.outputVoltage
    buckDrop := ← fields.field "V_buck_drop_uV" Node.word32? base.buckDrop
    inputVoltageOffset :=
      ← fields.field "LUT_input_V_min_log2_uV" Node.word32? base.inputVoltageOffset
    inputCurrentOffset :=
      ← fields.field "LUT_input_I_min_log2_nA" Node.word32? base.inputCurrentOffset
    outputCurrentOffset :=
      ← fields.field "LUT_output_I_min_log2_nA" Node.word32? base.outputCurrentOffset
    inputEfficiency :=
      ← fields.field "LUT_inp_efficiency_n8"
        (Node.vector? tableSize (Node.vector? tableSize Node.word8?)) base.inputEfficiency
    outputInverseEfficiency :=
      ← fields.field "LUT_out_inv_efficiency_n8" (Node.vector? tableSize Node.word32?)
        base.outputInverseEfficiency
    canary := ← fields.field "canary" Node.word32? base.canary }

end ConverterConfig

namespace HarvesterConfig

def fieldNames : List String :=
  ["algorithm", "voltage_uV", "voltage_min_uV", "voltage_max_uV", "voc_ratio_n8", "interval_n",
    "duration_n", "step_uV", "canary"]

def ofNode? (node : Node) : Option HarvesterConfig := do
  let base : HarvesterConfig := {}
  let fields ← node.fields? fieldNames
  return {
    algorithm :=
      ← fields.field "algorithm" (Node.keyword? TrackingAlgorithm.ofKeyword?) base.algorithm
    voltage := ← fields.field "voltage_uV" Node.word32? base.voltage
    voltageMin := ← fields.field "voltage_min_uV" Node.word32? base.voltageMin
    voltageMax := ← fields.field "voltage_max_uV" Node.word32? base.voltageMax
    openCircuitRatio := ← fields.field "voc_ratio_n8" Node.word32? base.openCircuitRatio
    interval := ← fields.field "interval_n" Node.word32? base.interval
    duration := ← fields.field "duration_n" Node.word32? base.duration
    step := ← fields.field "step_uV" Node.word32? base.step
    canary := ← fields.field "canary" Node.word32? base.canary }

end HarvesterConfig

/-- Both fields of an input channel have to be written. -/
def AdcCalibration.ofNode? (node : Node) : Option AdcCalibration := do
  let fields ← node.fields? ["gain_n20", "offset"]
  return {
    gain := ← fields.required "gain_n20" Node.word32?
    offset := ← fields.required "offset" Node.signed32? }

/-- Both fields of an output channel have to be written. -/
def DacCalibration.ofNode? (node : Node) : Option DacCalibration := do
  let fields ← node.fields? ["inv_gain_n20", "offset_uV"]
  return {
    inverseGain := ← fields.required "inv_gain_n20" Node.word32?
    offset := ← fields.required "offset_uV" Node.signed32? }

def Calibration.ofNode? (node : Node) : Option Calibration := do
  let base : Calibration := {}
  let fields ← node.fields? ["adc_current", "adc_voltage", "dac_voltage", "canary"]
  return {
    adcCurrent := ← fields.field "adc_current" AdcCalibration.ofNode? base.adcCurrent
    adcVoltage := ← fields.field "adc_voltage" AdcCalibration.ofNode? base.adcVoltage
    dacVoltage := ← fields.field "dac_voltage" DacCalibration.ofNode? base.dacVoltage
    canary := ← fields.field "canary" Node.word32? base.canary }

namespace SessionConfig

def ofEntries? (fields : Entries) : Option SessionConfig := do
  let base : SessionConfig := {}
  return {
    mode := ← fields.field "mode" (Node.keyword? Mode.ofKeyword?) base.mode
    bufferCount := ← fields.field "buffer_count" (Node.natBelow? UInt64.size) base.bufferCount
    samplesPerBuffer :=
      ← fields.field "samples_per_buffer" (Node.natBelow? UInt64.size) base.samplesPerBuffer
    severeDelay := ← fields.field "severe_delay_us" (Node.natBelow? UInt64.size) base.severeDelay
    paths := ← fields.field "uio" DevicePaths.ofNode? base.paths
    sync := ← fields.field "sync" SyncConfig.ofNode? base.sync
    cache := ← fields.field "cache" CacheConfig.ofNode? base.cache
    converter := ← fields.field "converter" ConverterConfig.ofNode? base.converter
    harvester := ← fields.field "harvester" HarvesterConfig.ofNode? base.harvester
    calibration := ← fields.field "calibration" Calibration.ofNode? base.calibration }

/-- Reads a configuration and validates it. -/
def ofToml (text : String) : Except Fault SessionConfig :=
  match (Toml.parse? text).bind ofEntries? with
  | some cfg => do
      cfg.validate
      return cfg
  | none => .error .configSyntax

end SessionConfig

end HarvestTestbed
