import HarvestTestbed.Number.Hexadecimal
import HarvestTestbed.Session.State

/-!
# Faults of the set-up and supervision paths

Opening a device, reading a configuration, splitting the arena and moving the session can be
refused.  Each refusal is a cause with the data it was decided on; the wording is one function of
the cause.  The real-time loops never refuse: they report through their status slot.
-/

namespace HarvestTestbed

/-- The word written into every structure that the cores read, to detect overwritten memory. -/
def canaryWord : UInt32 := 0xdebac1e5

/-- The largest number of buffers in a pool, and the capacity of the free ring. -/
def ringCapacity : Nat := 64

/-- Why a device or a file could not be used. -/
inductive DeviceFault
  | isDirectory
  | outOfMemory
  | invalidUtf8
  | nulByte (position : Nat)
  | emptyNumber
  | invalidDigit
  | numberTooLarge
  deriving DecidableEq, Repr

namespace DeviceFault

def message : DeviceFault → String
  | isDirectory => "Is a directory (os error 21)"
  | outOfMemory => "Cannot allocate memory (os error 12)"
  | invalidUtf8 => "stream did not contain valid UTF-8"
  | nulByte position => "nul byte found in provided data at position: " ++ toString position
  | emptyNumber => "cannot parse integer from empty string"
  | invalidDigit => "invalid digit found in string"
  | numberTooLarge => "number too large to fit in target type"

end DeviceFault

/-- Why a configuration, or a request about one, is not acceptable. -/
inductive ConfigFault
  | bufferCount (count : Nat)
  | emptyBuffers
  | buffersTooShort (samplesPerBuffer samplesPerPeriod : Nat)
  | syncNotPositive
  | syncNotRepresentable (period : Nat)
  | samplesDoNotFit (samples : Nat)
  | cacheBlocks (blocks : Nat)
  | emptyCacheBlocks
  | zeroGain
  | zeroCheckInterval
  | outputThresholds
  | powerGoodThresholds
  | zeroStorageMaximum
  | tableOffsets
  | emptyVoltageRange
  | zeroHarvesterInterval
  | longMeasurement
  | ratioAboveOne
  | modeLocked (state : SessionState)
  deriving DecidableEq, Repr

namespace ConfigFault

def message : ConfigFault → String
  | bufferCount count =>
      "buffer count " ++ toString count ++ " outside 1..=" ++ toString ringCapacity
  | emptyBuffers => "buffers must hold at least one sample"
  | buffersTooShort samplesPerBuffer samplesPerPeriod =>
      toString samplesPerBuffer ++ " samples per buffer cannot hold a period of " ++
        toString samplesPerPeriod ++ " samples"
  | syncNotPositive => "sync period and tick must be positive"
  | syncNotRepresentable period =>
      "sync period " ++ toString period ++ " ns is not a representable tick count"
  | samplesDoNotFit samples => toString samples ++ " samples do not fit one period"
  | cacheBlocks blocks => "cache blocks " ++ toString blocks ++ " outside 1..=64"
  | emptyCacheBlocks => "cache blocks must hold at least one sample"
  | zeroGain => "calibration gains must be non-zero"
  | zeroCheckInterval => "threshold check interval must be at least 1"
  | outputThresholds => "output enable threshold below disable threshold"
  | powerGoodThresholds => "power-good enable threshold below disable threshold"
  | zeroStorageMaximum => "storage maximum voltage must be positive"
  | tableOffsets => "LUT offsets must be below 32"
  | emptyVoltageRange => "harvester voltage range is empty"
  | zeroHarvesterInterval => "harvester interval must be at least 1"
  | longMeasurement => "open-circuit measurement must be shorter than the interval"
  | ratioAboveOne => "open-circuit ratio above 1"
  | modeLocked state => "cannot change mode while " ++ state.name

end ConfigFault

/-- Everything that set-up and supervision can be refused for. -/
inductive Fault
  /-- The arena was already split, or the pool already serves an arena. -/
  | alreadyInstantiated
  | deviceNotFound
  | otherDevice (fault : DeviceFault)
  | regionTooSmall (available required : Nat)
  | canaryMismatch (found : UInt32)
  | invalidConfig (fault : ConfigFault)
  | configSyntax
  | invalidTransition (source target : SessionState)
  | resetPending
  | buffersHeld (count : Nat)
  deriving DecidableEq, Repr

namespace Fault

def name : Fault → String
  | alreadyInstantiated => "AlreadyInstantiated"
  | deviceNotFound => "DeviceNotFound"
  | otherDevice _ => "OtherDeviceError"
  | regionTooSmall _ _ => "RegionTooSmall"
  | canaryMismatch _ => "CanaryMismatch"
  | invalidConfig _ => "InvalidConfig"
  | configSyntax => "ConfigParse"
  | invalidTransition _ _ => "InvalidTransition"
  | resetPending => "ResetPending"
  | buffersHeld _ => "BuffersHeld"

def message : Fault → String
  | alreadyInstantiated => "already instantiated"
  | deviceNotFound => "device not found"
  | otherDevice fault => "other device error: " ++ fault.message
  | regionTooSmall available required =>
      "shared region too small: " ++ toString available ++ " bytes available, " ++
        toString required ++ " required"
  | canaryMismatch found =>
      "canary mismatch: expected " ++ hexWord canaryWord ++ ", found " ++ hexWord found
  | invalidConfig fault => "invalid configuration: " ++ fault.message
  | configSyntax => "cannot parse configuration"
  | invalidTransition source target =>
      "invalid session transition from " ++ source.name ++ " to " ++ target.name
  | resetPending => "reset not acknowledged by the co-processors"
  | buffersHeld count =>
      toString count ++ " sample buffers still held across a session reset"

end Fault

/-- Refuses a structure whose canary was overwritten. -/
def checkCanary (found : UInt32) : Except Fault Unit :=
  if found = canaryWord then .ok () else .error (.canaryMismatch found)

end HarvestTestbed
