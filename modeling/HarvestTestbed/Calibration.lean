import HarvestTestbed.Number.Saturating
import HarvestTestbed.Fault

/-!
# Calibration of the analog front-end

A converter reading `raw` stands for `raw * gain + offset`, in nanoamperes or microvolts, and a
voltage is produced by the code `(voltage - offset) * inverseGain`.  Gains carry twenty fractional
bits.  Conversions compute exactly, round down and saturate at the representable range.
-/

namespace HarvestTestbed

def gainBits : Nat := 20

def maxDacCode : Nat := 0xffff

structure AdcCalibration where
  gain : UInt32 := 1048576
  offset : Int32 := 0
  deriving DecidableEq, Repr, Inhabited

namespace AdcCalibration

/-- The quantity a reading stands for, at least zero. -/
def rawToSi (cal : AdcCalibration) (raw : UInt32) : UInt32 :=
  let scaled := (raw.toNat * cal.gain.toNat) >>> gainBits
  clampSigned32 (scaled + cal.offset.toInt)

def siToRaw (cal : AdcCalibration) (si : UInt32) : UInt32 :=
  let shifted := (si.toNat - cal.offset.toInt : Int).toNat
  clampWord32 ((shifted <<< gainBits) / max cal.gain.toNat 1)

end AdcCalibration

/-- Calibration of an output channel.  The default spreads sixteen bits over five volts. -/
structure DacCalibration where
  inverseGain : UInt32 := 13744
  offset : Int32 := 0
  deriving DecidableEq, Repr, Inhabited

namespace DacCalibration

/-- The code that produces a voltage, at most the largest code. -/
def voltageToRaw (cal : DacCalibration) (voltage : UInt32) : UInt32 :=
  let difference := (voltage.toNat - cal.offset.toInt : Int).toNat
  UInt32.ofNat (min ((difference * cal.inverseGain.toNat) >>> gainBits) maxDacCode)

def rawToVoltage (cal : DacCalibration) (raw : UInt32) : UInt32 :=
  let scaled := (raw.toNat <<< gainBits) / max cal.inverseGain.toNat 1
  clampSigned32 (scaled + cal.offset.toInt)

end DacCalibration

structure Calibration where
  adcCurrent : AdcCalibration := {}
  adcVoltage : AdcCalibration := {}
  dacVoltage : DacCalibration := {}
  canary : UInt32 := canaryWord
  deriving DecidableEq, Repr, Inhabited

namespace Calibration

/-- A usable calibration has its canary intact and no zero gain. -/
def validate (cal : Calibration) : Except Fault Unit := do
  checkCanary cal.canary
  if cal.adcCurrent.gain = 0 ∨ cal.adcVoltage.gain = 0 ∨ cal.dacVoltage.inverseGain = 0 then
    .error (.invalidConfig .zeroGain)

end Calibration

end HarvestTestbed
