import HarvestTestbed.Calibration
import HarvestTestbed.Sampling.Frontend

/-!
# A simulated front-end

A linearized harvesting cell sits behind the harvester channel and an ohmic load behind the target
channel.  Every access to a converter costs a fixed number of cycles.
-/

namespace HarvestTestbed

/-- The cycles charged for every access. -/
def accessCycles : UInt32 := 40

structure SimulatedFrontend where
  calibration : Calibration := {}
  /-- Open-circuit voltage of the cell. -/
  openCircuit : UInt32 := 5000000
  /-- Short-circuit current of the cell. -/
  shortCircuit : UInt32 := 1000000
  /-- Load of the target in ohms; zero disconnects it. -/
  load : UInt32 := 0
  harvesterCode : UInt32 := 0
  targetCode : UInt32 := 0
  powerGood : Bool := false
  cycles : UInt32 := 0
  deriving DecidableEq, Repr

namespace SimulatedFrontend

def cellCurrent (frontend : SimulatedFrontend) (voltage : UInt32) : UInt32 :=
  if frontend.openCircuit ≤ voltage ∨ frontend.openCircuit = 0 then 0
  else
    let headroom := frontend.openCircuit.toNat - voltage.toNat
    UInt32.ofNat (frontend.shortCircuit.toNat * headroom / frontend.openCircuit.toNat)

def charge (frontend : SimulatedFrontend) : SimulatedFrontend :=
  { frontend with cycles := frontend.cycles + accessCycles }

/-- The cell at the voltage set by the harvester channel, in raw readings. -/
def inputReading (frontend : SimulatedFrontend) : UInt32 × UInt32 :=
  let cal := frontend.calibration
  let voltage := min (cal.dacVoltage.rawToVoltage frontend.harvesterCode) frontend.openCircuit
  (cal.adcVoltage.siToRaw voltage, cal.adcCurrent.siToRaw (frontend.cellCurrent voltage))

/-- The load at the voltage set by the target channel, in a raw reading. -/
def outputReading (frontend : SimulatedFrontend) : UInt32 :=
  if frontend.load = 0 then 0
  else
    let cal := frontend.calibration
    let voltage := (cal.dacVoltage.rawToVoltage frontend.targetCode).toNat
    cal.adcCurrent.siToRaw (clampWord32 (voltage * 1000 / frontend.load.toNat))

def setCode (frontend : SimulatedFrontend) (channel : DacChannel) (raw : UInt32) :
    SimulatedFrontend :=
  match channel with
  | .harvester => { frontend with harvesterCode := raw }
  | .target => { frontend with targetCode := raw }

instance : Frontend SimulatedFrontend where
  readInput frontend := (frontend.inputReading, frontend.charge)
  readOutputCurrent frontend := (frontend.outputReading, frontend.charge)
  setDac frontend channel raw := frontend.charge.setCode channel raw
  setPowerGood frontend good := { frontend with powerGood := good }
  cycles frontend := frontend.cycles

end SimulatedFrontend

end HarvestTestbed
