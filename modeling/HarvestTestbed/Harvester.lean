import HarvestTestbed.Number.Saturating
import HarvestTestbed.Fault

/-!
# The virtual harvester

The harvester chooses the voltage at which the transducer is held during the next tick.  It either
holds a constant voltage, samples the open-circuit voltage and holds a fraction of it, or perturbs
the voltage and keeps going in the direction that increases the power.
-/

namespace HarvestTestbed

inductive TrackingAlgorithm
  | constantVoltage
  | fractionalOpenCircuit
  | perturbObserve
  deriving DecidableEq, Repr, Inhabited

namespace TrackingAlgorithm

def name : TrackingAlgorithm → String
  | constantVoltage => "Cv"
  | fractionalOpenCircuit => "MpptVoc"
  | perturbObserve => "MpptPo"

def ofKeyword? (keyword : String) : Option TrackingAlgorithm :=
  if keyword = "cv" then some constantVoltage
  else if keyword = "mppt_voc" then some fractionalOpenCircuit
  else if keyword = "mppt_po" then some perturbObserve
  else none

end TrackingAlgorithm

structure HarvesterConfig where
  algorithm : TrackingAlgorithm := .constantVoltage
  /-- The held voltage, or the starting point of the tracking. -/
  voltage : UInt32 := 2500000
  voltageMin : UInt32 := 0
  voltageMax : UInt32 := 5000000
  /-- Operating point as a fraction of the open-circuit voltage, eight fractional bits. -/
  openCircuitRatio : UInt32 := 195
  /-- Ticks between two measurements or perturbations. -/
  interval : UInt32 := 100
  /-- Ticks spent on an open-circuit measurement. -/
  duration : UInt32 := 10
  step : UInt32 := 10000
  canary : UInt32 := canaryWord
  deriving DecidableEq, Repr, Inhabited

namespace HarvesterConfig

def validate (cfg : HarvesterConfig) : Except Fault Unit := do
  checkCanary cfg.canary
  if cfg.voltageMax < cfg.voltageMin then
    .error (.invalidConfig .emptyVoltageRange)
  else if cfg.interval = 0 then
    .error (.invalidConfig .zeroHarvesterInterval)
  else if cfg.algorithm = .fractionalOpenCircuit ∧ cfg.interval ≤ cfg.duration then
    .error (.invalidConfig .longMeasurement)
  else if 256 < cfg.openCircuitRatio then
    .error (.invalidConfig .ratioAboveOne)

def clamp (cfg : HarvesterConfig) (voltage : UInt32) : UInt32 :=
  max cfg.voltageMin (min voltage cfg.voltageMax)

end HarvesterConfig

/-- The point harvested during one tick. -/
structure HarvestPoint where
  voltage : UInt32
  current : UInt32
  deriving DecidableEq, Repr, Inhabited

structure Harvester where
  cfg : HarvesterConfig
  /-- The voltage at which the transducer is held during the next tick. -/
  setpoint : UInt32
  /-- Position within the interval. -/
  position : UInt32
  /-- The last measured open-circuit voltage. -/
  openCircuit : UInt32
  lastPower : Nat
  rising : Bool
  deriving DecidableEq, Repr

namespace Harvester

def start (cfg : HarvesterConfig) : Harvester :=
  { cfg := cfg
    setpoint := cfg.clamp cfg.voltage
    position := 0
    openCircuit := 0
    lastPower := 0
    rising := true }

def new (cfg : HarvesterConfig) : Except Fault Harvester := do
  cfg.validate
  return start cfg

def reset (harvester : Harvester) : Harvester :=
  start harvester.cfg

/-- Moves to the next position of the interval, wrapping at its end. -/
def advance (harvester : Harvester) : Harvester :=
  let next := harvester.position + 1
  { harvester with position := if harvester.cfg.interval ≤ next then 0 else next }

/-- One tick of open-circuit tracking.  During the measurement the transducer is disconnected and
nothing is harvested. -/
def stepOpenCircuit (harvester : Harvester) (voltage current : UInt32) :
    HarvestPoint × Harvester :=
  let cfg := harvester.cfg
  let position := harvester.position
  let moved := harvester.advance
  if position < cfg.duration then
    if position + 1 = cfg.duration then
      let target := UInt32.ofNat ((voltage.toNat * cfg.openCircuitRatio.toNat) >>> 8)
      (⟨voltage, 0⟩, { moved with openCircuit := voltage, setpoint := cfg.clamp target })
    else
      (⟨voltage, 0⟩, { moved with setpoint := cfg.voltageMax })
  else if position + 1 = cfg.interval then
    (⟨voltage, current⟩, { moved with setpoint := cfg.voltageMax })
  else
    (⟨voltage, current⟩, moved)

def perturbed (harvester : Harvester) : UInt32 :=
  let cfg := harvester.cfg
  cfg.clamp
    (if harvester.rising then Saturating.add32 harvester.setpoint cfg.step
     else Saturating.sub32 harvester.setpoint cfg.step)

/-- One tick of perturb-and-observe.  At the end of an interval the direction turns if the power
dropped, and the setpoint moves one step. -/
def stepPerturbObserve (harvester : Harvester) (voltage current : UInt32) :
    HarvestPoint × Harvester :=
  let moved := harvester.advance
  if harvester.position + 1 = harvester.cfg.interval then
    let power := voltage.toNat * current.toNat
    let turned :=
      { moved with
        rising := if power < harvester.lastPower then !harvester.rising else harvester.rising
        lastPower := power }
    (⟨voltage, current⟩, { turned with setpoint := turned.perturbed })
  else
    (⟨voltage, current⟩, moved)

/-- Takes the measurement made at the present setpoint and moves the setpoint. -/
def step (harvester : Harvester) (voltage current : UInt32) : HarvestPoint × Harvester :=
  match harvester.cfg.algorithm with
  | .constantVoltage => (⟨voltage, current⟩, harvester)
  | .fractionalOpenCircuit => harvester.stepOpenCircuit voltage current
  | .perturbObserve => harvester.stepPerturbObserve voltage current

end Harvester

end HarvestTestbed
