/-!
# Analog front-ends

A front-end reads the harvesting input and the current drawn by the target, drives the two output
channels and counts cycles.  The sampling loop knows nothing else about it, so that every statement
about the loop holds for every front-end.
-/

namespace HarvestTestbed

inductive DacChannel
  /-- Setpoint of the harvesting input. -/
  | harvester
  /-- Emulated supply voltage of the target. -/
  | target
  deriving DecidableEq, Repr, Inhabited

/-- The operations of a front-end whose state is an `F`. -/
class Frontend (F : Type) where
  /-- Raw voltage and current of the harvesting input. -/
  readInput : F → (UInt32 × UInt32) × F
  /-- Raw current drawn by the target. -/
  readOutputCurrent : F → UInt32 × F
  setDac : F → DacChannel → UInt32 → F
  setPowerGood : F → Bool → F
  /-- A free-running cycle counter. -/
  cycles : F → UInt32

end HarvestTestbed
