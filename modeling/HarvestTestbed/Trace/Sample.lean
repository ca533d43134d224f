/-!
# Input traces

An input trace is the recorded voltage and current of a harvesting source.  The producer of the
trace may still be appending to it while it is replayed; a sample that is not there yet reads as
zero.
-/

namespace HarvestTestbed

/-- One sample of the emulated source. -/
structure IvSample where
  voltage : UInt32 := 0
  current : UInt32 := 0
  deriving DecidableEq, Repr, Inhabited

/-- The part of an input trace that has been written so far. -/
structure Trace where
  samples : Array IvSample
  deriving DecidableEq, Repr, Inhabited

namespace Trace

def available (trace : Trace) : Nat :=
  trace.samples.size

/-- Sample `index`, zero beyond the end. -/
def read (trace : Trace) (index : Nat) : IvSample :=
  trace.samples.getD index {}

/-- `count` samples from `start` on.  The indices are words, so after the last word they start again
at zero. -/
def slice (trace : Trace) (start : UInt64) (count : Nat) : Array IvSample :=
  Array.ofFn fun offset : Fin count => trace.read (start + .ofNat offset).toNat

/-- A trace of `count` samples that starts at a point and moves by a fixed step. -/
def ramp (count : Nat) (start step : IvSample) : Trace :=
  ⟨Array.ofFn fun index : Fin count =>
    ⟨start.voltage + .ofNat index * step.voltage, start.current + .ofNat index * step.current⟩⟩

def append (trace : Trace) (more : Array IvSample) : Trace :=
  ⟨trace.samples ++ more⟩

end Trace

end HarvestTestbed
