import HarvestTestbed.Number.Saturating
import HarvestTestbed.Trace.Sample

/-!
# Sample buffers

A sample buffer records the voltage and current pairs of one period, together with the timestamp
of the period, the processing load and the input power summed over it.  Resetting a buffer empties
it without erasing its cells: a cell keeps its last value until it is written again.
-/

namespace HarvestTestbed

/-- Processing load, in timer ticks per sample. -/
structure Utilization where
  ticksMax : UInt32 := 0
  ticksSum : UInt64 := 0
  deriving DecidableEq, Repr, Inhabited

namespace Utilization

def record (util : Utilization) (ticks : UInt32) : Utilization where
  ticksMax := max util.ticksMax ticks
  ticksSum := Saturating.add64 util.ticksSum ticks.toUInt64

end Utilization

/-- What is attached to a buffer when it is handed to the host. -/
structure BufferMeta where
  timestamp : UInt64 := 0
  sampleCount : UInt32 := 0
  util : Utilization := {}
  /-- Converter input power summed over the samples, in femtowatts. -/
  inputPower : UInt64 := 0
  deriving DecidableEq, Repr, Inhabited

structure SampleBuffer where
  timestamp : UInt64 := 0
  /-- The number of valid samples, a count of 32 bits whatever the capacity. -/
  length : Nat := 0
  capacity : Nat
  /-- The cells written so far; the remaining ones hold zero samples. -/
  cells : Array IvSample := #[]
  util : Utilization := {}
  inputPower : UInt64 := 0
  deriving DecidableEq, Repr, Inhabited

namespace SampleBuffer

def ofCapacity (capacity : Nat) : SampleBuffer :=
  { capacity := capacity }

/-- The content of a cell, valid or not. -/
def cell (buffer : SampleBuffer) (index : Nat) : IvSample :=
  buffer.cells.getD index {}

/-- Writes a cell, extending the written part with zero samples where needed. -/
def writeCell (cells : Array IvSample) (index : Nat) (sample : IvSample) : Array IvSample :=
  if index < cells.size then cells.setIfInBounds index sample
  else (cells ++ Array.replicate (index - cells.size) ({} : IvSample)).push sample

/-- Writes sample `index`; a sample beyond the capacity is ignored and answered with false. -/
def put (buffer : SampleBuffer) (index : Nat) (sample : IvSample) : Bool × SampleBuffer :=
  if index < buffer.capacity then
    (true, { buffer with
      cells := writeCell buffer.cells index sample
      length := max buffer.length ((index + 1) % UInt32.size) })
  else (false, buffer)

def samples (buffer : SampleBuffer) : Array IvSample :=
  Array.ofFn fun index : Fin buffer.length => buffer.cell index

def finish (buffer : SampleBuffer) (summary : BufferMeta) : SampleBuffer :=
  { buffer with
    timestamp := summary.timestamp
    length := min summary.sampleCount.toNat (buffer.capacity % UInt32.size)
    util := summary.util
    inputPower := summary.inputPower }

def reset (buffer : SampleBuffer) : SampleBuffer :=
  { buffer with timestamp := 0, length := 0, util := {}, inputPower := 0 }

end SampleBuffer

end HarvestTestbed
