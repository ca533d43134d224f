import HarvestTestbed.Arena.SamplingEnd
import HarvestTestbed.Converter.Model
import HarvestTestbed.Harvester
import HarvestTestbed.Sampling.Frontend
import HarvestTestbed.Session.LoopState
import HarvestTestbed.Trace.Cache

/-!
# The sampling loop

The sampling core runs one step at a time and never waits.  While the session runs it is paced by
two triggers: the swap trigger at every period boundary and the sample trigger at every sample
tick.  A pending swap is handled before a sample of the same tick, so that the sample goes into
the buffer of its own period.  A finished buffer that the host does not take at once is kept and
offered again; while one is waiting, the next finished buffer is reused instead of being handed
over.
-/

namespace HarvestTestbed

/-- The engines driven on every sample tick. -/
structure Engines where
  converter : Converter
  harvester : Harvester
  cache : TraceCache
  calibration : Calibration
  deriving DecidableEq, Repr

structure SamplingStats where
  samples : Nat := 0
  /-- Samples taken without a buffer to store them in. -/
  discarded : Nat := 0
  released : Nat := 0
  /-- Finished buffers that were reused because the host did not keep up. -/
  dropped : Nat := 0
  deriving DecidableEq, Repr, Inhabited

structure SamplingLoop (F : Type) where
  frontend : F
  engines : Engines
  state : LoopState := .reset
  resetAcked : Bool := false
  /-- The buffer being filled. -/
  current : Option ProducerHandle := none
  /-- A finished buffer that the host has not taken yet. -/
  pending : Option (ProducerHandle × BufferMeta) := none
  bufferTimestamp : UInt64 := 0
  sampleIndex : UInt32 := 0
  inputIndex : Nat := 0
  util : Utilization := {}
  inputPower : UInt64 := 0
  stats : SamplingStats := {}

namespace SamplingLoop

variable {F : Type} [Frontend F]

def new (frontend : F) (engines : Engines) : SamplingLoop F :=
  { frontend := frontend, engines := engines }

def appendTrace (loop : SamplingLoop F) (more : Array IvSample) : SamplingLoop F :=
  { loop with engines := { loop.engines with cache := loop.engines.cache.append more } }

/-- Drops the buffers of the loop, with edge capture switched off first. -/
def dropBuffers (loop : SamplingLoop F) (memory : SharedMemory) : SharedMemory :=
  if loop.current.isSome ∨ loop.pending.isSome then
    let quiet := memory.swapEdges none
    let withoutCurrent := match loop.current with
      | some handle => quiet.dropHandle handle
      | none => quiet
    match loop.pending with
    | some (handle, _) => withoutCurrent.dropHandle handle
    | none => withoutCurrent
  else memory

/-- Forgets the session and silences the front-end. -/
def clear (loop : SamplingLoop F) : SamplingLoop F :=
  let dark := Frontend.setDac loop.frontend .target 0
  let idle := Frontend.setDac dark .harvester 0
  { loop with
    current := none
    pending := none
    sampleIndex := 0
    inputIndex := 0
    util := {}
    inputPower := 0
    engines := { loop.engines with
      converter := loop.engines.converter.reset
      harvester := loop.engines.harvester.reset
      cache := loop.engines.cache.reset }
    frontend := Frontend.setPowerGood idle false }

/-- Acknowledges the reset request, once per stay in the reset state of the session. -/
def acknowledge (loop : SamplingLoop F) (memory : SharedMemory) : SamplingLoop F × SharedMemory :=
  if loop.resetAcked then (loop, memory)
  else ({ loop with stats := {}, resetAcked := true }, memory.samplingAcknowledge)

def stepReset (loop : SamplingLoop F) (memory : SharedMemory) :
    LoopState × SamplingLoop F × SharedMemory :=
  let cleared := loop.clear
  let freed := loop.dropBuffers memory
  if freed.state = .reset then (.reset, cleared.acknowledge freed)
  else (.awaitStart, { cleared with resetAcked := false }, freed)

/-- Answers at most one message of the host; only pings are expected. -/
def serveCommands (memory : SharedMemory) : SharedMemory :=
  match memory.samplingReceive with
  | (some message, memory) =>
      if message.type = .ping then (memory.samplingSend .pong message.first message.second).2
      else memory.notify .pru0 .invalidCommand message.type.toWord message.first
  | (none, memory) => memory

/-- Stages input samples for a reader at sample `reader`. -/
def maintainCache (loop : SamplingLoop F) (mode : Mode) (reader : Nat) : SamplingLoop F :=
  if mode = .emulate then
    { loop with
      engines := { loop.engines with cache := (loop.engines.cache.maintain reader).2 } }
  else loop

/-- A step while waiting for the start.  Triggers raised before the start belong to no session. -/
def stepAwaitStart (loop : SamplingLoop F) (memory : SharedMemory) :
    LoopState × SamplingLoop F × SharedMemory :=
  let served := serveCommands memory.takeSwapTrigger.2.takeSampleTrigger.2
  match served.state with
  | .running => (.running, loop, served)
  | .reset => (.reset, loop, served)
  | .fault => (.fault, loop, served)
  | .idle | .armed => (.awaitStart, loop.maintainCache served.mode 0, served)

/-- Hands a finished buffer over; one that is refused waits. -/
def handOver (loop : SamplingLoop F) (memory : SharedMemory) (handle : ProducerHandle)
    (summary : BufferMeta) : SamplingLoop F × SharedMemory :=
  match memory.release handle summary with
  | (none, memory) =>
      ({ loop with stats := { loop.stats with released := loop.stats.released + 1 } }, memory)
  | (some handle, memory) => ({ loop with pending := some (handle, summary) }, memory)

def retryPending (loop : SamplingLoop F) (memory : SharedMemory) :
    SamplingLoop F × SharedMemory :=
  match loop.pending with
  | some (handle, summary) => { loop with pending := none }.handOver memory handle summary
  | none => (loop, memory)

/-- What is attached to the buffer of the period that ends. -/
def summary (loop : SamplingLoop F) : BufferMeta where
  timestamp := loop.bufferTimestamp
  sampleCount := loop.sampleIndex
  util := loop.util
  inputPower := loop.inputPower

def openPeriod (loop : SamplingLoop F) (timestamp : UInt64) : SamplingLoop F :=
  { loop with bufferTimestamp := timestamp, sampleIndex := 0, util := {}, inputPower := 0 }

/-- Handles a period boundary while a finished buffer still waits: its successor is dropped and
used again for the new period. -/
def reuseBuffer (loop : SamplingLoop F) (memory : SharedMemory) (handle : ProducerHandle)
    (timestamp : UInt64) : SamplingLoop F × SharedMemory :=
  let counted := { loop with stats := { loop.stats with dropped := loop.stats.dropped + 1 } }
  (counted.openPeriod timestamp, memory.swapEdges (some handle.index))

/-- Handles a period boundary by taking a new buffer.  Edge capture leaves the finished buffer
before the host can claim it. -/
def exchangeBuffer (loop : SamplingLoop F) (memory : SharedMemory) (timestamp : UInt64) :
    SamplingLoop F × SharedMemory :=
  let acquired := memory.acquire
  let next := { loop.openPeriod timestamp with current := acquired.1 }
  let captured := acquired.2.swapEdges (acquired.1.map (·.index))
  match loop.current with
  | some finished => next.handOver captured finished loop.summary
  | none => (next, captured)

def handleSwap (loop : SamplingLoop F) (memory : SharedMemory) (timestamp : UInt64) :
    SamplingLoop F × SharedMemory :=
  match loop.current, loop.pending with
  | some handle, some _ => loop.reuseBuffer memory handle timestamp
  | _, _ => loop.exchangeBuffer memory timestamp

/-- Adds the input power of the present converter state to the account of the period. -/
def accountPower (loop : SamplingLoop F) : SamplingLoop F :=
  { loop with
    inputPower :=
      Saturating.add64 loop.inputPower loop.engines.converter.state.inputPower.toInt }

/-- A sample tick of the harvester: measures the transducer and moves its setpoint. -/
def harvestSample (loop : SamplingLoop F) : IvSample × SamplingLoop F :=
  let cal := loop.engines.calibration
  let input := Frontend.readInput loop.frontend
  let voltage := cal.adcVoltage.rawToSi input.1.1
  let current := cal.adcCurrent.rawToSi input.1.2
  let stepped := loop.engines.harvester.step voltage current
  let code := cal.dacVoltage.voltageToRaw stepped.2.setpoint
  let converter := loop.engines.converter.inputPhase stepped.1.voltage stepped.1.current
  (⟨stepped.1.voltage, stepped.1.current⟩,
    { loop with
      frontend := Frontend.setDac input.2 .harvester code
      engines := { loop.engines with
        harvester := stepped.2, converter := converter } }.accountPower)

/-- A sample tick of the emulation: feeds the next input sample to the converter and shows its
output to the target. -/
def emulateSample (loop : SamplingLoop F) : IvSample × SamplingLoop F :=
  let cal := loop.engines.calibration
  let input := loop.engines.cache.read loop.inputIndex
  let current := Frontend.readOutputCurrent loop.frontend
  let converter := loop.engines.converter.tick input.1.voltage input.1.current current.1
  let out := converter.output
  let driven := Frontend.setDac current.2 .target out.code
  (⟨out.voltage, cal.adcCurrent.rawToSi current.1⟩,
    { loop with
      inputIndex := loop.inputIndex + 1
      frontend := Frontend.setPowerGood driven out.powerGood
      engines := { loop.engines with cache := input.2, converter := converter } }.accountPower)

def passthroughSample (loop : SamplingLoop F) : IvSample × SamplingLoop F :=
  let cal := loop.engines.calibration
  let input := Frontend.readInput loop.frontend
  let current := Frontend.readOutputCurrent input.2
  let voltage := cal.adcVoltage.rawToSi input.1.1
  let code := cal.dacVoltage.voltageToRaw voltage
  (⟨input.1.1, current.1⟩, { loop with frontend := Frontend.setDac current.2 .target code })

def disabledSample (loop : SamplingLoop F) : IvSample × SamplingLoop F :=
  ({}, { loop with frontend := Frontend.setDac loop.frontend .target 0 })

/-- Runs the engine phases of a mode; answers the sample to record. -/
def sampleOnce (loop : SamplingLoop F) : Mode → IvSample × SamplingLoop F
  | .harvest => loop.harvestSample
  | .emulate => loop.emulateSample
  | .debugPassthrough => loop.passthroughSample
  | .disabled => loop.disabledSample

/-- Records a sample in the buffer being filled; false if there is none or it is full. -/
def store (loop : SamplingLoop F) (memory : SharedMemory) (sample : IvSample) :
    Bool × SharedMemory :=
  match loop.current with
  | some handle => memory.put handle loop.sampleIndex.toNat sample
  | none => (false, memory)

def handleSample (loop : SamplingLoop F) (memory : SharedMemory) :
    SamplingLoop F × SharedMemory :=
  let start := Frontend.cycles loop.frontend
  let sampled := loop.sampleOnce memory.mode
  let stored := sampled.2.store memory sampled.1
  let stats := sampled.2.stats
  ({ sampled.2 with
     stats := { stats with
       samples := stats.samples + 1
       discarded := if stored.1 then stats.discarded else stats.discarded + 1 }
     sampleIndex := Saturating.add32 sampled.2.sampleIndex 1
     util := sampled.2.util.record (Frontend.cycles sampled.2.frontend - start) },
    stored.2)

/-- Handles the swap trigger if it is raised; answers whether it was. -/
def pollSwap (loop : SamplingLoop F) (memory : SharedMemory) :
    Bool × SamplingLoop F × SharedMemory :=
  match memory.takeSwapTrigger with
  | (some timestamp, memory) => (true, loop.handleSwap memory timestamp)
  | (none, memory) => (false, loop, memory)

/-- Handles the sample trigger if it is raised; answers whether it was.  A swap raised in the
meantime still belongs before the sample. -/
def pollSample (loop : SamplingLoop F) (memory : SharedMemory) :
    Bool × SamplingLoop F × SharedMemory :=
  match memory.takeSampleTrigger with
  | (true, memory) =>
      let swapped := (loop.pollSwap memory).2
      (true, swapped.1.handleSample swapped.2)
  | (false, memory) => (false, loop, memory)

def work (loop : SamplingLoop F) (memory : SharedMemory) : SamplingLoop F × SharedMemory :=
  let retried := loop.retryPending memory
  let swapped := retried.1.pollSwap retried.2
  let sampled := swapped.2.1.pollSample swapped.2.2
  if swapped.1 || sampled.1 then sampled.2
  else
    (sampled.2.1.maintainCache sampled.2.2.mode sampled.2.1.inputIndex,
      serveCommands sampled.2.2)

def stepRunning (loop : SamplingLoop F) (memory : SharedMemory) :
    LoopState × SamplingLoop F × SharedMemory :=
  match memory.state with
  | .running => (.running, loop.work memory)
  | .reset => (.reset, loop, memory)
  | .fault => (.fault, loop, memory)
  | .idle | .armed => (.awaitStart, loop, memory)

def stepFault (loop : SamplingLoop F) (memory : SharedMemory) :
    LoopState × SamplingLoop F × SharedMemory :=
  (if memory.state = .reset then .reset else .fault, loop, memory)

def dispatch (loop : SamplingLoop F) (memory : SharedMemory) :
    LoopState × SamplingLoop F × SharedMemory :=
  match loop.state with
  | .reset => loop.stepReset memory
  | .awaitStart => loop.stepAwaitStart memory
  | .running => loop.stepRunning memory
  | .fault => loop.stepFault memory

/-- One step of the loop.  A change of state is journalled. -/
def step (loop : SamplingLoop F) (memory : SharedMemory) : SamplingLoop F × SharedMemory :=
  match loop.dispatch memory with
  | (next, moved, memory) =>
      if next = loop.state then (moved, memory)
      else
        ({ moved with state := next },
          memory.log .debug ("pru0 " ++ loop.state.name ++ " -> " ++ next.name))

/-- Steps until the stop flag reads as raised, for the given readings of the flag. -/
def run (loop : SamplingLoop F) (memory : SharedMemory) :
    List Bool → SamplingLoop F × SharedMemory
  | [] => (loop, memory)
  | true :: _ => (loop, memory)
  | false :: stops =>
      let stepped := loop.step memory
      stepped.1.run stepped.2 stops

end SamplingLoop

end HarvestTestbed
