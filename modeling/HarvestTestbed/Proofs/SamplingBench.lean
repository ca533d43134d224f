import HarvestTestbed.Proofs.Restoration
import HarvestTestbed.Sampling.Loop

/-!
# A bench for the sampling core

The sampling loop works with a front-end of any kind, and everyone else takes part through
operations of the ports, in any order: the session is moved from state to state, modes are selected,
triggers raised, messages exchanged, buffers claimed and given back.

To compare what two loops do, a front-end is attached to each that follows a script and records what
is asked of it.  A script answers as it likes, and the cycle counter may start anywhere.
-/

namespace HarvestTestbed

/-! ## Scripted front-ends -/

/-- What a front-end is asked for or told. -/
inductive FrontendCall
  | readInput
  | readOutputCurrent
  | setDac (channel : DacChannel) (raw : UInt32)
  | setPowerGood (good : Bool)
  deriving DecidableEq, Repr

/-- The answers of a front-end, each given in view of the calls made before, newest first. -/
structure FrontendScript where
  input : List FrontendCall → UInt32 × UInt32
  outputCurrent : List FrontendCall → UInt32
  cycles : List FrontendCall → UInt32

/-- A front-end that follows a script. -/
structure ScriptedFrontend where
  script : FrontendScript
  /-- Where the cycle counter starts. -/
  offset : UInt32
  calls : List FrontendCall := []

namespace ScriptedFrontend

def record (frontend : ScriptedFrontend) (call : FrontendCall) : ScriptedFrontend :=
  { frontend with calls := call :: frontend.calls }

instance : Frontend ScriptedFrontend where
  readInput frontend := (frontend.script.input frontend.calls, frontend.record .readInput)
  readOutputCurrent frontend :=
    (frontend.script.outputCurrent frontend.calls, frontend.record .readOutputCurrent)
  setDac frontend channel raw := frontend.record (.setDac channel raw)
  setPowerGood frontend good := frontend.record (.setPowerGood good)
  cycles frontend := frontend.offset + frontend.script.cycles frontend.calls

end ScriptedFrontend

def SamplingLoop.withFrontend {F G : Type} (loop : SamplingLoop F) (frontend : G) :
    SamplingLoop G :=
  { loop with frontend := frontend }

/-! ## Runs -/

inductive SamplingEvent
  | step
  /-- An operation of any actor in which no handle changes hands. -/
  | op (op : ArenaOp)
  | claim (index : UInt32)
  | recycle (position : ℕ)
  | dropFilled (position : ℕ)
  | appendTrace (more : Array IvSample)

structure SamplingBench (F : Type) where
  memory : SharedMemory
  loop : SamplingLoop F
  consumers : List ConsumerHandle := []

namespace SamplingBench

variable {F : Type}

/-- A new arena, split with a pool, and a sampling core that has just been started. -/
def start (pool : BufferPool) (frontend : F) (engines : Engines) : SamplingBench F where
  memory := (Custody.justSplit pool).memory
  loop := .new frontend engines

/-- The same with a mode selected and the restart of the host reported. -/
def startOver (mode : Mode) (pool : BufferPool) (frontend : F) (engines : Engines) :
    SamplingBench F where
  memory := (Custody.startedOver mode pool).memory
  loop := .new frontend engines

def step [Frontend F] (bench : SamplingBench F) : SamplingEvent → SamplingBench F
  | .step =>
      let stepped := bench.loop.step bench.memory
      { bench with loop := stepped.1, memory := stepped.2 }
  | .op op => { bench with memory := op.apply bench.memory }
  | .claim index =>
      let claimed := bench.memory.claim index
      { bench with
        memory := claimed.2, consumers := claimed.1.toList ++ bench.consumers }
  | .recycle position =>
      match bench.consumers[position]? with
      | some handle =>
          { bench with
            memory := (bench.memory.recycle handle).2
            consumers := bench.consumers.eraseIdx position }
      | none => bench
  | .dropFilled position =>
      match bench.consumers[position]? with
      | some handle =>
          { bench with
            memory := bench.memory.dropFilled handle
            consumers := bench.consumers.eraseIdx position }
      | none => bench
  | .appendTrace more => { bench with loop := bench.loop.appendTrace more }

def run [Frontend F] (bench : SamplingBench F) (events : List SamplingEvent) : SamplingBench F :=
  events.foldl step bench

theorem run_append [Frontend F] (bench : SamplingBench F) (events more : List SamplingEvent) :
    bench.run (events ++ more) = (bench.run events).run more :=
  List.foldl_append

/-- The bench with a scripted front-end in place of the one that the loop worked with. -/
def attach (bench : SamplingBench F) (frontend : ScriptedFrontend) :
    SamplingBench ScriptedFrontend :=
  { bench with loop := bench.loop.withFrontend frontend }

end SamplingBench

/-! ## Observations -/

/-- Whether the buffer was handed over and not given back yet. -/
def BufferOwner.isHandedOver : BufferOwner → Bool
  | .filled | .consumer => true
  | .freeRing | .producer | .detached => false

/-- The buffer with a given index, if it was handed over. -/
def BufferPool.handed? (pool : BufferPool) (index : UInt32) : Option SampleBuffer :=
  if (pool.owner? index).any (·.isHandedOver) then pool.buffer? index else none

/-- The buffers that were handed over, with all that is read from them. -/
def SharedMemory.released (memory : SharedMemory) : List (UInt32 × BufferReading × EdgeLog) :=
  memory.pool.indices.filterMap fun index =>
    (memory.pool.handed? index).map fun buffer =>
      (index, buffer.reading, (memory.pool.edges? index).getD {})

/-- What is seen of a sampling loop. -/
structure SamplingObservation where
  state : LoopState
  stats : SamplingStats
  cacheHits : ℕ
  cacheMisses : ℕ
  /-- The codes and levels set, and the readings taken, newest first. -/
  calls : List FrontendCall
  announcement : Slot 2
  released : List (UInt32 × BufferReading × EdgeLog)
  deriving DecidableEq

def SamplingBench.observe (bench : SamplingBench ScriptedFrontend) : SamplingObservation where
  state := bench.loop.state
  stats := bench.loop.stats
  cacheHits := bench.loop.engines.cache.hits
  cacheMisses := bench.loop.engines.cache.misses
  calls := bench.loop.frontend.calls
  announcement := bench.memory.arena.pru0ToHost
  released := bench.memory.released

end HarvestTestbed
