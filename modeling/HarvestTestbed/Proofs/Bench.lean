import Mathlib
import HarvestTestbed.Config.Session
import HarvestTestbed.Host.MessagePump
import HarvestTestbed.Simulation.Frontend
import HarvestTestbed.Simulation.Timer
import HarvestTestbed.Timing.Loop

/-!
# The whole test bed

Both loops and the message pump run on one shared memory, each at its own pace.  A run is a list of
events in any order: a host operation, one step of a loop, one service of the pump, a trigger raised
by hand, or a change of the outside world, that is, of the front-end, of the timer or of the trace
that is replayed.  What a run did is read off its transitions.
-/

namespace HarvestTestbed

inductive Core
  | sampling
  | timing
  deriving DecidableEq, Repr

instance : Fintype Core where
  elems := {.sampling, .timing}
  complete core := by cases core <;> decide

inductive BenchEvent (F T : Type)
  | setState (next : SessionState)
  | setMode (mode : Mode)
  | requestReset
  | completeReset
  /-- One step of a loop. -/
  | step (core : Core)
  | service
  | ping (first second : UInt32)
  | raiseSyncTrigger
  | sendReply (reply : SyncReply)
  | receiveRequest
  | raiseBufferSwap (timestamp : UInt64)
  | raiseSample
  | frontend (frontend : F)
  | timer (timer : T)
  | appendTrace (more : Array IvSample)

structure Bench (F T : Type) where
  memory : SharedMemory
  sampling : SamplingLoop F
  timing : TimingLoop T
  pump : MessagePump := {}

structure BenchSetup (F T : Type) where
  pool : BufferPool
  frontend : F
  engines : Engines
  timer : T
  cfg : SyncConfig

namespace Bench

variable {F T : Type} [Frontend F] [Timer T]

/-- A new arena, split with a pool, and two cores that have just been started. -/
def start (setup : BenchSetup F T) : Bench F T where
  memory := ({ pool := setup.pool } : SharedMemory).split.2
  sampling := .new setup.frontend setup.engines
  timing := .new setup.timer setup.cfg

def step (bench : Bench F T) : BenchEvent F T → Bench F T
  | .setState next => { bench with memory := (bench.memory.setState next).2 }
  | .setMode mode => { bench with memory := (bench.memory.setMode mode).2 }
  | .requestReset => { bench with memory := bench.memory.requestReset.2 }
  | .completeReset => { bench with memory := bench.memory.completeReset.2 }
  | .step .sampling =>
      let stepped := bench.sampling.step bench.memory
      { bench with sampling := stepped.1, memory := stepped.2 }
  | .step .timing =>
      let stepped := bench.timing.step bench.memory
      { bench with timing := stepped.1, memory := stepped.2 }
  | .service =>
      let serviced := bench.pump.service bench.memory
      { bench with pump := serviced.pump, memory := serviced.memory }
  | .ping first second => { bench with memory := (MessagePump.ping bench.memory first second).2 }
  | .raiseSyncTrigger => { bench with memory := bench.memory.raiseSyncTrigger }
  | .sendReply reply => { bench with memory := (bench.memory.sendReply reply).2 }
  | .receiveRequest => { bench with memory := bench.memory.syncReceive.2 }
  | .raiseBufferSwap timestamp =>
      { bench with memory := bench.memory.raiseBufferSwap timestamp }
  | .raiseSample => { bench with memory := bench.memory.raiseSample }
  | .frontend frontend => { bench with sampling := { bench.sampling with frontend := frontend } }
  | .timer timer => { bench with timing := { bench.timing with timer := timer } }
  | .appendTrace more => { bench with sampling := bench.sampling.appendTrace more }

def run (bench : Bench F T) (events : List (BenchEvent F T)) : Bench F T :=
  events.foldl step bench

structure Transition (F T : Type) where
  before : Bench F T
  event : BenchEvent F T

def Transition.after (transition : Transition F T) : Bench F T :=
  transition.before.step transition.event

def trace (bench : Bench F T) : List (BenchEvent F T) → List (Transition F T)
  | [] => []
  | event :: events => ⟨bench, event⟩ :: (bench.step event).trace events

theorem run_append (bench : Bench F T) (events more : List (BenchEvent F T)) :
    bench.run (events ++ more) = (bench.run events).run more :=
  List.foldl_append

theorem trace_append (bench : Bench F T) (events more : List (BenchEvent F T)) :
    bench.trace (events ++ more) = bench.trace events ++ (bench.run events).trace more := by
  induction events generalizing bench with
  | nil => rfl
  | cons event events ih =>
      rw [List.cons_append, trace, ih, trace, List.cons_append]
      rfl

end Bench

/-- The simulated front-end and timer over a pool of `count` buffers of `samples` samples, with
every engine at its default. -/
def BenchSetup.simulated (count samples : ℕ) :
    BenchSetup SimulatedFrontend SimulatedTimer where
  pool := { entries := Array.replicate count { buffer := .ofCapacity samples } }
  frontend := {}
  engines := (SessionConfig.engines {} ⟨#[]⟩).toOption.get (by decide +kernel)
  timer := .new (SyncConfig.nominalTicks {})
  cfg := {}

end HarvestTestbed
