import HarvestTestbed.Host.SyncService
import HarvestTestbed.Proofs.Custody
import HarvestTestbed.Simulation.Timer
import HarvestTestbed.Timing.Loop

/-!
# A bench for the timing core

The timing loop works on a simulated timer that moves only when it is told to, and the sync service
answers it.  Everyone else takes part through operations of the ports, in any order.
-/

namespace HarvestTestbed

inductive SyncEvent
  | step
  | advance (ticks : ℕ)
  | setGpio (levels : UInt32)
  | trigger
  | serve
  | resetService
  | setClock (clock : SteppingClock)
  /-- An operation of any actor. -/
  | op (op : ArenaOp)

structure SyncBench where
  memory : SharedMemory
  timing : TimingLoop SimulatedTimer
  service : SyncService

structure SyncSetup where
  pool : BufferPool
  cfg : SyncConfig
  /-- The wrap value of the timer before the loop sets one. -/
  timerPeriod : UInt32
  service : SyncService

/-- A bench with one small buffer and a clock that stands still. -/
def SyncSetup.simulated (cfg : SyncConfig) : SyncSetup where
  pool := { entries := #[{ buffer := .ofCapacity 1 }] }
  cfg := cfg
  timerPeriod := cfg.nominalTicks
  service :=
    { controller := .start cfg
      aligner := .new cfg
      clock := { now := 0, step := 0 } }

namespace SyncBench

/-- A new arena, split with a pool, and a timing core that has just been started. -/
def start (setup : SyncSetup) : SyncBench where
  memory := ({ pool := setup.pool } : SharedMemory).split.2
  timing := .new (.new setup.timerPeriod) setup.cfg
  service := setup.service

def mapTimer (bench : SyncBench) (change : SimulatedTimer → SimulatedTimer) : SyncBench :=
  { bench with timing := { bench.timing with timer := change bench.timing.timer } }

def step (bench : SyncBench) : SyncEvent → SyncBench
  | .step =>
      let stepped := bench.timing.step bench.memory
      { bench with timing := stepped.1, memory := stepped.2 }
  | .advance ticks => bench.mapTimer (·.advance ticks)
  | .setGpio levels => bench.mapTimer (·.setGpio levels)
  | .trigger =>
      let triggered := bench.service.trigger bench.memory
      { bench with service := triggered.2.1, memory := triggered.2.2 }
  | .serve =>
      let served := bench.service.serve bench.memory
      { bench with service := served.2.1, memory := served.2.2 }
  | .resetService => { bench with service := bench.service.reset }
  | .setClock clock => { bench with service := { bench.service with clock := clock } }
  | .op op => { bench with memory := op.apply bench.memory }

def run (bench : SyncBench) (events : List SyncEvent) : SyncBench :=
  events.foldl step bench

structure Transition where
  before : SyncBench
  event : SyncEvent

def Transition.after (transition : Transition) : SyncBench :=
  transition.before.step transition.event

def trace (bench : SyncBench) : List SyncEvent → List Transition
  | [] => []
  | event :: events => ⟨bench, event⟩ :: (bench.step event).trace events

theorem run_append (bench : SyncBench) (events more : List SyncEvent) :
    bench.run (events ++ more) = (bench.run events).run more :=
  List.foldl_append

theorem run_concat (bench : SyncBench) (events : List SyncEvent) (event : SyncEvent) :
    bench.run (events ++ [event]) = (bench.run events).step event :=
  bench.run_append events [event]

theorem trace_append (bench : SyncBench) (events more : List SyncEvent) :
    bench.trace (events ++ more) = bench.trace events ++ (bench.run events).trace more := by
  induction events generalizing bench with
  | nil => rfl
  | cons event events ih =>
      rw [List.cons_append, trace, ih, trace, List.cons_append]
      rfl

theorem trace_concat (bench : SyncBench) (events : List SyncEvent) (event : SyncEvent) :
    bench.trace (events ++ [event]) = bench.trace events ++ [⟨bench.run events, event⟩] :=
  bench.trace_append events [event]

end SyncBench

end HarvestTestbed
