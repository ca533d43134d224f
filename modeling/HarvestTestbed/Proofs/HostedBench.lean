import HarvestTestbed.Host.SyncService
import HarvestTestbed.Proofs.Bench

/-!
# The test bed with its host

Beside both loops and the pump the sync service runs, at a pace of its own as well.  The session is
in the hands of the host, who may finish a reset or put it back to idle by hand.
-/

namespace HarvestTestbed

inductive HostedEvent (F T : Type)
  | bench (event : BenchEvent F T)
  | trigger
  | serve
  | resetService
  | setClock (clock : SteppingClock)

/-- The bench and the sync service, which share the memory. -/
structure HostedBench (F T : Type) where
  bench : Bench F T
  service : SyncService

structure HostedSetup (F T : Type) where
  bench : BenchSetup F T
  service : SyncService

namespace HostedBench

variable {F T : Type} [Frontend F] [Timer T]

def start (setup : HostedSetup F T) : HostedBench F T where
  bench := .start setup.bench
  service := setup.service

def memory (hosted : HostedBench F T) : SharedMemory :=
  hosted.bench.memory

def timing (hosted : HostedBench F T) : TimingLoop T :=
  hosted.bench.timing

def step (hosted : HostedBench F T) : HostedEvent F T → HostedBench F T
  | .bench event => { hosted with bench := hosted.bench.step event }
  | .trigger =>
      let triggered := hosted.service.trigger hosted.memory
      { bench := { hosted.bench with memory := triggered.2.2 }, service := triggered.2.1 }
  | .serve =>
      let served := hosted.service.serve hosted.memory
      { bench := { hosted.bench with memory := served.2.2 }, service := served.2.1 }
  | .resetService => { hosted with service := hosted.service.reset }
  | .setClock clock => { hosted with service := { hosted.service with clock := clock } }

def run (hosted : HostedBench F T) (events : List (HostedEvent F T)) : HostedBench F T :=
  events.foldl step hosted

structure Transition (F T : Type) where
  before : HostedBench F T
  event : HostedEvent F T

def Transition.after (transition : Transition F T) : HostedBench F T :=
  transition.before.step transition.event

def trace (hosted : HostedBench F T) : List (HostedEvent F T) → List (Transition F T)
  | [] => []
  | event :: events => ⟨hosted, event⟩ :: (hosted.step event).trace events

end HostedBench

end HarvestTestbed
