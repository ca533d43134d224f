import HarvestTestbed.Sync.Config
import HarvestTestbed.Simulation.Clock

/-!
# Alignment of the host trigger

The host raises its sync trigger at the period boundaries of the wall clock.  It sleeps until shortly
before the boundary and spins over the rest.  A boundary missed by more than a period is given up:
the schedule is realigned to the next boundary and nothing is triggered.
-/

namespace HarvestTestbed

/-- Outcome of waiting for the next boundary. -/
inductive Alignment
  /-- The boundary was reached; trigger now. -/
  | aligned (deadline late : UInt64)
  /-- The boundary was missed by more than a period. -/
  | resynced (next missed : UInt64)
  /-- No reading of the clock ever reaches the boundary; the wait does not end. -/
  | stalled
  deriving DecidableEq, Repr

structure TriggerAligner where
  period : UInt64
  spinWindow : UInt64
  deadline : Option UInt64 := none
  deriving DecidableEq, Repr

namespace TriggerAligner

def new (cfg : SyncConfig) : TriggerAligner :=
  { period := max cfg.period 1, spinWindow := cfg.spinWindow }

/-- The first period boundary after `now`. -/
def nextBoundary (aligner : TriggerAligner) (now : UInt64) : UInt64 :=
  (now / aligner.period + 1) * aligner.period

/-- Forgets the schedule; the next wait aligns to the next boundary. -/
def resync (aligner : TriggerAligner) : TriggerAligner :=
  { aligner with deadline := none }

/-- Sleeps over the part of the wait that lies before the spin window. -/
def sleepBefore (aligner : TriggerAligner) (clock : SteppingClock) (now deadline : UInt64) :
    SteppingClock :=
  if Saturating.add64 now aligner.spinWindow < deadline then
    clock.sleepUntil (deadline - aligner.spinWindow)
  else clock

/-- Waits for the next boundary. -/
def wait (aligner : TriggerAligner) (clock : SteppingClock) :
    Alignment × TriggerAligner × SteppingClock :=
  let first := clock.read
  let deadline := aligner.deadline.getD (aligner.nextBoundary first.1)
  if Saturating.add64 deadline aligner.period < first.1 then
    let next := aligner.nextBoundary first.1
    (.resynced next ((first.1 - deadline) / aligner.period),
      { aligner with deadline := some next }, first.2)
  else
    match (aligner.sleepBefore first.2 first.1 deadline).spinUntil deadline with
    | (some now, clock) =>
        (.aligned deadline (now - deadline),
          { aligner with deadline := some (deadline + aligner.period) }, clock)
    | (none, clock) => (.stalled, aligner, clock)

end TriggerAligner

end HarvestTestbed
