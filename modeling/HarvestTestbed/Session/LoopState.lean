/-!
# Loop states

Both real-time loops are state machines with the same four states.
-/

namespace HarvestTestbed

inductive LoopState
  /-- Dropping all session state; acknowledges a reset request. -/
  | reset
  /-- Waiting for the host to start the session. -/
  | awaitStart
  | running
  /-- Stopped after a fatal error, until the host resets the session. -/
  | fault
  deriving DecidableEq, Repr, Inhabited

namespace LoopState

def name : LoopState → String
  | reset => "Reset"
  | awaitStart => "AwaitStart"
  | running => "Running"
  | fault => "Fault"

end LoopState

end HarvestTestbed
