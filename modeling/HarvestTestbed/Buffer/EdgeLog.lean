import HarvestTestbed.Number.Saturating

/-!
# Edge logs

While a buffer is being filled, level changes on the monitored lines of the target are logged with
it.  A log is bounded; edges that do not fit are counted.
-/

namespace HarvestTestbed

/-- A level change on the monitored lines. -/
structure EdgeEvent where
  /-- The sample during which the edge occurred. -/
  sampleIndex : UInt32
  timestamp : UInt64
  /-- Line levels after the edge. -/
  levels : UInt32
  deriving DecidableEq, Repr, Inhabited

def edgeLogCapacity : Nat := 512

/-- The edges of one buffer period. -/
structure EdgeLog where
  events : Array EdgeEvent := #[]
  dropped : UInt32 := 0
  deriving DecidableEq, Repr, Inhabited

namespace EdgeLog

/-- Appends an edge; false if it did not fit. -/
def push (log : EdgeLog) (event : EdgeEvent) : Bool × EdgeLog :=
  if log.events.size < edgeLogCapacity then
    (true, { log with events := log.events.push event })
  else
    (false, { log with dropped := Saturating.add32 log.dropped 1 })

end EdgeLog

end HarvestTestbed
