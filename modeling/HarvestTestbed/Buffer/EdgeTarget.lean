import HarvestTestbed.Buffer.Pool

/-!
# The edge target

Edges are captured by the timing core while the buffer they belong to is filled by the sampling
core.  The edge target names the buffer whose log takes them.  It is swapped at every buffer
boundary, with the log of the new target emptied, and switched off before a buffer is handed over.
-/

namespace HarvestTestbed

structure EdgeTarget where
  index : UInt32 := 0
  active : Bool := false
  deriving DecidableEq, Repr, Inhabited

namespace EdgeTarget

/-- Points edge capture at a buffer and empties its log, or at nothing. -/
def swap (pool : BufferPool) (next : Option UInt32) : EdgeTarget × BufferPool :=
  match next with
  | some index =>
      if index.toNat < pool.size then
        (⟨index, true⟩, pool.modify index fun entry => { entry with edges := {} })
      else ({}, pool)
  | none => ({}, pool)

def detach (target : EdgeTarget) (index : UInt32) : EdgeTarget :=
  if target.active ∧ target.index = index then {} else target

/-- Logs an edge with the target; false if there is none or its log is full. -/
def record (target : EdgeTarget) (pool : BufferPool) (event : EdgeEvent) : Bool × BufferPool :=
  if target.active then
    match pool.entry? target.index with
    | some entry =>
        ((entry.edges.push event).1,
          pool.modify target.index fun entry => { entry with edges := (entry.edges.push event).2 })
    | none => (false, pool)
  else (false, pool)

end EdgeTarget

end HarvestTestbed
