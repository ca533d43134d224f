import HarvestTestbed.Fault

/-!
# The free ring

The indices of free buffers circulate through a ring of fixed capacity in shared memory.  The host
writes the tail and the sampling core the head; both count up and wrap, and their difference is
the fill level.
-/

namespace HarvestTestbed

structure FreeRing where
  slots : Vector UInt32 ringCapacity := .replicate _ 0
  head : UInt32 := 0
  tail : UInt32 := 0
  deriving DecidableEq, Repr

namespace FreeRing

instance : Inhabited FreeRing := ⟨{}⟩

def slotIndex (counter : UInt32) : Fin ringCapacity :=
  ⟨counter.toNat % ringCapacity, Nat.mod_lt _ (by decide)⟩

def length (ring : FreeRing) : Nat :=
  (ring.tail - ring.head).toNat

def isEmpty (ring : FreeRing) : Bool :=
  ring.length == 0

def isFull (ring : FreeRing) : Bool :=
  ringCapacity ≤ ring.length

/-- Queues an index; refused when the ring is full. -/
def push? (ring : FreeRing) (index : UInt32) : Option FreeRing :=
  if ring.isFull then none
  else some { ring with
    slots := ring.slots.set (slotIndex ring.tail) index
    tail := ring.tail + 1 }

/-- Dequeues the oldest index. -/
def pop? (ring : FreeRing) : Option (UInt32 × FreeRing) :=
  if ring.head = ring.tail then none
  else some (ring.slots[slotIndex ring.head], { ring with head := ring.head + 1 })

/-- The queued indices, oldest first. -/
def toList (ring : FreeRing) : List UInt32 :=
  (List.range ring.length).map fun offset => ring.slots[slotIndex (ring.head + UInt32.ofNat offset)]

def contains (ring : FreeRing) (index : UInt32) : Bool :=
  (List.range (min ring.length ringCapacity)).any fun offset =>
    ring.slots[slotIndex (ring.head + UInt32.ofNat offset)] == index

/-- Empties the ring; the slots keep their last values. -/
def reset (ring : FreeRing) : FreeRing :=
  { ring with head := 0, tail := 0 }

end FreeRing

end HarvestTestbed
