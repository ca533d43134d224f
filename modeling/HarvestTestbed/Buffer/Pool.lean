import HarvestTestbed.Buffer.Sample
import HarvestTestbed.Buffer.EdgeLog
import HarvestTestbed.Fault

/-!
# The buffer pool

The pool holds all sample buffers of a session and records who owns each of them.  Ownership moves
only along the transitions below, and a transition is refused unless the buffer has the expected
owner.  A handle is the right to use a buffer: one is handed out when a buffer becomes the
producer's or the consumer's, and giving it up is a transition as well.
-/

namespace HarvestTestbed

/-- Who owns a buffer. -/
inductive BufferOwner
  | freeRing
  | producer
  /-- Announced to the host, not yet claimed. -/
  | filled
  | consumer
  /-- Its handle was dropped without a hand-over; reclaimed by the next session reset. -/
  | detached
  deriving DecidableEq, Repr, Inhabited

namespace BufferOwner

/-- The code of an owner as a payload word of a status event. -/
def toWord : BufferOwner → UInt32
  | freeRing => 0
  | producer => 1
  | filled => 2
  | consumer => 3
  | detached => 4

def name : BufferOwner → String
  | freeRing => "FreeRing"
  | producer => "Producer"
  | filled => "Filled"
  | consumer => "Consumer"
  | detached => "Detached"

/-- Whether a live handle points at a buffer with this owner. -/
def isHeld : BufferOwner → Bool
  | producer => true
  | consumer => true
  | _ => false

end BufferOwner

/-- A buffer with its owner and the edges logged while it was being filled. -/
structure PoolEntry where
  owner : BufferOwner := .freeRing
  buffer : SampleBuffer
  edges : EdgeLog := {}
  deriving DecidableEq, Repr, Inhabited

/-- The right to fill a buffer. -/
structure ProducerHandle where
  index : UInt32
  deriving DecidableEq, Repr, Inhabited

/-- The right to read a filled buffer. -/
structure ConsumerHandle where
  index : UInt32
  deriving DecidableEq, Repr, Inhabited

structure BufferPool where
  entries : Array PoolEntry
  /-- Whether an arena was split with this pool. -/
  attached : Bool := false
  deriving DecidableEq, Repr, Inhabited

namespace BufferPool

def new (count samples : Nat) : Except Fault BufferPool :=
  if count = 0 ∨ ringCapacity < count then
    .error (.invalidConfig (.bufferCount count))
  else if samples = 0 then
    .error (.invalidConfig .emptyBuffers)
  else
    .ok { entries := Array.replicate count { buffer := .ofCapacity samples } }

def size (pool : BufferPool) : Nat :=
  pool.entries.size

def entry? (pool : BufferPool) (index : UInt32) : Option PoolEntry :=
  pool.entries[index.toNat]?

def owner? (pool : BufferPool) (index : UInt32) : Option BufferOwner :=
  (pool.entry? index).map (·.owner)

/-- The owner of a buffer as a payload word; all bits set if there is no such buffer. -/
def ownerWord (pool : BufferPool) (index : UInt32) : UInt32 :=
  match pool.owner? index with
  | some owner => owner.toWord
  | none => 0xffffffff

def modify (pool : BufferPool) (index : UInt32) (change : PoolEntry → PoolEntry) : BufferPool :=
  { pool with entries := pool.entries.modify index.toNat change }

/-- Hands a buffer from one owner to another; refused if the first does not own it. -/
def transition? (pool : BufferPool) (index : UInt32) (source target : BufferOwner) :
    Option BufferPool :=
  if pool.owner? index = some source then
    some (pool.modify index fun entry => { entry with owner := target })
  else none

/-- Binds the pool to an arena; a pool serves one arena only. -/
def attach (pool : BufferPool) : Except Fault BufferPool :=
  if pool.attached then .error .alreadyInstantiated
  else .ok { pool with attached := true }

def held (pool : BufferPool) : Nat :=
  pool.entries.countP (·.owner.isHeld)

/-- Hands every filled or detached buffer back; refused while any handle is alive. -/
def reclaim (pool : BufferPool) : Except Fault BufferPool :=
  if 0 < pool.held then .error (.buffersHeld pool.held)
  else .ok { pool with entries := pool.entries.map free }
where
  free (entry : PoolEntry) : PoolEntry :=
    match entry.owner with
    | .filled => { entry with owner := .freeRing }
    | .detached => { entry with owner := .freeRing }
    | _ => entry

/-- Takes a free buffer for filling and empties it. -/
def takeForProducer (pool : BufferPool) (index : UInt32) : Option (ProducerHandle × BufferPool) :=
  (pool.transition? index .freeRing .producer).map fun pool =>
    (⟨index⟩, pool.modify index fun entry => { entry with buffer := entry.buffer.reset })

/-- What a producer handle gives access to. -/
def bufferOf (pool : BufferPool) (handle : ProducerHandle) : SampleBuffer :=
  ((pool.entry? handle.index).map (·.buffer)).getD (.ofCapacity 0)

/-- Gives the filling of a buffer up with its summary attached; answers the number of valid
samples. -/
def markFilled (pool : BufferPool) (handle : ProducerHandle) (summary : BufferMeta) :
    Nat × BufferPool :=
  let finished := pool.modify handle.index fun entry =>
    { entry with buffer := entry.buffer.finish summary }
  let count := ((finished.entry? handle.index).map (·.buffer.length)).getD 0
  (count, (finished.transition? handle.index .producer .filled).getD finished)

def unmarkFilled (pool : BufferPool) (index : UInt32) : Option (ProducerHandle × BufferPool) :=
  (pool.transition? index .filled .producer).map fun pool => (⟨index⟩, pool)

def claimFilled (pool : BufferPool) (index : UInt32) : Option (ConsumerHandle × BufferPool) :=
  (pool.transition? index .filled .consumer).map fun pool => (⟨index⟩, pool)

def releaseConsumed (pool : BufferPool) (handle : ConsumerHandle) : BufferPool :=
  (pool.transition? handle.index .consumer .freeRing).getD pool

/-- Drops the right to fill a buffer without handing it over. -/
def dropProducer (pool : BufferPool) (handle : ProducerHandle) : BufferPool :=
  (pool.transition? handle.index .producer .detached).getD pool

def dropConsumer (pool : BufferPool) (handle : ConsumerHandle) : BufferPool :=
  (pool.transition? handle.index .consumer .detached).getD pool

/-- Writes a sample into a buffer being filled; false if it lies beyond the capacity. -/
def put (pool : BufferPool) (handle : ProducerHandle) (index : Nat) (sample : IvSample) :
    Bool × BufferPool :=
  let stored := match pool.entry? handle.index with
    | some entry => index < entry.buffer.capacity
    | none => false
  (stored, pool.modify handle.index fun entry =>
    { entry with buffer := (entry.buffer.put index sample).2 })

end BufferPool

end HarvestTestbed
