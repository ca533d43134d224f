import HarvestTestbed.Arena.Basic

/-!
# The end of the sampling core

The sampling core takes free buffers, fills them and hands them to the host, directs the edge
target, consumes the swap and sample triggers of the timing core and exchanges messages with the
host.
-/

namespace HarvestTestbed.SharedMemory

/-- Takes the next free buffer, or reports exhaustion. -/
def acquire (memory : SharedMemory) : Option ProducerHandle × SharedMemory :=
  match memory.arena.freeRing.pop? with
  | none =>
      (none, memory.notify .pru0 .bufferPoolExhausted 0 (UInt32.ofNat memory.pool.size))
  | some (index, ring) =>
      let popped := memory.mapArena fun arena => { arena with freeRing := ring }
      match popped.pool.takeForProducer index with
      | some (handle, pool) => (some handle, { popped with pool := pool })
      | none =>
          (none, popped.notify .pru0 .memoryCorruption index (popped.pool.ownerWord index))

def samplingSend (memory : SharedMemory) (type : MessageType) (first second : UInt32) :
    Bool × SharedMemory :=
  let arena := memory.arena
  let sent := Channel.send .pru0 arena.pru0ToHost arena.pru0Status type first second
  (sent.accepted, { memory with
    arena := { arena with pru0ToHost := sent.slot, pru0Status := sent.status } })

def samplingReceive (memory : SharedMemory) : Option Message × SharedMemory :=
  let arena := memory.arena
  let received := Channel.receive .pru0 .host arena.hostToPru0 arena.pru0Status
  (received.answer, { memory with
    arena := { arena with hostToPru0 := received.slot, pru0Status := received.status } })

/-- Hands a completed buffer to the host.  If the host has not read the previous announcement, the
refusal is reported and the buffer given back.  Edge capture into the buffer stops either way. -/
def release (memory : SharedMemory) (handle : ProducerHandle) (summary : BufferMeta) :
    Option ProducerHandle × SharedMemory :=
  let marked := memory.pool.markFilled handle summary
  let detached : SharedMemory :=
    { memory with
      arena := { memory.arena with
        edgeTarget := memory.arena.edgeTarget.update (·.detach handle.index) }
      pool := marked.2 }
  let sent := detached.samplingSend .bufferFilled handle.index (UInt32.ofNat marked.1)
  if sent.1 then (none, sent.2)
  else
    match sent.2.pool.unmarkFilled handle.index with
    | some (handle, pool) => (some handle, { sent.2 with pool := pool })
    | none => (none, sent.2.notify .pru0 .memoryCorruption handle.index 0)

/-- Drops a buffer without handing it over. -/
def dropHandle (memory : SharedMemory) (handle : ProducerHandle) : SharedMemory :=
  { memory with pool := memory.pool.dropProducer handle }

def put (memory : SharedMemory) (handle : ProducerHandle) (index : Nat) (sample : IvSample) :
    Bool × SharedMemory :=
  let stored := memory.pool.put handle index sample
  (stored.1, { memory with pool := stored.2 })

/-- Directs edge capture to a buffer, or stops it. -/
def swapEdges (memory : SharedMemory) (index : Option UInt32) : SharedMemory :=
  let swapped := EdgeTarget.swap memory.pool index
  { memory with
    arena := { memory.arena with edgeTarget := memory.arena.edgeTarget.update fun _ => swapped.1 }
    pool := swapped.2 }

def swapPending (memory : SharedMemory) : Bool :=
  memory.arena.bufferSwapTrigger.isRaised

/-- Consumes the swap trigger; answers the timestamp of the new period. -/
def takeSwapTrigger (memory : SharedMemory) : Option UInt64 × SharedMemory :=
  let taken := memory.arena.bufferSwapTrigger.take
  (if taken.1 then some memory.arena.bufferTimestamp else none,
    memory.mapArena fun arena => { arena with bufferSwapTrigger := taken.2 })

def takeSampleTrigger (memory : SharedMemory) : Bool × SharedMemory :=
  let taken := memory.arena.sampleTrigger.take
  (taken.1, memory.mapArena fun arena => { arena with sampleTrigger := taken.2 })

def samplingAcknowledge (memory : SharedMemory) : SharedMemory :=
  (memory.mapArena fun arena => { arena with pru0ResetAck := .raised }).notify .pru0 .restart 0 0

end HarvestTestbed.SharedMemory
