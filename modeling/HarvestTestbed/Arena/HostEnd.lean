import HarvestTestbed.Arena.Basic

/-!
# The ends of the host

The host reads the announcements of the sampling core, claims the buffers they name and recycles
them; it collects the status events of all actors; and it raises the sync trigger and answers the
requests of the timing core.
-/

namespace HarvestTestbed.SharedMemory

def pumpReceive (memory : SharedMemory) : Option Message × SharedMemory :=
  let arena := memory.arena
  let received := Channel.receive .host .pru0 arena.pru0ToHost arena.hostStatus
  (received.answer, { memory with
    arena := { arena with pru0ToHost := received.slot, hostStatus := received.status } })

def pumpSend (memory : SharedMemory) (type : MessageType) (first second : UInt32) :
    Bool × SharedMemory :=
  let arena := memory.arena
  let sent := Channel.send .host arena.hostToPru0 arena.hostStatus type first second
  (sent.accepted, { memory with
    arena := { arena with hostToPru0 := sent.slot, hostStatus := sent.status } })

/-- Claims an announced buffer; one that is not in the filled state is reported as corruption. -/
def claim (memory : SharedMemory) (index : UInt32) : Option ConsumerHandle × SharedMemory :=
  match memory.pool.claimFilled index with
  | some (handle, pool) => (some handle, { memory with pool := pool })
  | none => (none, memory.notify .host .memoryCorruption index (memory.pool.ownerWord index))

/-- Returns a consumed buffer to the free ring. -/
def recycle (memory : SharedMemory) (handle : ConsumerHandle) : Bool × SharedMemory :=
  let released := { memory with pool := memory.pool.releaseConsumed handle }
  match released.arena.freeRing.push? handle.index with
  | some ring => (true, released.mapArena fun arena => { arena with freeRing := ring })
  | none =>
      (false, released.notify .host .valueOutOfRange handle.index
        (UInt32.ofNat released.arena.freeRing.length))

/-- Drops a claimed buffer without recycling it. -/
def dropFilled (memory : SharedMemory) (handle : ConsumerHandle) : SharedMemory :=
  { memory with pool := memory.pool.dropConsumer handle }

/-- Takes the pending status events of all actors, host first. -/
def pollStatus (memory : SharedMemory) : List StatusEvent × SharedMemory :=
  let arena := memory.arena
  let host := arena.hostStatus.poll .host
  let pru0 := arena.pru0Status.poll .pru0
  let pru1 := arena.pru1Status.poll .pru1
  ([host.1, pru0.1, pru1.1].filterMap id, { memory with
    arena := { arena with hostStatus := host.2, pru0Status := pru0.2, pru1Status := pru1.2 } })

/-- Signals the timing core to stamp its timer. -/
def raiseSyncTrigger (memory : SharedMemory) : SharedMemory :=
  memory.mapArena fun arena => { arena with syncTrigger := .raised }

def syncReceive (memory : SharedMemory) : Option Message × SharedMemory :=
  let arena := memory.arena
  let received := Channel.receive .host .pru1 arena.pru1ToHost arena.hostStatus
  (received.answer, { memory with
    arena := { arena with pru1ToHost := received.slot, hostStatus := received.status } })

def syncTryReceive (memory : SharedMemory) : Except ReceiveFault Message × SharedMemory :=
  let received := Channel.tryReceive .pru1 memory.arena.pru1ToHost
  (received.1, memory.mapArena fun arena => { arena with pru1ToHost := received.2 })

def sendReply (memory : SharedMemory) (reply : SyncReply) : Bool × SharedMemory :=
  let arena := memory.arena
  let sent := Channel.sendReply .host arena.hostToPru1 arena.hostStatus reply
  (sent.accepted, { memory with
    arena := { arena with hostToPru1 := sent.slot, hostStatus := sent.status } })

def trySendReply (memory : SharedMemory) (reply : SyncReply) : Bool × SharedMemory :=
  let sent := Channel.trySendReply .host memory.arena.hostToPru1 reply
  (sent.1.isOk, memory.mapArena fun arena => { arena with hostToPru1 := sent.2 })

/-- Whether the timing core has not read the last reply yet. -/
def replyPending (memory : SharedMemory) : Bool :=
  memory.arena.hostToPru1.isUnread

end HarvestTestbed.SharedMemory
