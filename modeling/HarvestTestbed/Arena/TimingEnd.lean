import HarvestTestbed.Arena.Basic

/-!
# The end of the timing core

The timing core consumes the sync trigger, exchanges requests and replies with the host, announces
periods and samples to the sampling core and logs edges with the buffer being filled.
-/

namespace HarvestTestbed.SharedMemory

def takeSyncTrigger (memory : SharedMemory) : Bool × SharedMemory :=
  let taken := memory.arena.syncTrigger.take
  (taken.1, memory.mapArena fun arena => { arena with syncTrigger := taken.2 })

/-- Announces a new period. -/
def raiseBufferSwap (memory : SharedMemory) (timestamp : UInt64) : SharedMemory :=
  memory.mapArena fun arena =>
    { arena with bufferTimestamp := timestamp, bufferSwapTrigger := .raised }

def raiseSample (memory : SharedMemory) : SharedMemory :=
  memory.mapArena fun arena => { arena with sampleTrigger := .raised }

def samplePending (memory : SharedMemory) : Bool :=
  memory.arena.sampleTrigger.isRaised

/-- Whether the last swap or sample trigger was not taken yet. -/
def triggersPending (memory : SharedMemory) : Bool :=
  memory.arena.bufferSwapTrigger.isRaised || memory.arena.sampleTrigger.isRaised

/-- Logs an edge with the buffer being filled. -/
def recordEdge (memory : SharedMemory) (event : EdgeEvent) : Bool × SharedMemory :=
  let recorded := memory.arena.edgeTarget.value.record memory.pool event
  (recorded.1, { memory with pool := recorded.2 })

def timingSend (memory : SharedMemory) (type : MessageType) (first second : UInt32) :
    Bool × SharedMemory :=
  let arena := memory.arena
  let sent := Channel.send .pru1 arena.pru1ToHost arena.pru1Status type first second
  (sent.accepted, { memory with
    arena := { arena with pru1ToHost := sent.slot, pru1Status := sent.status } })

def timingTrySend (memory : SharedMemory) (type : MessageType) (first second : UInt32) :
    Bool × SharedMemory :=
  let sent := Channel.trySend .pru1 memory.arena.pru1ToHost type first second
  (sent.1.isOk, memory.mapArena fun arena => { arena with pru1ToHost := sent.2 })

def timingPending (memory : SharedMemory) : Bool :=
  memory.arena.pru1ToHost.isUnread

def receiveReply (memory : SharedMemory) : Option SyncReply × SharedMemory :=
  let arena := memory.arena
  let received := Channel.receiveReply .pru1 .host arena.hostToPru1 arena.pru1Status
  (received.answer, { memory with
    arena := { arena with hostToPru1 := received.slot, pru1Status := received.status } })

def tryReceiveReply (memory : SharedMemory) : Except ReceiveFault SyncReply × SharedMemory :=
  let received := Channel.tryReceiveReply .host memory.arena.hostToPru1
  (received.1, memory.mapArena fun arena => { arena with hostToPru1 := received.2 })

def timingAcknowledge (memory : SharedMemory) : SharedMemory :=
  (memory.mapArena fun arena => { arena with pru1ResetAck := .raised }).notify .pru1 .restart 0 0

end HarvestTestbed.SharedMemory
