import HarvestTestbed.Host.MessagePump
import HarvestTestbed.Proofs.Custody

/-!
# What the ports answer

A caller of the ports sees answers and nothing else: the result of every operation, what the getters
of the ports read, and the content of the buffers to which it has a handle.  Of a buffer it sees the
samples that count as valid, not the cells behind them, and the edge log of a buffer is open to its
consumer only.  A sequence of calls is answered call by call, so that two memories can be compared
by what they answer to the same calls.
-/

namespace HarvestTestbed

/-- What a handle shows of a sample buffer. -/
structure BufferReading where
  timestamp : UInt64
  length : ℕ
  capacity : ℕ
  samples : Array IvSample
  util : Utilization
  inputPower : UInt64
  deriving DecidableEq, Repr

def SampleBuffer.reading (buffer : SampleBuffer) : BufferReading where
  timestamp := buffer.timestamp
  length := buffer.length
  capacity := buffer.capacity
  samples := buffer.samples
  util := buffer.util
  inputPower := buffer.inputPower

/-- A look through a port, which changes nothing.  A live handle is named by its position. -/
inductive PortQuery
  | state
  | mode
  | resetAcknowledged
  | swapPending
  | samplePending
  | triggersPending
  | timingPending
  | replyPending
  | ringLength
  | ringEmpty
  | ringFull
  | ringContains (index : UInt32)
  | poolSize
  | held
  | owner (index : UInt32)
  | producer (position : ℕ)
  | consumer (position : ℕ)
  deriving DecidableEq, Repr

/-- A call of a port: an operation or a look. -/
inductive PortCall
  | op (op : PortOp)
  | query (query : PortQuery)
  deriving DecidableEq, Repr

/-- What a call answers. -/
inductive PortAnswer
  | done
  /-- There is no live handle at the position named. -/
  | absent
  | flag (value : Bool)
  | number (value : ℕ)
  | state (state : SessionState)
  | mode (mode : Mode)
  | owner (owner : Option BufferOwner)
  | timestamp (timestamp : Option UInt64)
  | producer (handle : Option ProducerHandle)
  | consumer (handle : Option ConsumerHandle)
  | received (message : Option Message)
  | tried (result : Except ReceiveFault Message)
  | replied (reply : Option SyncReply)
  | triedReply (result : Except ReceiveFault SyncReply)
  | events (events : List StatusEvent)
  | outcome (result : Except Fault Unit)
  | content (index : UInt32) (reading : BufferReading) (edges : Option EdgeLog)
  deriving DecidableEq

/-- An answer without the sample values and the edges that it shows. -/
def PortAnswer.withoutData : PortAnswer → PortAnswer
  | .content index reading edges =>
      .content index { reading with samples := #[] } (edges.map fun _ => {})
  | answer => answer

def ArenaOp.answer (memory : SharedMemory) : ArenaOp → PortAnswer
  | samplingSend type first second => .flag (memory.samplingSend type first second).1
  | samplingReceive => .received memory.samplingReceive.1
  | pumpSend type first second => .flag (memory.pumpSend type first second).1
  | pumpReceive => .received memory.pumpReceive.1
  | timingSend type first second => .flag (memory.timingSend type first second).1
  | timingTrySend type first second => .flag (memory.timingTrySend type first second).1
  | syncReceive => .received memory.syncReceive.1
  | syncTryReceive => .tried memory.syncTryReceive.1
  | sendReply reply => .flag (memory.sendReply reply).1
  | trySendReply reply => .flag (memory.trySendReply reply).1
  | receiveReply => .replied memory.receiveReply.1
  | tryReceiveReply => .triedReply memory.tryReceiveReply.1
  | pollStatus => .events memory.pollStatus.1
  | notify origin code first second => .flag (memory.report origin code first second).1
  | takeSyncTrigger => .flag memory.takeSyncTrigger.1
  | takeSwapTrigger => .timestamp memory.takeSwapTrigger.1
  | takeSampleTrigger => .flag memory.takeSampleTrigger.1
  | recordEdge event => .flag (memory.recordEdge event).1
  | setState next => .outcome (memory.setState next).1
  | setMode mode => .outcome (memory.setMode mode).1
  | requestReset => .outcome memory.requestReset.1
  | completeReset => .outcome memory.completeReset.1
  | raiseSyncTrigger | raiseBufferSwap _ | raiseSample | swapEdges _ | samplingAcknowledge
  | timingAcknowledge => .done

namespace Custody

def answer (custody : Custody) : PortOp → PortAnswer
  | .acquire => .producer custody.memory.acquire.1
  | .put position index sample =>
      match custody.producers[position]? with
      | some handle => .flag (custody.memory.put handle index sample).1
      | none => .absent
  | .release position summary =>
      match custody.producers[position]? with
      | some handle => .producer (custody.memory.release handle summary).1
      | none => .absent
  | .dropHandle position => if position < custody.producers.length then .done else .absent
  | .claim index => .consumer (custody.memory.claim index).1
  | .recycle position =>
      match custody.consumers[position]? with
      | some handle => .flag (custody.memory.recycle handle).1
      | none => .absent
  | .dropFilled position => if position < custody.consumers.length then .done else .absent
  | .arena op => op.answer custody.memory

def look (custody : Custody) : PortQuery → PortAnswer
  | .state => .state custody.memory.state
  | .mode => .mode custody.memory.mode
  | .resetAcknowledged => .flag custody.memory.resetAcknowledged
  | .swapPending => .flag custody.memory.swapPending
  | .samplePending => .flag custody.memory.samplePending
  | .triggersPending => .flag custody.memory.triggersPending
  | .timingPending => .flag custody.memory.timingPending
  | .replyPending => .flag custody.memory.replyPending
  | .ringLength => .number custody.memory.arena.freeRing.length
  | .ringEmpty => .flag custody.memory.arena.freeRing.isEmpty
  | .ringFull => .flag custody.memory.arena.freeRing.isFull
  | .ringContains index => .flag (custody.memory.arena.freeRing.contains index)
  | .poolSize => .number custody.memory.pool.size
  | .held => .number custody.memory.pool.held
  | .owner index => .owner (custody.memory.pool.owner? index)
  | .producer position =>
      match custody.producers[position]? with
      | some handle => .content handle.index (custody.memory.pool.bufferOf handle).reading none
      | none => .absent
  | .consumer position =>
      match custody.consumers[position]? with
      | some handle =>
          let filled := custody.memory.pool.view handle
          .content filled.index filled.buffer.reading (some filled.edges)
      | none => .absent

def answers (custody : Custody) : List PortCall → List PortAnswer
  | [] => []
  | .op op :: calls => custody.answer op :: (custody.step op).answers calls
  | .query query :: calls => custody.look query :: custody.answers calls

end Custody

end HarvestTestbed
