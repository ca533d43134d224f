import HarvestTestbed.Arena.HostEnd
import HarvestTestbed.Arena.SamplingEnd
import HarvestTestbed.Arena.TimingEnd
import HarvestTestbed.Arena.SessionControl
import HarvestTestbed.Proofs.Channel
import HarvestTestbed.Proofs.Pool

/-!
# What the operations of the actors leave alone

The shared memory is large, and most operations touch little of it.  The ledger is the part on
which ownership, recording and the reset handshake rest: the words of session control, and the
material of the buffers, which is the free ring, the slot in which filled buffers are announced,
and the owner and the content of every buffer.  This file says of each operation what it does to
the ledger.  Most of them leave it as it is.
-/

namespace HarvestTestbed

/-- The words through which the session is controlled. -/
structure Control where
  sessionState : UInt32
  mode : UInt32
  pru0ResetAck : Flag
  pru1ResetAck : Flag
  deriving DecidableEq, Repr

structure Material where
  freeRing : FreeRing
  /-- The slot in which the sampling core announces filled buffers. -/
  announcement : Slot 2
  /-- Owner and content of every buffer. -/
  stock : Array (BufferOwner × SampleBuffer)
  deriving DecidableEq, Repr

/-- The part of the shared memory on which ownership, recording and the reset handshake rest. -/
structure Ledger where
  control : Control
  material : Material
  deriving DecidableEq, Repr

/-- Owner and content of every buffer of a pool. -/
def BufferPool.stock (pool : BufferPool) : Array (BufferOwner × SampleBuffer) :=
  pool.entries.map fun entry => (entry.owner, entry.buffer)

namespace BufferPool

theorem owner?_eq_stock (pool : BufferPool) (index : UInt32) :
    pool.owner? index = pool.stock[index.toNat]?.map (·.1) := by
  simp [owner?, entry?, stock, Function.comp_def]

theorem buffer?_eq_stock (pool : BufferPool) (index : UInt32) :
    pool.buffer? index = pool.stock[index.toNat]?.map (·.2) := by
  simp [buffer?, entry?, stock, Function.comp_def]

theorem size_eq_stock (pool : BufferPool) : pool.size = pool.stock.size := by
  simp [size, stock]

/-- Owners and contents stay unless a change touches them. -/
theorem stock_modify {change : PoolEntry → PoolEntry}
    (howner : ∀ entry, (change entry).owner = entry.owner)
    (hbuffer : ∀ entry, (change entry).buffer = entry.buffer) (pool : BufferPool)
    (index : UInt32) : (pool.modify index change).stock = pool.stock := by
  apply Array.ext_getElem?
  intro n
  simp only [stock, modify, Array.getElem?_map, Array.getElem?_modify]
  split
  · simp [Option.map_map, Function.comp_def, howner, hbuffer]
  · rfl

end BufferPool

namespace SharedMemory

def control (memory : SharedMemory) : Control where
  sessionState := memory.arena.sessionState
  mode := memory.arena.mode
  pru0ResetAck := memory.arena.pru0ResetAck
  pru1ResetAck := memory.arena.pru1ResetAck

def material (memory : SharedMemory) : Material where
  freeRing := memory.arena.freeRing
  announcement := memory.arena.pru0ToHost
  stock := memory.pool.stock

def ledger (memory : SharedMemory) : Ledger where
  control := memory.control
  material := memory.material

theorem state_eq_control (memory : SharedMemory) :
    memory.state = SessionState.ofWord memory.control.sessionState :=
  rfl

/-! ## Operations that leave the ledger alone -/

@[simp]
theorem ledger_log (memory : SharedMemory) (level : LogLevel) (text : String) :
    (memory.log level text).ledger = memory.ledger :=
  rfl

@[simp]
theorem ledger_notify (memory : SharedMemory) (origin : Origin) (code : StatusCode)
    (first second : UInt32) :
    (memory.notify origin code first second).ledger = memory.ledger := by
  cases origin <;> rfl

@[simp]
theorem ledger_pumpSend (memory : SharedMemory) (type : MessageType) (first second : UInt32) :
    (memory.pumpSend type first second).2.ledger = memory.ledger :=
  rfl

@[simp]
theorem ledger_pollStatus (memory : SharedMemory) :
    memory.pollStatus.2.ledger = memory.ledger :=
  rfl

@[simp]
theorem ledger_raiseSyncTrigger (memory : SharedMemory) :
    memory.raiseSyncTrigger.ledger = memory.ledger :=
  rfl

@[simp]
theorem ledger_syncReceive (memory : SharedMemory) :
    memory.syncReceive.2.ledger = memory.ledger :=
  rfl

@[simp]
theorem ledger_syncTryReceive (memory : SharedMemory) :
    memory.syncTryReceive.2.ledger = memory.ledger :=
  rfl

@[simp]
theorem ledger_sendReply (memory : SharedMemory) (reply : SyncReply) :
    (memory.sendReply reply).2.ledger = memory.ledger :=
  rfl

@[simp]
theorem ledger_trySendReply (memory : SharedMemory) (reply : SyncReply) :
    (memory.trySendReply reply).2.ledger = memory.ledger :=
  rfl

@[simp]
theorem ledger_takeSyncTrigger (memory : SharedMemory) :
    memory.takeSyncTrigger.2.ledger = memory.ledger :=
  rfl

@[simp]
theorem ledger_raiseBufferSwap (memory : SharedMemory) (timestamp : UInt64) :
    (memory.raiseBufferSwap timestamp).ledger = memory.ledger :=
  rfl

@[simp]
theorem ledger_raiseSample (memory : SharedMemory) :
    memory.raiseSample.ledger = memory.ledger :=
  rfl

@[simp]
theorem ledger_recordEdge (memory : SharedMemory) (event : EdgeEvent) :
    (memory.recordEdge event).2.ledger = memory.ledger := by
  have hstock :
      (memory.arena.edgeTarget.value.record memory.pool event).2.stock = memory.pool.stock := by
    rw [EdgeTarget.record]
    split
    · split
      · exact BufferPool.stock_modify (by intro entry; rfl) (by intro entry; rfl) _ _
      · rfl
    · rfl
  simp only [ledger, recordEdge, control, material, hstock]

@[simp]
theorem ledger_timingSend (memory : SharedMemory) (type : MessageType) (first second : UInt32) :
    (memory.timingSend type first second).2.ledger = memory.ledger :=
  rfl

@[simp]
theorem ledger_timingTrySend (memory : SharedMemory) (type : MessageType)
    (first second : UInt32) :
    (memory.timingTrySend type first second).2.ledger = memory.ledger :=
  rfl

@[simp]
theorem ledger_receiveReply (memory : SharedMemory) :
    memory.receiveReply.2.ledger = memory.ledger :=
  rfl

@[simp]
theorem ledger_tryReceiveReply (memory : SharedMemory) :
    memory.tryReceiveReply.2.ledger = memory.ledger :=
  rfl

@[simp]
theorem ledger_samplingReceive (memory : SharedMemory) :
    memory.samplingReceive.2.ledger = memory.ledger :=
  rfl

@[simp]
theorem ledger_takeSwapTrigger (memory : SharedMemory) :
    memory.takeSwapTrigger.2.ledger = memory.ledger :=
  rfl

@[simp]
theorem ledger_takeSampleTrigger (memory : SharedMemory) :
    memory.takeSampleTrigger.2.ledger = memory.ledger :=
  rfl

@[simp]
theorem ledger_swapEdges (memory : SharedMemory) (index : Option UInt32) :
    (memory.swapEdges index).ledger = memory.ledger := by
  have hstock : (EdgeTarget.swap memory.pool index).2.stock = memory.pool.stock := by
    unfold EdgeTarget.swap
    split
    · split
      · exact BufferPool.stock_modify (by intro entry; rfl) (by intro entry; rfl) _ _
      · rfl
    · rfl
  simp only [ledger, swapEdges, control, material, hstock]

/-! ## Operations that leave the control words alone -/

theorem control_of_ledger {before after : SharedMemory} (hledger : after.ledger = before.ledger) :
    after.control = before.control :=
  congrArg Ledger.control hledger

theorem state_of_control {before after : SharedMemory}
    (hcontrol : after.control = before.control) : after.state = before.state :=
  congrArg (fun control : Control => SessionState.ofWord control.sessionState) hcontrol

theorem material_of_ledger {before after : SharedMemory} (hledger : after.ledger = before.ledger) :
    after.material = before.material :=
  congrArg Ledger.material hledger

@[simp]
theorem control_notify (memory : SharedMemory) (origin : Origin) (code : StatusCode)
    (first second : UInt32) :
    (memory.notify origin code first second).control = memory.control :=
  control_of_ledger (ledger_notify memory origin code first second)

@[simp]
theorem control_swapEdges (memory : SharedMemory) (index : Option UInt32) :
    (memory.swapEdges index).control = memory.control :=
  rfl

@[simp]
theorem control_acquire (memory : SharedMemory) : memory.acquire.2.control = memory.control := by
  simp only [acquire]
  split
  · exact control_notify _ _ _ _ _
  · split
    · rfl
    · exact control_notify _ _ _ _ _

@[simp]
theorem control_samplingSend (memory : SharedMemory) (type : MessageType)
    (first second : UInt32) :
    (memory.samplingSend type first second).2.control = memory.control :=
  rfl

@[simp]
theorem control_release (memory : SharedMemory) (handle : ProducerHandle)
    (summary : BufferMeta) : (memory.release handle summary).2.control = memory.control := by
  simp only [release]
  split
  · rfl
  · split
    · rfl
    · exact control_notify _ _ _ _ _

@[simp]
theorem control_pumpReceive (memory : SharedMemory) :
    memory.pumpReceive.2.control = memory.control :=
  rfl

@[simp]
theorem control_claim (memory : SharedMemory) (index : UInt32) :
    (memory.claim index).2.control = memory.control := by
  rw [claim]
  split
  · rfl
  · exact control_notify _ _ _ _ _

@[simp]
theorem control_recycle (memory : SharedMemory) (handle : ConsumerHandle) :
    (memory.recycle handle).2.control = memory.control := by
  simp only [recycle]
  split
  · rfl
  · exact control_notify _ _ _ _ _

/-! ## Operations that change the control words -/

/-- A move that is not open changes nothing; an open one changes the session state only. -/
theorem ledger_setState (memory : SharedMemory) (next : SessionState) :
    (memory.setState next).2.ledger =
      if memory.state.canMoveTo next then
        { memory.ledger with control := { memory.control with sessionState := next.toWord } }
      else memory.ledger := by
  simp only [setState]
  split <;> rfl

/-- Once the session runs, the mode is fixed. -/
theorem ledger_setMode (memory : SharedMemory) (mode : Mode) :
    (memory.setMode mode).2.ledger =
      if memory.state = .idle ∨ memory.state = .armed then
        { memory.ledger with control := { memory.control with mode := mode.toWord } }
      else memory.ledger := by
  simp only [setMode]
  split <;> rfl

/-- A view of the memory in which neither the journal nor the words that the host publishes
show. -/
structure HidesPublished {α : Type} (view : SharedMemory → α) : Prop where
  log : ∀ (memory : SharedMemory) level text, view (memory.log level text) = view memory
  sessionState : ∀ (memory : SharedMemory) word,
    view (memory.mapArena fun arena => { arena with sessionState := word }) = view memory
  mode : ∀ (memory : SharedMemory) word,
    view (memory.mapArena fun arena => { arena with mode := word }) = view memory

/-- A move of the session writes published words and the journal only. -/
theorem HidesPublished.setState {α : Type} {view : SharedMemory → α} (h : HidesPublished view)
    (memory : SharedMemory) (next : SessionState) :
    view (memory.setState next).2 = view memory := by
  simp only [SharedMemory.setState]
  split
  · exact (h.sessionState _ _).trans (h.log _ _ _)
  · rfl

theorem HidesPublished.setMode {α : Type} {view : SharedMemory → α} (h : HidesPublished view)
    (memory : SharedMemory) (mode : Mode) : view (memory.setMode mode).2 = view memory := by
  simp only [SharedMemory.setMode]
  split
  · exact (h.mode _ _).trans (h.log _ _ _)
  · rfl

theorem hidesPublished_material : HidesPublished material where
  log _ _ _ := rfl
  sessionState _ _ := rfl
  mode _ _ := rfl

theorem material_setState (memory : SharedMemory) (next : SessionState) :
    (memory.setState next).2.material = memory.material :=
  hidesPublished_material.setState memory next

theorem material_setMode (memory : SharedMemory) (mode : Mode) :
    (memory.setMode mode).2.material = memory.material :=
  hidesPublished_material.setMode memory mode

@[simp]
theorem state_setState (memory : SharedMemory) (next : SessionState) :
    (memory.setState next).2.state =
      if memory.state.canMoveTo next then next else memory.state := by
  simp only [setState]
  split
  · exact SessionState.ofWord_toWord next
  · rfl

@[simp]
theorem state_setMode (memory : SharedMemory) (mode : Mode) :
    (memory.setMode mode).2.state = memory.state := by
  simp only [setMode]
  split <;> rfl

end SharedMemory

end HarvestTestbed
