import HarvestTestbed.Proofs.Resemblance

/-!
# Every call is answered alike

Memories that are alike answer an operation alike and are alike afterwards.  This is shown operation
by operation and follows for sequences of calls by induction.  What is seen through a live handle
agrees because the buffer has the owner that the handle says, whose accounts are kept.
-/

namespace HarvestTestbed

/-- Two arenas agree in everything that is read before it is written. -/
structure Arena.Alike (left right : Arena) : Prop where
  state : left.state = right.state
  mode : left.activeMode = right.activeMode
  pru0ResetAck : left.pru0ResetAck = right.pru0ResetAck
  pru1ResetAck : left.pru1ResetAck = right.pru1ResetAck
  syncTrigger : left.syncTrigger = right.syncTrigger
  bufferSwapTrigger : left.bufferSwapTrigger = right.bufferSwapTrigger
  sampleTrigger : left.sampleTrigger = right.sampleTrigger
  bufferTimestamp : left.bufferSwapTrigger.isRaised = true →
    left.bufferTimestamp = right.bufferTimestamp
  pru0ToHost : left.pru0ToHost.Alike right.pru0ToHost
  hostToPru0 : left.hostToPru0.Alike right.hostToPru0
  pru1ToHost : left.pru1ToHost.Alike right.pru1ToHost
  hostToPru1 : left.hostToPru1.Alike right.hostToPru1
  status : ∀ origin, (left.statusOf origin).Alike (right.statusOf origin)
  queued : left.freeRing.toList = right.freeRing.toList
  edgeTarget : left.edgeTarget = right.edgeTarget

/-- Two memories with buffers of a given capacity answer alike.  Sample cells and edge logs agree as
well if the resemblance is exact. -/
structure SharedMemory.Alike (capacity : ℕ) (exact : Prop) (left right : SharedMemory) : Prop where
  arena : left.arena.Alike right.arena
  pool : left.pool.Alike capacity exact left.arena.edgeTarget.value right.pool

/-- Two operations give the same result and leave memories that are alike. -/
structure SharedMemory.Agree {α : Type} (capacity : ℕ) (exact : Prop)
    (left right : α × SharedMemory) : Prop where
  result : left.1 = right.1
  memory : left.2.Alike capacity exact right.2

namespace Arena.Alike

variable {left right : Arena}

/-- One status slot changes on both sides. -/
theorem setStatus (h : left.Alike right) (origin : Origin) {status status' : StatusSlot}
    (hstatus : status.Alike status') :
    (left.setStatus origin status).Alike (right.setStatus origin status') := by
  have hothers := h.status
  cases origin with
  | host =>
      refine { h with status := fun other => ?_ }
      cases other with
      | host => exact hstatus
      | pru0 => exact hothers .pru0
      | pru1 => exact hothers .pru1
  | pru0 =>
      refine { h with status := fun other => ?_ }
      cases other with
      | host => exact hothers .host
      | pru0 => exact hstatus
      | pru1 => exact hothers .pru1
  | pru1 =>
      refine { h with status := fun other => ?_ }
      cases other with
      | host => exact hothers .host
      | pru0 => exact hothers .pru0
      | pru1 => exact hstatus

theorem clearChannels (h : left.Alike right) : left.clearChannels.Alike right.clearChannels where
  state := h.state
  mode := h.mode
  pru0ResetAck := rfl
  pru1ResetAck := rfl
  syncTrigger := rfl
  bufferSwapTrigger := rfl
  sampleTrigger := rfl
  bufferTimestamp := nofun
  pru0ToHost := h.pru0ToHost.clear
  hostToPru0 := h.hostToPru0.clear
  pru1ToHost := h.pru1ToHost.clear
  hostToPru1 := h.hostToPru1.clear
  status
    | .host => (h.status .host).clear
    | .pru0 => (h.status .pru0).clear
    | .pru1 => (h.status .pru1).clear
  queued := h.queued
  edgeTarget := rfl

/-- Two rings are filled alike from pools with the same owners. -/
theorem refillRing {capacity : ℕ} {exact : Prop} {target : EdgeTarget} {pool pool' : BufferPool}
    (h : left.Alike right) (hpool : pool.Alike capacity exact target pool')
    (hsize : pool.size ≤ ringCapacity) :
    (left.refillRing pool).Alike (right.refillRing pool') := by
  have hindices : pool.indicesOf .freeRing = pool'.indicesOf .freeRing := by
    simp only [BufferPool.indicesOf, BufferPool.indices, hpool.size, hpool.owner?]
  refine { h with queued := ?_ }
  rw [SharedMemory.toList_refillRing hsize, hindices,
    SharedMemory.toList_refillRing (hpool.size ▸ hsize)]

end Arena.Alike

namespace SharedMemory.Alike

variable {capacity : ℕ} {exact : Prop} {left right : SharedMemory}

theorem state (h : left.Alike capacity exact right) : left.state = right.state :=
  h.arena.state

/-! ## Reports -/

/-- Whether an event is new is answered alike. -/
theorem report (h : left.Alike capacity exact right) (origin : Origin) (code : StatusCode)
    (first second : UInt32) :
    Agree capacity exact (left.report origin code first second)
      (right.report origin code first second) := by
  obtain ⟨hresult, hstatus⟩ := (h.arena.status origin).report origin code first second
  have harena := h.arena.setStatus origin hstatus
  refine ⟨hresult, harena, ?_⟩
  cases origin <;> exact h.pool

theorem notify (h : left.Alike capacity exact right) (origin : Origin) (code : StatusCode)
    (first second : UInt32) :
    (left.notify origin code first second).Alike capacity exact
      (right.notify origin code first second) :=
  (h.report origin code first second).memory

theorem pollStatus (h : left.Alike capacity exact right) :
    Agree capacity exact left.pollStatus right.pollStatus := by
  obtain ⟨hhost, hhostSlot⟩ := (h.arena.status .host).poll .host
  obtain ⟨hpru0, hpru0Slot⟩ := (h.arena.status .pru0).poll .pru0
  obtain ⟨hpru1, hpru1Slot⟩ := (h.arena.status .pru1).poll .pru1
  simp only [Arena.statusOf] at hhost hpru0 hpru1
  have harena := ((h.arena.setStatus .host hhostSlot).setStatus .pru0 hpru0Slot).setStatus .pru1
    hpru1Slot
  refine ⟨?_, harena, h.pool⟩
  simp only [SharedMemory.pollStatus, hhost, hpru0, hpru1]

/-! ## Messages -/

theorem samplingSend (h : left.Alike capacity exact right) (type : MessageType)
    (first second : UInt32) :
    Agree capacity exact (left.samplingSend type first second)
      (right.samplingSend type first second) := by
  have hsent := Channel.alike_sendPacket h.arena.pru0ToHost (h.arena.status .pru0) .pru0
    (Channel.packet .pru0 type first second) type first
  exact ⟨hsent.accepted,
    { h.arena.setStatus .pru0 hsent.status with pru0ToHost := hsent.slot }, h.pool⟩

theorem samplingReceive (h : left.Alike capacity exact right) :
    Agree capacity exact left.samplingReceive right.samplingReceive := by
  have hreceived := Channel.alike_receive h.arena.hostToPru0 (h.arena.status .pru0) .pru0 .host
  exact ⟨hreceived.answer,
    { h.arena.setStatus .pru0 hreceived.status with hostToPru0 := hreceived.slot }, h.pool⟩

theorem pumpSend (h : left.Alike capacity exact right) (type : MessageType)
    (first second : UInt32) :
    Agree capacity exact (left.pumpSend type first second) (right.pumpSend type first second) := by
  have hsent := Channel.alike_sendPacket h.arena.hostToPru0 (h.arena.status .host) .host
    (Channel.packet .host type first second) type first
  exact ⟨hsent.accepted,
    { h.arena.setStatus .host hsent.status with hostToPru0 := hsent.slot }, h.pool⟩

theorem pumpReceive (h : left.Alike capacity exact right) :
    Agree capacity exact left.pumpReceive right.pumpReceive := by
  have hreceived := Channel.alike_receive h.arena.pru0ToHost (h.arena.status .host) .host .pru0
  exact ⟨hreceived.answer,
    { h.arena.setStatus .host hreceived.status with pru0ToHost := hreceived.slot }, h.pool⟩

theorem timingSend (h : left.Alike capacity exact right) (type : MessageType)
    (first second : UInt32) :
    Agree capacity exact (left.timingSend type first second)
      (right.timingSend type first second) := by
  have hsent := Channel.alike_sendPacket h.arena.pru1ToHost (h.arena.status .pru1) .pru1
    (Channel.packet .pru1 type first second) type first
  exact ⟨hsent.accepted,
    { h.arena.setStatus .pru1 hsent.status with pru1ToHost := hsent.slot }, h.pool⟩

theorem timingTrySend (h : left.Alike capacity exact right) (type : MessageType)
    (first second : UInt32) :
    Agree capacity exact (left.timingTrySend type first second)
      (right.timingTrySend type first second) := by
  obtain ⟨hresult, hslot⟩ := Channel.alike_trySendPacket h.arena.pru1ToHost
    (Channel.packet .pru1 type first second) (type, first, second)
  exact ⟨congrArg Except.isOk hresult, { h.arena with pru1ToHost := hslot }, h.pool⟩

theorem syncReceive (h : left.Alike capacity exact right) :
    Agree capacity exact left.syncReceive right.syncReceive := by
  have hreceived := Channel.alike_receive h.arena.pru1ToHost (h.arena.status .host) .host .pru1
  exact ⟨hreceived.answer,
    { h.arena.setStatus .host hreceived.status with pru1ToHost := hreceived.slot }, h.pool⟩

theorem syncTryReceive (h : left.Alike capacity exact right) :
    Agree capacity exact left.syncTryReceive right.syncTryReceive := by
  obtain ⟨hresult, hslot⟩ := Channel.alike_tryReceive h.arena.pru1ToHost .pru1
  exact ⟨hresult, { h.arena with pru1ToHost := hslot }, h.pool⟩

theorem sendReply (h : left.Alike capacity exact right) (reply : SyncReply) :
    Agree capacity exact (left.sendReply reply) (right.sendReply reply) := by
  have hsent := Channel.alike_sendPacket h.arena.hostToPru1 (h.arena.status .host) .host
    (Channel.replyPacket .host reply) .syncReply reply.syncInterval
  exact ⟨hsent.accepted,
    { h.arena.setStatus .host hsent.status with hostToPru1 := hsent.slot }, h.pool⟩

theorem trySendReply (h : left.Alike capacity exact right) (reply : SyncReply) :
    Agree capacity exact (left.trySendReply reply) (right.trySendReply reply) := by
  obtain ⟨hresult, hslot⟩ := Channel.alike_trySendPacket h.arena.hostToPru1
    (Channel.replyPacket .host reply) reply
  exact ⟨congrArg Except.isOk hresult, { h.arena with hostToPru1 := hslot }, h.pool⟩

theorem receiveReply (h : left.Alike capacity exact right) :
    Agree capacity exact left.receiveReply right.receiveReply := by
  have hreceived := Channel.alike_receiveReply h.arena.hostToPru1 (h.arena.status .pru1) .pru1
    .host
  exact ⟨hreceived.answer,
    { h.arena.setStatus .pru1 hreceived.status with hostToPru1 := hreceived.slot }, h.pool⟩

theorem tryReceiveReply (h : left.Alike capacity exact right) :
    Agree capacity exact left.tryReceiveReply right.tryReceiveReply := by
  obtain ⟨hresult, hslot⟩ := Channel.alike_tryReceiveReply h.arena.hostToPru1 .host
  exact ⟨hresult, { h.arena with hostToPru1 := hslot }, h.pool⟩

/-! ## Flags -/

theorem raiseSyncTrigger (h : left.Alike capacity exact right) :
    left.raiseSyncTrigger.Alike capacity exact right.raiseSyncTrigger :=
  ⟨{ h.arena with syncTrigger := rfl }, h.pool⟩

theorem takeSyncTrigger (h : left.Alike capacity exact right) :
    Agree capacity exact left.takeSyncTrigger right.takeSyncTrigger :=
  ⟨congrArg Flag.isRaised h.arena.syncTrigger, { h.arena with syncTrigger := rfl }, h.pool⟩

theorem raiseBufferSwap (h : left.Alike capacity exact right) (timestamp : UInt64) :
    (left.raiseBufferSwap timestamp).Alike capacity exact (right.raiseBufferSwap timestamp) :=
  ⟨{ h.arena with bufferSwapTrigger := rfl, bufferTimestamp := fun _ => rfl }, h.pool⟩

/-- The timestamp is read while a swap is pending only. -/
theorem takeSwapTrigger (h : left.Alike capacity exact right) :
    Agree capacity exact left.takeSwapTrigger right.takeSwapTrigger := by
  refine ⟨?_, { h.arena with bufferSwapTrigger := rfl, bufferTimestamp := nofun }, h.pool⟩
  have htaken : ∀ memory : SharedMemory, memory.takeSwapTrigger.1 =
      if memory.arena.bufferSwapTrigger.isRaised = true then some memory.arena.bufferTimestamp
      else none := fun _ => rfl
  rw [htaken, htaken, ← h.arena.bufferSwapTrigger]
  by_cases hraised : left.arena.bufferSwapTrigger.isRaised = true
  · rw [if_pos hraised, if_pos hraised, h.arena.bufferTimestamp hraised]
  · rw [if_neg hraised, if_neg hraised]

theorem raiseSample (h : left.Alike capacity exact right) :
    left.raiseSample.Alike capacity exact right.raiseSample :=
  ⟨{ h.arena with sampleTrigger := rfl }, h.pool⟩

theorem takeSampleTrigger (h : left.Alike capacity exact right) :
    Agree capacity exact left.takeSampleTrigger right.takeSampleTrigger :=
  ⟨congrArg Flag.isRaised h.arena.sampleTrigger, { h.arena with sampleTrigger := rfl }, h.pool⟩

theorem samplingAcknowledge (h : left.Alike capacity exact right) :
    left.samplingAcknowledge.Alike capacity exact right.samplingAcknowledge := by
  have hraised : SharedMemory.Alike capacity exact
      (left.mapArena fun arena => { arena with pru0ResetAck := .raised })
      (right.mapArena fun arena => { arena with pru0ResetAck := .raised }) :=
    ⟨{ h.arena with pru0ResetAck := rfl }, h.pool⟩
  exact hraised.notify .pru0 .restart 0 0

theorem timingAcknowledge (h : left.Alike capacity exact right) :
    left.timingAcknowledge.Alike capacity exact right.timingAcknowledge := by
  have hraised : SharedMemory.Alike capacity exact
      (left.mapArena fun arena => { arena with pru1ResetAck := .raised })
      (right.mapArena fun arena => { arena with pru1ResetAck := .raised }) :=
    ⟨{ h.arena with pru1ResetAck := rfl }, h.pool⟩
  exact hraised.notify .pru1 .restart 0 0

/-! ## Buffers and edges -/

/-- Both rings name the same buffer, which is emptied for its new use. -/
theorem acquire (h : left.Alike capacity exact right) :
    Agree capacity exact left.acquire right.acquire := by
  have hpopped := FreeRing.rel_pop? h.arena.queued
  simp only [SharedMemory.acquire]
  generalize left.arena.freeRing.pop? = popped, right.arena.freeRing.pop? = popped' at hpopped
  cases hpopped with
  | none =>
      rw [h.pool.size]
      exact ⟨rfl, h.notify .pru0 .bufferPoolExhausted 0 _⟩
  | @some popped popped' hpopped =>
      obtain ⟨index, ring⟩ := popped
      obtain ⟨index', ring'⟩ := popped'
      obtain ⟨rfl, hqueued⟩ : index = index' ∧ ring.toList = ring'.toList := hpopped
      have hring : SharedMemory.Alike capacity exact
          (left.mapArena fun arena => { arena with freeRing := ring })
          (right.mapArena fun arena => { arena with freeRing := ring' }) :=
        ⟨{ h.arena with queued := hqueued }, h.pool⟩
      have htaken := h.pool.takeForProducer index
      simp only [SharedMemory.mapArena] at hring ⊢
      generalize left.pool.takeForProducer index = taken,
        right.pool.takeForProducer index = taken' at htaken
      cases htaken with
      | none =>
          simp only [h.pool.ownerWord index]
          exact ⟨rfl, hring.notify .pru0 .memoryCorruption index _⟩
      | some htaken => exact ⟨congrArg some htaken.1, hring.arena, htaken.2⟩

theorem put (h : left.Alike capacity exact right) (handle : ProducerHandle) (index : ℕ)
    (sample : IvSample) :
    Agree capacity exact (left.put handle index sample) (right.put handle index sample) :=
  have hstored := h.pool.put handle index sample
  ⟨hstored.1, h.arena, hstored.2⟩

/-- A hand-over is accepted or refused alike, with the same announcement. -/
theorem release (h : left.Alike capacity exact right) (handle : ProducerHandle)
    (summary : BufferMeta) :
    Agree capacity exact (left.release handle summary) (right.release handle summary) := by
  obtain ⟨hcount, hmarked⟩ := h.pool.markFilled handle summary
  have hdetached : SharedMemory.Alike capacity exact
      { left with
        arena := { left.arena with
          edgeTarget := left.arena.edgeTarget.update (·.detach handle.index) }
        pool := (left.pool.markFilled handle summary).2 }
      { right with
        arena := { right.arena with
          edgeTarget := right.arena.edgeTarget.update (·.detach handle.index) }
        pool := (right.pool.markFilled handle summary).2 } :=
    ⟨{ h.arena with edgeTarget := by rw [h.arena.edgeTarget] }, hmarked.detach handle.index⟩
  have hsent := hdetached.samplingSend .bufferFilled handle.index
    (UInt32.ofNat (left.pool.markFilled handle summary).1)
  simp only [SharedMemory.release]
  rw [← hcount, ← hsent.result]
  split
  · exact ⟨rfl, hsent.memory⟩
  · obtain ⟨hleft, hright⟩ | ⟨_, _, hleft, hright, hback⟩ :=
      rel_cases (hsent.memory.pool.unmarkFilled handle.index)
    · simp only [hleft, hright]
      exact ⟨rfl, hsent.memory.notify .pru0 .memoryCorruption handle.index 0⟩
    · simp only [hleft, hright]
      exact ⟨congrArg some hback.1, hsent.memory.arena, hback.2⟩

theorem dropHandle (h : left.Alike capacity exact right) (handle : ProducerHandle) :
    (left.dropHandle handle).Alike capacity exact (right.dropHandle handle) :=
  ⟨h.arena, h.pool.getD (h.pool.transition? handle.index (by decide))⟩

/-- A claim is answered alike, and refused with the same report. -/
theorem claim (h : left.Alike capacity exact right) (index : UInt32) :
    Agree capacity exact (left.claim index) (right.claim index) := by
  simp only [SharedMemory.claim, h.pool.ownerWord index]
  obtain ⟨hleft, hright⟩ | ⟨_, _, hleft, hright, hclaimed⟩ :=
    rel_cases (h.pool.claimFilled index)
  · simp only [hleft, hright]
    exact ⟨rfl, h.notify .host .memoryCorruption index _⟩
  · simp only [hleft, hright]
    exact ⟨congrArg some hclaimed.1, h.arena, hclaimed.2⟩

theorem recycle (h : left.Alike capacity exact right) (handle : ConsumerHandle) :
    Agree capacity exact (left.recycle handle) (right.recycle handle) := by
  have hreleased : SharedMemory.Alike capacity exact
      { left with pool := left.pool.releaseConsumed handle }
      { right with pool := right.pool.releaseConsumed handle } :=
    ⟨h.arena, h.pool.getD (h.pool.transition? handle.index (by decide))⟩
  have hpushed := FreeRing.rel_push? h.arena.queued handle.index
  simp only [SharedMemory.recycle]
  generalize left.arena.freeRing.push? handle.index = pushed,
    right.arena.freeRing.push? handle.index = pushed' at hpushed
  cases hpushed with
  | none =>
      rw [FreeRing.length_congr h.arena.queued]
      exact ⟨rfl, hreleased.notify .host .valueOutOfRange handle.index _⟩
  | some hqueued => exact ⟨rfl, { h.arena with queued := hqueued }, hreleased.pool⟩

theorem dropFilled (h : left.Alike capacity exact right) (handle : ConsumerHandle) :
    (left.dropFilled handle).Alike capacity exact (right.dropFilled handle) :=
  ⟨h.arena, h.pool.getD (h.pool.transition? handle.index (by decide))⟩

theorem swapEdges (h : left.Alike capacity exact right) (index : Option UInt32) :
    (left.swapEdges index).Alike capacity exact (right.swapEdges index) :=
  have hswapped := h.pool.swap index
  ⟨{ h.arena with edgeTarget := congrArg Guarded.mk hswapped.1 }, hswapped.2⟩

/-- Edges go to the same buffer, and its log takes them alike. -/
theorem recordEdge (h : left.Alike capacity exact right) (event : EdgeEvent) :
    Agree capacity exact (left.recordEdge event) (right.recordEdge event) := by
  have hrecorded := h.pool.record event
  rw [SharedMemory.recordEdge, SharedMemory.recordEdge, ← h.arena.edgeTarget]
  exact ⟨hrecorded.1, h.arena, hrecorded.2⟩

/-! ## The session -/

theorem setState (h : left.Alike capacity exact right) (next : SessionState) :
    Agree capacity exact (left.setState next) (right.setState next) := by
  simp only [SharedMemory.setState, ← h.state]
  split
  · exact ⟨rfl, { h.arena with state := rfl }, h.pool⟩
  · exact ⟨rfl, h⟩

theorem setMode (h : left.Alike capacity exact right) (mode : Mode) :
    Agree capacity exact (left.setMode mode) (right.setMode mode) := by
  simp only [SharedMemory.setMode, ← h.state]
  split
  · exact ⟨rfl, { h.arena with mode := rfl }, h.pool⟩
  · exact ⟨rfl, h⟩

theorem resetAcknowledged (h : left.Alike capacity exact right) :
    left.resetAcknowledged = right.resetAcknowledged := by
  rw [SharedMemory.resetAcknowledged, SharedMemory.resetAcknowledged, h.arena.pru0ResetAck,
    h.arena.pru1ResetAck]

/-- A reset that one memory finishes is finished by the other, which then has the same free ring. -/
theorem completeReset (h : left.Alike capacity exact right)
    (hsize : left.pool.size ≤ ringCapacity) :
    Agree capacity exact left.completeReset right.completeReset := by
  simp only [SharedMemory.completeReset, ← h.state, ← h.resetAcknowledged]
  split
  · exact ⟨rfl, h⟩
  split
  · exact ⟨rfl, h⟩
  obtain ⟨fault, hleft, hright⟩ | ⟨pool, pool', hleft, hright, hpool⟩ := h.pool.reclaim
  · simp only [hleft, hright]
    exact ⟨rfl, h⟩
  · simp only [hleft, hright]
    have hcleared : SharedMemory.Alike capacity exact
        { left with arena := left.arena.clearChannels.refillRing pool, pool := pool }
        { right with arena := right.arena.clearChannels.refillRing pool', pool := pool' } := by
      refine ⟨h.arena.clearChannels.refillRing hpool ?_, hpool.retarget fun _ hpoints => ?_⟩
      · rwa [BufferPool.size_of_reclaim hleft]
      · exact absurd hpoints.1 Bool.false_ne_true
    exact (hcleared.notify .host .restart 0 0).setState .idle

end SharedMemory.Alike

end HarvestTestbed
