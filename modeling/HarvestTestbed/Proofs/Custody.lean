import HarvestTestbed.Proofs.Ownership

/-!
# Custody of the buffers along a run

A run is any sequence of port operations, by whichever actors and in whichever order.  The handles
alive at a moment are listed next to the memory: an operation that consumes a handle takes it from
the list by its position, and one that hands a handle out adds it.  Along every run the owners
recorded in the pool, the free ring and the live handles agree, so that a claimed buffer can always
be given back and a free one is refused only when none is left.
-/

namespace HarvestTestbed

/-- A port operation in which no handle changes hands. -/
inductive ArenaOp
  | samplingSend (type : MessageType) (first second : UInt32)
  | samplingReceive
  | pumpSend (type : MessageType) (first second : UInt32)
  | pumpReceive
  | timingSend (type : MessageType) (first second : UInt32)
  | timingTrySend (type : MessageType) (first second : UInt32)
  | syncReceive
  | syncTryReceive
  | sendReply (reply : SyncReply)
  | trySendReply (reply : SyncReply)
  | receiveReply
  | tryReceiveReply
  | pollStatus
  | notify (origin : Origin) (code : StatusCode) (first second : UInt32)
  | raiseSyncTrigger
  | takeSyncTrigger
  | raiseBufferSwap (timestamp : UInt64)
  | takeSwapTrigger
  | raiseSample
  | takeSampleTrigger
  | swapEdges (index : Option UInt32)
  | recordEdge (event : EdgeEvent)
  | samplingAcknowledge
  | timingAcknowledge
  | setState (next : SessionState)
  | setMode (mode : Mode)
  | requestReset
  | completeReset
  deriving DecidableEq, Repr

namespace ArenaOp

def apply (memory : SharedMemory) : ArenaOp → SharedMemory
  | samplingSend type first second => (memory.samplingSend type first second).2
  | samplingReceive => memory.samplingReceive.2
  | pumpSend type first second => (memory.pumpSend type first second).2
  | pumpReceive => memory.pumpReceive.2
  | timingSend type first second => (memory.timingSend type first second).2
  | timingTrySend type first second => (memory.timingTrySend type first second).2
  | syncReceive => memory.syncReceive.2
  | syncTryReceive => memory.syncTryReceive.2
  | sendReply reply => (memory.sendReply reply).2
  | trySendReply reply => (memory.trySendReply reply).2
  | receiveReply => memory.receiveReply.2
  | tryReceiveReply => memory.tryReceiveReply.2
  | pollStatus => memory.pollStatus.2
  | notify origin code first second => memory.notify origin code first second
  | raiseSyncTrigger => memory.raiseSyncTrigger
  | takeSyncTrigger => memory.takeSyncTrigger.2
  | raiseBufferSwap timestamp => memory.raiseBufferSwap timestamp
  | takeSwapTrigger => memory.takeSwapTrigger.2
  | raiseSample => memory.raiseSample
  | takeSampleTrigger => memory.takeSampleTrigger.2
  | swapEdges index => memory.swapEdges index
  | recordEdge event => (memory.recordEdge event).2
  | samplingAcknowledge => memory.samplingAcknowledge
  | timingAcknowledge => memory.timingAcknowledge
  | setState next => (memory.setState next).2
  | setMode mode => (memory.setMode mode).2
  | requestReset => memory.requestReset.2
  | completeReset => memory.completeReset.2

end ArenaOp

/-- A port operation.  A live handle is named by its position among those of its kind. -/
inductive PortOp
  | acquire
  | put (position : ℕ) (index : ℕ) (sample : IvSample)
  | release (position : ℕ) (summary : BufferMeta)
  | dropHandle (position : ℕ)
  | claim (index : UInt32)
  | recycle (position : ℕ)
  | dropFilled (position : ℕ)
  | arena (op : ArenaOp)
  deriving DecidableEq, Repr

structure Custody where
  memory : SharedMemory
  producers : List ProducerHandle := []
  consumers : List ConsumerHandle := []

namespace Custody

/-- One operation; without the handle it names there is nothing to call it on. -/
def step (custody : Custody) : PortOp → Custody
  | .acquire =>
      let acquired := custody.memory.acquire
      { custody with
        memory := acquired.2, producers := acquired.1.toList ++ custody.producers }
  | .put position index sample =>
      match custody.producers[position]? with
      | some handle => { custody with memory := (custody.memory.put handle index sample).2 }
      | none => custody
  | .release position summary =>
      match custody.producers[position]? with
      | some handle =>
          let released := custody.memory.release handle summary
          { custody with
            memory := released.2
            producers := released.1.toList ++ custody.producers.eraseIdx position }
      | none => custody
  | .dropHandle position =>
      match custody.producers[position]? with
      | some handle =>
          { custody with
            memory := custody.memory.dropHandle handle
            producers := custody.producers.eraseIdx position }
      | none => custody
  | .claim index =>
      let claimed := custody.memory.claim index
      { custody with
        memory := claimed.2, consumers := claimed.1.toList ++ custody.consumers }
  | .recycle position =>
      match custody.consumers[position]? with
      | some handle =>
          { custody with
            memory := (custody.memory.recycle handle).2
            consumers := custody.consumers.eraseIdx position }
      | none => custody
  | .dropFilled position =>
      match custody.consumers[position]? with
      | some handle =>
          { custody with
            memory := custody.memory.dropFilled handle
            consumers := custody.consumers.eraseIdx position }
      | none => custody
  | .arena op => { custody with memory := op.apply custody.memory }

def run (custody : Custody) (ops : List PortOp) : Custody :=
  ops.foldl step custody

/-- The owners, the free ring and the live handles agree, and what follows from it for whoever
gives a buffer back or takes one. -/
structure Balanced (count : ℕ) (custody : Custody) : Prop where
  ownership : Ownership count custody.memory custody.producers custody.consumers
  /-- Queued, held, announced and abandoned buffers make up the pool. -/
  total : custody.memory.arena.freeRing.length +
      (custody.producers.length + custody.consumers.length) +
      custody.memory.pool.countOwner .filled + custody.memory.pool.countOwner .detached = count
  recycled : ∀ handle ∈ custody.consumers, (custody.memory.recycle handle).1 = true
  /-- A free buffer is handed out without a report, or none is queued and exhaustion reported. -/
  acquired : (∃ handle, custody.memory.acquire.1 = some handle ∧
      custody.memory.acquire.2.arena.pru0Status = custody.memory.arena.pru0Status) ∨
    custody.memory.arena.freeRing.toList = [] ∧
      custody.memory.acquire = (none, custody.memory.notify .pru0 .bufferPoolExhausted 0
        (UInt32.ofNat custody.memory.pool.size))

end Custody

namespace Ownership

variable {count : ℕ} {memory : SharedMemory} {producers : List ProducerHandle}
variable {consumers : List ConsumerHandle}

/-- No operation without handles disturbs the owners. -/
theorem apply (h : Ownership count memory producers consumers) (op : ArenaOp) :
    Ownership count (op.apply memory) producers consumers := by
  cases op with
  | setState next => exact h.setState next
  | setMode mode => exact h.setMode mode
  | requestReset => exact h.setState .reset
  | completeReset => exact h.completeReset
  | samplingSend | pumpReceive | samplingAcknowledge | timingAcknowledge =>
      exact h.of_owner? rfl (fun _ => rfl) rfl
  | _ => exact h.of_material (SharedMemory.material_of_ledger (by simp [ArenaOp.apply]))

/-- A live handle can be listed first. -/
theorem producer_first {position : ℕ} {handle : ProducerHandle}
    (h : Ownership count memory producers consumers)
    (hhandle : producers[position]? = some handle) :
    Ownership count memory (handle :: producers.eraseIdx position) consumers := by
  obtain ⟨hlt, rfl⟩ := List.getElem?_eq_some_iff.mp hhandle
  exact h.of_perm (List.getElem_cons_eraseIdx_perm hlt).symm (.refl _)

theorem consumer_first {position : ℕ} {handle : ConsumerHandle}
    (h : Ownership count memory producers consumers)
    (hhandle : consumers[position]? = some handle) :
    Ownership count memory producers (handle :: consumers.eraseIdx position) := by
  obtain ⟨hlt, rfl⟩ := List.getElem?_eq_some_iff.mp hhandle
  exact h.of_perm (.refl _) (List.getElem_cons_eraseIdx_perm hlt).symm

theorem balanced {custody : Custody}
    (h : Ownership count custody.memory custody.producers custody.consumers) :
    custody.Balanced count where
  ownership := h
  total := h.length_add
  recycled handle hmem := by
    have hfirst := h.of_perm (.refl _) (List.perm_cons_erase hmem)
    obtain ⟨ring, -, heq⟩ := hfirst.exists_recycle
    rw [heq]
  acquired := by
    obtain hempty | ⟨index, ring, -, -, heq⟩ := h.acquire_cases
    · exact .inr hempty
    · exact .inl ⟨⟨index⟩, by rw [heq], by rw [heq]⟩

end Ownership

namespace Custody

variable {count : ℕ} {custody : Custody}

/-- Every operation, accepted or refused, keeps owners, ring and handles in agreement. -/
theorem ownership_step
    (h : Ownership count custody.memory custody.producers custody.consumers) (op : PortOp) :
    Ownership count (custody.step op).memory (custody.step op).producers
      (custody.step op).consumers := by
  cases op with
  | acquire => exact h.acquire
  | claim index => exact h.claim index
  | arena op => exact h.apply op
  | put position index sample =>
      simp only [step]
      split
      · exact h.put _ index sample
      · exact h
  | release position summary =>
      simp only [step]
      split
      · rename_i hhandle
        exact (h.producer_first hhandle).release summary
      · exact h
  | dropHandle position =>
      simp only [step]
      split
      · rename_i hhandle
        exact (h.producer_first hhandle).dropHandle
      · exact h
  | recycle position =>
      simp only [step]
      split
      · rename_i hhandle
        exact (h.consumer_first hhandle).recycle
      · exact h
  | dropFilled position =>
      simp only [step]
      split
      · rename_i hhandle
        exact (h.consumer_first hhandle).dropFilled
      · exact h

theorem ownership_run
    (h : Ownership count custody.memory custody.producers custody.consumers)
    (ops : List PortOp) :
    Ownership count (custody.run ops).memory (custody.run ops).producers
      (custody.run ops).consumers := by
  induction ops generalizing custody with
  | nil => exact h
  | cons op ops ih => exact ih (ownership_step h op)

/-- After any operations on a newly split arena, each buffer has the one owner that ring and
handles say it has, and none is lost. -/
theorem balanced_run_split {samples : ℕ} {memory : SharedMemory}
    (hnew : BufferPool.new count samples = .ok memory.pool) (hsplit : memory.split.1 = .ok ())
    (ops : List PortOp) :
    (run { memory := memory.split.2 } ops).Balanced count :=
  (ownership_run (Ownership.split hnew hsplit) ops).balanced

/-- A run in which one buffer is abandoned, one is claimed, and a reset is refused for it. -/
theorem balanced_run_split_two :
    let memory : SharedMemory :=
      { pool := { entries := Array.replicate 2 { buffer := .ofCapacity 1 } } }
    BufferPool.new 2 1 = .ok memory.pool ∧ memory.split.1 = .ok () ∧
      (run { memory := memory.split.2 }
        [.acquire, .acquire, .dropHandle 0, .release 0 {}, .claim 0,
          .arena .requestReset, .arena .samplingAcknowledge, .arena .timingAcknowledge,
          .arena .completeReset]).Balanced 2 :=
  ⟨rfl, rfl, @balanced_run_split 2 1 _ rfl rfl _⟩

end Custody

end HarvestTestbed
