import HarvestTestbed.Proofs.FreeRing
import HarvestTestbed.Proofs.Ledger

/-!
# Operations that move a buffer

Taking a free buffer, handing a finished one over, claiming it and giving it back each move one
buffer from one owner to the next.  Here each of them is written out for a buffer that has the
owner the operation expects: what it answers, and the pool, the free ring and the announcement slot
it leaves.
-/

namespace HarvestTestbed.SharedMemory

/-! ## Taking a free buffer -/

/-- Without a free buffer exhaustion is reported, with the size of the pool. -/
theorem acquire_of_empty {memory : SharedMemory}
    (hempty : memory.arena.freeRing.toList = []) :
    memory.acquire =
      (none, memory.notify .pru0 .bufferPoolExhausted 0 (UInt32.ofNat memory.pool.size)) := by
  simp only [acquire, (FreeRing.pop?_eq_none_iff _).mpr hempty]

/-- The oldest index in the ring names the buffer that is taken. -/
theorem acquire_of_pop {memory : SharedMemory} {index : UInt32} {ring : FreeRing}
    (hpop : memory.arena.freeRing.pop? = some (index, ring))
    (howner : memory.pool.owner? index = some .freeRing) :
    memory.acquire =
      (some ⟨index⟩,
        { memory with
          arena := { memory.arena with freeRing := ring }
          pool := (memory.pool.setOwner index .producer).editBuffer index (·.reset) }) := by
  simp only [acquire, hpop, mapArena, BufferPool.takeForProducer_eq_some howner]

/-! ## Handing a buffer over -/

def marked (memory : SharedMemory) (handle : ProducerHandle) (summary : BufferMeta) :
    BufferPool :=
  (memory.pool.editBuffer handle.index (·.finish summary)).setOwner handle.index .filled

/-- The number of valid samples that a hand-over announces. -/
def announcedCount (memory : SharedMemory) (handle : ProducerHandle) (summary : BufferMeta) :
    UInt32 :=
  UInt32.ofNat (memory.pool.markFilled handle summary).1

/-- Giving the filling up changes the owner of that buffer only. -/
theorem owner?_marked {memory : SharedMemory} {handle : ProducerHandle}
    (howner : memory.pool.owner? handle.index = some .producer) (summary : BufferMeta)
    (index : UInt32) :
    (memory.marked handle summary).owner? index =
      if index = handle.index then some .filled else memory.pool.owner? index := by
  have hfinished :
      (memory.pool.editBuffer handle.index (·.finish summary)).owner? handle.index =
        some .producer := by
    rw [BufferPool.owner?_editBuffer, howner]
  rw [marked, BufferPool.owner?_setOwner hfinished, BufferPool.owner?_editBuffer]

@[simp]
theorem buffer?_marked (memory : SharedMemory) (handle : ProducerHandle) (summary : BufferMeta)
    (index : UInt32) :
    (memory.marked handle summary).buffer? index =
      if index = handle.index then (memory.pool.buffer? index).map (·.finish summary)
      else memory.pool.buffer? index := by
  rw [marked, BufferPool.buffer?_setOwner, BufferPool.buffer?_editBuffer]

@[simp]
theorem size_marked (memory : SharedMemory) (handle : ProducerHandle) (summary : BufferMeta) :
    (memory.marked handle summary).size = memory.pool.size := by
  simp [marked]

/-- The hand-over is accepted while no announcement is unread. -/
theorem release_of_read {memory : SharedMemory} {handle : ProducerHandle}
    (howner : memory.pool.owner? handle.index = some .producer) (summary : BufferMeta)
    (hread : memory.arena.pru0ToHost.isUnread = false) :
    memory.release handle summary =
      (none,
        { memory with
          arena := { memory.arena with
            edgeTarget := memory.arena.edgeTarget.update (·.detach handle.index)
            pru0ToHost := Channel.filled .pru0 memory.arena.pru0ToHost .bufferFilled
              handle.index (memory.announcedCount handle summary) }
          pool := memory.marked handle summary }) := by
  simp only [release, samplingSend, Channel.send_of_read hread, if_true,
    BufferPool.markFilled_eq howner]
  rfl

/-- While one is unread, it is refused and the buffer given back. -/
theorem release_of_unread {memory : SharedMemory} {handle : ProducerHandle}
    (howner : memory.pool.owner? handle.index = some .producer) (summary : BufferMeta)
    (hunread : memory.arena.pru0ToHost.isUnread = true) :
    memory.release handle summary =
      (some handle,
        { memory with
          arena := { memory.arena with
            edgeTarget := memory.arena.edgeTarget.update (·.detach handle.index)
            pru0Status := (memory.arena.pru0Status.report .pru0 .backpressure
              MessageType.bufferFilled.toWord handle.index).2 }
          pool := (memory.marked handle summary).setOwner handle.index .producer }) := by
  have hfilled : (memory.marked handle summary).owner? handle.index = some .filled := by
    rw [owner?_marked howner, if_pos rfl]
  have hback := BufferPool.unmarkFilled_eq_some hfilled
  simp only [marked] at hback
  simp only [release, samplingSend, Channel.send_of_unread hunread, if_false,
    BufferPool.markFilled_eq howner, hback, Bool.false_eq_true]
  rfl

theorem dropHandle_eq {memory : SharedMemory} {handle : ProducerHandle}
    (howner : memory.pool.owner? handle.index = some .producer) :
    memory.dropHandle handle =
      { memory with pool := memory.pool.setOwner handle.index .detached } := by
  rw [dropHandle, BufferPool.dropProducer_eq howner]

/-! ## Claiming a buffer and giving it back -/

theorem claim_of_filled {memory : SharedMemory} {index : UInt32}
    (howner : memory.pool.owner? index = some .filled) :
    memory.claim index =
      (some ⟨index⟩, { memory with pool := memory.pool.setOwner index .consumer }) := by
  simp only [claim, BufferPool.claimFilled_eq_some howner]

/-- A claim of a buffer that was not filled is reported with the owner found there. -/
theorem claim_of_not_filled {memory : SharedMemory} {index : UInt32}
    (howner : memory.pool.owner? index ≠ some .filled) :
    memory.claim index =
      (none, memory.notify .host .memoryCorruption index (memory.pool.ownerWord index)) := by
  simp only [claim, BufferPool.claimFilled_eq_none howner]

/-- A consumed buffer is queued behind the others. -/
theorem recycle_of_push {memory : SharedMemory} {handle : ConsumerHandle} {ring : FreeRing}
    (howner : memory.pool.owner? handle.index = some .consumer)
    (hpush : memory.arena.freeRing.push? handle.index = some ring) :
    memory.recycle handle =
      (true,
        { memory with
          arena := { memory.arena with freeRing := ring }
          pool := memory.pool.setOwner handle.index .freeRing }) := by
  simp only [recycle, hpush, BufferPool.releaseConsumed_eq howner, mapArena]

theorem dropFilled_eq {memory : SharedMemory} {handle : ConsumerHandle}
    (howner : memory.pool.owner? handle.index = some .consumer) :
    memory.dropFilled handle =
      { memory with pool := memory.pool.setOwner handle.index .detached } := by
  rw [dropFilled, BufferPool.dropConsumer_eq howner]

/-! ## Splitting the arena -/

/-- A split attaches the pool, then publishes a fresh arena whose ring has every buffer. -/
theorem split_of_ok {memory : SharedMemory} (hsplit : memory.split.1 = .ok ()) :
    ∃ pool, memory.pool.attach = .ok pool ∧
      memory.split.2 =
        { memory with
          arena := Arena.refillRing
            (Arena.clearChannels { memory.arena with split := .raised }) pool
          pool := pool } := by
  simp only [split] at hsplit ⊢
  split at hsplit
  · cases hsplit
  · split at hsplit
    · cases hsplit
    · rename_i hfresh
      split at hsplit
      · cases hsplit
      · rename_i pool hattach
        exact ⟨pool, hattach, by rw [if_neg hfresh]⟩

/-- A new arena can be split with a new pool. -/
theorem split_of_new {count samples : ℕ} {pool : BufferPool}
    (hnew : BufferPool.new count samples = .ok pool) :
    ({ pool := pool } : SharedMemory).split.1 = .ok () := by
  rw [BufferPool.eq_of_new hnew]
  rfl

/-! ## Finishing a reset -/

def afterReset (memory : SharedMemory) (pool : BufferPool) : SharedMemory :=
  let cleared : SharedMemory :=
    { memory with arena := memory.arena.clearChannels.refillRing pool, pool := pool }
  ((cleared.notify .host .restart 0 0).setState .idle).2

@[simp]
theorem pool_afterReset (memory : SharedMemory) (pool : BufferPool) :
    (memory.afterReset pool).pool = pool := by
  simp only [afterReset, setState]
  split <;> rfl

@[simp]
theorem freeRing_afterReset (memory : SharedMemory) (pool : BufferPool) :
    (memory.afterReset pool).arena.freeRing =
      (memory.arena.clearChannels.refillRing pool).freeRing := by
  simp only [afterReset, setState]
  split <;> rfl

@[simp]
theorem pru0ToHost_afterReset (memory : SharedMemory) (pool : BufferPool) :
    (memory.afterReset pool).arena.pru0ToHost = memory.arena.pru0ToHost.clear := by
  simp only [afterReset, setState]
  split <;> rfl

theorem control_afterReset {memory : SharedMemory} (hstate : memory.state = .reset)
    (pool : BufferPool) :
    (memory.afterReset pool).control =
      { memory.control with
        sessionState := SessionState.idle.toWord, pru0ResetAck := .low, pru1ResetAck := .low } := by
  have hkept : SharedMemory.control { memory with
      arena := memory.arena.clearChannels.refillRing pool, pool := pool } =
        { memory.control with pru0ResetAck := .low, pru1ResetAck := .low } := rfl
  have hledger := SharedMemory.ledger_setState (SharedMemory.notify { memory with
      arena := memory.arena.clearChannels.refillRing pool, pool := pool } .host .restart 0 0) .idle
  have hcontrol := congrArg Ledger.control hledger
  rw [state_eq_control] at hstate hcontrol
  simp only [control_notify, hkept, hstate, SessionState.canMoveTo, if_true] at hcontrol
  exact hcontrol

/-- Filling the ring with the free buffers of a pool queues them in order. -/
theorem toList_refillRing {pool : BufferPool} (hsize : pool.size ≤ ringCapacity)
    (arena : Arena) :
    (arena.refillRing pool).freeRing.toList = pool.indicesOf .freeRing := by
  have hlength : (pool.indicesOf .freeRing).length ≤ pool.size := by
    calc (pool.indicesOf .freeRing).length ≤ pool.indices.length :=
          List.length_filter_le _ _
      _ = pool.size := by simp [BufferPool.indices]
  have hroom : arena.freeRing.reset.length + (pool.indicesOf .freeRing).length ≤
      ringCapacity := by
    rw [← FreeRing.length_toList, FreeRing.toList_reset, List.length_nil]
    omega
  have hfill := FreeRing.toList_foldl_push? (pool.indicesOf .freeRing) arena.freeRing.reset hroom
  rw [FreeRing.toList_reset, List.nil_append] at hfill
  exact hfill

def ReadyToComplete (memory : SharedMemory) : Prop :=
  memory.state = .reset ∧ memory.resetAcknowledged = true ∧ memory.pool.held = 0

/-- A finished reset reclaims the pool before it clears the arena. -/
theorem completeReset_of_ready {memory : SharedMemory} (hready : memory.ReadyToComplete) :
    ∃ pool, memory.pool.reclaim = .ok pool ∧
      memory.completeReset = (.ok (), memory.afterReset pool) := by
  obtain ⟨hstate, hacknowledged, hheld⟩ := hready
  have hreclaim := BufferPool.reclaim_of_held_eq_zero hheld
  refine ⟨_, hreclaim, ?_⟩
  simp only [completeReset, hstate, hacknowledged, hreclaim, afterReset, setState,
    state_eq_control, control_notify]
  have hkept : ∀ pool, SharedMemory.control { memory with
      arena := memory.arena.clearChannels.refillRing pool, pool := pool } =
        { memory.control with pru0ResetAck := .low, pru1ResetAck := .low } := fun _ => rfl
  rw [state_eq_control] at hstate
  simp [hkept, hstate, SessionState.canMoveTo]

/-- A reset that cannot be finished yet changes nothing. -/
theorem completeReset_of_not_ready {memory : SharedMemory} (hready : ¬ memory.ReadyToComplete) :
    ∃ fault, memory.completeReset = (.error fault, memory) := by
  simp only [completeReset]
  split
  · exact ⟨_, rfl⟩
  rename_i hstate
  split
  · exact ⟨_, rfl⟩
  rename_i hacknowledged
  split
  · exact ⟨_, rfl⟩
  rename_i pool hreclaim
  exact absurd ⟨not_not.mp hstate, by simpa using hacknowledged,
    BufferPool.held_eq_zero_of_reclaim hreclaim⟩ hready

theorem completeReset_eq_ok_iff (memory : SharedMemory) :
    memory.completeReset.1 = .ok () ↔ memory.ReadyToComplete := by
  constructor
  · intro hok
    by_contra hready
    obtain ⟨fault, herror⟩ := completeReset_of_not_ready hready
    rw [herror] at hok
    cases hok
  · intro hready
    obtain ⟨pool, -, hok⟩ := completeReset_of_ready hready
    rw [hok]

end HarvestTestbed.SharedMemory
