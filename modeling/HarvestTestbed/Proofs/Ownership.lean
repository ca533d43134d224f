import HarvestTestbed.Proofs.Transfer

/-!
# One owner for every buffer

The owner recorded in the pool, the entries of the free ring and the live handles are kept by three
different parties.  The invariant below ties them together: a buffer is queued in the ring once if
the ring owns it and not at all otherwise, and it has one live handle of the right kind if the
producer or the consumer owns it and none otherwise.  Every operation of the ports preserves it,
where a handle that an operation consumes leaves the list of live handles and one that it returns
joins it.
-/

namespace HarvestTestbed

/-- Owners, ring entries and live handles of a pool of `count` buffers agree. -/
structure Ownership (count : ℕ) (memory : SharedMemory) (producers : List ProducerHandle)
    (consumers : List ConsumerHandle) : Prop where
  size_eq : memory.pool.size = count
  count_le : count ≤ ringCapacity
  queued : memory.pool.Names .freeRing memory.arena.freeRing.toList
  produced : memory.pool.Names .producer (producers.map (·.index))
  consumed : memory.pool.Names .consumer (consumers.map (·.index))

namespace Ownership

variable {count : ℕ} {memory after : SharedMemory} {producers : List ProducerHandle}
variable {consumers : List ConsumerHandle}

/-- The pool is small enough that indices name its buffers. -/
theorem size_le_word (h : Ownership count memory producers consumers) :
    memory.pool.size ≤ UInt32.size := by
  have hle := h.count_le
  rw [h.size_eq]
  simp only [ringCapacity, UInt32.size] at *
  omega

/-- The invariant reads the owners and the free ring only. -/
theorem of_owner? (h : Ownership count memory producers consumers)
    (hsize : after.pool.size = memory.pool.size)
    (howner : ∀ index, after.pool.owner? index = memory.pool.owner? index)
    (hring : after.arena.freeRing = memory.arena.freeRing) :
    Ownership count after producers consumers where
  size_eq := hsize.trans h.size_eq
  count_le := h.count_le
  queued := hring ▸ h.queued.of_owner? howner
  produced := h.produced.of_owner? howner
  consumed := h.consumed.of_owner? howner

/-- Ownership rests on owners, ring and split alone. -/
theorem of_material (h : Ownership count memory producers consumers)
    (hmaterial : after.material = memory.material) :
    Ownership count after producers consumers := by
  have hstock : after.pool.stock = memory.pool.stock := congrArg Material.stock hmaterial
  refine h.of_owner? ?_ ?_ (congrArg Material.freeRing hmaterial)
  · rw [BufferPool.size_eq_stock, hstock, ← BufferPool.size_eq_stock]
  · intro index
    rw [BufferPool.owner?_eq_stock, hstock, ← BufferPool.owner?_eq_stock]

/-- The order in which handles are listed does not matter. -/
theorem of_perm {producers' : List ProducerHandle} {consumers' : List ConsumerHandle}
    (hproducers : producers.Perm producers') (hconsumers : consumers.Perm consumers')
    (h : Ownership count memory producers consumers) :
    Ownership count memory producers' consumers' where
  size_eq := h.size_eq
  count_le := h.count_le
  queued := h.queued
  produced := h.produced.of_perm (hproducers.map _)
  consumed := h.consumed.of_perm (hconsumers.map _)

theorem owner?_producer (h : Ownership count memory producers consumers)
    {handle : ProducerHandle} (hmem : handle ∈ producers) :
    memory.pool.owner? handle.index = some .producer :=
  h.produced.mem_iff.mp (List.mem_map_of_mem hmem)

theorem owner?_consumer (h : Ownership count memory producers consumers)
    {handle : ConsumerHandle} (hmem : handle ∈ consumers) :
    memory.pool.owner? handle.index = some .consumer :=
  h.consumed.mem_iff.mp (List.mem_map_of_mem hmem)

theorem nodup_producers (h : Ownership count memory producers consumers) :
    (producers.map (·.index)).Nodup := by
  rw [List.nodup_iff_count_le_one]
  intro index
  rw [h.produced index]
  split <;> decide

/-! ## Accounting -/

/-- The free ring is as long as there are free buffers, since it names each of them once. -/
theorem length_queued (h : Ownership count memory producers consumers) :
    memory.arena.freeRing.length = memory.pool.countOwner .freeRing := by
  rw [← FreeRing.length_toList, h.queued.length_eq h.size_le_word]

theorem length_produced (h : Ownership count memory producers consumers) :
    producers.length = memory.pool.countOwner .producer := by
  rw [← h.produced.length_eq h.size_le_word, List.length_map]

theorem length_consumed (h : Ownership count memory producers consumers) :
    consumers.length = memory.pool.countOwner .consumer := by
  rw [← h.consumed.length_eq h.size_le_word, List.length_map]

/-- Queued, held, announced and abandoned buffers make up the pool. -/
theorem length_add (h : Ownership count memory producers consumers) :
    memory.arena.freeRing.length + (producers.length + consumers.length) +
      memory.pool.countOwner .filled + memory.pool.countOwner .detached = count := by
  have hsum := memory.pool.sum_countOwner
  calc memory.arena.freeRing.length + (producers.length + consumers.length) +
        memory.pool.countOwner .filled + memory.pool.countOwner .detached =
      memory.pool.countOwner .freeRing +
        (memory.pool.countOwner .producer + memory.pool.countOwner .consumer) +
        memory.pool.countOwner .filled + memory.pool.countOwner .detached := by
          rw [h.length_queued, h.length_produced, h.length_consumed]
    _ = memory.pool.size := by omega
    _ = count := h.size_eq

/-- While a handle is alive, the ring has room. -/
theorem length_lt_capacity {handle : ConsumerHandle}
    (h : Ownership count memory producers (handle :: consumers)) :
    memory.arena.freeRing.length < ringCapacity := by
  have htotal := h.length_add
  have hle := h.count_le
  rw [List.length_cons] at htotal
  omega

/-- Where the pool counts no handle, none is alive. -/
theorem eq_nil_of_held (h : Ownership count memory producers consumers)
    (hheld : memory.pool.held = 0) : producers = [] ∧ consumers = [] := by
  constructor
  · apply List.eq_nil_iff_forall_not_mem.mpr
    intro handle hmem
    exact BufferPool.owner?_ne_of_held_eq_zero hheld rfl (h.owner?_producer hmem)
  · apply List.eq_nil_iff_forall_not_mem.mpr
    intro handle hmem
    exact BufferPool.owner?_ne_of_held_eq_zero hheld rfl (h.owner?_consumer hmem)

/-! ## Producing -/

/-- The ring hands out free buffers only, so that taking one fails only when there is none. -/
theorem acquire_cases (h : Ownership count memory producers consumers) :
    (memory.arena.freeRing.toList = [] ∧ memory.acquire =
        (none, memory.notify .pru0 .bufferPoolExhausted 0 (UInt32.ofNat memory.pool.size))) ∨
      ∃ index ring, memory.arena.freeRing.toList = index :: ring.toList ∧
        memory.pool.owner? index = some .freeRing ∧
        memory.acquire =
          (some ⟨index⟩,
            { memory with
              arena := { memory.arena with freeRing := ring }
              pool := (memory.pool.setOwner index .producer).editBuffer index (·.reset) }) := by
  cases hpop : memory.arena.freeRing.pop? with
  | none =>
      have hempty := (FreeRing.pop?_eq_none_iff _).mp hpop
      exact .inl ⟨hempty, SharedMemory.acquire_of_empty hempty⟩
  | some popped =>
      obtain ⟨index, ring⟩ := popped
      have htoList := FreeRing.toList_of_pop? hpop
      have howner : memory.pool.owner? index = some .freeRing :=
        h.queued.mem_iff.mp (by simp [htoList])
      exact .inr ⟨index, ring, htoList, howner, SharedMemory.acquire_of_pop hpop howner⟩

/-- A buffer leaves the ring for a new handle, or nothing changes hands. -/
theorem acquire (h : Ownership count memory producers consumers) :
    Ownership count memory.acquire.2 (memory.acquire.1.toList ++ producers) consumers := by
  obtain ⟨-, heq⟩ | ⟨index, ring, htoList, howner, heq⟩ := h.acquire_cases
  · rw [heq]
    exact h.of_material (SharedMemory.material_of_ledger (SharedMemory.ledger_notify _ _ _ _ _))
  · have hqueued := h.queued
    rw [htoList] at hqueued
    have hkept := (memory.pool.setOwner index .producer).owner?_editBuffer index
    rw [heq]
    exact
      { size_eq := by simpa using h.size_eq
        count_le := h.count_le
        queued := (hqueued.leave (by decide)).of_owner? fun _ => hkept _ _
        produced := (h.produced.join howner (by decide)).of_owner? fun _ => hkept _ _
        consumed := (h.consumed.pass howner (by decide) (by decide)).of_owner? fun _ => hkept _ _ }

theorem put (h : Ownership count memory producers consumers) (handle : ProducerHandle)
    (index : ℕ) (sample : IvSample) :
    Ownership count (memory.put handle index sample).2 producers consumers := by
  refine h.of_owner? ?_ (fun other => ?_) rfl
  · simp only [SharedMemory.put, BufferPool.put_snd_eq, BufferPool.size_editBuffer]
  · simp only [SharedMemory.put, BufferPool.put_snd_eq, BufferPool.owner?_editBuffer]

/-- A hand-over consumes the handle or, refused, gives it back. -/
theorem release {handle : ProducerHandle}
    (h : Ownership count memory (handle :: producers) consumers) (summary : BufferMeta) :
    Ownership count (memory.release handle summary).2
      ((memory.release handle summary).1.toList ++ producers) consumers := by
  have howner : memory.pool.owner? handle.index = some .producer :=
    h.owner?_producer List.mem_cons_self
  have hfinished := fun index =>
    memory.pool.owner?_editBuffer handle.index index (·.finish summary)
  cases hread : memory.arena.pru0ToHost.isUnread with
  | false =>
      rw [SharedMemory.release_of_read howner summary hread]
      have howner' := (hfinished handle.index).trans howner
      exact
        { size_eq := (memory.size_marked handle summary).trans h.size_eq
          count_le := h.count_le
          queued := (h.queued.of_owner? hfinished).pass howner' (by decide) (by decide)
          produced := (h.produced.of_owner? hfinished).leave (by decide)
          consumed := (h.consumed.of_owner? hfinished).pass howner' (by decide) (by decide) }
  | true =>
      rw [SharedMemory.release_of_unread howner summary hread]
      have hmarked : (memory.marked handle summary).owner? handle.index = some .filled := by
        rw [SharedMemory.owner?_marked howner, if_pos rfl]
      refine h.of_owner? ?_ (fun index => ?_) rfl
      · simp
      · rw [BufferPool.owner?_setOwner hmarked, SharedMemory.owner?_marked howner]
        split
        · rename_i heq
          rw [heq, howner]
        · rfl

theorem dropHandle {handle : ProducerHandle}
    (h : Ownership count memory (handle :: producers) consumers) :
    Ownership count (memory.dropHandle handle) producers consumers := by
  have howner := h.owner?_producer List.mem_cons_self
  rw [SharedMemory.dropHandle_eq howner]
  exact
    { size_eq := by simpa using h.size_eq
      count_le := h.count_le
      queued := h.queued.pass howner (by decide) (by decide)
      produced := h.produced.leave (by decide)
      consumed := h.consumed.pass howner (by decide) (by decide) }

/-! ## Consuming -/

/-- A claim adds a reader for an announced buffer, or is refused. -/
theorem claim (h : Ownership count memory producers consumers) (index : UInt32) :
    Ownership count (memory.claim index).2 producers
      ((memory.claim index).1.toList ++ consumers) := by
  by_cases howner : memory.pool.owner? index = some .filled
  · rw [SharedMemory.claim_of_filled howner]
    exact
      { size_eq := by simpa using h.size_eq
        count_le := h.count_le
        queued := h.queued.pass howner (by decide) (by decide)
        produced := h.produced.pass howner (by decide) (by decide)
        consumed := h.consumed.join howner (by decide) }
  · rw [SharedMemory.claim_of_not_filled howner]
    exact h.of_material (SharedMemory.material_of_ledger (SharedMemory.ledger_notify _ _ _ _ _))

/-- A claimed buffer always finds room in the ring. -/
theorem exists_recycle {handle : ConsumerHandle}
    (h : Ownership count memory producers (handle :: consumers)) :
    ∃ ring, ring.toList = memory.arena.freeRing.toList ++ [handle.index] ∧
      memory.recycle handle =
        (true,
          { memory with
            arena := { memory.arena with freeRing := ring }
            pool := memory.pool.setOwner handle.index .freeRing }) := by
  have howner := h.owner?_consumer List.mem_cons_self
  have hpush := FreeRing.push?_eq_some_of_lt memory.arena.freeRing handle.index
    h.length_lt_capacity
  exact ⟨_, FreeRing.toList_of_push? hpush, SharedMemory.recycle_of_push howner hpush⟩

/-- A consumed buffer enters the ring again, which has room for it. -/
theorem recycle {handle : ConsumerHandle}
    (h : Ownership count memory producers (handle :: consumers)) :
    Ownership count (memory.recycle handle).2 producers consumers := by
  have howner := h.owner?_consumer List.mem_cons_self
  obtain ⟨ring, htoList, heq⟩ := h.exists_recycle
  rw [heq]
  refine
    { size_eq := by simpa using h.size_eq
      count_le := h.count_le
      queued := ?_
      produced := h.produced.pass howner (by decide) (by decide)
      consumed := h.consumed.leave (by decide) }
  simp only [htoList]
  exact (h.queued.join howner (by decide)).of_perm
    (List.perm_append_singleton _ _).symm

theorem dropFilled {handle : ConsumerHandle}
    (h : Ownership count memory producers (handle :: consumers)) :
    Ownership count (memory.dropFilled handle) producers consumers := by
  have howner := h.owner?_consumer List.mem_cons_self
  rw [SharedMemory.dropFilled_eq howner]
  exact
    { size_eq := by simpa using h.size_eq
      count_le := h.count_le
      queued := h.queued.pass howner (by decide) (by decide)
      produced := h.produced.pass howner (by decide) (by decide)
      consumed := h.consumed.leave (by decide) }

/-! ## The session -/

/-- Splitting an arena queues every buffer of a new pool. -/
theorem split {samples : ℕ} (hnew : BufferPool.new count samples = .ok memory.pool)
    (hsplit : memory.split.1 = .ok ()) : Ownership count memory.split.2 [] [] := by
  have hsize := BufferPool.size_of_new hnew
  have hle := BufferPool.size_le_of_new hnew
  obtain ⟨pool, hattach, heq⟩ := SharedMemory.split_of_ok hsplit
  have hentries : pool.entries = memory.pool.entries := BufferPool.entries_of_attach hattach
  have hpool : pool.size = count := (congrArg Array.size hentries).trans hsize
  have hword : pool.size ≤ UInt32.size := by
    simp only [ringCapacity] at hle
    simp only [hpool, UInt32.size]
    omega
  have howner : ∀ index, pool.owner? index =
      if index.toNat < count then some .freeRing else none := by
    intro index
    have hentry := BufferPool.entry?_of_new hnew index
    simp only [BufferPool.owner?, BufferPool.entry?, hentries] at hentry ⊢
    rw [hentry]
    split <;> rfl
  have hnone : ∀ owner : BufferOwner, owner ≠ .freeRing → pool.Names owner [] := by
    intro owner hne index
    rw [List.count_nil, howner]
    split <;> simp [Ne.symm hne]
  rw [heq]
  refine
    { size_eq := hpool
      count_le := hle
      queued := ?_
      produced := hnone .producer (by decide)
      consumed := hnone .consumer (by decide) }
  rw [SharedMemory.toList_refillRing (hpool.trans_le hle)]
  exact BufferPool.names_indicesOf hword .freeRing

/-- Of a finished reset no handle is left, and every buffer is queued again. -/
theorem afterReset (h : Ownership count memory producers consumers) {pool : BufferPool}
    (hreclaim : memory.pool.reclaim = .ok pool) :
    Ownership count (memory.afterReset pool) producers consumers := by
  have hsize : pool.size = count := (BufferPool.size_of_reclaim hreclaim).trans h.size_eq
  have hword : pool.size ≤ UInt32.size := by
    rw [hsize, ← h.size_eq]
    exact h.size_le_word
  have hnone : ∀ owner : BufferOwner, owner ≠ .freeRing → pool.Names owner [] := by
    intro owner hne index
    rw [List.count_nil, BufferPool.owner?_of_reclaim hreclaim]
    split <;> simp [Ne.symm hne]
  obtain ⟨rfl, rfl⟩ := h.eq_nil_of_held (BufferPool.held_eq_zero_of_reclaim hreclaim)
  refine
    { size_eq := by simpa using hsize
      count_le := h.count_le
      queued := ?_
      produced := by simpa using hnone .producer (by decide)
      consumed := by simpa using hnone .consumer (by decide) }
  rw [SharedMemory.pool_afterReset, SharedMemory.freeRing_afterReset,
    SharedMemory.toList_refillRing (hsize.trans_le h.count_le)]
  exact BufferPool.names_indicesOf hword .freeRing

/-- A reset is finished without live handles only, and then every buffer is free. -/
theorem completeReset (h : Ownership count memory producers consumers) :
    Ownership count memory.completeReset.2 producers consumers := by
  by_cases hready : memory.ReadyToComplete
  · obtain ⟨pool, hreclaim, heq⟩ := SharedMemory.completeReset_of_ready hready
    rw [heq]
    exact h.afterReset hreclaim
  · obtain ⟨fault, heq⟩ := SharedMemory.completeReset_of_not_ready hready
    rw [heq]
    exact h

theorem setState (h : Ownership count memory producers consumers) (next : SessionState) :
    Ownership count (memory.setState next).2 producers consumers := by
  rw [SharedMemory.setState]
  split
  · exact h.of_owner? rfl (fun _ => rfl) rfl
  · exact h

theorem setMode (h : Ownership count memory producers consumers) (mode : Mode) :
    Ownership count (memory.setMode mode).2 producers consumers := by
  simp only [SharedMemory.setMode]
  split
  · exact h.of_owner? rfl (fun _ => rfl) rfl
  · exact h

end Ownership

end HarvestTestbed
