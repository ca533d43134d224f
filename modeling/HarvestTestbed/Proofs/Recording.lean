import HarvestTestbed.Proofs.Ownership
import HarvestTestbed.Proofs.Periods
import HarvestTestbed.Sampling.Loop

/-!
# Recording in progress

A buffer is filled by the sampling loop, announced or kept waiting when its period ends, and shown
to the sink by the pump.  At every moment the buffers shown so far, the one announced and the one
waiting record, in this order, periods that have ended, and the buffer being filled holds the
samples of the period that lasts.  Buffers are used again without being erased, so what a buffer
holds is stated for the cells that it will present and no others.
-/

namespace HarvestTestbed

/-! ## What is on its way to the sink -/

namespace SharedMemory

/-- The index in the announcement that waits for the host. -/
def announcedIndex? (memory : SharedMemory) : Option UInt32 :=
  (Channel.waiting? .pru0 memory.arena.pru0ToHost).bind fun message =>
    if message.type = .bufferFilled then some message.first else none

def announced (memory : SharedMemory) : List SampleBuffer :=
  (memory.announcedIndex?.bind memory.pool.buffer?).toList

theorem announcedIndex?_of_read {memory : SharedMemory}
    (hread : memory.arena.pru0ToHost.isUnread = false) : memory.announcedIndex? = none := by
  rw [announcedIndex?, Channel.waiting?_of_read hread]
  rfl

theorem announcedIndex?_filled {memory : SharedMemory} {slot : Slot 2} {index samples : UInt32}
    (hslot : memory.arena.pru0ToHost =
      Channel.filled .pru0 slot .bufferFilled index samples) :
    memory.announcedIndex? = some index := by
  rw [announcedIndex?, hslot, Channel.waiting?_filled (by decide)]
  rfl

theorem announced_of_read {memory : SharedMemory}
    (hread : memory.arena.pru0ToHost.isUnread = false) : memory.announced = [] := by
  rw [announced, announcedIndex?_of_read hread]
  rfl

theorem announcedIndex?_other {memory : SharedMemory} {slot : Slot 2} {type : MessageType}
    {first second : UInt32} (hsent : type ≠ .none) (hother : type ≠ .bufferFilled)
    (hslot : memory.arena.pru0ToHost = Channel.filled .pru0 slot type first second) :
    memory.announcedIndex? = none := by
  rw [announcedIndex?, hslot, Channel.waiting?_filled hsent]
  simp [hother]

theorem announcedIndex?_of_material {before after : SharedMemory}
    (hmaterial : after.material = before.material) :
    after.announcedIndex? = before.announcedIndex? := by
  have hslot : after.arena.pru0ToHost = before.arena.pru0ToHost :=
    congrArg Material.announcement hmaterial
  rw [announcedIndex?, announcedIndex?, hslot]

theorem buffer?_of_material {before after : SharedMemory}
    (hmaterial : after.material = before.material) (index : UInt32) :
    after.pool.buffer? index = before.pool.buffer? index := by
  have hstock : after.pool.stock = before.pool.stock := congrArg Material.stock hmaterial
  rw [BufferPool.buffer?_eq_stock, hstock, ← BufferPool.buffer?_eq_stock]

theorem owner?_of_material {before after : SharedMemory}
    (hmaterial : after.material = before.material) (index : UInt32) :
    after.pool.owner? index = before.pool.owner? index := by
  have hstock : after.pool.stock = before.pool.stock := congrArg Material.stock hmaterial
  rw [BufferPool.owner?_eq_stock, hstock, ← BufferPool.owner?_eq_stock]

/-- The announcement is the message that the host is about to receive. -/
theorem announcedIndex?_eq_pumpReceive (memory : SharedMemory) :
    memory.announcedIndex? = memory.pumpReceive.1.bind fun message =>
      if message.type = .bufferFilled then some message.first else none := by
  rw [announcedIndex?, pumpReceive, Channel.answer_receive]

theorem announced_eq_pumpReceive (memory : SharedMemory) :
    memory.announced = (memory.pumpReceive.1.bind fun message =>
      if message.type = .bufferFilled then memory.pool.buffer? message.first else none).toList := by
  rw [announced, announcedIndex?_eq_pumpReceive, Option.bind_assoc]
  congr 2
  funext message
  split <;> rfl

theorem announcedIndex?_pumpReceive (memory : SharedMemory) :
    memory.pumpReceive.2.announcedIndex? = none :=
  announcedIndex?_of_read
    (Channel.isUnread_receive .host .pru0 memory.arena.pru0ToHost memory.arena.hostStatus)

end SharedMemory

namespace SamplingLoop

variable {F : Type}

/-- The handles that the loop keeps. -/
def handles (loop : SamplingLoop F) : List ProducerHandle :=
  loop.current.toList ++ (loop.pending.map (·.1)).toList

/-- The finished buffer that waits, with its summary attached. -/
def waiting (loop : SamplingLoop F) (memory : SharedMemory) : List SampleBuffer :=
  (loop.pending.bind fun pending =>
    (memory.pool.buffer? pending.1.index).map (·.finish pending.2)).toList

end SamplingLoop

/-- The buffers that were delivered, the one announced and the one waiting record periods that
ended, and the one being filled holds the samples of the period that lasts. -/
structure Recording {F : Type} (count capacity : ℕ) (memory : SharedMemory)
    (loop : SamplingLoop F) (log : PeriodLog) (delivered : List SampleBuffer) : Prop where
  ownership : Ownership count memory loop.handles []
  capacity_eq : ∀ index buffer, memory.pool.buffer? index = some buffer →
    buffer.capacity = capacity
  announced_filled : ∀ index, memory.announcedIndex? = some index →
    memory.pool.owner? index = some .filled
  filling : ∀ handle, loop.current = some handle → ∃ period, log.lasting = some period ∧
    Summarizes period loop.summary ∧
    ∀ buffer, memory.pool.buffer? handle.index = some buffer → Holds capacity period buffer
  queue : List.SublistForall₂ (Records capacity)
    (delivered ++ memory.announced ++ loop.waiting memory) log.ended

namespace Recording

variable {F : Type} {count capacity : ℕ} {memory after : SharedMemory} {loop : SamplingLoop F}
variable {log : PeriodLog} {delivered : List SampleBuffer}

/-! ## What recording depends on -/

theorem queue_congr {next : SamplingLoop F}
    (hqueue : List.SublistForall₂ (Records capacity)
      (delivered ++ memory.announced ++ loop.waiting memory) log.ended)
    (hindex : after.announcedIndex? = memory.announcedIndex?)
    (hpending : next.pending = loop.pending)
    (hannounced : ∀ index, memory.announcedIndex? = some index →
      after.pool.buffer? index = memory.pool.buffer? index)
    (hwaiting : ∀ handle summary, loop.pending = some (handle, summary) →
      (after.pool.buffer? handle.index).map (·.finish summary) =
        (memory.pool.buffer? handle.index).map (·.finish summary)) :
    List.SublistForall₂ (Records capacity)
      (delivered ++ after.announced ++ next.waiting after) log.ended := by
  have hannouncedEq : after.announced = memory.announced := by
    rw [SharedMemory.announced, SharedMemory.announced, hindex]
    cases hsome : memory.announcedIndex? with
    | none => rfl
    | some index => simp [hannounced index hsome]
  have hwaitingEq : next.waiting after = loop.waiting memory := by
    rw [SamplingLoop.waiting, SamplingLoop.waiting, hpending]
    cases hsome : loop.pending with
    | none => rfl
    | some pending => simp [hwaiting pending.1 pending.2 hsome]
  rw [hannouncedEq, hwaitingEq]
  exact hqueue

/-- Owners may change as long as every content stays and what is announced stays filled. -/
theorem of_buffer? (h : Recording count capacity memory loop log delivered)
    (hownership : Ownership count after loop.handles [])
    (hbuffer : ∀ index, after.pool.buffer? index = memory.pool.buffer? index)
    (hindex : after.announcedIndex? = memory.announcedIndex?)
    (hfilled : ∀ index, memory.announcedIndex? = some index →
      after.pool.owner? index = some .filled) :
    Recording count capacity after loop log delivered where
  ownership := hownership
  capacity_eq index := by
    rw [hbuffer]
    exact h.capacity_eq index
  announced_filled index := by
    rw [hindex]
    exact hfilled index
  filling handle hcurrent := by
    rw [hbuffer]
    exact h.filling handle hcurrent
  queue := queue_congr h.queue hindex rfl (fun index _ => hbuffer index)
    fun handle _ _ => by rw [hbuffer handle.index]

theorem of_material (h : Recording count capacity memory loop log delivered)
    (hmaterial : after.material = memory.material) :
    Recording count capacity after loop log delivered := by
  apply h.of_buffer? (h.ownership.of_material hmaterial)
    (SharedMemory.buffer?_of_material hmaterial)
    (SharedMemory.announcedIndex?_of_material hmaterial)
  intro index hannounced
  rw [SharedMemory.owner?_of_material hmaterial]
  exact h.announced_filled index hannounced

/-- Of the loop, only its handles and its accounts matter. -/
theorem of_loop (h : Recording count capacity memory loop log delivered)
    {next : SamplingLoop F} (hcurrent : next.current = loop.current)
    (hpending : next.pending = loop.pending) (hsummary : next.summary = loop.summary) :
    Recording count capacity memory next log delivered where
  ownership := by
    rw [SamplingLoop.handles, hcurrent, hpending]
    exact h.ownership
  capacity_eq := h.capacity_eq
  announced_filled := h.announced_filled
  filling handle hhandle := by
    rw [hsummary]
    exact h.filling handle (hcurrent ▸ hhandle)
  queue := by
    rw [SamplingLoop.waiting, hpending]
    exact h.queue

/-- Of a loop that fills no buffer, not even its accounts matter. -/
theorem of_empty (h : Recording count capacity memory loop log delivered)
    {next : SamplingLoop F} (hcurrent : loop.current = none) (hnext : next.current = none)
    (hpending : next.pending = loop.pending) :
    Recording count capacity memory next log delivered where
  ownership := by
    rw [SamplingLoop.handles, hnext, hpending, ← hcurrent]
    exact h.ownership
  capacity_eq := h.capacity_eq
  announced_filled := h.announced_filled
  filling handle hhandle := by simp [hnext] at hhandle
  queue := queue_congr h.queue rfl hpending (fun _ _ => rfl) (fun _ _ _ => rfl)

/-! ## Owners -/

theorem owner?_current (h : Recording count capacity memory loop log delivered)
    {handle : ProducerHandle} (hcurrent : loop.current = some handle) :
    memory.pool.owner? handle.index = some .producer :=
  h.ownership.owner?_producer (by simp [SamplingLoop.handles, hcurrent])

theorem owner?_pending (h : Recording count capacity memory loop log delivered)
    {handle : ProducerHandle} {summary : BufferMeta}
    (hpending : loop.pending = some (handle, summary)) :
    memory.pool.owner? handle.index = some .producer :=
  h.ownership.owner?_producer (by simp [SamplingLoop.handles, hpending])

/-- The buffer being filled is not the one that waits. -/
theorem current_ne_pending (h : Recording count capacity memory loop log delivered)
    {current pending : ProducerHandle} {summary : BufferMeta}
    (hcurrent : loop.current = some current) (hpending : loop.pending = some (pending, summary)) :
    current.index ≠ pending.index := by
  have hnodup := h.ownership.nodup_producers
  simp only [SamplingLoop.handles, hcurrent, hpending, Option.toList_some, Option.map_some,
    List.singleton_append, List.map_cons, List.map_nil, List.nodup_cons, List.mem_singleton]
    at hnodup
  exact hnodup.1

theorem current_not_announced (h : Recording count capacity memory loop log delivered)
    {handle : ProducerHandle} (hcurrent : loop.current = some handle) :
    memory.announcedIndex? ≠ some handle.index := by
  intro hannounced
  have howner := h.owner?_current hcurrent
  rw [h.announced_filled _ hannounced] at howner
  cases howner

/-! ## Ending a period -/

theorem sublistForall₂_append_right {α β : Type} {R : α → β → Prop} {left : List α}
    {right : List β} (h : List.SublistForall₂ R left right) (more : List β) :
    List.SublistForall₂ R left (right ++ more) := by
  obtain ⟨matched, hmatched, hsublist⟩ := List.sublistForall₂_iff.mp h
  exact List.sublistForall₂_iff.mpr
    ⟨matched, hmatched, hsublist.trans (List.sublist_append_left right more)⟩

theorem sublistForall₂_concat {α β : Type} {R : α → β → Prop} {left : List α}
    {right : List β} {a : α} {b : β} (h : List.SublistForall₂ R left right) (hlast : R a b) :
    List.SublistForall₂ R (left ++ [a]) (right ++ [b]) := by
  obtain ⟨matched, hmatched, hsublist⟩ := List.sublistForall₂_iff.mp h
  exact List.sublistForall₂_iff.mpr
    ⟨matched ++ [b], List.rel_append hmatched (.cons hlast .nil),
      hsublist.append (List.Sublist.refl [b])⟩

theorem sublistForall₂_of_append {α β : Type} {R : α → β → Prop} {left more : List α}
    {right : List β} (h : List.SublistForall₂ R (left ++ more) right) :
    List.SublistForall₂ R left right := by
  obtain ⟨matched, hmatched, hsublist⟩ := List.sublistForall₂_iff.mp h
  have hprefix := List.forall₂_take left.length hmatched
  rw [List.take_left] at hprefix
  exact List.sublistForall₂_iff.mpr
    ⟨_, hprefix, (List.take_sublist left.length matched).trans hsublist⟩

/-- A swap starts the accounts anew; a buffer that is kept is filled from its first cell again. -/
theorem openPeriod (h : Recording count capacity memory loop log delivered)
    (timestamp : UInt64) :
    Recording count capacity memory (loop.openPeriod timestamp) (log.note (.swap timestamp))
      delivered where
  ownership := h.ownership
  capacity_eq := h.capacity_eq
  announced_filled := h.announced_filled
  filling _ _ := ⟨{ timestamp := timestamp }, rfl, .opened timestamp,
    fun buffer _ => .opened capacity timestamp buffer⟩
  queue := sublistForall₂_append_right h.queue _

/-- A swap ends the period of the buffer being filled, which then waits. -/
theorem endPeriod (h : Recording count capacity memory loop log delivered)
    {finished : ProducerHandle} (hcurrent : loop.current = some finished)
    (hpending : loop.pending = none) (timestamp : UInt64) :
    Recording count capacity memory
      { loop.openPeriod timestamp with current := none, pending := some (finished, loop.summary) }
      (log.note (.swap timestamp)) delivered where
  ownership := by
    have hhandles : loop.handles = [finished] := by
      simp [SamplingLoop.handles, hcurrent, hpending]
    have hownership := h.ownership
    rw [hhandles] at hownership
    exact hownership
  capacity_eq := h.capacity_eq
  announced_filled := h.announced_filled
  filling _ := nofun
  queue := by
    obtain ⟨period, hlasting, hsummary, hholds⟩ := h.filling finished hcurrent
    obtain ⟨buffer, hbuffer⟩ := BufferPool.exists_buffer?_of_owner? (h.owner?_current hcurrent)
    have hrecords := (hholds buffer hbuffer).records (h.capacity_eq _ buffer hbuffer) hsummary
    have hqueue := h.queue
    rw [SamplingLoop.waiting, hpending] at hqueue
    simp only [Option.bind_none, Option.toList_none, List.append_nil] at hqueue
    simp only [SamplingLoop.waiting, PeriodLog.note, hbuffer, hlasting, Option.bind_some,
      Option.map_some, Option.toList_some]
    exact sublistForall₂_concat hqueue hrecords

/-! ## Taking a buffer -/

/-- A buffer that was free is neither announced nor waiting. -/
theorem acquire (h : Recording count capacity memory loop log delivered)
    (hcurrent : loop.current = none) {timestamp : UInt64}
    (hlasting : log.lasting = some { timestamp := timestamp })
    (hsummary : loop.summary = { timestamp := timestamp }) :
    Recording count capacity memory.acquire.2 { loop with current := memory.acquire.1 } log
      delivered := by
  have hownership := h.ownership.acquire
  obtain ⟨-, heq⟩ | ⟨index, ring, -, howner, heq⟩ := h.ownership.acquire_cases
  · rw [heq]
    have hkept := h.of_material (SharedMemory.material_of_ledger
      (memory.ledger_notify .pru0 .bufferPoolExhausted 0 (UInt32.ofNat memory.pool.size)))
    exact hkept.of_loop hcurrent.symm rfl rfl
  · rw [heq] at hownership ⊢
    have hother : ∀ other owner, memory.pool.owner? other = some owner → owner ≠ .freeRing →
        other ≠ index := by
      rintro other owner hothers hne rfl
      rw [howner, Option.some.injEq] at hothers
      exact hne hothers.symm
    have hbuffer : ∀ other, other ≠ index →
        ((memory.pool.setOwner index .producer).editBuffer index (·.reset)).buffer? other =
          memory.pool.buffer? other := by
      intro other hne
      rw [BufferPool.buffer?_editBuffer, if_neg hne, BufferPool.buffer?_setOwner]
    have hhandles : loop.handles = (loop.pending.map (·.1)).toList := by
      simp [SamplingLoop.handles, hcurrent]
    rw [hhandles] at hownership
    constructor
    case ownership => exact hownership
    case capacity_eq =>
      intro other buffer hother
      rw [BufferPool.buffer?_editBuffer, BufferPool.buffer?_setOwner] at hother
      split at hother
      · obtain ⟨old, hold, rfl⟩ := Option.map_eq_some_iff.mp hother
        exact h.capacity_eq other old hold
      · exact h.capacity_eq other buffer hother
    case announced_filled =>
      intro other hannounced
      have hfilled := h.announced_filled other hannounced
      rw [BufferPool.owner?_editBuffer, BufferPool.owner?_setOwner howner,
        if_neg (hother other .filled hfilled (by decide))]
      exact hfilled
    case filling =>
      intro handle _
      refine ⟨{ timestamp := timestamp }, hlasting, hsummary ▸ .opened timestamp, ?_⟩
      intro buffer _
      exact .opened capacity timestamp buffer
    case queue =>
      refine queue_congr h.queue rfl rfl ?_ ?_
      · intro other hannounced
        exact hbuffer other (hother other _ (h.announced_filled other hannounced) (by decide))
      · intro handle summary hpending
        rw [hbuffer handle.index (hother handle.index _ (h.owner?_pending hpending) (by decide))]

/-! ## Handing a buffer over -/

theorem capacity_marked (h : Recording count capacity memory loop log delivered)
    (handle : ProducerHandle) (summary : BufferMeta) {index : UInt32} {buffer : SampleBuffer}
    (hbuffer : (memory.marked handle summary).buffer? index = some buffer) :
    buffer.capacity = capacity := by
  rw [SharedMemory.buffer?_marked] at hbuffer
  split at hbuffer
  · obtain ⟨old, hold, rfl⟩ := Option.map_eq_some_iff.mp hbuffer
    exact h.capacity_eq index old hold
  · exact h.capacity_eq index buffer hbuffer

/-- While no announcement is unread, the waiting buffer is announced. -/
theorem handOver_of_read {handle : ProducerHandle} {summary : BufferMeta}
    (h : Recording count capacity memory
      { loop with pending := some (handle, summary) } log delivered)
    (hpending : loop.pending = none) (hread : memory.arena.pru0ToHost.isUnread = false) :
    Recording count capacity (loop.handOver memory handle summary).2
      (loop.handOver memory handle summary).1 log delivered := by
  have howner := h.owner?_pending rfl
  have hfirst : Ownership count memory (handle :: loop.current.toList) [] :=
    h.ownership.of_perm (List.perm_append_singleton _ _) (.refl _)
  have hreleased := hfirst.release summary
  have heq := SharedMemory.release_of_read howner summary hread
  obtain ⟨finished, hfinished⟩ := BufferPool.exists_buffer?_of_owner? howner
  have hhandles : loop.handles = loop.current.toList := by
    simp [SamplingLoop.handles, hpending]
  rw [heq] at hreleased
  simp only [SamplingLoop.handOver, heq]
  constructor
  case ownership =>
    rw [← hhandles] at hreleased
    exact hreleased
  case capacity_eq =>
    intro index buffer
    exact h.capacity_marked handle summary
  case announced_filled =>
    intro index hannounced
    rw [SharedMemory.announcedIndex?_filled rfl, Option.some.injEq] at hannounced
    subst hannounced
    simp only
    rw [SharedMemory.owner?_marked howner, if_pos rfl]
  case filling =>
    intro current hcurrent
    obtain ⟨period, hlasting, hsummary, hholds⟩ := h.filling current hcurrent
    refine ⟨period, hlasting, hsummary, ?_⟩
    intro buffer hbuffer
    apply hholds buffer
    simp only at hbuffer
    rwa [SharedMemory.buffer?_marked, if_neg (h.current_ne_pending hcurrent rfl)] at hbuffer
  case queue =>
    have hqueue := h.queue
    have hnone := SharedMemory.announced_of_read hread
    have hattached : (memory.marked handle summary).buffer? handle.index =
        some (finished.finish summary) := by
      rw [SharedMemory.buffer?_marked, if_pos rfl, hfinished]
      rfl
    rw [hnone] at hqueue
    simp only [SamplingLoop.waiting, hfinished, Option.bind_some, Option.map_some,
      Option.toList_some, List.append_nil] at hqueue
    rw [SharedMemory.announced, SharedMemory.announcedIndex?_filled rfl]
    simp only [SamplingLoop.waiting, hpending, hattached, Option.bind_some, Option.bind_none,
      Option.toList_some, Option.toList_none, List.append_nil]
    exact hqueue

/-- While one is unread, the waiting buffer goes on waiting. -/
theorem handOver_of_unread {handle : ProducerHandle} {summary : BufferMeta}
    (h : Recording count capacity memory
      { loop with pending := some (handle, summary) } log delivered)
    (hunread : memory.arena.pru0ToHost.isUnread = true) :
    Recording count capacity (loop.handOver memory handle summary).2
      (loop.handOver memory handle summary).1 log delivered := by
  have howner := h.owner?_pending rfl
  have hfirst : Ownership count memory (handle :: loop.current.toList) [] :=
    h.ownership.of_perm (List.perm_append_singleton _ _) (.refl _)
  have hreleased := hfirst.release summary
  have heq := SharedMemory.release_of_unread howner summary hunread
  have hmarked : (memory.marked handle summary).owner? handle.index = some .filled := by
    rw [SharedMemory.owner?_marked howner, if_pos rfl]
  have hother : ∀ index, memory.announcedIndex? = some index → index ≠ handle.index := by
    rintro index hannounced rfl
    rw [h.announced_filled _ hannounced] at howner
    cases howner
  rw [heq] at hreleased
  simp only [SamplingLoop.handOver, heq]
  constructor
  case ownership => exact hreleased.of_perm (List.perm_append_singleton _ _).symm (.refl _)
  case capacity_eq =>
    intro index buffer hbuffer
    simp only [BufferPool.buffer?_setOwner] at hbuffer
    exact h.capacity_marked handle summary hbuffer
  case announced_filled =>
    intro index hannounced
    have hfilled := h.announced_filled index hannounced
    simp only
    rw [BufferPool.owner?_setOwner hmarked, if_neg (hother index hannounced),
      SharedMemory.owner?_marked howner, if_neg (hother index hannounced)]
    exact hfilled
  case filling =>
    intro current hcurrent
    obtain ⟨period, hlasting, hsummary, hholds⟩ := h.filling current hcurrent
    refine ⟨period, hlasting, hsummary, ?_⟩
    intro buffer hbuffer
    apply hholds buffer
    simp only [BufferPool.buffer?_setOwner] at hbuffer
    rwa [SharedMemory.buffer?_marked, if_neg (h.current_ne_pending hcurrent rfl)] at hbuffer
  case queue =>
    refine queue_congr h.queue rfl rfl ?_ ?_
    · intro index hannounced
      simp only [BufferPool.buffer?_setOwner, SharedMemory.buffer?_marked,
        if_neg (hother index hannounced)]
    · intro waiting more hwaits
      obtain ⟨rfl, rfl⟩ := Prod.mk.inj (Option.some.inj hwaits)
      -- attaching a summary twice is attaching it once
      simp only [BufferPool.buffer?_setOwner, SharedMemory.buffer?_marked, if_true, Option.map_map]
      rfl

theorem handOver {handle : ProducerHandle} {summary : BufferMeta}
    (h : Recording count capacity memory
      { loop with pending := some (handle, summary) } log delivered)
    (hpending : loop.pending = none) :
    Recording count capacity (loop.handOver memory handle summary).2
      (loop.handOver memory handle summary).1 log delivered := by
  cases hread : memory.arena.pru0ToHost.isUnread with
  | false => exact h.handOver_of_read hpending hread
  | true => exact h.handOver_of_unread hread

theorem retryPending (h : Recording count capacity memory loop log delivered) :
    Recording count capacity (loop.retryPending memory).2 (loop.retryPending memory).1 log
      delivered := by
  rw [SamplingLoop.retryPending]
  split
  · rename_i handle summary hpending
    exact handOver (h.of_loop rfl hpending.symm rfl) rfl
  · exact h

/-! ## Swaps -/

/-- A swap ends the period that lasts, whether its buffer is handed over, used again or missing. -/
theorem handleSwap (h : Recording count capacity memory loop log delivered)
    (timestamp : UInt64) :
    Recording count capacity (loop.handleSwap memory timestamp).2
      (loop.handleSwap memory timestamp).1 (log.note (.swap timestamp)) delivered := by
  have hedges : ∀ (memory : SharedMemory) index,
      (memory.swapEdges index).material = memory.material :=
    fun memory index => SharedMemory.material_of_ledger (memory.ledger_swapEdges index)
  rw [SamplingLoop.handleSwap]
  split
  · exact ((h.openPeriod timestamp).of_material (hedges memory _)).of_loop rfl rfl rfl
  · rename_i hnot
    simp only [SamplingLoop.exchangeBuffer]
    cases hcurrent : loop.current with
    | none =>
        have hacquired := (h.openPeriod timestamp).acquire hcurrent rfl rfl
        exact hacquired.of_material (hedges _ _)
    | some finished =>
        have hpending : loop.pending = none := by
          cases hpending : loop.pending with
          | none => rfl
          | some waiting => exact absurd hpending (hnot finished waiting hcurrent)
        have hacquired := (h.endPeriod hcurrent hpending timestamp).acquire rfl rfl rfl
        have hcaptured := hacquired.of_material
          (hedges memory.acquire.2 (memory.acquire.1.map (·.index)))
        exact handOver (hcaptured.of_loop rfl rfl rfl) hpending

end Recording

end HarvestTestbed
