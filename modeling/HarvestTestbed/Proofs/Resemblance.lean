import HarvestTestbed.Proofs.PortCalls

/-!
# Memories that answer alike

Two memories answer every call alike although they differ in words that are never read again before
they are written: the slots of the free ring outside of the queue, the counters of a status slot as
long as the reader is equally far behind, the timestamp of a period while no swap is pending, and
the accounts of a buffer that is reset before it is used.  Sample cells and edge logs may differ as
well, and then so may the contents that are shown, but nothing else.

The relation below is symmetric and transitive and not reflexive.  A memory is like itself if its
status counters are even and the reserved bytes of its slots are zero, which no operation changes.
-/

namespace HarvestTestbed

/-- Related options are equal under maps that do not tell related values apart. -/
theorem map_eq_of_rel {α β γ : Type} {R : α → β → Prop} {f : α → γ} {g : β → γ}
    {left : Option α} {right : Option β} (hrel : Option.Rel R left right)
    (heq : ∀ a b, R a b → f a = g b) : left.map f = right.map g := by
  cases hrel with
  | none => rfl
  | some h => exact congrArg some (heq _ _ h)

theorem rel_map {α β γ δ : Type} {R : α → β → Prop} {S : γ → δ → Prop} {f : α → γ} {g : β → δ}
    {left : Option α} {right : Option β} (hrel : Option.Rel R left right)
    (hmap : ∀ a b, left = some a → R a b → S (f a) (g b)) :
    Option.Rel S (left.map f) (right.map g) := by
  cases hrel with
  | none => exact .none
  | some h => exact .some (hmap _ _ rfl h)

theorem rel_cases {α β : Type} {R : α → β → Prop} {left : Option α} {right : Option β}
    (hrel : Option.Rel R left right) :
    (left = none ∧ right = none) ∨ ∃ a b, left = some a ∧ right = some b ∧ R a b := by
  cases hrel with
  | none => exact .inl ⟨rfl, rfl⟩
  | some h => exact .inr ⟨_, _, rfl, rfl, h⟩

theorem rel_mono {α β : Type} {R S : α → β → Prop} {left : Option α} {right : Option β}
    (hrel : Option.Rel R left right) (himp : ∀ a b, R a b → S a b) :
    Option.Rel S left right := by
  cases hrel with
  | none => exact .none
  | some h => exact .some (himp _ _ h)

/-! ## Slots and status slots -/

/-- Two slots hold the same, with the reserved byte zero. -/
structure Slot.Alike {words : ℕ} (left right : Slot words) : Prop where
  eq : left = right
  reserved : left.reserved = 0

/-- Two status slots hold the same event, and their readers are equally far behind. -/
structure StatusSlot.Alike (left right : StatusSlot) : Prop where
  slot : left.slot.Alike right.slot
  left_even : left.seq % 2 = 0
  right_even : right.seq % 2 = 0
  behind : left.seq - left.delivered = right.seq - right.delivered

theorem Slot.Alike.clear {words : ℕ} {left right : Slot words} (h : left.Alike right) :
    left.clear.Alike right.clear :=
  ⟨congrArg Slot.clear h.eq, h.reserved⟩

namespace StatusSlot.Alike

variable {left right : StatusSlot}

theorem isPending (h : left.Alike right) : left.isPending = right.isPending := by
  have hbehind := h.behind
  have hiff : left.seq = left.delivered ↔ right.seq = right.delivered := by grind
  have hbne : (left.seq != left.delivered) = (right.seq != right.delivered) := by
    rw [Bool.eq_iff_iff, bne_iff_ne, bne_iff_ne]
    exact not_congr hiff
  simp only [StatusSlot.isPending, h.left_even, h.right_even, hbne]

theorem overwrite (h : left.Alike right) (origin : Origin) (code : StatusCode)
    (first second : UInt32) :
    (left.overwrite origin code first second).Alike
      (right.overwrite origin code first second) := by
  obtain ⟨hslot, hleft, hright, hbehind⟩ := h
  constructor
  case slot => exact ⟨by simp only [StatusSlot.overwrite, hslot.eq], hslot.reserved⟩
  all_goals
    simp only [StatusSlot.overwrite]
    grind

theorem report (h : left.Alike right) (origin : Origin) (code : StatusCode)
    (first second : UInt32) :
    (left.report origin code first second).1 = (right.report origin code first second).1 ∧
      (left.report origin code first second).2.Alike
        (right.report origin code first second).2 := by
  have hholds : left.holds origin code first second = right.holds origin code first second := by
    simp only [StatusSlot.holds, h.slot.eq]
  simp only [StatusSlot.report, hholds]
  split
  · exact ⟨rfl, h⟩
  · exact ⟨rfl, h.overwrite origin code first second⟩

theorem poll (h : left.Alike right) (expected : Origin) :
    (left.poll expected).1 = (right.poll expected).1 ∧
      (left.poll expected).2.Alike (right.poll expected).2 := by
  have hevent : left.event expected = right.event expected := by
    simp only [event, event.corrupted, h.slot.eq]
  simp only [StatusSlot.poll, h.isPending, hevent]
  split
  · refine ⟨rfl, ⟨⟨?_, h.slot.reserved⟩, h.left_even, h.right_even, ?_⟩⟩
    · simp only [h.slot.eq]
    · grind
  · exact ⟨rfl, h⟩

theorem clear (h : left.Alike right) : left.clear.Alike right.clear where
  slot := h.slot.clear
  left_even := h.left_even
  right_even := h.right_even
  behind := by
    simp only [StatusSlot.clear]
    grind

end StatusSlot.Alike

/-! ## Channels -/

structure Sending.Alike {words : ℕ} (left right : Sending words) : Prop where
  accepted : left.accepted = right.accepted
  slot : left.slot.Alike right.slot
  status : left.status.Alike right.status

structure Receiving.Alike {words : ℕ} {α : Type} (left right : Receiving words α) : Prop where
  answer : left.answer = right.answer
  slot : left.slot.Alike right.slot
  status : left.status.Alike right.status

namespace Channel

variable {words : ℕ} {left right : Slot words} {leftStatus rightStatus : StatusSlot}

theorem alike_write? (h : left.Alike right) (packet : Packet words) :
    Option.Rel Slot.Alike (left.write? packet) (right.write? packet) := by
  obtain ⟨rfl, hreserved⟩ := h
  simp only [Slot.write?]
  split
  · exact .none
  · exact .some ⟨rfl, hreserved⟩

theorem alike_sendPacket (hslot : left.Alike right) (hstatus : leftStatus.Alike rightStatus)
    (origin : Origin) (packet : Packet words) (type : MessageType) (first : UInt32) :
    (sendPacket origin left leftStatus packet type first).Alike
      (sendPacket origin right rightStatus packet type first) := by
  have hwritten := alike_write? hslot packet
  simp only [sendPacket]
  generalize left.write? packet = written, right.write? packet = rewritten at hwritten
  cases hwritten with
  | some hslot => exact ⟨rfl, hslot, hstatus⟩
  | none => exact ⟨rfl, hslot, (hstatus.report origin .backpressure type.toWord first).2⟩

theorem alike_trySendPacket {α : Type} (h : left.Alike right) (packet : Packet words)
    (message : α) :
    (trySendPacket left packet message).1 = (trySendPacket right packet message).1 ∧
      (trySendPacket left packet message).2.Alike (trySendPacket right packet message).2 := by
  have hwritten := alike_write? h packet
  simp only [trySendPacket]
  generalize left.write? packet = written, right.write? packet = rewritten at hwritten
  cases hwritten with
  | some hslot => exact ⟨rfl, hslot⟩
  | none => exact ⟨rfl, h⟩

theorem reserved_tryTake (expected : Origin) (slot : Slot words) :
    (tryTake expected slot).2.reserved = slot.reserved := by
  simp only [tryTake, Slot.take?]
  cases slot.isUnread with
  | false => rfl
  | true =>
      simp only [if_true]
      split
      · split <;> rfl
      · rfl

theorem alike_tryTake (h : left.Alike right) (expected : Origin) :
    (tryTake expected left).1 = (tryTake expected right).1 ∧
      (tryTake expected left).2.Alike (tryTake expected right).2 := by
  obtain ⟨rfl, hreserved⟩ := h
  exact ⟨rfl, rfl, (reserved_tryTake expected left).trans hreserved⟩

theorem alike_reportFault (h : leftStatus.Alike rightStatus) (reader expected : Origin)
    (fault : ReceiveFault) :
    (reportFault reader expected leftStatus fault).Alike
      (reportFault reader expected rightStatus fault) := by
  cases fault with
  | empty => exact h
  | corrupted tag => exact (h.report _ _ _ _).2
  | invalidType type => exact (h.report _ _ _ _).2

/-- A failure that both report is reported alike. -/
theorem alike_settle {α : Type} {taken retaken : Except ReceiveFault α × Slot words}
    (hstatus : leftStatus.Alike rightStatus) (hanswer : taken.1 = retaken.1)
    (hslot : taken.2.Alike retaken.2) (reader expected : Origin) :
    (settle reader expected leftStatus taken).Alike
      (settle reader expected rightStatus retaken) := by
  obtain ⟨result, slot⟩ := taken
  obtain ⟨result', slot'⟩ := retaken
  obtain rfl : result = result' := hanswer
  cases result with
  | ok answer => exact ⟨rfl, hslot, hstatus⟩
  | error fault => exact ⟨rfl, hslot, alike_reportFault hstatus reader expected fault⟩

theorem alike_tryReceive {left right : Slot 2} (h : left.Alike right) (expected : Origin) :
    (tryReceive expected left).1 = (tryReceive expected right).1 ∧
      (tryReceive expected left).2.Alike (tryReceive expected right).2 := by
  obtain ⟨hresult, hslot⟩ := alike_tryTake h expected
  exact ⟨by simp only [tryReceive, hresult], hslot⟩

theorem alike_tryReceiveReply {left right : Slot 5} (h : left.Alike right) (expected : Origin) :
    (tryReceiveReply expected left).1 = (tryReceiveReply expected right).1 ∧
      (tryReceiveReply expected left).2.Alike (tryReceiveReply expected right).2 := by
  obtain ⟨hresult, hslot⟩ := alike_tryTake h expected
  exact ⟨by simp only [tryReceiveReply, hresult], hslot⟩

theorem alike_receive {left right : Slot 2} (hslot : left.Alike right)
    (hstatus : leftStatus.Alike rightStatus) (reader expected : Origin) :
    (receive reader expected left leftStatus).Alike
      (receive reader expected right rightStatus) :=
  have htaken := alike_tryReceive hslot expected
  alike_settle hstatus htaken.1 htaken.2 reader expected

theorem alike_receiveReply {left right : Slot 5} (hslot : left.Alike right)
    (hstatus : leftStatus.Alike rightStatus) (reader expected : Origin) :
    (receiveReply reader expected left leftStatus).Alike
      (receiveReply reader expected right rightStatus) :=
  have htaken := alike_tryReceiveReply hslot expected
  alike_settle hstatus htaken.1 htaken.2 reader expected

end Channel

/-! ## The free ring -/

namespace FreeRing

variable {left right : FreeRing}

/-- Rings with the same queue hand out the same index. -/
theorem rel_pop? (hqueued : left.toList = right.toList) :
    Option.Rel (fun popped other => popped.1 = other.1 ∧ popped.2.toList = other.2.toList)
      left.pop? right.pop? := by
  cases hleft : left.pop? with
  | none =>
      rw [pop?_eq_none_iff, hqueued, ← pop?_eq_none_iff] at hleft
      rw [hleft]
      exact .none
  | some popped =>
      obtain ⟨index, ring⟩ := popped
      have hlist := toList_of_pop? hleft
      cases hright : right.pop? with
      | none =>
          rw [pop?_eq_none_iff, ← hqueued, hlist] at hright
          cases hright
      | some popped' =>
          obtain ⟨index', ring'⟩ := popped'
          rw [hqueued, toList_of_pop? hright, List.cons.injEq] at hlist
          exact .some ⟨hlist.1.symm, hlist.2.symm⟩

theorem length_congr (hqueued : left.toList = right.toList) : left.length = right.length := by
  rw [← length_toList, hqueued, length_toList]

/-- Rings with the same queue have room for the same index. -/
theorem rel_push? (hqueued : left.toList = right.toList) (index : UInt32) :
    Option.Rel (fun ring other => ring.toList = other.toList)
      (left.push? index) (right.push? index) := by
  cases hleft : left.push? index with
  | none =>
      rw [push?_eq_none_iff, length_congr hqueued, ← push?_eq_none_iff right index] at hleft
      rw [hleft]
      exact .none
  | some ring =>
      have hlist := toList_of_push? hleft
      cases hright : right.push? index with
      | none =>
          rw [push?_eq_none_iff, ← length_congr hqueued, ← push?_eq_none_iff left index,
            hleft] at hright
          cases hright
      | some ring' => exact .some (by rw [hlist, hqueued, toList_of_push? hright])

end FreeRing

/-! ## Buffers -/

/-- A buffer without what was sampled into it. -/
def SampleBuffer.withoutCells (buffer : SampleBuffer) : SampleBuffer :=
  { buffer with cells := #[] }

/-- Whether the accounts of a buffer may be read before the buffer is reset. -/
def BufferOwner.keepsAccounts : BufferOwner → Bool
  | .producer | .filled | .consumer => true
  | .freeRing | .detached => false

/-- Two buffers of a given capacity differ at most in accounts that nobody will read, and in cells
and edge logs unless these are to agree. -/
structure PoolEntry.Alike (capacity : ℕ) (cells edges : Prop) (left right : PoolEntry) :
    Prop where
  owner : left.owner = right.owner
  left_capacity : left.buffer.capacity = capacity
  right_capacity : right.buffer.capacity = capacity
  accounts : left.owner.keepsAccounts = true →
    left.buffer.withoutCells = right.buffer.withoutCells
  cells : cells → left.buffer.cells = right.buffer.cells
  edges : edges → left.edges = right.edges

/-- Whether edges are captured into the buffer at a position. -/
def EdgeTarget.PointsAt (target : EdgeTarget) (position : ℕ) : Prop :=
  target.active = true ∧ target.index.toNat = position

/-- Two pools agree buffer by buffer.  The log into which edges are captured agrees in any case. -/
def BufferPool.Alike (capacity : ℕ) (exact : Prop) (target : EdgeTarget)
    (left right : BufferPool) : Prop :=
  ∀ position : ℕ, Option.Rel (PoolEntry.Alike capacity exact (exact ∨ target.PointsAt position))
    left.entries[position]? right.entries[position]?

namespace PoolEntry.Alike

variable {capacity : ℕ} {cells edges : Prop} {left right : PoolEntry}

theorem mono {edges' : Prop} (hedges : edges' → edges) (h : left.Alike capacity cells edges right) :
    left.Alike capacity cells edges' right :=
  { h with edges := fun hagree => h.edges (hedges hagree) }

theorem setOwner (h : left.Alike capacity cells edges right) {target : BufferOwner}
    (hkept : target.keepsAccounts = true → left.owner.keepsAccounts = true) :
    PoolEntry.Alike capacity cells edges { left with owner := target }
      { right with owner := target } :=
  { h with owner := rfl, accounts := fun hkeeps => h.accounts (hkept hkeeps) }

/-- A buffer that is reset shows nothing of its former accounts. -/
theorem reset (h : left.Alike capacity cells edges right) (owner : BufferOwner) :
    PoolEntry.Alike capacity cells edges { left with owner := owner, buffer := left.buffer.reset }
      { right with owner := owner, buffer := right.buffer.reset } where
  owner := rfl
  left_capacity := h.left_capacity
  right_capacity := h.right_capacity
  accounts _ := by simp only [SampleBuffer.reset, SampleBuffer.withoutCells, h.left_capacity,
    h.right_capacity]
  cells := h.cells
  edges := h.edges

/-- A summary replaces the accounts that may have differed. -/
theorem finish (h : left.Alike capacity cells edges right) (summary : BufferMeta) :
    PoolEntry.Alike capacity cells edges { left with buffer := left.buffer.finish summary }
      { right with buffer := right.buffer.finish summary } where
  owner := h.owner
  left_capacity := h.left_capacity
  right_capacity := h.right_capacity
  accounts _ := by simp only [SampleBuffer.finish, SampleBuffer.withoutCells, h.left_capacity,
    h.right_capacity]
  cells := h.cells
  edges := h.edges

theorem put (h : left.Alike capacity cells edges right) (index : ℕ) (sample : IvSample) :
    PoolEntry.Alike capacity cells edges { left with buffer := (left.buffer.put index sample).2 }
      { right with buffer := (right.buffer.put index sample).2 } := by
  have hcapacity := h.left_capacity.trans h.right_capacity.symm
  by_cases hroom : index < left.buffer.capacity
  · have hroom' : index < right.buffer.capacity := hcapacity ▸ hroom
    simp only [SampleBuffer.put, if_pos hroom, if_pos hroom']
    refine
      { owner := h.owner
        left_capacity := h.left_capacity
        right_capacity := h.right_capacity
        accounts := fun hkeeps => ?_
        cells := fun hagree => ?_
        edges := h.edges }
    · have haccounts := h.accounts hkeeps
      simp only [SampleBuffer.withoutCells, SampleBuffer.mk.injEq] at haccounts ⊢
      simp [haccounts]
    · simp only [h.cells hagree]
  · have hroom' : ¬ index < right.buffer.capacity := hcapacity ▸ hroom
    simpa only [SampleBuffer.put, if_neg hroom, if_neg hroom'] using h

theorem clearEdges (h : left.Alike capacity cells edges right) (edges' : Prop) :
    PoolEntry.Alike capacity cells edges' { left with edges := {} } { right with edges := {} } :=
  { h with edges := fun _ => rfl }

theorem pushEdge (h : left.Alike capacity cells edges right) (event : EdgeEvent) :
    PoolEntry.Alike capacity cells edges { left with edges := (left.edges.push event).2 }
      { right with edges := (right.edges.push event).2 } :=
  { h with edges := fun hagree => by rw [h.edges hagree] }

/-- Reclaiming keeps buffers alike; the ring keeps no accounts. -/
theorem free (h : left.Alike capacity cells edges right) :
    PoolEntry.Alike capacity cells edges (BufferPool.reclaim.free left)
      (BufferPool.reclaim.free right) := by
  have howner := h.owner
  simp only [BufferPool.reclaim.free, ← howner]
  split
  · exact { h with owner := rfl, accounts := fun hkeeps => absurd hkeeps Bool.false_ne_true }
  · exact { h with owner := rfl, accounts := fun hkeeps => absurd hkeeps Bool.false_ne_true }
  · exact h

/-- Buffers whose accounts are kept are read alike. -/
theorem reading (h : left.Alike capacity cells edges right)
    (hkeeps : left.owner.keepsAccounts = true) :
    { left.buffer.reading with samples := #[] } = { right.buffer.reading with samples := #[] } ∧
      (cells → left.buffer.reading = right.buffer.reading) := by
  have haccounts := h.accounts hkeeps
  have hcells := h.cells
  generalize left.buffer = buffer, right.buffer = buffer' at haccounts hcells
  obtain ⟨timestamp, length, capacity, cells, util, power⟩ := buffer
  obtain ⟨timestamp', length', capacity', cells', util', power'⟩ := buffer'
  simp only [SampleBuffer.withoutCells, SampleBuffer.mk.injEq, true_and] at haccounts
  obtain ⟨rfl, rfl, rfl, rfl, rfl⟩ := haccounts
  exact ⟨rfl, fun hagree => by rw [show cells = cells' from hcells hagree]⟩

end PoolEntry.Alike

namespace BufferPool.Alike

variable {capacity : ℕ} {exact : Prop} {target : EdgeTarget} {left right : BufferPool}

theorem entry? (h : left.Alike capacity exact target right) (index : UInt32) :
    Option.Rel (PoolEntry.Alike capacity exact (exact ∨ target.PointsAt index.toNat))
      (left.entry? index) (right.entry? index) :=
  h index.toNat

/-- Where capture stops or stays, the logs that have to agree become no more. -/
theorem retarget (h : left.Alike capacity exact target right) {next : EdgeTarget}
    (hnext : ∀ position, next.PointsAt position → target.PointsAt position) :
    left.Alike capacity exact next right := by
  intro position
  exact rel_mono (h position) fun _ _ hentry => hentry.mono (Or.imp_right (hnext position))

/-- The same change of one buffer on both sides. -/
theorem modify (h : left.Alike capacity exact target right) (index : UInt32)
    {change : PoolEntry → PoolEntry}
    (hchange : ∀ edges entry entry', left.entry? index = some entry →
      entry.Alike capacity exact edges entry' →
        (change entry).Alike capacity exact edges (change entry')) :
    BufferPool.Alike capacity exact target (left.modify index change)
      (right.modify index change) := by
  intro position
  have hentry := h position
  simp only [BufferPool.modify, Array.getElem?_modify]
  split
  · rename_i hposition
    subst hposition
    exact rel_map hentry fun entry entry' hleft halike => hchange _ entry entry' hleft halike
  · exact hentry

theorem owner? (h : left.Alike capacity exact target right) (index : UInt32) :
    left.owner? index = right.owner? index :=
  map_eq_of_rel (h index.toNat) fun _ _ hentry => hentry.owner

theorem ownerWord (h : left.Alike capacity exact target right) (index : UInt32) :
    left.ownerWord index = right.ownerWord index := by
  simp only [BufferPool.ownerWord, h.owner? index]

theorem owners (h : left.Alike capacity exact target right) :
    left.entries.map (·.owner) = right.entries.map (·.owner) := by
  apply Array.ext_getElem?
  intro position
  rw [Array.getElem?_map, Array.getElem?_map]
  exact map_eq_of_rel (h position) fun _ _ hentry => hentry.owner

/-- Pools that are alike have equally many buffers. -/
theorem size (h : left.Alike capacity exact target right) : left.size = right.size := by
  have hsize := congrArg Array.size h.owners
  rwa [Array.size_map, Array.size_map] at hsize

theorem held (h : left.Alike capacity exact target right) : left.held = right.held := by
  have hheld : ∀ pool : BufferPool,
      pool.held = (pool.entries.map (·.owner)).countP (·.isHeld) := by
    intro pool
    rw [Array.countP_map]
    rfl
  rw [hheld, hheld, h.owners]

/-- Both hand a buffer over, or neither does. -/
theorem transition? (h : left.Alike capacity exact target right) (index : UInt32)
    {source next : BufferOwner}
    (hkept : next.keepsAccounts = true → source.keepsAccounts = true) :
    Option.Rel (BufferPool.Alike capacity exact target) (left.transition? index source next)
      (right.transition? index source next) := by
  simp only [BufferPool.transition?, ← h.owner? index]
  split
  · rename_i howner
    refine .some (h.modify index fun edges entry entry' hentry halike => halike.setOwner ?_)
    rw [BufferPool.owner?, hentry, Option.map_some, Option.some.injEq] at howner
    rwa [howner]
  · exact .none

theorem getD {other other' : Option BufferPool} (h : left.Alike capacity exact target right)
    (hother : Option.Rel (BufferPool.Alike capacity exact target) other other') :
    BufferPool.Alike capacity exact target (other.getD left) (other'.getD right) := by
  cases hother with
  | none => exact h
  | some hother => exact hother

theorem map_pair {α : Type} {other other' : Option BufferPool} (answer : α)
    (hother : Option.Rel (BufferPool.Alike capacity exact target) other other') :
    Option.Rel
      (fun taken taken' => taken.1 = taken'.1 ∧ taken.2.Alike capacity exact target taken'.2)
      (other.map fun pool => (answer, pool)) (other'.map fun pool => (answer, pool)) := by
  cases hother with
  | none => exact .none
  | some hother => exact .some ⟨rfl, hother⟩

/-- Two changes of one buffer are one change. -/
theorem modify_modify (pool : BufferPool) (index : UInt32) (first second : PoolEntry → PoolEntry) :
    (pool.modify index first).modify index second = pool.modify index (second ∘ first) := by
  simp only [BufferPool.modify, BufferPool.mk.injEq, and_true]
  apply Array.ext_getElem?
  intro position
  simp only [Array.getElem?_modify]
  split
  · rw [Option.map_map]
  · rfl

/-- A buffer that is taken for filling is empty on both sides, accounts included. -/
theorem takeForProducer (h : left.Alike capacity exact target right) (index : UInt32) :
    Option.Rel
      (fun taken taken' => taken.1 = taken'.1 ∧ taken.2.Alike capacity exact target taken'.2)
      (left.takeForProducer index) (right.takeForProducer index) := by
  have htaken : ∀ pool : BufferPool, pool.takeForProducer index =
      (if pool.owner? index = some .freeRing then
        some (pool.modify index fun entry =>
          { entry with owner := .producer, buffer := entry.buffer.reset })
      else none).map fun pool => ((⟨index⟩ : ProducerHandle), pool) := by
    intro pool
    simp only [BufferPool.takeForProducer, BufferPool.transition?]
    split
    · simp only [Option.map_some, modify_modify]
      rfl
    · rfl
  rw [htaken, htaken, ← h.owner? index]
  apply map_pair
  split
  · exact .some (h.modify index fun _ _ _ _ halike => halike.reset .producer)
  · exact .none

/-- The announced number of samples is bounded by the capacity, which both share. -/
theorem markFilled (h : left.Alike capacity exact target right) (handle : ProducerHandle)
    (summary : BufferMeta) :
    (left.markFilled handle summary).1 = (right.markFilled handle summary).1 ∧
      (left.markFilled handle summary).2.Alike capacity exact target
        (right.markFilled handle summary).2 := by
  have hfinished := h.modify handle.index fun _ _ _ _ halike => halike.finish summary
  have hcount : ∀ pool : BufferPool, (pool.markFilled handle summary).1 =
      (((pool.entry? handle.index).map (·.buffer.capacity)).map fun capacity =>
        min summary.sampleCount.toNat (capacity % UInt32.size)).getD 0 := by
    intro pool
    simp only [BufferPool.markFilled, BufferPool.entry?_modify, if_true, Option.map_map]
    rfl
  refine ⟨?_, hfinished.getD (hfinished.transition? handle.index (by decide))⟩
  rw [hcount, hcount, map_eq_of_rel (h.entry? handle.index) fun _ _ hentry =>
    hentry.left_capacity.trans hentry.right_capacity.symm]

theorem unmarkFilled (h : left.Alike capacity exact target right) (index : UInt32) :
    Option.Rel
      (fun taken taken' => taken.1 = taken'.1 ∧ taken.2.Alike capacity exact target taken'.2)
      (left.unmarkFilled index) (right.unmarkFilled index) :=
  map_pair _ (h.transition? index (by decide))

theorem claimFilled (h : left.Alike capacity exact target right) (index : UInt32) :
    Option.Rel
      (fun taken taken' => taken.1 = taken'.1 ∧ taken.2.Alike capacity exact target taken'.2)
      (left.claimFilled index) (right.claimFilled index) :=
  map_pair _ (h.transition? index (by decide))

theorem put (h : left.Alike capacity exact target right) (handle : ProducerHandle) (index : ℕ)
    (sample : IvSample) :
    (left.put handle index sample).1 = (right.put handle index sample).1 ∧
      (left.put handle index sample).2.Alike capacity exact target
        (right.put handle index sample).2 := by
  refine ⟨?_, h.modify handle.index fun _ _ _ _ halike => halike.put index sample⟩
  have hentry := h.entry? handle.index
  simp only [BufferPool.put]
  generalize left.entry? handle.index = entry, right.entry? handle.index = entry' at hentry
  cases hentry with
  | none => rfl
  | some hentry => simp only [hentry.left_capacity, hentry.right_capacity]

/-- Both pools count the same live handles. -/
theorem reclaim (h : left.Alike capacity exact target right) :
    (∃ fault, left.reclaim = .error fault ∧ right.reclaim = .error fault) ∨
      ∃ pool pool', left.reclaim = .ok pool ∧ right.reclaim = .ok pool' ∧
        pool.Alike capacity exact target pool' := by
  simp only [BufferPool.reclaim, ← h.held]
  split
  · exact .inl ⟨_, rfl, rfl⟩
  · refine .inr ⟨_, _, rfl, rfl, fun position => ?_⟩
    rw [Array.getElem?_map, Array.getElem?_map]
    exact rel_map (h position) fun _ _ _ hentry => hentry.free

/-! ### Edges -/

/-- A log that becomes the target is emptied, so that it agrees from then on. -/
theorem swap (h : left.Alike capacity exact target right) (next : Option UInt32) :
    (EdgeTarget.swap left next).1 = (EdgeTarget.swap right next).1 ∧
      (EdgeTarget.swap left next).2.Alike capacity exact (EdgeTarget.swap left next).1
        (EdgeTarget.swap right next).2 := by
  have hidle : left.Alike capacity exact {} right := h.retarget fun _ hpoints => nomatch hpoints.1
  cases next with
  | none => exact ⟨rfl, hidle⟩
  | some index =>
      simp only [EdgeTarget.swap, ← h.size]
      split
      · refine ⟨rfl, fun position => ?_⟩
        have hentry := h position
        simp only [BufferPool.modify, Array.getElem?_modify]
        split
        · exact rel_map hentry fun _ _ _ halike => halike.clearEdges _
        · rename_i hother
          exact rel_mono hentry fun _ _ halike =>
            halike.mono (Or.imp_right fun hpoints => absurd hpoints.2 hother)
      · exact ⟨rfl, hidle⟩

theorem detach (h : left.Alike capacity exact target right) (index : UInt32) :
    left.Alike capacity exact (target.detach index) right := by
  apply h.retarget
  intro position hpoints
  simp only [EdgeTarget.detach] at hpoints
  split at hpoints
  · exact nomatch hpoints.1
  · exact hpoints

/-- The log into which edges are captured agrees, so it is full on both sides or on none. -/
theorem record (h : left.Alike capacity exact target right) (event : EdgeEvent) :
    (target.record left event).1 = (target.record right event).1 ∧
      (target.record left event).2.Alike capacity exact target (target.record right event).2 := by
  simp only [EdgeTarget.record]
  split
  · rename_i hactive
    have hentry := h.entry? target.index
    generalize hleft : left.entry? target.index = entry,
      right.entry? target.index = entry' at hentry
    cases hentry with
    | none => exact ⟨rfl, h⟩
    | some hentry =>
        refine ⟨?_, h.modify target.index fun _ _ _ _ halike => halike.pushEdge event⟩
        simp only [hentry.edges (.inr ⟨hactive, rfl⟩)]
  · exact ⟨rfl, h⟩

end BufferPool.Alike

end HarvestTestbed
