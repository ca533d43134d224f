import HarvestTestbed.Proofs.ResemblanceSteps

/-!
# A finished reset restores the arena

A reset does not write the arena anew.  It leaves the status counters where they are, the slots of
the free ring as they were last written, the timestamp of the last period, and in every buffer the
samples and the edges of its last use.  None of this shows: after a reset that was finished,
whatever the ports did before, they answer every further sequence of calls as those of an arena that
was just split, with the mode selected and the restart of the host reported.
-/

namespace HarvestTestbed

section Calls

variable {count capacity : ℕ} {exact : Prop}

theorem SharedMemory.Agree.answered {α : Type} {left right : α × SharedMemory}
    (h : SharedMemory.Agree capacity exact left right) (answer : α → PortAnswer) :
    answer left.1 = answer right.1 ∧ left.2.Alike capacity exact right.2 :=
  ⟨congrArg answer h.result, h.memory⟩

/-- Memories that are alike answer every operation without handles alike. -/
theorem SharedMemory.Alike.apply {left right : SharedMemory} (h : left.Alike capacity exact right)
    (hsize : left.pool.size ≤ ringCapacity) (op : ArenaOp) :
    op.answer left = op.answer right ∧ (op.apply left).Alike capacity exact (op.apply right) := by
  cases op with
  | samplingSend type first second => exact (h.samplingSend type first second).answered .flag
  | samplingReceive => exact h.samplingReceive.answered .received
  | pumpSend type first second => exact (h.pumpSend type first second).answered .flag
  | pumpReceive => exact h.pumpReceive.answered .received
  | timingSend type first second => exact (h.timingSend type first second).answered .flag
  | timingTrySend type first second => exact (h.timingTrySend type first second).answered .flag
  | syncReceive => exact h.syncReceive.answered .received
  | syncTryReceive => exact h.syncTryReceive.answered .tried
  | sendReply reply => exact (h.sendReply reply).answered .flag
  | trySendReply reply => exact (h.trySendReply reply).answered .flag
  | receiveReply => exact h.receiveReply.answered .replied
  | tryReceiveReply => exact h.tryReceiveReply.answered .triedReply
  | pollStatus => exact h.pollStatus.answered .events
  | notify origin code first second => exact (h.report origin code first second).answered .flag
  | raiseSyncTrigger => exact ⟨rfl, h.raiseSyncTrigger⟩
  | takeSyncTrigger => exact h.takeSyncTrigger.answered .flag
  | raiseBufferSwap timestamp => exact ⟨rfl, h.raiseBufferSwap timestamp⟩
  | takeSwapTrigger => exact h.takeSwapTrigger.answered .timestamp
  | raiseSample => exact ⟨rfl, h.raiseSample⟩
  | takeSampleTrigger => exact h.takeSampleTrigger.answered .flag
  | swapEdges index => exact ⟨rfl, h.swapEdges index⟩
  | recordEdge event => exact (h.recordEdge event).answered .flag
  | samplingAcknowledge => exact ⟨rfl, h.samplingAcknowledge⟩
  | timingAcknowledge => exact ⟨rfl, h.timingAcknowledge⟩
  | setState next => exact (h.setState next).answered .outcome
  | setMode mode => exact (h.setMode mode).answered .outcome
  | requestReset => exact (h.setState .reset).answered .outcome
  | completeReset => exact (h.completeReset hsize).answered .outcome

namespace Custody

/-- Two memories that answer alike, with the same live handles. -/
structure Alike (capacity : ℕ) (exact : Prop) (left right : Custody) : Prop where
  memory : left.memory.Alike capacity exact right.memory
  producers : left.producers = right.producers
  consumers : left.consumers = right.consumers

variable {left right : Custody}

/-- Step lemma: equal answers and memories that stay alike. -/
theorem Alike.step (h : left.Alike capacity exact right)
    (hsize : left.memory.pool.size ≤ ringCapacity) (op : PortOp) :
    left.answer op = right.answer op ∧ (left.step op).Alike capacity exact (right.step op) := by
  obtain ⟨memory, producers, consumers⟩ := left
  obtain ⟨memory', producers', consumers'⟩ := right
  obtain rfl : producers = producers' := h.producers
  obtain rfl : consumers = consumers' := h.consumers
  have hmemory : memory.Alike capacity exact memory' := h.memory
  cases op with
  | acquire =>
      have hacquired := hmemory.acquire
      refine ⟨congrArg PortAnswer.producer hacquired.result, hacquired.memory, ?_, rfl⟩
      simp only [Custody.step, hacquired.result]
  | claim index =>
      have hclaimed := hmemory.claim index
      refine ⟨congrArg PortAnswer.consumer hclaimed.result, hclaimed.memory, rfl, ?_⟩
      simp only [Custody.step, hclaimed.result]
  | arena op =>
      obtain ⟨hanswer, happlied⟩ := hmemory.apply hsize op
      exact ⟨hanswer, happlied, rfl, rfl⟩
  | put position index sample =>
      simp only [answer, Custody.step]
      cases producers[position]? with
      | none => exact ⟨rfl, h⟩
      | some handle =>
          have hstored := hmemory.put handle index sample
          exact ⟨congrArg PortAnswer.flag hstored.result, hstored.memory, rfl, rfl⟩
  | release position summary =>
      simp only [answer, Custody.step]
      cases producers[position]? with
      | none => exact ⟨rfl, h⟩
      | some handle =>
          have hreleased := hmemory.release handle summary
          refine ⟨congrArg PortAnswer.producer hreleased.result, hreleased.memory, ?_, rfl⟩
          simp only [hreleased.result]
  | dropHandle position =>
      refine ⟨rfl, ?_⟩
      simp only [Custody.step]
      cases producers[position]? with
      | none => exact h
      | some handle => exact ⟨hmemory.dropHandle handle, rfl, rfl⟩
  | recycle position =>
      simp only [answer, Custody.step]
      cases consumers[position]? with
      | none => exact ⟨rfl, h⟩
      | some handle =>
          have hrecycled := hmemory.recycle handle
          exact ⟨congrArg PortAnswer.flag hrecycled.result, hrecycled.memory, rfl, rfl⟩
  | dropFilled position =>
      refine ⟨rfl, ?_⟩
      simp only [Custody.step]
      cases consumers[position]? with
      | none => exact h
      | some handle => exact ⟨hmemory.dropFilled handle, rfl, rfl⟩

/-- What is seen through a handle agrees as far as the resemblance goes. -/
theorem Alike.look_handles (h : left.Alike capacity exact right) {index : UInt32}
    {owner : BufferOwner} (howner : left.memory.pool.owner? index = some owner)
    (hkeeps : owner.keepsAccounts = true) :
    ∃ entry entry', left.memory.pool.entry? index = some entry ∧
      right.memory.pool.entry? index = some entry' ∧
      { entry.buffer.reading with samples := #[] } =
        { entry'.buffer.reading with samples := #[] } ∧
      (exact → entry.buffer.reading = entry'.buffer.reading ∧ entry.edges = entry'.edges) := by
  obtain ⟨hleft, -⟩ | ⟨entry, entry', hleft, hright, hentry⟩ :=
    rel_cases (h.memory.pool.entry? index)
  · simp [BufferPool.owner?, hleft] at howner
  · rw [BufferPool.owner?, hleft, Option.map_some, Option.some.injEq] at howner
    obtain ⟨hreading, hexact⟩ := hentry.reading (howner ▸ hkeeps)
    exact ⟨entry, entry', hleft, hright, hreading,
      fun hagree => ⟨hexact hagree, hentry.edges (.inl hagree)⟩⟩

/-- A look shows the same, apart from data that only exact memories share. -/
theorem Alike.look (h : left.Alike capacity exact right)
    (hownership : Ownership count left.memory left.producers left.consumers)
    (query : PortQuery) :
    (left.look query).withoutData = (right.look query).withoutData ∧
      (exact → left.look query = right.look query) := by
  have hsame : ∀ {answer answer' : PortAnswer}, answer = answer' →
      answer.withoutData = answer'.withoutData ∧ (exact → answer = answer') :=
    fun heq => ⟨congrArg PortAnswer.withoutData heq, fun _ => heq⟩
  have harena := h.memory.arena
  have hlength := FreeRing.length_congr harena.queued
  cases query with
  | state => exact hsame (congrArg PortAnswer.state harena.state)
  | mode => exact hsame (congrArg PortAnswer.mode harena.mode)
  | resetAcknowledged => exact hsame (congrArg PortAnswer.flag h.memory.resetAcknowledged)
  | swapPending | samplePending | triggersPending =>
      apply hsame
      simp only [Custody.look, SharedMemory.swapPending, SharedMemory.samplePending,
        SharedMemory.triggersPending, harena.bufferSwapTrigger, harena.sampleTrigger]
  | timingPending | replyPending =>
      apply hsame
      simp only [Custody.look, SharedMemory.timingPending, SharedMemory.replyPending,
        harena.pru1ToHost.eq, harena.hostToPru1.eq]
  | ringLength | ringEmpty | ringFull =>
      apply hsame
      simp only [Custody.look, FreeRing.isEmpty, FreeRing.isFull, hlength]
  | ringContains index =>
      have hroom : left.memory.arena.freeRing.length ≤ ringCapacity := by
        have htotal := hownership.length_add
        have hle := hownership.count_le
        omega
      apply hsame
      simp only [Custody.look, FreeRing.contains_eq hroom, FreeRing.contains_eq (hlength ▸ hroom),
        harena.queued]
  | poolSize => exact hsame (congrArg PortAnswer.number h.memory.pool.size)
  | held => exact hsame (congrArg PortAnswer.number h.memory.pool.held)
  | owner index => exact hsame (congrArg PortAnswer.owner (h.memory.pool.owner? index))
  | producer position =>
      simp only [Custody.look, ← h.producers]
      cases hhandle : left.producers[position]? with
      | none => exact hsame rfl
      | some handle =>
          obtain ⟨entry, entry', hleft, hright, hreading, hexact⟩ := h.look_handles
            (hownership.owner?_producer (List.mem_of_getElem? hhandle)) rfl
          simp only [BufferPool.bufferOf, hleft, hright, Option.map_some, Option.getD_some,
            PortAnswer.withoutData, hreading, true_and]
          exact fun hagree => by rw [(hexact hagree).1]
  | consumer position =>
      simp only [Custody.look, ← h.consumers]
      cases hhandle : left.consumers[position]? with
      | none => exact hsame rfl
      | some handle =>
          obtain ⟨entry, entry', hleft, hright, hreading, hexact⟩ := h.look_handles
            (hownership.owner?_consumer (List.mem_of_getElem? hhandle)) rfl
          simp only [BufferPool.view, hleft, hright, PortAnswer.withoutData, hreading,
            Option.map_some, true_and]
          exact fun hagree => by rw [(hexact hagree).1, (hexact hagree).2]

/-- Sequences of calls are answered alike. -/
theorem Alike.answers (h : left.Alike capacity exact right)
    (hownership : Ownership count left.memory left.producers left.consumers)
    (calls : List PortCall) :
    (left.answers calls).map (·.withoutData) = (right.answers calls).map (·.withoutData) ∧
      (exact → left.answers calls = right.answers calls) := by
  induction calls generalizing left right with
  | nil => exact ⟨rfl, fun _ => rfl⟩
  | cons call calls ih =>
      cases call with
      | op op =>
          obtain ⟨hanswer, hstepped⟩ := h.step (hownership.size_eq.trans_le hownership.count_le) op
          obtain ⟨hrest, hexact⟩ := ih hstepped (ownership_step hownership op)
          simp only [Custody.answers, List.map_cons, hanswer, hrest, true_and]
          exact fun hagree => by rw [hexact hagree]
      | query query =>
          obtain ⟨hanswer, hequal⟩ := h.look hownership query
          obtain ⟨hrest, hexact⟩ := ih h hownership
          simp only [Custody.answers, List.map_cons, hanswer, hrest, true_and]
          exact fun hagree => by rw [hequal hagree, hexact hagree]

end Custody

end Calls

/-! ## Arenas that start over -/

/-- An empty buffer in which samples and edges of an earlier use were left. -/
def PoolEntry.withDataOf (entry used : PoolEntry) : PoolEntry :=
  { entry with buffer := { entry.buffer with cells := used.buffer.cells }, edges := used.edges }

/-- A pool in whose buffers the samples and the edges of another pool were left. -/
def BufferPool.withDataOf (pool used : BufferPool) : BufferPool :=
  { pool with entries := Array.zipWith PoolEntry.withDataOf pool.entries used.entries }

/-- What a finished reset leaves, for a pool of `count` buffers. -/
structure SharedMemory.Restored (count : ℕ) (memory : SharedMemory) : Prop where
  state : memory.state = .idle
  owner?_eq : ∀ index : UInt32,
    memory.pool.owner? index = if index.toNat < count then some .freeRing else none
  queued : memory.arena.freeRing.toList = (List.range count).map UInt32.ofNat
  slots_read : memory.arena.pru0ToHost.isUnread = false ∧
    memory.arena.hostToPru0.isUnread = false ∧ memory.arena.pru1ToHost.isUnread = false ∧
    memory.arena.hostToPru1.isUnread = false
  flags_low : memory.arena.pru0ResetAck.isRaised = false ∧
    memory.arena.pru1ResetAck.isRaised = false ∧ memory.arena.syncTrigger.isRaised = false ∧
    memory.arena.bufferSwapTrigger.isRaised = false ∧
    memory.arena.sampleTrigger.isRaised = false
  edges_stopped : memory.arena.edgeTarget.value.active = false
  /-- The restart is all that is reported, by the host. -/
  events : memory.pollStatus.1 = [⟨.host, .restart, 0, 0⟩]

/-- A cleared slot whose reserved byte is zero is a new one. -/
theorem Slot.clear_eq {words : ℕ} {slot : Slot words} (hreserved : slot.reserved = 0) :
    slot.clear = {} := by
  obtain ⟨tag, unread, type, reserved, payload⟩ := slot
  have hzero : reserved = 0 := hreserved
  subst hzero
  rfl

/-- A cleared status slot is like a new one, wherever its counter stands. -/
theorem StatusSlot.Alike.clear_new {status other : StatusSlot} (h : status.Alike other) :
    status.clear.Alike ({} : StatusSlot) where
  slot := ⟨Slot.clear_eq h.slot.reserved, h.slot.reserved⟩
  left_even := h.left_even
  right_even := rfl
  behind := by simp [StatusSlot.clear]

/-- The arena of a finished reset, apart from the restart that is reported. -/
def Arena.restored (arena : Arena) (pool : BufferPool) : Arena :=
  { arena.clearChannels.refillRing pool with sessionState := SessionState.idle.toWord }

/-- A new arena with a mode, likewise. -/
def Arena.startedOver (mode : Mode) (pool : BufferPool) : Arena :=
  { Arena.restored { split := .raised } pool with mode := mode.toWord }

/-- A tidy arena that is cleared is like a new one with the same mode. -/
theorem Arena.Alike.restored {arena : Arena} (h : arena.Alike arena) {pool fresh : BufferPool}
    (hsize : pool.size ≤ ringCapacity) (hsize' : fresh.size ≤ ringCapacity)
    (hindices : pool.indicesOf .freeRing = fresh.indicesOf .freeRing) :
    (arena.restored pool).Alike
      (Arena.startedOver arena.activeMode fresh) where
  state := rfl
  mode := (Mode.ofWord_toWord _).symm
  pru0ResetAck := rfl
  pru1ResetAck := rfl
  syncTrigger := rfl
  bufferSwapTrigger := rfl
  sampleTrigger := rfl
  bufferTimestamp := nofun
  pru0ToHost := ⟨Slot.clear_eq h.pru0ToHost.reserved, h.pru0ToHost.reserved⟩
  hostToPru0 := ⟨Slot.clear_eq h.hostToPru0.reserved, h.hostToPru0.reserved⟩
  pru1ToHost := ⟨Slot.clear_eq h.pru1ToHost.reserved, h.pru1ToHost.reserved⟩
  hostToPru1 := ⟨Slot.clear_eq h.hostToPru1.reserved, h.hostToPru1.reserved⟩
  status
    | .host => (h.status .host).clear_new
    | .pru0 => (h.status .pru0).clear_new
    | .pru1 => (h.status .pru1).clear_new
  queued := by
    have hring := SharedMemory.toList_refillRing hsize arena.clearChannels
    have hring' := SharedMemory.toList_refillRing hsize'
      (Arena.clearChannels { split := .raised })
    exact hring.trans (hindices.trans hring'.symm)
  edgeTarget := rfl

namespace BufferPool

variable {count capacity : ℕ} {exact : Prop}

theorem owner_free {entry : PoolEntry} (hheld : entry.owner.isHeld = false) :
    (reclaim.free entry).owner = .freeRing := by
  obtain ⟨owner, buffer, edges⟩ := entry
  cases owner with
  | freeRing | filled | detached => rfl
  | producer | consumer => cases hheld

/-- A reclaimed buffer keeps its samples and edges. -/
theorem data_free (entry : PoolEntry) :
    (reclaim.free entry).buffer = entry.buffer ∧ (reclaim.free entry).edges = entry.edges := by
  simp only [reclaim.free]
  split <;> exact ⟨rfl, rfl⟩

/-- Reclaimed buffers are like free ones of the same capacity. -/
theorem alike_reclaim {pool next other : BufferPool} {target : EdgeTarget}
    (h : pool.Alike capacity True target pool) (hreclaim : pool.reclaim = .ok next)
    (hother : ∀ position : ℕ, Option.Rel
      (fun entry entry' => entry'.owner = .freeRing ∧ entry'.buffer.capacity = capacity ∧
        (exact → entry.buffer.cells = entry'.buffer.cells ∧ entry.edges = entry'.edges))
      pool.entries[position]? other.entries[position]?) :
    next.Alike capacity exact {} other := by
  have hheld := held_eq_zero_of_reclaim hreclaim
  rw [reclaim_of_held_eq_zero hheld, Except.ok.injEq] at hreclaim
  subst hreclaim
  intro position
  rw [Array.getElem?_map]
  have htidy := h position
  obtain ⟨hleft, hright⟩ | ⟨entry, entry', hleft, hright, howner, hcapacity, hdata⟩ :=
    rel_cases (hother position)
  · rw [hleft, hright]
    exact .none
  · rw [hleft] at htidy
    rw [hleft, hright]
    have hnone := Array.countP_eq_zero.mp hheld entry (Array.mem_of_getElem? hleft)
    have hfreed := owner_free (Bool.eq_false_iff.mpr hnone)
    obtain ⟨hbuffer, hedges⟩ := data_free entry
    cases htidy with
    | some htidy =>
        exact .some
          { owner := hfreed.trans howner.symm
            left_capacity := (congrArg SampleBuffer.capacity hbuffer).trans htidy.left_capacity
            right_capacity := hcapacity
            accounts := fun hkeeps => by
              rw [hfreed] at hkeeps
              cases hkeeps
            cells := fun hagree => by rw [hbuffer, (hdata hagree).1]
            edges := fun hagree => by
              obtain hagree | hpoints := hagree
              · rw [hedges, (hdata hagree).2]
              · cases hpoints.1 }

/-- A new pool has free buffers of its capacity, with or without data left in them. -/
theorem rel_new {pool used : BufferPool} (hnew : new count capacity = .ok pool)
    (hsize : used.size = count) (position : ℕ) :
    Option.Rel
      (fun entry entry' => entry'.owner = .freeRing ∧ entry'.buffer.capacity = capacity ∧
        (False → entry.buffer.cells = entry'.buffer.cells ∧ entry.edges = entry'.edges))
      used.entries[position]? pool.entries[position]? := by
  rw [eq_of_new hnew, Array.getElem?_replicate]
  split
  · rename_i hlt
    rw [Array.getElem?_eq_getElem (hlt.trans_eq hsize.symm)]
    exact .some ⟨rfl, rfl, nofun⟩
  · rename_i hge
    rw [Array.getElem?_eq_none (hsize.trans_le (Nat.not_lt.mp hge))]
    exact .none

theorem rel_withDataOf {pool used : BufferPool} (hnew : new count capacity = .ok pool)
    (hsize : used.size = count) (position : ℕ) :
    Option.Rel
      (fun entry entry' => entry'.owner = .freeRing ∧ entry'.buffer.capacity = capacity ∧
        (True → entry.buffer.cells = entry'.buffer.cells ∧ entry.edges = entry'.edges))
      used.entries[position]? (pool.withDataOf used).entries[position]? := by
  rw [withDataOf, Array.getElem?_zipWith, eq_of_new hnew, Array.getElem?_replicate]
  by_cases hlt : position < count
  · rw [if_pos hlt, Array.getElem?_eq_getElem (hlt.trans_eq hsize.symm)]
    exact .some ⟨rfl, rfl, fun _ => ⟨rfl, rfl⟩⟩
  · rw [if_neg hlt, Array.getElem?_eq_none (hsize.trans_le (Nat.not_lt.mp hlt))]
    exact .none

theorem size_withDataOf {pool used : BufferPool} (hnew : new count capacity = .ok pool)
    (hsize : used.size = count) : (pool.withDataOf used).size = count := by
  rw [withDataOf, size, Array.size_zipWith]
  have hpool := size_of_new hnew
  simp only [size] at hpool hsize
  rw [hpool, hsize, Nat.min_self]

end BufferPool

namespace Custody

variable {count capacity : ℕ} {exact : Prop}

def justSplit (pool : BufferPool) : Custody where
  memory := ({ pool := pool } : SharedMemory).split.2

/-- An arena just split with a pool, with a mode selected and the restart of the host reported. -/
def startedOver (mode : Mode) (pool : BufferPool) : Custody :=
  (justSplit pool).run [.arena (.setMode mode), .arena (.notify .host .restart 0 0)]

/-- The arena that a split leaves, before and after the host starts over. -/
theorem memory_justSplit {pool : BufferPool} (hattached : pool.attached = false) :
    (justSplit pool).memory =
      { arena := Arena.restored { split := .raised } { pool with attached := true }
        pool := { pool with attached := true } } := by
  have hcanary : checkCanary canaryWord = .ok () := rfl
  simp only [justSplit, SharedMemory.split, hcanary, BufferPool.attach, hattached]
  rfl

theorem arena_startedOver {pool : BufferPool} (hattached : pool.attached = false) (mode : Mode) :
    (startedOver mode pool).memory.arena =
        (SharedMemory.notify
          { arena := .startedOver mode { pool with attached := true }
            pool := { pool with attached := true } } .host .restart 0 0).arena ∧
      (startedOver mode pool).memory.pool = { pool with attached := true } := by
  have hmemory : (startedOver mode pool).memory =
      ((justSplit pool).memory.setMode mode).2.notify .host .restart 0 0 := rfl
  rw [hmemory, memory_justSplit hattached]
  exact ⟨rfl, rfl⟩

/-- All that a memory that starts over has to report is the restart. -/
theorem events_startedOver {pool : BufferPool} (hattached : pool.attached = false) (mode : Mode) :
    (startedOver mode pool).memory.pollStatus.1 = [⟨.host, .restart, 0, 0⟩] := by
  have harena := (arena_startedOver hattached mode).1
  have hhost : (startedOver mode pool).memory.arena.hostStatus =
      (StatusSlot.report {} .host .restart 0 0).2 := by
    rw [harena]
    rfl
  have hpru0 : (startedOver mode pool).memory.arena.pru0Status = {} := by
    rw [harena]
    rfl
  have hpru1 : (startedOver mode pool).memory.arena.pru1Status = {} := by
    rw [harena]
    rfl
  simp only [SharedMemory.pollStatus, hhost, hpru0, hpru1]
  decide

/-! ## Runs -/

theorem alike_justSplit {pool : BufferPool} (hnew : BufferPool.new count capacity = .ok pool) :
    (justSplit pool).Alike capacity True (justSplit pool) := by
  rw [BufferPool.eq_of_new hnew]
  refine ⟨?_, rfl, rfl⟩
  rw [memory_justSplit rfl]
  constructor
  case arena =>
    constructor
    case status =>
      intro origin
      cases origin <;> exact ⟨⟨rfl, rfl⟩, rfl, rfl, rfl⟩
    case bufferTimestamp => exact nofun
    case pru0ToHost | hostToPru0 | pru1ToHost | hostToPru1 => exact ⟨rfl, rfl⟩
    all_goals rfl
  case pool =>
    intro position
    rw [Array.getElem?_replicate]
    split
    · exact .some ⟨rfl, rfl, rfl, fun _ => rfl, fun _ => rfl, fun _ => rfl⟩
    · exact .none

/-- Along a run a memory stays tidy. -/
theorem Alike.run {custody : Custody} (h : custody.Alike capacity exact custody)
    (hownership : Ownership count custody.memory custody.producers custody.consumers)
    (ops : List PortOp) : (custody.run ops).Alike capacity exact (custody.run ops) := by
  induction ops generalizing custody with
  | nil => exact h
  | cons op ops ih =>
      exact ih (h.step (hownership.size_eq.trans_le hownership.count_le) op).2
        (ownership_step hownership op)

theorem arena_afterReset {memory : SharedMemory} (hstate : memory.state = .reset)
    (pool : BufferPool) :
    (memory.afterReset pool).arena =
      (SharedMemory.notify { arena := memory.arena.restored pool, pool := pool }
        .host .restart 0 0).arena := by
  have hopen : (SharedMemory.notify { memory with
      arena := memory.arena.clearChannels.refillRing pool, pool := pool }
        .host .restart 0 0).state.canMoveTo .idle = true := by
    have hkept : (SharedMemory.notify { memory with
        arena := memory.arena.clearChannels.refillRing pool, pool := pool }
          .host .restart 0 0).state = memory.state := rfl
    rw [hkept, hstate]
    rfl
  simp only [SharedMemory.afterReset, SharedMemory.setState, if_pos hopen]
  rfl

/-- A finished reset leaves a memory like one that starts over. -/
theorem alike_afterReset {custody : Custody} (h : custody.Alike capacity True custody)
    (hownership : Ownership count custody.memory custody.producers custody.consumers)
    (hready : custody.memory.ReadyToComplete) {next fresh : BufferPool}
    (hreclaim : custody.memory.pool.reclaim = .ok next) (hattached : fresh.attached = false)
    (hsize : fresh.size = count)
    (hfresh : ∀ position : ℕ, Option.Rel
      (fun entry entry' => entry'.owner = .freeRing ∧ entry'.buffer.capacity = capacity ∧
        (exact → entry.buffer.cells = entry'.buffer.cells ∧ entry.edges = entry'.edges))
      custody.memory.pool.entries[position]? fresh.entries[position]?) :
    (custody.memory.afterReset next).Alike capacity exact
      (startedOver custody.memory.mode fresh).memory := by
  obtain ⟨harena, hpool⟩ := arena_startedOver hattached custody.memory.mode
  have halike : next.Alike capacity exact {} { fresh with attached := true } :=
    BufferPool.alike_reclaim h.memory.pool hreclaim hfresh
  have hnextSize : next.size = count :=
    (BufferPool.size_of_reclaim hreclaim).trans hownership.size_eq
  have hindices : next.indicesOf .freeRing =
      BufferPool.indicesOf { fresh with attached := true } .freeRing := by
    simp only [BufferPool.indicesOf, BufferPool.indices, halike.size, halike.owner?]
  have hrestored := h.memory.arena.restored (hnextSize.trans_le hownership.count_le)
    (hsize.trans_le hownership.count_le) hindices
  have hbefore : SharedMemory.Alike capacity exact
      { arena := custody.memory.arena.restored next, pool := next }
      { arena := .startedOver custody.memory.mode { fresh with attached := true }
        pool := { fresh with attached := true } } := ⟨hrestored, halike⟩
  have hnotified := hbefore.notify .host .restart 0 0
  exact
    { arena := by
        rw [arena_afterReset hready.1, harena]
        exact hnotified.arena
      pool := by
        rw [arena_afterReset hready.1, hpool, SharedMemory.pool_afterReset]
        exact hnotified.pool }

theorem restored_afterReset {memory : SharedMemory} (hready : memory.ReadyToComplete)
    (hsize : memory.pool.size = count) (hcount : count ≤ ringCapacity) {next fresh : BufferPool}
    (hreclaim : memory.pool.reclaim = .ok next) (hattached : fresh.attached = false)
    (halike : (memory.afterReset next).Alike capacity exact
      (startedOver memory.mode fresh).memory) :
    (memory.afterReset next).Restored count := by
  have harena := arena_afterReset hready.1 next
  have hnext : next.size = count := (BufferPool.size_of_reclaim hreclaim).trans hsize
  have howner : ∀ index : UInt32,
      next.owner? index = if index.toNat < count then some .freeRing else none := by
    intro index
    rw [BufferPool.owner?_of_reclaim hreclaim, hsize]
  constructor
  case state => exact halike.state.trans (by
    rw [SharedMemory.state, (arena_startedOver hattached memory.mode).1]
    rfl)
  case owner?_eq => simpa only [SharedMemory.pool_afterReset] using howner
  case queued =>
    have hall : next.indices.filter (fun index => next.owner? index = some .freeRing) =
        next.indices := by
      apply List.filter_eq_self.mpr
      intro index hindex
      have hlt := (BufferPool.mem_indices (by
        rw [hnext]
        simp only [ringCapacity, UInt32.size] at hcount ⊢
        omega)).mp hindex
      rw [howner, if_pos (hlt.trans_eq hnext), decide_eq_true rfl]
    rw [SharedMemory.freeRing_afterReset, SharedMemory.toList_refillRing (hnext.trans_le hcount),
      BufferPool.indicesOf, hall, BufferPool.indices, hnext]
  case slots_read =>
    rw [harena]
    exact ⟨rfl, rfl, rfl, rfl⟩
  case flags_low =>
    rw [harena]
    exact ⟨rfl, rfl, rfl, rfl, rfl⟩
  case edges_stopped =>
    rw [harena]
    rfl
  case events =>
    -- the counters are not those of a new arena, but the answer is
    rw [halike.pollStatus.result, events_startedOver hattached]

/-- Whatever the ports did before, a reset that is finished restores the arena: its state is the
one listed, and every further sequence of calls is answered as on an arena that starts over.  The
answers are the same if the samples and the edges of earlier uses are left in the buffers of that
arena, and the same apart from sample values and edges if they are not. -/
theorem answers_completeReset {pool : BufferPool}
    (hnew : BufferPool.new count capacity = .ok pool) (ops : List PortOp)
    (hreset : ((justSplit pool).run ops).memory.completeReset.1 = .ok ()) :
    let custody := (justSplit pool).run ops
    let restored := custody.step (.arena .completeReset)
    restored.memory.Restored count ∧
      ∀ calls : List PortCall,
        restored.answers calls =
            (startedOver custody.memory.mode (pool.withDataOf custody.memory.pool)).answers calls ∧
          (restored.answers calls).map (·.withoutData) =
            ((startedOver custody.memory.mode pool).answers calls).map (·.withoutData) := by
  intro custody restored
  have hsplit := SharedMemory.split_of_new hnew
  have hownership : Ownership count custody.memory custody.producers custody.consumers :=
    ownership_run (Ownership.split hnew hsplit) ops
  have htidy : custody.Alike capacity True custody :=
    (alike_justSplit hnew).run (Ownership.split hnew hsplit) ops
  have hready : custody.memory.ReadyToComplete :=
    (SharedMemory.completeReset_eq_ok_iff _).mp hreset
  obtain ⟨next, hreclaim, heq⟩ := SharedMemory.completeReset_of_ready hready
  have hmemory : restored.memory = custody.memory.afterReset next := by
    simp only [restored, step, ArenaOp.apply, heq]
  obtain ⟨hproducers, hconsumers⟩ := hownership.eq_nil_of_held hready.2.2
  have hattached : pool.attached = false := by rw [BufferPool.eq_of_new hnew]
  have hkept : (pool.withDataOf custody.memory.pool).attached = false := hattached
  have hexact := alike_afterReset htidy hownership hready hreclaim hkept
    (BufferPool.size_withDataOf hnew hownership.size_eq)
    (BufferPool.rel_withDataOf hnew hownership.size_eq)
  have hblank := alike_afterReset htidy hownership hready hreclaim hattached
    (BufferPool.size_of_new hnew) (BufferPool.rel_new hnew hownership.size_eq)
  have hrestored := restored_afterReset hready hownership.size_eq hownership.count_le hreclaim
    hattached hblank
  have hafter : Ownership count restored.memory restored.producers restored.consumers :=
    ownership_step hownership (.arena .completeReset)
  rw [← hmemory] at hexact hblank hrestored
  refine ⟨hrestored, fun calls => ⟨?_, ?_⟩⟩
  · exact (Alike.answers ⟨hexact, hproducers, hconsumers⟩ hafter calls).2 trivial
  · exact (Alike.answers ⟨hblank, hproducers, hconsumers⟩ hafter calls).1

/-- A reset after a run in which a buffer was filled with one sample and one edge and claimed. -/
theorem answers_completeReset_used :
    let pool : BufferPool := { entries := Array.replicate 2 { buffer := .ofCapacity 1 } }
    let ops := [.arena (.setMode .harvest), .acquire, .arena (.swapEdges (some 0)), .put 0 0 ⟨1, 2⟩,
      .arena (.recordEdge ⟨0, 5, 1⟩), .release 0 { timestamp := 7, sampleCount := 1 }, .claim 0,
      .recycle 0, .arena (.raiseBufferSwap 9), .arena .requestReset,
      .arena .samplingAcknowledge, .arena .timingAcknowledge]
    let custody := (justSplit pool).run ops
    let restored := custody.step (.arena .completeReset)
    BufferPool.new 2 1 = .ok pool ∧ custody.memory.completeReset.1 = .ok () ∧
      restored.memory.Restored 2 ∧
      ∀ calls : List PortCall,
        restored.answers calls =
            (startedOver custody.memory.mode (pool.withDataOf custody.memory.pool)).answers calls ∧
          (restored.answers calls).map (·.withoutData) =
            ((startedOver custody.memory.mode pool).answers calls).map (·.withoutData) :=
  ⟨rfl, by decide +kernel, @answers_completeReset 2 1 _ rfl _ (by decide +kernel)⟩

end Custody

end HarvestTestbed
