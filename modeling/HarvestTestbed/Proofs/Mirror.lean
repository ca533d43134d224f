import HarvestTestbed.Proofs.CaptureFrame
import HarvestTestbed.Proofs.Recording
import HarvestTestbed.Proofs.SamplingBench

/-!
# Buffers that are filled alike

Memories that answer alike may differ in the samples and edges that earlier sessions left in their
buffers.  What is handed over does not show them: a buffer is filled from its first cell on, it
presents the cells that were filled, and its edge log is emptied when it begins to be filled.

The relation below adds this to the resemblance of two memories.  Next to each live handle stands
the number of cells that were filled since the buffer was taken or taken up again; these cells agree
in both memories, and so does all that a buffer presents after it was handed over.
-/

namespace HarvestTestbed

namespace BufferPool

def cell? (pool : BufferPool) (index : UInt32) (position : ℕ) : Option IvSample :=
  (pool.buffer? index).map (·.cell position)

/-- Two pools agree in the first cells of a buffer and in its edges. -/
structure SameData (fill : ℕ) (index : UInt32) (left right : BufferPool) : Prop where
  cells : ∀ position < fill, left.cell? index position = right.cell? index position
  edges : left.edges? index = right.edges? index

/-- Cells and edge logs stay as they are. -/
structure KeepsData (before after : BufferPool) : Prop where
  cells : ∀ index position, after.cell? index position = before.cell? index position
  edges : ∀ index, after.edges? index = before.edges? index

variable {pool next left right left' right' : BufferPool} {index : UInt32} {fill : ℕ}

theorem SameData.mono (h : SameData fill index left right) {less : ℕ} (hle : less ≤ fill) :
    SameData less index left right :=
  ⟨fun position hposition => h.cells position (hposition.trans_le hle), h.edges⟩

theorem SameData.kept (h : SameData fill index left right) (hleft : left.KeepsData left')
    (hright : right.KeepsData right') : SameData fill index left' right' where
  cells position hposition := by
    rw [hleft.cells, hright.cells, h.cells position hposition]
  edges := by
    rw [hleft.edges, hright.edges, h.edges]

theorem KeepsData.trans {last : BufferPool} (hfirst : pool.KeepsData next)
    (hsecond : next.KeepsData last) : pool.KeepsData last :=
  ⟨fun index position => (hsecond.cells index position).trans (hfirst.cells index position),
    fun index => (hsecond.edges index).trans (hfirst.edges index)⟩

theorem keepsData_setOwner (pool : BufferPool) (index : UInt32) (owner : BufferOwner) :
    pool.KeepsData (pool.setOwner index owner) where
  cells other position := by rw [cell?, buffer?_setOwner, cell?]
  edges other := by
    rw [edges?_eq_logs, setOwner, logs_modify (by intro entry; rfl), ← edges?_eq_logs]

theorem keepsData_editBuffer {change : SampleBuffer → SampleBuffer}
    (hcells : ∀ buffer position, (change buffer).cell position = buffer.cell position)
    (pool : BufferPool) (index : UInt32) : pool.KeepsData (pool.editBuffer index change) where
  cells other position := by
    rw [cell?, buffer?_editBuffer, cell?]
    split
    · rw [Option.map_map]
      congr 1
      funext buffer
      exact hcells buffer position
    · rfl
  edges other := by
    rw [edges?_eq_logs, editBuffer, logs_modify (by intro entry; rfl), ← edges?_eq_logs]

/-- A buffer that is taken keeps its cells and its edges. -/
theorem keepsData_taken (pool : BufferPool) (index : UInt32) :
    pool.KeepsData ((pool.setOwner index .producer).editBuffer index (·.reset)) := by
  have hcells : ∀ (buffer : SampleBuffer) position,
      buffer.reset.cell position = buffer.cell position := fun _ _ => rfl
  exact (keepsData_setOwner pool index .producer).trans (keepsData_editBuffer hcells _ index)

/-- The summary leaves cells and edges as they are. -/
theorem keepsData_marked (memory : SharedMemory) (handle : ProducerHandle) (summary : BufferMeta) :
    memory.pool.KeepsData (memory.marked handle summary) := by
  have hcells : ∀ (buffer : SampleBuffer) position,
      (buffer.finish summary).cell position = buffer.cell position := fun _ _ => rfl
  exact (keepsData_editBuffer hcells memory.pool handle.index).trans
    (keepsData_setOwner _ handle.index .filled)

theorem handed?_setOwner {source : BufferOwner} (howner : pool.owner? index = some source)
    (target : BufferOwner) (other : UInt32) :
    (pool.setOwner index target).handed? other =
      if other = index then if target.isHandedOver then pool.buffer? index else none
      else pool.handed? other := by
  rw [handed?, owner?_setOwner howner, buffer?_setOwner]
  split
  · rename_i hother
    rw [hother]
    rfl
  · rfl

theorem handed?_editBuffer (pool : BufferPool) (index other : UInt32)
    (change : SampleBuffer → SampleBuffer) :
    (pool.editBuffer index change).handed? other =
      if other = index then (pool.handed? other).map change else pool.handed? other := by
  simp only [handed?, owner?_editBuffer, buffer?_editBuffer]
  split <;> split <;> rfl

theorem handed?_of_owner? {owner : BufferOwner} (howner : pool.owner? index = some owner) :
    pool.handed? index = if owner.isHandedOver then pool.buffer? index else none := by
  rw [handed?, howner]
  rfl

/-- Of a reclaimed pool no buffer counts as handed over. -/
theorem handed?_of_reclaim (hreclaim : pool.reclaim = .ok next) (index : UInt32) :
    next.handed? index = none := by
  rw [handed?, owner?_of_reclaim hreclaim]
  split <;> rfl

end BufferPool

open BufferPool (SameData)

/-- A buffer whose filling was given up counts as handed over. -/
theorem SharedMemory.handed?_marked {memory : SharedMemory} {handle : ProducerHandle}
    (howner : memory.pool.owner? handle.index = some .producer) (summary : BufferMeta)
    (index : UInt32) :
    (memory.marked handle summary).handed? index =
      if index = handle.index then (memory.pool.buffer? index).map (·.finish summary)
      else memory.pool.handed? index := by
  have hfinished :
      (memory.pool.editBuffer handle.index (·.finish summary)).owner? handle.index =
        some .producer := by
    rw [BufferPool.owner?_editBuffer, howner]
  rw [marked, BufferPool.handed?_setOwner hfinished, BufferPool.handed?_editBuffer,
    BufferPool.buffer?_editBuffer, if_pos rfl]
  split
  · rename_i hindex
    rw [hindex]
    rfl
  · rfl

theorem SharedMemory.handed?_of_material {before after : SharedMemory}
    (hmaterial : after.material = before.material) (index : UInt32) :
    after.pool.handed? index = before.pool.handed? index := by
  rw [BufferPool.handed?, owner?_of_material hmaterial, buffer?_of_material hmaterial,
    BufferPool.handed?]

/-- Buffers with the same accounts are read alike if their valid cells agree. -/
theorem SampleBuffer.reading_congr {left right : SampleBuffer}
    (haccounts : left.withoutCells = right.withoutCells)
    (hcells : ∀ position < left.length, left.cell position = right.cell position) :
    left.reading = right.reading := by
  simp only [SampleBuffer.withoutCells, SampleBuffer.mk.injEq, true_and] at haccounts
  have hsamples : left.samples = right.samples := by
    apply Array.ext
    · simpa [SampleBuffer.samples] using haccounts.2.1
    · intro position hleft hright
      simp only [SampleBuffer.samples, Array.getElem_ofFn]
      exact hcells position (by simpa [SampleBuffer.samples] using hleft)
  simp only [SampleBuffer.reading, haccounts, hsamples]

/-- Two memories with the same handles: those of the producer, each with the number of cells filled
through it, and those of the consumer.  The memories answer alike, and what was filled and what was
handed over agrees. -/
structure SharedMemory.Mirror (count capacity : ℕ) (exact : Prop)
    (holdings : List (ProducerHandle × ℕ)) (consumers : List ConsumerHandle)
    (left right : SharedMemory) : Prop where
  left_owned : Ownership count left (holdings.map (·.1)) consumers
  right_owned : Ownership count right (holdings.map (·.1)) consumers
  alike : left.Alike capacity exact right
  held : ∀ handle fill, (handle, fill) ∈ holdings →
    SameData (min fill capacity) handle.index left.pool right.pool
  handed : ∀ index buffer, left.pool.handed? index = some buffer →
    SameData buffer.length index left.pool right.pool

namespace SharedMemory

namespace Mirror

variable {count capacity : ℕ} {exact : Prop} {left right left' right' : SharedMemory}
variable {holdings rest : List (ProducerHandle × ℕ)} {consumers : List ConsumerHandle}

theorem size_le (h : Mirror count capacity exact holdings consumers left right) :
    left.pool.size ≤ ringCapacity :=
  h.left_owned.size_eq.trans_le h.left_owned.count_le

theorem perm {holdings' : List (ProducerHandle × ℕ)}
    (h : Mirror count capacity exact holdings consumers left right)
    (hperm : holdings.Perm holdings') :
    Mirror count capacity exact holdings' consumers left right where
  left_owned := h.left_owned.of_perm (hperm.map _) (.refl _)
  right_owned := h.right_owned.of_perm (hperm.map _) (.refl _)
  alike := h.alike
  held handle fill hmem := h.held handle fill (hperm.mem_iff.mpr hmem)
  handed := h.handed

/-- A buffer that is taken up again is filled from its first cell on. -/
theorem refill {handle : ProducerHandle} {fill less : ℕ}
    (h : Mirror count capacity exact ((handle, fill) :: rest) consumers left right)
    (hle : less ≤ fill) :
    Mirror count capacity exact ((handle, less) :: rest) consumers left right where
  left_owned := h.left_owned
  right_owned := h.right_owned
  alike := h.alike
  held other size hmem := by
    obtain heq | hmem := List.mem_cons.mp hmem
    · cases heq
      exact (h.held handle fill List.mem_cons_self).mono (by omega)
    · exact h.held other size (List.mem_cons_of_mem _ hmem)
  handed := h.handed

theorem log (h : Mirror count capacity exact holdings consumers left right)
    (level : LogLevel) (text : String) :
    Mirror count capacity exact holdings consumers (left.log level text)
      (right.log level text) where
  left_owned := h.left_owned.of_owner? rfl (fun _ => rfl) rfl
  right_owned := h.right_owned.of_owner? rfl (fun _ => rfl) rfl
  alike := ⟨h.alike.arena, h.alike.pool⟩
  held := h.held
  handed := h.handed

/-- Operations after which the same data agrees, with no handle and no finished buffer more. -/
theorem of_sameData {consumers' : List ConsumerHandle}
    (h : Mirror count capacity exact holdings consumers left right)
    (hleft : Ownership count left' (rest.map (·.1)) consumers')
    (hright : Ownership count right' (rest.map (·.1)) consumers')
    (halike : left'.Alike capacity exact right') (hrest : rest ⊆ holdings)
    (hdata : ∀ fill index, SameData fill index left.pool right.pool →
      SameData fill index left'.pool right'.pool)
    (hhanded : ∀ index buffer, left'.pool.handed? index = some buffer →
      left.pool.handed? index = some buffer) :
    Mirror count capacity exact rest consumers' left' right' where
  left_owned := hleft
  right_owned := hright
  alike := halike
  held handle fill hmem := hdata _ _ (h.held handle fill (hrest hmem))
  handed index buffer hbuffer := hdata _ _ (h.handed index buffer (hhanded index buffer hbuffer))

end Mirror

theorem Alike.capacity_eq {capacity : ℕ} {exact : Prop} {left right : SharedMemory}
    (h : left.Alike capacity exact right) (index : UInt32) :
    (∀ buffer, left.pool.buffer? index = some buffer → buffer.capacity = capacity) ∧
      ∀ buffer, right.pool.buffer? index = some buffer → buffer.capacity = capacity := by
  obtain ⟨hleft, hright⟩ | ⟨entry, entry', hleft, hright, hentry⟩ := rel_cases (h.pool.entry? index)
  · simp [BufferPool.buffer?, hleft, hright]
  · simp [BufferPool.buffer?, hleft, hright, hentry.left_capacity, hentry.right_capacity]

namespace Mirror

variable {count capacity : ℕ} {exact : Prop} {left right left' right' : SharedMemory}
variable {holdings rest : List (ProducerHandle × ℕ)} {consumers : List ConsumerHandle}

/-! ## Operations without handles -/

theorem sameData_swapEdges (hsize : left.pool.size = right.pool.size) (next : Option UInt32)
    {fill : ℕ} {index : UInt32}
    (hdata : SameData fill index left.pool right.pool) :
    SameData fill index (left.swapEdges next).pool (right.swapEdges next).pool := by
  have hbuffer : ∀ memory : SharedMemory, ∀ other,
      (memory.swapEdges next).pool.buffer? other = memory.pool.buffer? other := by
    intro memory other
    exact buffer?_of_material
      (material_of_ledger (memory.ledger_swapEdges next)) other
  constructor
  case cells =>
    intro position hposition
    simp only [BufferPool.cell?, hbuffer]
    exact hdata.cells position hposition
  case edges =>
    cases next with
    | none => exact hdata.edges
    | some target =>
        by_cases htarget : target.toNat < left.pool.size
        · rw [(swapEdges_some htarget).2, (swapEdges_some (hsize ▸ htarget)).2,
            hdata.edges]
        · have htarget' : ¬ target.toNat < right.pool.size := hsize ▸ htarget
          simpa only [swapEdges, EdgeTarget.swap, if_neg htarget, if_neg htarget'] using hdata.edges

/-- An edge lands in the same log on both sides, or in none. -/
theorem sameData_recordEdge (h : Mirror count capacity exact holdings consumers left right)
    (event : EdgeEvent) {fill : ℕ} {index : UInt32}
    (hdata : SameData fill index left.pool right.pool) :
    SameData fill index (left.recordEdge event).2.pool (right.recordEdge event).2.pool := by
  have hbuffer : ∀ memory : SharedMemory, ∀ other,
      (memory.recordEdge event).2.pool.buffer? other = memory.pool.buffer? other := by
    intro memory other
    exact buffer?_of_material (material_of_ledger (memory.ledger_recordEdge event)) other
  constructor
  case cells =>
    intro position hposition
    simp only [BufferPool.cell?, hbuffer]
    exact hdata.cells position hposition
  case edges =>
    have htarget : left.capture.target = right.capture.target :=
      congrArg Guarded.value h.alike.arena.edgeTarget
    rw [edges?_recordEdge, edges?_recordEdge, htarget, hdata.edges]

/-- A finished reset finds no handle alive and leaves no buffer that was handed over. -/
theorem completeReset (h : Mirror count capacity exact holdings consumers left right) :
    Mirror count capacity exact holdings consumers left.completeReset.2
      right.completeReset.2 := by
  have hleft := h.left_owned.completeReset
  have hright := h.right_owned.completeReset
  have halike := h.alike.completeReset h.size_le
  by_cases hready : left.ReadyToComplete
  · obtain ⟨pool, hreclaim, heq⟩ := completeReset_of_ready hready
    have hempty := (h.left_owned.eq_nil_of_held hready.2.2).1
    refine ⟨hleft, hright, halike.memory, ?_, ?_⟩
    · intro handle fill hmem
      rw [List.map_eq_nil_iff.mp hempty] at hmem
      cases hmem
    · intro index buffer hbuffer
      rw [heq, pool_afterReset, BufferPool.handed?_of_reclaim hreclaim] at hbuffer
      cases hbuffer
  · have hready' : ¬ right.ReadyToComplete := by
      rwa [ReadyToComplete, ← h.alike.state, ← h.alike.resetAcknowledged, ← h.alike.pool.held]
    obtain ⟨fault, heq⟩ := completeReset_of_not_ready hready
    obtain ⟨fault', heq'⟩ := completeReset_of_not_ready hready'
    rw [heq, heq']
    exact h

theorem hidesPublished_pool : HidesPublished pool where
  log _ _ _ := rfl
  sessionState _ _ := rfl
  mode _ _ := rfl

/-- No operation without handles tells the memories apart. -/
theorem apply (h : Mirror count capacity exact holdings consumers left right) (op : ArenaOp) :
    Mirror count capacity exact holdings consumers (op.apply left) (op.apply right) := by
  have hleft := h.left_owned.apply op
  have hright := h.right_owned.apply op
  have halike := (h.alike.apply h.size_le op).2
  have hsame : (op.apply left).pool = left.pool → (op.apply right).pool = right.pool →
      Mirror count capacity exact holdings consumers (op.apply left) (op.apply right) := by
    intro hpool hpool'
    apply h.of_sameData hleft hright halike (List.Subset.refl _)
    · intro fill index hdata
      rwa [hpool, hpool']
    · intro index buffer hbuffer
      rwa [hpool] at hbuffer
  cases op with
  | completeReset => exact h.completeReset
  | swapEdges next =>
      refine h.of_sameData hleft hright halike (List.Subset.refl _)
        (fun fill index hdata => sameData_swapEdges h.alike.pool.size next hdata)
        fun index buffer hbuffer => ?_
      rwa [ArenaOp.apply, handed?_of_material (material_of_ledger (ledger_swapEdges _ _))]
        at hbuffer
  | recordEdge event =>
      refine h.of_sameData hleft hright halike (List.Subset.refl _)
        (fun fill index hdata => h.sameData_recordEdge event hdata) fun index buffer hbuffer => ?_
      rwa [ArenaOp.apply, handed?_of_material (material_of_ledger (ledger_recordEdge _ _))]
        at hbuffer
  | setState next =>
      exact hsame (hidesPublished_pool.setState left next) (hidesPublished_pool.setState right next)
  | requestReset =>
      exact hsame (hidesPublished_pool.setState left .reset)
        (hidesPublished_pool.setState right .reset)
  | setMode mode =>
      exact hsame (hidesPublished_pool.setMode left mode) (hidesPublished_pool.setMode right mode)
  | _ => exact hsame rfl rfl

/-! ## Operations that move a buffer -/

/-- The next free buffer is taken and becomes the target of the edges: nothing of it is filled yet,
and its log is empty. -/
theorem acquire (h : Mirror count capacity exact holdings consumers left right) :
    left.acquire.1 = right.acquire.1 ∧
      Mirror count capacity exact (left.acquire.1.toList.map (·, 0) ++ holdings)
        consumers (left.acquire.2.swapEdges (left.acquire.1.map (·.index)))
        (right.acquire.2.swapEdges (right.acquire.1.map (·.index))) := by
  have hacquired := h.alike.acquire
  have hleft := h.left_owned.acquire
  have hright := h.right_owned.acquire
  rw [← hacquired.result] at hright ⊢
  refine ⟨rfl, ?_⟩
  obtain ⟨hempty, heq⟩ | ⟨index, ring, hlist, howner, heq⟩ := h.left_owned.acquire_cases
  · have hempty' : right.arena.freeRing.toList = [] := h.alike.arena.queued ▸ hempty
    have heq' := acquire_of_empty hempty'
    rw [heq] at hacquired hleft hright ⊢
    rw [heq'] at hacquired hright ⊢
    have hnotified : Mirror count capacity exact holdings consumers
        (left.notify .pru0 .bufferPoolExhausted 0 (UInt32.ofNat left.pool.size))
        (right.notify .pru0 .bufferPoolExhausted 0 (UInt32.ofNat right.pool.size)) :=
      h.of_sameData hleft hright hacquired.memory (List.Subset.refl _) (fun _ _ hdata => hdata)
        fun _ _ hbuffer => hbuffer
    exact hnotified.apply (.swapEdges none)
  · obtain ⟨hempty, -⟩ | ⟨index', ring', hlist', howner', heq'⟩ := h.right_owned.acquire_cases
    · rw [← h.alike.arena.queued, hlist] at hempty
      cases hempty
    obtain rfl : index = index' := by
      rw [h.alike.arena.queued, hlist', List.cons.injEq] at hlist
      exact hlist.1.symm
    rw [heq] at hacquired hleft hright ⊢
    rw [heq'] at hacquired hright ⊢
    have hkept := fun pool : BufferPool => pool.keepsData_taken index
    have hsize := hacquired.memory.pool.size
    have hindex := BufferPool.lt_size_of_owner? (hleft.owner?_producer List.mem_cons_self)
    exact
      { left_owned := hleft.apply (.swapEdges (some index))
        right_owned := hright.apply (.swapEdges (some index))
        alike := hacquired.memory.swapEdges (some index)
        held := fun handle fill hmem => by
          obtain heq | hmem := List.mem_cons.mp hmem
          · cases heq
            refine ⟨fun position hposition => by simp at hposition, ?_⟩
            have hlog := (swapEdges_some hindex).2 index
            have hlog' := (swapEdges_some (hsize ▸ hindex)).2 index
            rw [if_pos rfl] at hlog hlog'
            exact hlog.trans hlog'.symm
          · exact sameData_swapEdges hsize (some index)
              ((h.held handle fill hmem).kept (hkept _) (hkept _))
        handed := fun other buffer hbuffer => by
          rw [handed?_of_material (material_of_ledger (ledger_swapEdges _ _)),
            BufferPool.handed?_editBuffer, BufferPool.handed?_setOwner howner] at hbuffer
          split at hbuffer
          · cases hbuffer
          · exact sameData_swapEdges hsize (some index)
              ((h.handed other buffer hbuffer).kept (hkept _) (hkept _)) }

/-- Below the capacity of a buffer, writing a sample changes one cell. -/
theorem cell?_put {memory : SharedMemory} {handle : ProducerHandle}
    (hcapacity : ∀ buffer, memory.pool.buffer? handle.index = some buffer →
      buffer.capacity = capacity) (fill : ℕ) (sample : IvSample) (index : UInt32) (position : ℕ) :
    (memory.put handle fill sample).2.pool.cell? index position =
      if index = handle.index ∧ position = fill ∧ fill < capacity then
        (memory.pool.buffer? index).map fun _ => sample
      else memory.pool.cell? index position := by
  simp only [BufferPool.cell?, SharedMemory.put, BufferPool.put_snd_eq,
    BufferPool.buffer?_editBuffer]
  by_cases hindex : index = handle.index
  · subst hindex
    cases hbuffer : memory.pool.buffer? handle.index with
    | none => simp
    | some buffer =>
        simp only [if_true, Option.map_some, cell_put, hcapacity buffer hbuffer, true_and]
        split <;> rfl
  · simp [hindex]

theorem edges?_put (memory : SharedMemory) (handle : ProducerHandle) (fill : ℕ) (sample : IvSample)
    (index : UInt32) :
    (memory.put handle fill sample).2.pool.edges? index = memory.pool.edges? index := by
  rw [BufferPool.edges?_eq_logs, BufferPool.edges?_eq_logs]
  exact congrArg (fun capture : Capture => capture.logs[index.toNat]?)
    (memory.capture_put handle fill sample)

/-- Written through both memories, a sample makes them agree in the cell that it fills. -/
theorem sameData_put {handle : ProducerHandle} {fill size : ℕ} {index : UInt32}
    (h : Mirror count capacity exact ((handle, fill) :: rest) consumers left right)
    (sample : IvSample) (hedges : left.pool.edges? index = right.pool.edges? index)
    (hcells : ∀ position < size,
      index = handle.index ∧ position = fill ∧ fill < capacity ∨
        left.pool.cell? index position = right.pool.cell? index position) :
    SameData size index (left.put handle fill sample).2.pool
      (right.put handle fill sample).2.pool where
  cells position hposition := by
    have howner : left.pool.owner? handle.index = some .producer :=
      h.left_owned.owner?_producer List.mem_cons_self
    have howner' : right.pool.owner? handle.index = some .producer :=
      h.right_owned.owner?_producer List.mem_cons_self
    obtain ⟨buffer, hbuffer⟩ := BufferPool.exists_buffer?_of_owner? howner
    obtain ⟨buffer', hbuffer'⟩ := BufferPool.exists_buffer?_of_owner? howner'
    obtain ⟨hcapacity, hcapacity'⟩ := h.alike.capacity_eq handle.index
    rw [cell?_put hcapacity, cell?_put hcapacity']
    split
    · rename_i hfilled
      rw [hfilled.1, hbuffer, hbuffer']
      rfl
    · rename_i helsewhere
      exact (hcells position hposition).resolve_left helsewhere
  edges := by rw [edges?_put, edges?_put, hedges]

/-- The next cell of a buffer is filled, or the sample lies beyond the capacity. -/
theorem put {handle : ProducerHandle} {fill : ℕ}
    (h : Mirror count capacity exact ((handle, fill) :: rest) consumers left right)
    (sample : IvSample) :
    (left.put handle fill sample).1 = (right.put handle fill sample).1 ∧
      Mirror count capacity exact ((handle, fill + 1) :: rest) consumers
        (left.put handle fill sample).2 (right.put handle fill sample).2 := by
  have hput := h.alike.put handle fill sample
  have hdata : ∀ size index, SameData size index left.pool right.pool →
      SameData size index (left.put handle fill sample).2.pool
        (right.put handle fill sample).2.pool := fun size index hsame =>
    h.sameData_put sample hsame.edges fun position hposition =>
      .inr (hsame.cells position hposition)
  refine ⟨hput.result, h.left_owned.put handle fill sample, h.right_owned.put handle fill sample,
    hput.memory, ?_, ?_⟩
  · intro other size hmem
    obtain heq | hmem := List.mem_cons.mp hmem
    · cases heq
      have hsame := h.held handle fill List.mem_cons_self
      refine h.sameData_put sample hsame.edges fun position hposition => ?_
      by_cases hlast : position = fill
      · exact .inl ⟨rfl, hlast, by omega⟩
      · exact .inr (hsame.cells position (by omega))
    · exact hdata _ _ (h.held other size (List.mem_cons_of_mem _ hmem))
  · intro index finished hfinished
    apply hdata
    apply h.handed
    simp only [SharedMemory.put, BufferPool.put_snd_eq, BufferPool.handed?_editBuffer] at hfinished
    split at hfinished
    · rename_i hindex
      have howner := h.left_owned.owner?_producer List.mem_cons_self
      rw [hindex, BufferPool.handed?_of_owner? howner] at hfinished
      cases hfinished
    · exact hfinished

theorem sameData_marked {fill : ℕ} {index : UInt32} (handle : ProducerHandle) (summary : BufferMeta)
    (hdata : SameData fill index left.pool right.pool) :
    SameData fill index (left.marked handle summary) (right.marked handle summary) :=
  hdata.kept (BufferPool.keepsData_marked left handle summary)
    (BufferPool.keepsData_marked right handle summary)

/-- A buffer that is handed over agrees in all cells that it presents. -/
theorem handed_marked {handle : ProducerHandle} {fill : ℕ}
    (h : Mirror count capacity exact ((handle, fill) :: rest) consumers left right)
    {summary : BufferMeta} (hfill : summary.sampleCount.toNat ≤ fill) {index : UInt32}
    {finished : SampleBuffer}
    (hfinished : (left.marked handle summary).handed? index = some finished) :
    SameData finished.length index (left.marked handle summary) (right.marked handle summary) := by
  apply sameData_marked
  have howner : left.pool.owner? handle.index = some .producer :=
    h.left_owned.owner?_producer List.mem_cons_self
  rw [handed?_marked howner] at hfinished
  split at hfinished
  · rename_i hindex
    subst hindex
    obtain ⟨buffer, hbuffer⟩ := BufferPool.exists_buffer?_of_owner? howner
    have hcapacity := (h.alike.capacity_eq handle.index).1 buffer hbuffer
    rw [hbuffer, Option.map_some, Option.some.injEq] at hfinished
    have hlength : finished.length ≤ min fill capacity := by
      have hword := Nat.mod_le capacity UInt32.size
      simp only [← hfinished, SampleBuffer.finish, hcapacity]
      omega
    exact (h.held handle fill List.mem_cons_self).mono hlength
  · exact h.handed index finished hfinished

/-- A finished buffer presents no more cells than were filled; one that is refused keeps them. -/
theorem release {handle : ProducerHandle} {fill : ℕ}
    (h : Mirror count capacity exact ((handle, fill) :: rest) consumers left right)
    {summary : BufferMeta} (hfill : summary.sampleCount.toNat ≤ fill) :
    (left.release handle summary).1 = (right.release handle summary).1 ∧
      Mirror count capacity exact
        ((left.release handle summary).1.toList.map (·, fill) ++ rest) consumers
        (left.release handle summary).2 (right.release handle summary).2 := by
  have hreleased := h.alike.release handle summary
  have hleft := h.left_owned.release summary
  have hright := h.right_owned.release summary
  have howner : left.pool.owner? handle.index = some .producer :=
    h.left_owned.owner?_producer List.mem_cons_self
  have howner' : right.pool.owner? handle.index = some .producer :=
    h.right_owned.owner?_producer List.mem_cons_self
  have hslot : left.arena.pru0ToHost = right.arena.pru0ToHost := h.alike.arena.pru0ToHost.eq
  cases hread : left.arena.pru0ToHost.isUnread with
  | false =>
      have heq := release_of_read howner summary hread
      have heq' := release_of_read howner' summary (hslot ▸ hread)
      rw [heq] at hreleased hleft ⊢
      rw [heq'] at hreleased hright ⊢
      refine ⟨rfl, hleft, hright, hreleased.memory, ?_, ?_⟩
      · intro other size hmem
        exact sameData_marked handle summary (h.held other size (List.mem_cons_of_mem _ hmem))
      · intro index finished hfinished
        exact h.handed_marked hfill hfinished
  | true =>
      have heq := release_of_unread howner summary hread
      have heq' := release_of_unread howner' summary (hslot ▸ hread)
      rw [heq] at hreleased hleft ⊢
      rw [heq'] at hreleased hright ⊢
      have hback : ∀ size index, SameData size index left.pool right.pool →
          SameData size index ((left.marked handle summary).setOwner handle.index .producer)
            ((right.marked handle summary).setOwner handle.index .producer) :=
        fun _ _ hdata => (sameData_marked handle summary hdata).kept
          (BufferPool.keepsData_setOwner _ _ _) (BufferPool.keepsData_setOwner _ _ _)
      refine ⟨rfl, h.of_sameData hleft hright hreleased.memory (List.Subset.refl _) hback ?_⟩
      intro index finished hfinished
      have hfilled : (left.marked handle summary).owner? handle.index = some .filled := by
        rw [owner?_marked howner, if_pos rfl]
      rw [BufferPool.handed?_setOwner hfilled, handed?_marked howner] at hfinished
      split at hfinished
      · cases hfinished
      · exact hfinished

/-! ## The host -/

/-- One buffer changes its owner in both memories. -/
theorem setOwner {holdings' : List (ProducerHandle × ℕ)} {consumers' : List ConsumerHandle}
    {index : UInt32} {source target : BufferOwner}
    (h : Mirror count capacity exact holdings consumers left right)
    (howner : left.pool.owner? index = some source)
    (hleft : Ownership count left' (holdings'.map (·.1)) consumers')
    (hright : Ownership count right' (holdings'.map (·.1)) consumers')
    (halike : left'.Alike capacity exact right') (hsub : holdings' ⊆ holdings)
    (hpool : left'.pool = left.pool.setOwner index target)
    (hpool' : right'.pool = right.pool.setOwner index target)
    (hhanded : target.isHandedOver = true → source.isHandedOver = true) :
    Mirror count capacity exact holdings' consumers' left' right' := by
  apply h.of_sameData hleft hright halike hsub
  · intro fill other hdata
    rw [hpool, hpool']
    exact hdata.kept (BufferPool.keepsData_setOwner _ _ _) (BufferPool.keepsData_setOwner _ _ _)
  · intro other buffer hbuffer
    rw [hpool, BufferPool.handed?_setOwner howner] at hbuffer
    split at hbuffer
    · rename_i hother
      split at hbuffer
      · rename_i htarget
        rwa [hother, BufferPool.handed?_of_owner? howner, if_pos (hhanded htarget)]
      · cases hbuffer
    · exact hbuffer

/-- A dropped buffer takes its cells out of the comparison. -/
theorem dropHandle {handle : ProducerHandle} {fill : ℕ}
    (h : Mirror count capacity exact ((handle, fill) :: rest) consumers left right) :
    Mirror count capacity exact rest consumers (left.dropHandle handle)
      (right.dropHandle handle) := by
  have howner := h.left_owned.owner?_producer List.mem_cons_self
  have howner' := h.right_owned.owner?_producer List.mem_cons_self
  exact h.setOwner howner h.left_owned.dropHandle h.right_owned.dropHandle
    (h.alike.dropHandle handle) (List.subset_cons_self _ _)
    (congrArg SharedMemory.pool (dropHandle_eq howner))
    (congrArg SharedMemory.pool (dropHandle_eq howner')) nofun

/-- Handles are claimed alike, since both pools agree on what is filled. -/
theorem claim (h : Mirror count capacity exact holdings consumers left right) (index : UInt32) :
    (left.claim index).1 = (right.claim index).1 ∧
      Mirror count capacity exact holdings ((left.claim index).1.toList ++ consumers)
        (left.claim index).2 (right.claim index).2 := by
  have hclaimed := h.alike.claim index
  have hleft := h.left_owned.claim index
  have hright := h.right_owned.claim index
  rw [← hclaimed.result] at hright
  refine ⟨hclaimed.result, ?_⟩
  by_cases howner : left.pool.owner? index = some .filled
  · have howner' := (h.alike.pool.owner? index).symm.trans howner
    exact h.setOwner howner hleft hright hclaimed.memory (List.Subset.refl _)
      (by rw [claim_of_filled howner]) (by rw [claim_of_filled howner']) fun _ => rfl
  · have howner' : right.pool.owner? index ≠ some .filled := h.alike.pool.owner? index ▸ howner
    have hpool : (left.claim index).2.pool = left.pool := by rw [claim_of_not_filled howner]; rfl
    have hpool' : (right.claim index).2.pool = right.pool := by
      rw [claim_of_not_filled howner']
      rfl
    refine h.of_sameData hleft hright hclaimed.memory (List.Subset.refl _) ?_ ?_
    · intro fill other hdata
      rwa [hpool, hpool']
    · intro other buffer hbuffer
      rwa [hpool] at hbuffer

theorem recycle {handle : ConsumerHandle} {others : List ConsumerHandle}
    (h : Mirror count capacity exact holdings (handle :: others) left right) :
    Mirror count capacity exact holdings others (left.recycle handle).2
      (right.recycle handle).2 := by
  have howner := h.left_owned.owner?_consumer List.mem_cons_self
  obtain ⟨ring, -, heq⟩ := h.left_owned.exists_recycle
  obtain ⟨ring', -, heq'⟩ := h.right_owned.exists_recycle
  exact h.setOwner howner h.left_owned.recycle h.right_owned.recycle (h.alike.recycle handle).memory
    (List.Subset.refl _) (by rw [heq]) (by rw [heq']) (by decide)

theorem dropFilled {handle : ConsumerHandle} {others : List ConsumerHandle}
    (h : Mirror count capacity exact holdings (handle :: others) left right) :
    Mirror count capacity exact holdings others (left.dropFilled handle)
      (right.dropFilled handle) := by
  have howner := h.left_owned.owner?_consumer List.mem_cons_self
  have howner' := h.right_owned.owner?_consumer List.mem_cons_self
  exact h.setOwner howner h.left_owned.dropFilled h.right_owned.dropFilled
    (h.alike.dropFilled handle) (List.Subset.refl _)
    (congrArg SharedMemory.pool (dropFilled_eq howner))
    (congrArg SharedMemory.pool (dropFilled_eq howner')) nofun

theorem consumer_first {position : ℕ} {handle : ConsumerHandle}
    (h : Mirror count capacity exact holdings consumers left right)
    (hhandle : consumers[position]? = some handle) :
    Mirror count capacity exact holdings (handle :: consumers.eraseIdx position) left right :=
  { h with
    left_owned := h.left_owned.consumer_first hhandle
    right_owned := h.right_owned.consumer_first hhandle }

/-! ## What is read -/

/-- The buffers that were handed over are read alike. -/
theorem released (h : Mirror count capacity exact holdings consumers left right) :
    left.released = right.released := by
  have hindices : left.pool.indices = right.pool.indices := by
    rw [BufferPool.indices, BufferPool.indices, h.alike.pool.size]
  rw [SharedMemory.released, SharedMemory.released, hindices]
  congr 1
  funext index
  obtain ⟨hleft, hright⟩ | ⟨entry, entry', hleft, hright, hentry⟩ :=
    rel_cases (h.alike.pool.entry? index)
  · simp [BufferPool.handed?, BufferPool.owner?, hleft, hright]
  · have howner : left.pool.owner? index = some entry.owner := by simp [BufferPool.owner?, hleft]
    have howner' : right.pool.owner? index = some entry.owner := by
      rw [← h.alike.pool.owner? index, howner]
    have hbuffer : left.pool.buffer? index = some entry.buffer := by
      simp [BufferPool.buffer?, hleft]
    have hbuffer' : right.pool.buffer? index = some entry'.buffer := by
      simp [BufferPool.buffer?, hright]
    have hhanded := h.handed index entry.buffer
    rw [BufferPool.handed?_of_owner? howner, hbuffer] at hhanded ⊢
    rw [BufferPool.handed?_of_owner? howner', hbuffer']
    split
    · rename_i hover
      have hdata := hhanded (if_pos hover)
      have hcells : ∀ position < entry.buffer.length,
          entry.buffer.cell position = entry'.buffer.cell position := by
        intro position hposition
        simpa [BufferPool.cell?, hbuffer, hbuffer'] using hdata.cells position hposition
      have hkeeps : entry.owner.keepsAccounts = true := by
        cases howned : entry.owner <;>
          simp_all [BufferOwner.isHandedOver, BufferOwner.keepsAccounts]
      rw [Option.map_some, Option.map_some, hdata.edges,
        SampleBuffer.reading_congr (hentry.accounts hkeeps) hcells]
    · rfl

end Mirror

end SharedMemory

end HarvestTestbed
