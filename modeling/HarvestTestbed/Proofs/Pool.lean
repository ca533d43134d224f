import Mathlib
import HarvestTestbed.Buffer.Pool

/-!
# Owners and contents of a pool

A pool is read through two views: who owns a buffer, and what the buffer holds.  Every transition
of the pool is a change of one owner, a change of one content, or both, so the laws below say what
each of them does to the two views.  The number of buffers with an owner is counted here as well,
both in the pool and through a list that names each of them once.
-/

namespace HarvestTestbed.BufferPool

def buffer? (pool : BufferPool) (index : UInt32) : Option SampleBuffer :=
  (pool.entry? index).map (·.buffer)

def edges? (pool : BufferPool) (index : UInt32) : Option EdgeLog :=
  (pool.entry? index).map (·.edges)

/-- Records a new owner of a buffer. -/
def setOwner (pool : BufferPool) (index : UInt32) (owner : BufferOwner) : BufferPool :=
  pool.modify index fun entry => { entry with owner := owner }

/-- Changes the content of a buffer. -/
def editBuffer (pool : BufferPool) (index : UInt32) (change : SampleBuffer → SampleBuffer) :
    BufferPool :=
  pool.modify index fun entry => { entry with buffer := change entry.buffer }

/-- The indices of all buffers, in order. -/
def indices (pool : BufferPool) : List UInt32 :=
  (List.range pool.size).map UInt32.ofNat

def indicesOf (pool : BufferPool) (owner : BufferOwner) : List UInt32 :=
  pool.indices.filter fun index => pool.owner? index = some owner

def countOwner (pool : BufferPool) (owner : BufferOwner) : ℕ :=
  pool.entries.countP (·.owner == owner)

/-! ## The two views after a change -/

@[simp]
theorem size_modify (pool : BufferPool) (index : UInt32) (change : PoolEntry → PoolEntry) :
    (pool.modify index change).size = pool.size := by
  simp [modify, size]

theorem entry?_modify (pool : BufferPool) (index other : UInt32)
    (change : PoolEntry → PoolEntry) :
    BufferPool.entry? (pool.modify index change) other =
      if other = index then (pool.entry? other).map change else pool.entry? other := by
  simp only [modify, entry?, Array.getElem?_modify, UInt32.toNat_inj, eq_comm (a := index)]

theorem owner?_modify {change : PoolEntry → PoolEntry}
    (hchange : ∀ entry, (change entry).owner = entry.owner) (pool : BufferPool)
    (index other : UInt32) :
    (pool.modify index change).owner? other = pool.owner? other := by
  simp only [owner?, entry?_modify]
  split
  · simp [Option.map_map, Function.comp_def, hchange]
  · rfl

theorem buffer?_modify {change : PoolEntry → PoolEntry}
    (hchange : ∀ entry, (change entry).buffer = entry.buffer) (pool : BufferPool)
    (index other : UInt32) :
    (pool.modify index change).buffer? other = pool.buffer? other := by
  simp only [buffer?, entry?_modify]
  split
  · simp [Option.map_map, Function.comp_def, hchange]
  · rfl

@[simp]
theorem size_setOwner (pool : BufferPool) (index : UInt32) (owner : BufferOwner) :
    (pool.setOwner index owner).size = pool.size := by
  simp [setOwner]

@[simp]
theorem buffer?_setOwner (pool : BufferPool) (index other : UInt32) (owner : BufferOwner) :
    (pool.setOwner index owner).buffer? other = pool.buffer? other := by
  rw [setOwner]
  exact buffer?_modify (by intro entry; rfl) pool index other

theorem owner?_setOwner {pool : BufferPool} {index : UInt32} {source : BufferOwner}
    (howner : pool.owner? index = some source) (target : BufferOwner) (other : UInt32) :
    (pool.setOwner index target).owner? other =
      if other = index then some target else pool.owner? other := by
  simp only [owner?, setOwner, entry?_modify]
  split
  · rename_i heq
    subst heq
    obtain ⟨entry, hentry, _⟩ := Option.map_eq_some_iff.mp howner
    simp [hentry]
  · rfl

@[simp]
theorem size_editBuffer (pool : BufferPool) (index : UInt32)
    (change : SampleBuffer → SampleBuffer) :
    (pool.editBuffer index change).size = pool.size := by
  simp [editBuffer]

@[simp]
theorem owner?_editBuffer (pool : BufferPool) (index other : UInt32)
    (change : SampleBuffer → SampleBuffer) :
    (pool.editBuffer index change).owner? other = pool.owner? other := by
  rw [editBuffer]
  exact owner?_modify (by intro entry; rfl) pool index other

theorem buffer?_editBuffer (pool : BufferPool) (index other : UInt32)
    (change : SampleBuffer → SampleBuffer) :
    (pool.editBuffer index change).buffer? other =
      if other = index then (pool.buffer? other).map change else pool.buffer? other := by
  simp only [buffer?, editBuffer, entry?_modify]
  split
  · simp [Option.map_map, Function.comp_def]
  · rfl

/-- There is an owner for every buffer of the pool and for no other index. -/
theorem owner?_eq_none_iff (pool : BufferPool) (index : UInt32) :
    pool.owner? index = none ↔ pool.size ≤ index.toNat := by
  simp [owner?, entry?, size]

theorem lt_size_of_owner? {pool : BufferPool} {index : UInt32} {owner : BufferOwner}
    (howner : pool.owner? index = some owner) : index.toNat < pool.size := by
  by_contra hlarge
  rw [(owner?_eq_none_iff pool index).mpr (Nat.not_lt.mp hlarge)] at howner
  cases howner

theorem exists_buffer?_of_owner? {pool : BufferPool} {index : UInt32} {owner : BufferOwner}
    (howner : pool.owner? index = some owner) : ∃ buffer, pool.buffer? index = some buffer := by
  obtain ⟨entry, hentry, _⟩ := Option.map_eq_some_iff.mp howner
  exact ⟨entry.buffer, by simp [buffer?, hentry]⟩

/-! ## The transitions -/

/-- Whoever owns a buffer can hand it on. -/
theorem transition?_eq_some {pool : BufferPool} {index : UInt32} {source : BufferOwner}
    (howner : pool.owner? index = some source) (target : BufferOwner) :
    pool.transition? index source target = some (pool.setOwner index target) := by
  simp [transition?, howner, setOwner]

/-- Nobody hands on a buffer of someone else. -/
theorem transition?_eq_none {pool : BufferPool} {index : UInt32} {source : BufferOwner}
    (howner : pool.owner? index ≠ some source) (target : BufferOwner) :
    pool.transition? index source target = none := by
  simp [transition?, howner]

/-- A free buffer is emptied before it is filled. -/
theorem takeForProducer_eq_some {pool : BufferPool} {index : UInt32}
    (howner : pool.owner? index = some .freeRing) :
    pool.takeForProducer index =
      some (⟨index⟩, (pool.setOwner index .producer).editBuffer index (·.reset)) := by
  simp only [takeForProducer, transition?_eq_some howner, Option.map_some]
  rfl

/-- The summary is attached before the filling is given up. -/
theorem markFilled_eq {pool : BufferPool} {handle : ProducerHandle}
    (howner : pool.owner? handle.index = some .producer) (summary : BufferMeta) :
    (pool.markFilled handle summary).2 =
      (pool.editBuffer handle.index (·.finish summary)).setOwner handle.index .filled := by
  have hfinished :
      (pool.editBuffer handle.index (·.finish summary)).owner? handle.index =
        some .producer := by
    rw [owner?_editBuffer, howner]
  exact congrArg (Option.getD · _) (transition?_eq_some hfinished .filled)

theorem unmarkFilled_eq_some {pool : BufferPool} {index : UInt32}
    (howner : pool.owner? index = some .filled) :
    pool.unmarkFilled index = some (⟨index⟩, pool.setOwner index .producer) := by
  simp [unmarkFilled, transition?_eq_some howner]

theorem claimFilled_eq_some {pool : BufferPool} {index : UInt32}
    (howner : pool.owner? index = some .filled) :
    pool.claimFilled index = some (⟨index⟩, pool.setOwner index .consumer) := by
  simp [claimFilled, transition?_eq_some howner]

theorem claimFilled_eq_none {pool : BufferPool} {index : UInt32}
    (howner : pool.owner? index ≠ some .filled) : pool.claimFilled index = none := by
  simp [claimFilled, transition?_eq_none howner]

theorem releaseConsumed_eq {pool : BufferPool} {handle : ConsumerHandle}
    (howner : pool.owner? handle.index = some .consumer) :
    pool.releaseConsumed handle = pool.setOwner handle.index .freeRing := by
  simp [releaseConsumed, transition?_eq_some howner]

theorem dropProducer_eq {pool : BufferPool} {handle : ProducerHandle}
    (howner : pool.owner? handle.index = some .producer) :
    pool.dropProducer handle = pool.setOwner handle.index .detached := by
  simp [dropProducer, transition?_eq_some howner]

theorem dropConsumer_eq {pool : BufferPool} {handle : ConsumerHandle}
    (howner : pool.owner? handle.index = some .consumer) :
    pool.dropConsumer handle = pool.setOwner handle.index .detached := by
  simp [dropConsumer, transition?_eq_some howner]

theorem put_snd_eq (pool : BufferPool) (handle : ProducerHandle) (index : ℕ)
    (sample : IvSample) :
    (pool.put handle index sample).2 =
      pool.editBuffer handle.index fun buffer => (buffer.put index sample).2 :=
  rfl

/-! ## Reclaiming -/

theorem owner?_ne_of_held_eq_zero {pool : BufferPool} (hheld : pool.held = 0)
    {index : UInt32} {owner : BufferOwner} (howner : owner.isHeld = true) :
    pool.owner? index ≠ some owner := by
  intro heq
  obtain ⟨entry, hentry, rfl⟩ := Option.map_eq_some_iff.mp heq
  have hnone := Array.countP_eq_zero.mp hheld entry (Array.mem_of_getElem? hentry)
  exact hnone howner

theorem reclaim_of_held_eq_zero {pool : BufferPool} (hheld : pool.held = 0) :
    pool.reclaim = .ok { pool with entries := pool.entries.map reclaim.free } := by
  simp [reclaim, hheld]

/-- A pool with live handles is not reclaimed, and says how many there are. -/
theorem reclaim_of_held_pos {pool : BufferPool} (hheld : 0 < pool.held) :
    pool.reclaim = .error (.buffersHeld pool.held) := by
  simp [reclaim, hheld]

theorem held_eq_zero_of_reclaim {pool next : BufferPool} (hreclaim : pool.reclaim = .ok next) :
    pool.held = 0 := by
  by_contra hheld
  rw [reclaim_of_held_pos (Nat.pos_of_ne_zero hheld)] at hreclaim
  cases hreclaim

theorem size_of_reclaim {pool next : BufferPool} (hreclaim : pool.reclaim = .ok next) :
    next.size = pool.size := by
  rw [reclaim_of_held_eq_zero (held_eq_zero_of_reclaim hreclaim), Except.ok.injEq] at hreclaim
  subst hreclaim
  simp [size]

/-- What is reclaimed keeps its content. -/
theorem buffer?_of_reclaim {pool next : BufferPool} (hreclaim : pool.reclaim = .ok next)
    (index : UInt32) : next.buffer? index = pool.buffer? index := by
  rw [reclaim_of_held_eq_zero (held_eq_zero_of_reclaim hreclaim), Except.ok.injEq] at hreclaim
  subst hreclaim
  simp only [buffer?, entry?, Array.getElem?_map, Option.map_map]
  congr 1
  funext entry
  simp only [Function.comp_apply, reclaim.free]
  split <;> rfl

/-- Once no handle is alive, reclaiming frees every buffer. -/
theorem owner?_of_reclaim {pool next : BufferPool} (hreclaim : pool.reclaim = .ok next)
    (index : UInt32) :
    next.owner? index = if index.toNat < pool.size then some .freeRing else none := by
  have hheld := held_eq_zero_of_reclaim hreclaim
  have hsize := size_of_reclaim hreclaim
  split
  · rename_i hlt
    have hentry : pool.entry? index = some pool.entries[index.toNat] :=
      Array.getElem?_eq_getElem hlt
    rw [reclaim_of_held_eq_zero hheld, Except.ok.injEq] at hreclaim
    subst hreclaim
    have hproducer : pool.owner? index ≠ some .producer := owner?_ne_of_held_eq_zero hheld rfl
    have hconsumer : pool.owner? index ≠ some .consumer := owner?_ne_of_held_eq_zero hheld rfl
    simp only [owner?, hentry, Option.map_some, ne_eq, Option.some.injEq] at hproducer hconsumer
    simp only [ entry?] at hentry
    simp only [owner?, entry?, Array.getElem?_map, hentry, Option.map_some, reclaim.free]
    cases howner : pool.entries[index.toNat].owner <;> simp_all
  · rename_i hge
    rw [owner?_eq_none_iff, hsize]
    exact Nat.not_lt.mp hge

/-! ## Counting -/

theorem nodup_indices {pool : BufferPool} (hsize : pool.size ≤ UInt32.size) :
    pool.indices.Nodup := by
  apply List.Nodup.map_on _ List.nodup_range
  intro left hleft right hright heq
  rw [List.mem_range] at hleft hright
  have hval := congrArg UInt32.toNat heq
  simp only [UInt32.size, UInt32.toNat_ofNat'] at hsize hval
  omega

theorem mem_indices {pool : BufferPool} (hsize : pool.size ≤ UInt32.size) {index : UInt32} :
    index ∈ pool.indices ↔ index.toNat < pool.size := by
  simp only [indices, List.mem_map, List.mem_range]
  constructor
  · rintro ⟨n, hn, rfl⟩
    simp only [UInt32.size, UInt32.toNat_ofNat'] at *
    omega
  · exact fun hlt => ⟨index.toNat, hlt, UInt32.ofNat_toNat⟩

/-- A list of the buffers of one owner names each of them once. -/
theorem count_indicesOf {pool : BufferPool} (hsize : pool.size ≤ UInt32.size)
    (owner : BufferOwner) (index : UInt32) :
    (pool.indicesOf owner).count index = if pool.owner? index = some owner then 1 else 0 := by
  by_cases howner : pool.owner? index = some owner
  · have hmem := (mem_indices hsize).mpr (lt_size_of_owner? howner)
    rw [if_pos howner, indicesOf, List.count_filter (by simp [howner]),
      (nodup_indices hsize).count, if_pos hmem]
  · rw [if_neg howner, List.count_eq_zero]
    simp [indicesOf, howner]

/-- So it is as long as there are buffers of that owner. -/
theorem length_indicesOf {pool : BufferPool} (hsize : pool.size ≤ UInt32.size)
    (owner : BufferOwner) : (pool.indicesOf owner).length = pool.countOwner owner := by
  have hentries : pool.entries.toList =
      (List.range pool.size).map fun n => pool.entries.getD n default := by
    apply List.ext_getElem
    · simp [size]
    · intro n hleft _
      rw [Array.length_toList] at hleft
      simp [Array.getElem?_eq_getElem hleft]
  rw [indicesOf, ← List.countP_eq_length_filter, countOwner, ← Array.countP_toList, hentries,
    indices, List.countP_map, List.countP_map]
  apply List.countP_congr
  intro n hn
  have hlt : n < pool.entries.size := List.mem_range.mp hn
  have hindex : (UInt32.ofNat n).toNat = n := by
    simp only [UInt32.toNat_ofNat']
    simp only [size, UInt32.size] at hsize
    omega
  simp [owner?, entry?, hindex, Array.getElem?_eq_getElem hlt]

/-- A list that names each buffer with a given owner once, and no other buffer. -/
def Names (pool : BufferPool) (owner : BufferOwner) (named : List UInt32) : Prop :=
  ∀ index, named.count index = if pool.owner? index = some owner then 1 else 0

namespace Names

variable {pool : BufferPool} {owner source target : BufferOwner} {named : List UInt32}
variable {index : UInt32}

theorem of_owner? {next : BufferPool} (howner : ∀ index, next.owner? index = pool.owner? index)
    (h : pool.Names owner named) : next.Names owner named := by
  intro index
  rw [howner, h]

theorem of_perm {named' : List UInt32} (hperm : named.Perm named')
    (h : pool.Names owner named) : pool.Names owner named' := by
  intro index
  rw [← h, hperm.count_eq]

theorem mem_iff (h : pool.Names owner named) :
    index ∈ named ↔ pool.owner? index = some owner := by
  rw [← List.count_pos_iff, h]
  split <;> simp_all

/-- A buffer joins the list of its new owner. -/
theorem join (h : pool.Names target named) (howner : pool.owner? index = some source)
    (hne : source ≠ target) : (pool.setOwner index target).Names target (index :: named) := by
  intro other
  rw [List.count_cons, h, owner?_setOwner howner]
  by_cases hother : other = index
  · subst hother
    simp [howner, hne]
  · simp [hother, Ne.symm hother]

/-- A buffer leaves the list of its old owner. -/
theorem leave (h : pool.Names source (index :: named)) (hne : source ≠ target) :
    (pool.setOwner index target).Names source named := by
  have howner : pool.owner? index = some source := h.mem_iff.mp List.mem_cons_self
  intro other
  have hcount := h other
  rw [List.count_cons] at hcount
  rw [owner?_setOwner howner]
  by_cases hother : other = index
  · subst hother
    simp_all [Ne.symm hne]
  · simpa [hother, Ne.symm hother] using hcount

/-- The list of a third owner stays. -/
theorem pass (h : pool.Names owner named) (howner : pool.owner? index = some source)
    (hsource : source ≠ owner) (htarget : target ≠ owner) :
    (pool.setOwner index target).Names owner named := by
  intro other
  rw [h, owner?_setOwner howner]
  by_cases hother : other = index
  · subst hother
    simp [howner, hsource, htarget]
  · simp [hother]

/-- Such a list is as long as there are buffers with the owner. -/
theorem length_eq (h : pool.Names owner named) (hsize : pool.size ≤ UInt32.size) :
    named.length = pool.countOwner owner := by
  have hperm : named.Perm (pool.indicesOf owner) := by
    rw [List.perm_iff_count]
    intro index
    rw [h, count_indicesOf hsize]
  rw [hperm.length_eq, length_indicesOf hsize]

end Names

theorem names_indicesOf {pool : BufferPool} (hsize : pool.size ≤ UInt32.size)
    (owner : BufferOwner) : pool.Names owner (pool.indicesOf owner) :=
  count_indicesOf hsize owner

/-- Every buffer has one owner. -/
theorem sum_countOwner (pool : BufferPool) :
    pool.countOwner .freeRing + pool.countOwner .producer + pool.countOwner .consumer +
      pool.countOwner .filled + pool.countOwner .detached = pool.size := by
  simp only [countOwner, size, ← Array.countP_toList, ← Array.length_toList]
  induction pool.entries.toList with
  | nil => rfl
  | cons entry rest ih =>
      simp only [List.countP_cons, List.length_cons]
      cases entry.owner <;> simp <;> omega

/-! ## A new pool -/

theorem eq_of_new {count samples : ℕ} {pool : BufferPool}
    (hnew : new count samples = .ok pool) :
    pool = { entries := Array.replicate count { buffer := .ofCapacity samples } } := by
  simp only [new] at hnew
  split at hnew
  · cases hnew
  · split at hnew
    · cases hnew
    · exact (Except.ok.inj hnew).symm

theorem size_of_new {count samples : ℕ} {pool : BufferPool}
    (hnew : new count samples = .ok pool) : pool.size = count := by
  rw [eq_of_new hnew, size, Array.size_replicate]

theorem size_le_of_new {count samples : ℕ} {pool : BufferPool}
    (hnew : new count samples = .ok pool) : count ≤ ringCapacity := by
  simp only [new] at hnew
  split at hnew
  · cases hnew
  · omega

theorem entry?_of_new {count samples : ℕ} {pool : BufferPool}
    (hnew : new count samples = .ok pool) (index : UInt32) :
    pool.entry? index =
      if index.toNat < count then some { buffer := .ofCapacity samples } else none := by
  rw [eq_of_new hnew, entry?, Array.getElem?_replicate]

theorem entries_of_attach {pool next : BufferPool} (hattach : pool.attach = .ok next) :
    next.entries = pool.entries := by
  simp only [attach] at hattach
  split at hattach
  · cases hattach
  · cases hattach
    rfl

end HarvestTestbed.BufferPool
