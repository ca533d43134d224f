import HarvestTestbed.Proofs.CacheWindow

/-!
# The staged window of the trace

The cache stands between the readers of an input trace and the slow memory that the trace is in.  Its
window slides when a reader passes its oldest block, starts again where a reader has jumped to, and
is emptied by a reset, while the trace behind it grows.  A block is staged once all of it has been
written, and what has been written does not change.  So at every moment a reader gets the sample
that the trace has at that moment.

The end of a block is computed in words.  For a reader in the last block of the range it wraps, and
the block is staged although the trace is nowhere near it.  The readers still get what the trace
has: no trace that fits memory ever comes to the samples of such a block (`Staged.settled`).  But
where the number of the block after it wraps as well, which takes blocks of one sample and a reader
at the last index there is, the window ends before it begins (`Overrun`).  From then on it serves
nobody, and its marks and its fill level may part.
-/

namespace HarvestTestbed

namespace TraceCache

variable {cache : TraceCache} {cfg : CacheConfig} {reader : UInt64}

/-! ## What the slots hold -/

/-- A sample of a staged block has been written, or no trace in memory ever comes to it. -/
theorem Staged.settled (h : cache.Staged cfg) {index : UInt64}
    (hblock : cache.InWindow (index / cache.blockSamples).toNat) :
    index.toNat < cache.source.available ∨ 2 ^ 64 - 2 ^ 32 ≤ index.toNat := by
  rw [UInt64.toNat_div, h.blockSamples_eq] at hblock
  have hstart := Nat.div_mul_le_self index.toNat cfg.blockSamples.toNat
  have hend : index.toNat < _ + cfg.blockSamples.toNat := Nat.lt_div_mul_add h.samples
  have hsucc := Nat.add_one_mul (index.toNat / cfg.blockSamples.toNat) cfg.blockSamples.toNat
  have hsize := cfg.blockSamples.toNat_lt
  by_cases hrange : (index.toNat / cfg.blockSamples.toNat + 1) * cfg.blockSamples.toNat < 2 ^ 64
  · have hwritten := h.written _ hblock hrange
    exact .inl (by omega)
  · exact .inr (by omega)

/-- The slots hold the samples that the trace has. -/
def Copied (cache : TraceCache) : Prop :=
  ∀ index : UInt64, cache.InWindow (index / cache.blockSamples).toNat →
    cache.staged index = cache.source.read index.toNat

namespace Copied

theorem empty (htail : cache.tail = 0) : cache.Copied := by
  intro index hblock
  simp [InWindow, htail] at hblock

/-- The slot of a block that leaves the window is read no more. -/
theorem evict (h : cache.Copied) (reader : UInt64) : (cache.evict reader).2.Copied := by
  rw [TraceCache.evict]
  split_ifs with hpassed
  · intro index hblock
    have hlater := (toNat_head_succ hpassed.1).symm.trans_le hblock.1
    exact h index ⟨(Nat.le_succ _).trans hlater, hblock.2⟩
  · exact h

/-- A window that is moved while it is empty holds nothing to be right about. -/
theorem catchUp (h : cache.Copied) (reader : UInt64) : (cache.catchUp reader).Copied := by
  simp only [TraceCache.catchUp]
  split_ifs with hpassed
  · intro index hblock
    exact absurd (hblock.1.trans_lt hblock.2) (lt_irrefl _)
  · exact h

theorem slid (h : cache.Copied) (reader : UInt64) : (cache.slid reader).Copied :=
  (h.evict reader).catchUp reader

/-- The copy of the next block overwrites none of the window. -/
theorem grow (h : cache.Copied) (hstaged : cache.Staged cfg)
    (hroom : cache.tail.toNat - cache.head.toNat < cache.cfg.blocks.toNat) {tail : UInt64}
    (htail : tail.toNat = cache.tail.toNat + 1) (present : Bitmap) (fillLevel : ℕ) :
    Copied { cache with
      slots := cache.slots.setIfInBounds (cache.slotOf cache.tail.toNat)
        (cache.source.slice (cache.tail * cache.blockSamples) cache.blockSamples.toNat)
      present := present
      tail := tail
      fillLevel := fillLevel } := by
  rintro index ⟨hstart, hinside⟩
  change ((cache.slots.setIfInBounds (cache.slotOf cache.tail.toNat) _).getD
    (cache.slotOf (index / cache.blockSamples).toNat) #[]).getD
      (index % cache.blockSamples).toNat {} = cache.source.read index.toNat
  obtain hbefore | hlast := Nat.lt_succ_iff_lt_or_eq.mp (hinside.trans_eq htail)
  · have hblock : cache.InWindow (index / cache.blockSamples).toNat := ⟨hstart, hbefore⟩
    have hdiffer : cache.slotOf cache.tail.toNat ≠
        cache.slotOf (index / cache.blockSamples).toNat := fun hsame =>
      hstaged.window.free hroom ((hstaged.window.marked _).mpr ⟨_, hblock, hsame.symm⟩)
    refine Eq.trans ?_ (h index hblock)
    simp only [staged, Array.getD_eq_getD_getElem?]
    rw [Array.getElem?_setIfInBounds_ne hdiffer]
  · have hslot : cache.slotOf cache.tail.toNat < cache.slots.size :=
      hstaged.fits.slots ▸ hstaged.slotOf_lt _
    have hcopy : ∀ copy, (cache.slots.setIfInBounds (cache.slotOf cache.tail.toNat) copy).getD
        (cache.slotOf cache.tail.toNat) #[] = copy := by
      intro copy
      rw [Array.getD_eq_getD_getElem?, Array.getElem?_setIfInBounds_self_of_lt hslot,
        Option.getD_some]
    have hblock : index / cache.blockSamples = cache.tail := UInt64.toNat_inj.mp hlast
    rw [hblock, hcopy, ← hblock]
    exact Trace.getD_slice_block (hstaged.blockSamples_eq ▸ hstaged.samples) index

theorem fetch (h : cache.Copied) (hstaged : cache.Staged cfg)
    (hnext : cache.tail.toNat + 1 < 2 ^ 64) : cache.fetch.2.Copied := by
  simp only [TraceCache.fetch]
  split_ifs with hready
  · exact h.grow hstaged (hstaged.toNat_sub ▸ hready.1) (toNat_succ hnext) _ _
  · exact h

/-- What is staged stays right while the trace grows within memory. -/
theorem append (h : cache.Copied) (hstaged : cache.Staged cfg) {more : Array IvSample}
    (hmemory : (cache.source.append more).InMemory) : (cache.append more).Copied := by
  intro index hblock
  refine (h index hblock).trans ?_
  obtain hwritten | hbeyond := hstaged.settled hblock
  · exact (Trace.read_append_of_lt hwritten more).symm
  · have hgrown := Trace.available_append cache.source more
    rw [Trace.InMemory, hgrown] at hmemory
    have hafter : (cache.source.append more).available ≤ index.toNat := by omega
    have hbefore : cache.source.available ≤ index.toNat := by omega
    exact (Trace.read_of_available_le hbefore).trans (Trace.read_of_available_le hafter).symm

end Copied

/-- A block can be served when it is in the window: its mark adds nothing to that. -/
theorem inWindow_of_holds {block : UInt64} (hholds : cache.holds block = true) :
    cache.InWindow block.toNat := by
  simp only [holds, Bool.and_eq_true, decide_eq_true_eq] at hholds
  exact ⟨UInt64.le_iff_toNat_le.mp hholds.1.1.2, UInt64.lt_iff_toNat_lt.mp hholds.1.2⟩

/-- The window ends before it begins. -/
def Overrun (cache : TraceCache) : Prop :=
  cache.tail.toNat < cache.head.toNat

namespace Overrun

theorem read (h : cache.Overrun) (position : ℕ) : (cache.read position).2.Overrun := by
  obtain ⟨hits, misses, hread⟩ := cache.read_snd_eq position
  rw [hread]
  exact h

theorem slid (h : cache.Overrun) (reader : UInt64) : (cache.slid reader).Overrun := by
  have hevict : ¬ (cache.head < cache.tail ∧ cache.endOf cache.head ≤ reader) :=
    fun ⟨hoccupied, _⟩ => Nat.lt_asymm h (UInt64.lt_iff_toNat_lt.mp hoccupied)
  rw [TraceCache.slid, evict, if_neg hevict]
  simp only [catchUp]
  split_ifs with hempty
  · exact absurd h (by rw [Overrun, hempty.1]; exact lt_irrefl _)
  · exact h

/-- There are at least as many blocks that the window leaves out as there are words less slots. -/
theorem fetch (h : cache.Overrun) : cache.fetch.2.Overrun := by
  simp only [TraceCache.fetch]
  split_ifs with hready
  · have hroom := hready.1
    have hblocks := cache.cfg.blocks.toNat_lt
    have hhead := cache.head.toNat_lt
    rw [Overrun] at h ⊢
    have hgap : 2 ^ 64 - cache.head.toNat + cache.tail.toNat < 2 ^ 64 := by omega
    rw [UInt64.toNat_sub, Nat.mod_eq_of_lt hgap] at hroom
    dsimp only
    rw [toNat_succ (by omega)]
    omega
  · exact h

end Overrun

/-- The number after the last block is taken for the first one. -/
theorem Staged.overrun_fetch (h : cache.Staged cfg) (hlast : ¬ cache.tail.toNat + 1 < 2 ^ 64)
    (hfetched : cache.fetch.1 = true) : cache.fetch.2.Overrun := by
  simp only [TraceCache.fetch] at hfetched ⊢
  split_ifs at hfetched ⊢ with hready
  have hroom := hready.1
  have hblocks := cache.cfg.blocks.toNat_lt
  have htail := cache.tail.toNat_lt
  rw [h.toNat_sub] at hroom
  rw [Overrun, UInt64.toNat_add, UInt64.toNat_one]
  dsimp only
  omega

/-- The readers get what the trace has: what is staged is right, or none of it is served. -/
inductive Serving (cfg : CacheConfig) (cache : TraceCache) : Prop
  | staged (window : cache.Staged cfg) (copied : cache.Copied)
  | overrun (shape : cache.Shaped cfg) (ends : cache.Overrun)

namespace Serving

theorem shape (h : cache.Serving cfg) : cache.Shaped cfg := by
  cases h with
  | staged window copied => exact window.toShaped
  | overrun shape ends => exact shape

theorem read (h : cache.Serving cfg) (position : ℕ) : (cache.read position).2.Serving cfg := by
  cases h with
  | staged window copied =>
      obtain ⟨hits, misses, hread⟩ := cache.read_snd_eq position
      exact .staged (window.read position) (hread ▸ copied)
  | overrun shape ends =>
      exact .overrun ⟨shape.fits.read position, shape.blocks, shape.samples⟩ (ends.read position)

theorem slid (h : cache.Serving cfg) (reader : UInt64) : (cache.slid reader).Serving cfg := by
  cases h with
  | staged window copied => exact .staged (window.slid reader) (copied.slid reader)
  | overrun shape ends =>
      exact .overrun ⟨(shape.fits.evict reader).catchUp reader, shape.blocks, shape.samples⟩
        (ends.slid reader)

theorem fetch (h : cache.Serving cfg) : cache.fetch.2.Serving cfg := by
  have hshape : cache.fetch.2.Shaped cfg := ⟨h.shape.fits.fetch, h.shape.blocks, h.shape.samples⟩
  cases h with
  | overrun shape ends => exact .overrun hshape ends.fetch
  | staged window copied =>
      by_cases hnext : cache.tail.toNat + 1 < 2 ^ 64
      · exact .staged (window.fetch hnext) (copied.fetch window hnext)
      by_cases hfetched : cache.fetch.1 = true
      · exact .overrun hshape (window.overrun_fetch hnext hfetched)
      · have hkept : cache.fetch.2 = cache := by
          simp only [TraceCache.fetch] at hfetched ⊢
          split_ifs at hfetched ⊢
          · exact absurd rfl hfetched
          · rfl
        exact hkept.symm ▸ .staged window copied

/-- By the three parts of a maintenance. -/
theorem maintain (h : cache.Serving cfg) (reader : ℕ) :
    (cache.maintain reader).2.Serving cfg := by
  rw [TraceCache.maintain]
  split_ifs
  · exact (h.slid _).fetch
  · exact h

theorem reset (h : cache.Serving cfg) : cache.reset.Serving cfg :=
  .staged h.shape.reset (.empty rfl)

theorem append (h : cache.Serving cfg) {more : Array IvSample}
    (hmemory : (cache.source.append more).InMemory) : (cache.append more).Serving cfg := by
  cases h with
  | staged window copied => exact .staged (window.append more) (copied.append window hmemory)
  | overrun shape ends =>
      exact .overrun ⟨shape.fits.append more, shape.blocks, shape.samples⟩ ends

end Serving

theorem tail_evict (cache : TraceCache) (reader : UInt64) :
    (cache.evict reader).2.tail = cache.tail := by
  rw [evict]
  split_ifs <;> rfl

/-! ## A window that stays in range -/

/-- The window does not end at the last block number.  It may go beyond the last index, but no
further than the trace is long. -/
structure Ranged (cfg : CacheConfig) (cache : TraceCache) : Prop extends cache.Staged cfg where
  next : cache.tail.toNat + 1 < 2 ^ 64
  near : cache.tail.toNat * cfg.blockSamples.toNat ≤ 2 ^ 64 + 2 ^ 60

namespace Ranged

theorem ofEmpty (h : cache.Staged cfg) (htail : cache.tail = 0) : cache.Ranged cfg where
  toStaged := h
  next := by simp [htail]
  near := by simp [htail]

theorem read (h : cache.Ranged cfg) (position : ℕ) : (cache.read position).2.Ranged cfg := by
  have hstaged := h.toStaged.read position
  obtain ⟨hits, misses, hread⟩ := cache.read_snd_eq position
  rw [hread] at hstaged ⊢
  exact ⟨hstaged, h.next, h.near⟩

/-- Only a block of one sample can have the last block number. -/
theorem slid (h : cache.Ranged cfg) (hreader : 1 < cfg.blockSamples ∨ reader ≠ 0xffffffffffffffff) :
    (cache.slid reader).Ranged cfg := by
  have htail := tail_evict cache reader
  have hblock := (h.evict reader).blockSamples_eq
  have hcovered := Nat.div_mul_le_self reader.toNat cfg.blockSamples.toNat
  have hrange := reader.toNat_lt
  have hnext : reader.toNat / cfg.blockSamples.toNat + 1 < 2 ^ 64 := by
    obtain hsamples | hreader := hreader
    · have hhalf : reader.toNat / cfg.blockSamples.toNat ≤ reader.toNat / 2 :=
        Nat.div_le_div_left (UInt32.lt_iff_toNat_lt.mp hsamples) (by decide)
      omega
    · have hbefore : reader.toNat ≠ 0xffffffffffffffff :=
        fun hlast => hreader (UInt64.toNat_inj.mp hlast)
      have := Nat.div_le_self reader.toNat cfg.blockSamples.toNat
      omega
  refine ⟨h.toStaged.slid reader, ?_, ?_⟩
  · simp only [TraceCache.slid, TraceCache.catchUp]
    split_ifs
    · rwa [UInt64.toNat_div, hblock]
    · rw [htail]
      exact h.next
  · simp only [TraceCache.slid, TraceCache.catchUp]
    split_ifs
    · rw [UInt64.toNat_div, hblock]
      omega
    · rw [htail]
      exact h.near

/-- The end of the next block is past the last index, if it is, by less than the trace is long. -/
theorem fetch (h : cache.Ranged cfg) (hmemory : cache.source.InMemory) :
    cache.fetch.2.Ranged cfg := by
  have hnext := h.next
  have hnear := h.near
  have hgrown := toNat_succ hnext
  have hfetched := h.toStaged.fetch hnext
  simp only [TraceCache.fetch] at hfetched ⊢
  split_ifs at hfetched ⊢ with hready
  · have hend := hready.2
    have hsize := cfg.blockSamples.toNat_lt
    have hsamples := h.samples
    have hsucc := Nat.add_one_mul cache.tail.toNat cfg.blockSamples.toNat
    rw [toNat_endOf, h.blockSamples_eq] at hend
    rw [Trace.InMemory] at hmemory
    have hplaced : (cache.tail.toNat + 1) * cfg.blockSamples.toNat < 2 ^ 60 ∨
        2 ^ 64 ≤ (cache.tail.toNat + 1) * cfg.blockSamples.toNat ∧
          (cache.tail.toNat + 1) * cfg.blockSamples.toNat ≤ 2 ^ 64 + 2 ^ 60 := by
      omega
    refine ⟨hfetched, ?_, ?_⟩
    · dsimp only
      rw [hgrown]
      obtain hone | hmore := Nat.eq_or_lt_of_le (Nat.succ_le_of_lt hsamples)
      · rw [← hone] at hplaced
        omega
      · have hhalf : (cache.tail.toNat + 1) * 2 ≤
            (cache.tail.toNat + 1) * cfg.blockSamples.toNat := Nat.mul_le_mul_left _ hmore
        omega
    · dsimp only
      rw [hgrown]
      omega
  · exact h

/-- Only a reader in the very last block can bring the window to its end, and with more than one
sample in a block there is none. -/
theorem maintain (h : cache.Ranged cfg) (hmemory : (cache.slid reader).source.InMemory)
    (hreader : 1 < cfg.blockSamples ∨ reader ≠ 0xffffffffffffffff) :
    (cache.maintain reader.toNat).2.Ranged cfg := by
  simp only [TraceCache.maintain, UInt64.ofNat_toNat]
  split_ifs
  · exact (h.slid hreader).fetch hmemory
  · exact h

end Ranged

end TraceCache

/-! ## Runs -/

inductive CacheCall
  | read (index : UInt64)
  | maintain (reader : UInt64)
  | reset
  /-- The producer of the trace writes more of it. -/
  | append (more : Array IvSample)

namespace TraceCache

def call (cache : TraceCache) : CacheCall → Option IvSample × TraceCache
  | .read index => ((cache.read index.toNat).1, (cache.read index.toNat).2)
  | .maintain reader => (none, (cache.maintain reader.toNat).2)
  | .reset => (none, cache.reset)
  | .append more => (none, cache.append more)

def after (cache : TraceCache) (calls : List CacheCall) : TraceCache :=
  calls.foldl (fun cache call => (cache.call call).2) cache

/-- The samples that the readers get, in order. -/
def readings (cache : TraceCache) : List CacheCall → List IvSample
  | [] => []
  | call :: calls => (cache.call call).1.toList ++ (cache.call call).2.readings calls

end TraceCache

namespace Trace

def call (trace : Trace) : CacheCall → Trace
  | .append more => trace.append more
  | _ => trace

/-- The trace as its producer leaves it. -/
def after (trace : Trace) (calls : List CacheCall) : Trace :=
  calls.foldl call trace

/-- The samples that readers of the trace itself get at the moments of their readings. -/
def readings (trace : Trace) : List CacheCall → List IvSample
  | [] => []
  | .read index :: calls => trace.read index.toNat :: trace.readings calls
  | .append more :: calls => (trace.append more).readings calls
  | .maintain _ :: calls | .reset :: calls => trace.readings calls

/-- The producer only appends. -/
theorem available_le_after (trace : Trace) (calls : List CacheCall) :
    trace.available ≤ (trace.after calls).available := by
  induction calls generalizing trace with
  | nil => exact le_rfl
  | cons call calls ih =>
      have hcall : trace.available ≤ (trace.call call).available := by
        cases call with
        | append more => exact (Nat.le_add_right _ _).trans_eq (trace.available_append more).symm
        | read | maintain | reset => exact le_rfl
      exact hcall.trans (ih _)

/-- A trace that fits memory in the end has done so all the time. -/
theorem InMemory.before {trace : Trace} {calls : List CacheCall}
    (h : (trace.after calls).InMemory) : trace.InMemory :=
  (Nat.mul_le_mul_left 8 (trace.available_le_after calls)).trans_lt h

end Trace

namespace TraceCache

variable {cache : TraceCache} {cfg : CacheConfig}

theorem source_slid (cache : TraceCache) (reader : UInt64) :
    (cache.slid reader).source = cache.source := by
  simp only [slid, catchUp, evict]
  split_ifs <;> rfl

theorem source_fetch (cache : TraceCache) : cache.fetch.2.source = cache.source := by
  simp only [fetch]
  split_ifs <;> rfl

theorem source_call (cache : TraceCache) (call : CacheCall) :
    (cache.call call).2.source = cache.source.call call := by
  cases call with
  | read index =>
      obtain ⟨hits, misses, hread⟩ := cache.read_snd_eq index.toNat
      rw [TraceCache.call, hread]
      rfl
  | maintain reader =>
      simp only [TraceCache.call, maintain]
      split
      · exact (source_fetch _).trans (source_slid _ _)
      · rfl
  | reset => rfl
  | append more => rfl

theorem Shaped.call (h : cache.Shaped cfg) (call : CacheCall) :
    (cache.call call).2.Shaped cfg := by
  refine ⟨?_, h.blocks, h.samples⟩
  cases call with
  | read index => exact h.fits.read index.toNat
  | maintain reader => exact h.fits.maintain reader.toNat
  | reset => exact h.fits.reset
  | append more => exact h.fits.append more

/-- No call changes the shape of a cache. -/
theorem Shaped.after (h : cache.Shaped cfg) (calls : List CacheCall) :
    (cache.after calls).Shaped cfg := by
  induction calls generalizing cache with
  | nil => exact h
  | cons call calls ih => exact ih (h.call call)

namespace Serving

/-- One call keeps what readers rely on, as long as the trace behind it fits the memory. -/
theorem call (h : cache.Serving cfg) {call : CacheCall}
    (hmemory : (cache.source.call call).InMemory) : (cache.call call).2.Serving cfg := by
  cases call with
  | read index => exact h.read index.toNat
  | maintain reader => exact h.maintain reader.toNat
  | reset => exact h.reset
  | append more => exact h.append hmemory

end Serving

namespace Ranged

theorem call (h : cache.Ranged cfg) {call : CacheCall} (hmemory : cache.source.InMemory)
    (hcall : 1 < cfg.blockSamples ∨ call ≠ .maintain 0xffffffffffffffff) :
    (cache.call call).2.Ranged cfg := by
  cases call with
  | read index => exact h.read index.toNat
  | maintain reader =>
      refine h.maintain (cache.source_slid reader ▸ hmemory) ?_
      exact hcall.imp_right fun hother heq => hother (heq ▸ rfl)
  | reset => exact .ofEmpty h.toShaped.reset rfl
  | append more => exact ⟨h.toStaged.append more, h.next, h.near⟩

/-- By induction on the calls, among which none brings the window to its end. -/
theorem after (h : cache.Ranged cfg) {calls : List CacheCall}
    (hmemory : (cache.source.after calls).InMemory)
    (hcalls : 1 < cfg.blockSamples ∨ .maintain 0xffffffffffffffff ∉ calls) :
    (cache.after calls).Ranged cfg := by
  induction calls generalizing cache with
  | nil => exact h
  | cons call calls ih =>
      have hrest : ((cache.source.call call).after calls).InMemory := hmemory
      rw [List.mem_cons, not_or] at hcalls
      have hkept := h.call hmemory.before (hcalls.imp_right fun hother => Ne.symm hother.1)
      exact ih hkept (cache.source_call call ▸ hrest) (hcalls.imp_right And.right)

end Ranged

theorem exists_new (hvalid : cfg.validate = .ok ()) (source : Trace) :
    ∃ cache, TraceCache.new source cfg = .ok cache := by
  simp only [TraceCache.new, hvalid]
  exact ⟨_, rfl⟩

/-- A new cache has an empty window. -/
theorem ends_new {source : Trace} (hnew : TraceCache.new source cfg = .ok cache) :
    cache.head = 0 ∧ cache.tail = 0 := by
  simp only [TraceCache.new, bind, Except.bind] at hnew
  split at hnew
  · cases hnew
  · cases hnew
    exact ⟨rfl, rfl⟩

theorem Serving.new {source : Trace} (hnew : TraceCache.new source cfg = .ok cache) :
    cache.Serving cfg :=
  .staged (.new hnew) (.empty (ends_new hnew).2)

end TraceCache

end HarvestTestbed
