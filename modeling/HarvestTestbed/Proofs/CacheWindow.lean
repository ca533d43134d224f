import Mathlib
import HarvestTestbed.Proofs.EngineReset

/-!
# The window of the trace cache

The cache keeps a window of consecutive blocks of its trace, and a block goes to the slot that is its
number modulo the size of the window.  Two blocks share a slot only if they are a whole window apart,
so the blocks of one window are in slots of their own, and a mark on a slot says which block is
there (`Windowed`).  A block is staged once all of it has been written (`Staged`).

Block numbers are words.  Each operation keeps the window as long as the number after its last block
is one: what is stored in a slot, and which numbers may wrap, is the subject of the staging.
-/

namespace HarvestTestbed

/-! ## Configurations -/

/-- A valid window has room for a block, and its blocks for a sample. -/
theorem CacheConfig.pos_of_validate {cfg : CacheConfig} (hvalid : cfg.validate = .ok ()) :
    0 < cfg.blocks.toNat ∧ 0 < cfg.blockSamples.toNat := by
  simp only [CacheConfig.validate] at hvalid
  split at hvalid
  · cases hvalid
  rename_i hblocks
  split at hvalid
  · cases hvalid
  rename_i hsamples
  simp only [Nat.pos_iff_ne_zero]
  exact ⟨fun hzero => hblocks (.inl (UInt8.toNat_inj.mp hzero)),
    fun hzero => hsamples (UInt32.toNat_inj.mp hzero)⟩

/-! ## Marks -/

namespace Bitmap

variable {bitmap : Bitmap} {bit other : ℕ}

/-- Setting a mark sets that one. -/
theorem test_set_iff (hbit : bit < bitmap.width) :
    (bitmap.set bit).test other = true ↔ other = bit ∨ bitmap.test other = true := by
  refine ⟨test_of_test_set, fun hother => ?_⟩
  by_cases hsame : other = bit
  · subst hsame
    simp only [width] at hbit
    simp [test, set, Array.getD_eq_getD_getElem?, hbit]
  · simpa [test, set, Array.getD_eq_getD_getElem?, Array.getElem?_setIfInBounds,
      Ne.symm hsame] using hother.resolve_left hsame

theorem test_clear_iff :
    (bitmap.clear bit).test other = true ↔ other ≠ bit ∧ bitmap.test other = true := by
  refine ⟨fun hother => ⟨?_, test_of_test_clear hother⟩, fun ⟨hdiffer, hother⟩ => ?_⟩
  · rintro rfl
    simp only [test, clear, Array.getD_eq_getD_getElem?, Array.getElem?_setIfInBounds] at hother
    split at hother
    · split at hother <;> cases hother
    · contradiction
  · simpa [test, clear, Array.getD_eq_getD_getElem?, Array.getElem?_setIfInBounds,
      Ne.symm hdiffer] using hother

theorem test_ofWidth (marks : ℕ) (bit : ℕ) : (ofWidth marks).test bit = false := by
  simp only [test, ofWidth, Array.getD_eq_getD_getElem?, Array.getElem?_replicate]
  split <;> rfl

@[simp]
theorem count_ofWidth (marks : ℕ) : (ofWidth marks).count = 0 := by
  simp [count, ofWidth, Array.count_replicate]

/-- A mark that was clear counts once more when it is set. -/
theorem count_set (hbit : bit < bitmap.width) (hfree : ¬ bitmap.test bit = true) :
    (bitmap.set bit).count = bitmap.count + 1 := by
  simp only [width] at hbit
  have hmark : bitmap.marks[bit] = false := by
    simpa [test, Array.getD_eq_getD_getElem?, hbit] using hfree
  simp [count, set, Array.setIfInBounds_def, hbit, Array.count_set, hmark]

theorem count_clear (hbit : bit < bitmap.width) (hset : bitmap.test bit = true) :
    (bitmap.clear bit).count = bitmap.count - 1 := by
  simp only [width] at hbit
  have hmark : bitmap.marks[bit] = true := by
    simpa [test, Array.getD_eq_getD_getElem?, hbit] using hset
  simp [count, clear, Array.setIfInBounds_def, hbit, Array.count_set, hmark]

end Bitmap

/-! ## The trace behind the cache -/

namespace Trace

variable {trace : Trace} {index : ℕ}

/-- What has been written stays as it is. -/
theorem read_append_of_lt (hwritten : index < trace.available) (more : Array IvSample) :
    (trace.append more).read index = trace.read index := by
  simp only [available] at hwritten
  simp [read, append, Array.getD_eq_getD_getElem?, Array.getElem?_append, hwritten]

theorem read_of_available_le (hbeyond : trace.available ≤ index) : trace.read index = {} := by
  simp only [available] at hbeyond
  simp [read, Array.getD_eq_getD_getElem?, Array.getElem?_eq_none hbeyond]

@[simp]
theorem available_append (trace : Trace) (more : Array IvSample) :
    (trace.append more).available = trace.available + more.size :=
  Array.size_append

/-- A slice holds the samples of the trace until its index wraps. -/
theorem getD_slice {start : UInt64} {count offset : ℕ} (hoffset : offset < count)
    (hrange : start.toNat + offset < 2 ^ 64) :
    (trace.slice start count).getD offset {} = trace.read (start.toNat + offset) := by
  have hword : (start + UInt64.ofNat offset).toNat = start.toNat + offset := by
    rw [UInt64.toNat_add, UInt64.toNat_ofNat', Nat.add_mod_mod, Nat.mod_eq_of_lt hrange]
  rw [slice, Array.getD_eq_getD_getElem?, Array.getElem?_ofFn, dif_pos hoffset, Option.getD_some]
  exact congrArg trace.read hword

/-- The copy of a block has its samples, as far as there are indices for them. -/
theorem getD_slice_block {samples : UInt64} (hsamples : 0 < samples.toNat) (index : UInt64) :
    (trace.slice (index / samples * samples) samples.toNat).getD (index % samples).toNat {} =
      trace.read index.toNat := by
  have hstart := Nat.div_mul_le_self index.toNat samples.toNat
  have hfirst : (index / samples * samples).toNat = index.toNat / samples.toNat * samples.toNat := by
    rw [UInt64.toNat_mul, UInt64.toNat_div, Nat.mod_eq_of_lt (hstart.trans_lt index.toNat_lt)]
  have hindex : (index / samples * samples).toNat + (index % samples).toNat = index.toNat := by
    rw [hfirst, UInt64.toNat_mod, Nat.div_add_mod']
  have hoffset : (index % samples).toNat < samples.toNat := by
    rw [UInt64.toNat_mod]
    exact Nat.mod_lt _ hsamples
  rw [getD_slice hoffset (hindex.trans_lt index.toNat_lt), hindex]

/-- A sample takes eight bytes, and no array has more bytes than a signed word can count. -/
def InMemory (trace : Trace) : Prop :=
  8 * trace.available < 2 ^ 63

end Trace

/-! ## The window -/

namespace TraceCache

variable {cache : TraceCache} {cfg : CacheConfig} {block other slot : ℕ} {reader : UInt64}

/-- The end of a block is reduced to the range of an index. -/
theorem toNat_endOf (cache : TraceCache) (block : UInt64) :
    (cache.endOf block).toNat = (block.toNat + 1) * cache.blockSamples.toNat % 2 ^ 64 := by
  rw [endOf, UInt64.toNat_mul, UInt64.toNat_add, UInt64.toNat_one, Nat.mod_mul_mod]

theorem toNat_succ {word : UInt64} (hnext : word.toNat + 1 < 2 ^ 64) :
    (word + 1).toNat = word.toNat + 1 := by
  rw [UInt64.toNat_add, UInt64.toNat_one, Nat.mod_eq_of_lt hnext]

/-- There is a block after the oldest one of a window that has any. -/
theorem toNat_head_succ (hoccupied : cache.head < cache.tail) :
    (cache.head + 1).toNat = cache.head.toNat + 1 := by
  rw [UInt64.lt_iff_toNat_lt] at hoccupied
  exact toNat_succ (Nat.lt_of_le_of_lt hoccupied cache.tail.toNat_lt)

def InWindow (cache : TraceCache) (block : ℕ) : Prop :=
  cache.head.toNat ≤ block ∧ block < cache.tail.toNat

/-- The window is at most as large as it may be, and its marks and counters tell its blocks. -/
structure Windowed (cache : TraceCache) : Prop where
  ordered : cache.head.toNat ≤ cache.tail.toNat
  room : cache.tail.toNat - cache.head.toNat ≤ cache.cfg.blocks.toNat
  marked : ∀ slot, cache.present.test slot = true ↔
    ∃ block, cache.InWindow block ∧ cache.slotOf block = slot
  level : cache.fillLevel = cache.tail.toNat - cache.head.toNat
  count : cache.presentCount = cache.tail.toNat - cache.head.toNat

/-- As many consecutive blocks as there are slots are in slots of their own. -/
theorem eq_of_slotOf_eq {first : ℕ}
    (hblock : first ≤ block ∧ block < first + cache.cfg.blocks.toNat)
    (hother : first ≤ other ∧ other < first + cache.cfg.blocks.toNat)
    (hslot : cache.slotOf block = cache.slotOf other) : block = other :=
  Nat.mod_injOn_Ico first cache.cfg.blocks.toNat (Finset.mem_coe.mpr (Finset.mem_Ico.mpr hblock))
    (Finset.mem_coe.mpr (Finset.mem_Ico.mpr hother)) hslot

/-- So the blocks of one window are. -/
theorem Windowed.slotOf_inj (h : cache.Windowed) (hblock : cache.InWindow block)
    (hother : cache.InWindow other) (hslot : cache.slotOf block = cache.slotOf other) :
    block = other := by
  have hroom : cache.tail.toNat ≤ cache.head.toNat + cache.cfg.blocks.toNat :=
    Nat.sub_le_iff_le_add'.mp h.room
  exact eq_of_slotOf_eq ⟨hblock.1, hblock.2.trans_le hroom⟩ ⟨hother.1, hother.2.trans_le hroom⟩ hslot

/-- The block that the window would grow by has a slot that is free while the window has room. -/
theorem Windowed.free (h : cache.Windowed)
    (hroom : cache.tail.toNat - cache.head.toNat < cache.cfg.blocks.toNat) :
    ¬ cache.present.test (cache.slotOf cache.tail.toNat) = true := by
  intro hmarked
  obtain ⟨block, hblock, hslot⟩ := (h.marked _).mp hmarked
  have hend : cache.tail.toNat < cache.head.toNat + cache.cfg.blocks.toNat :=
    (Nat.sub_lt_iff_lt_add' h.ordered).mp hroom
  have heq := eq_of_slotOf_eq ⟨hblock.1, hblock.2.trans hend⟩ ⟨h.ordered, hend⟩ hslot
  exact absurd hblock.2 (heq ▸ lt_irrefl _)

/-- A window with no blocks and no marks. -/
theorem Windowed.empty (marks : ℕ) (hpresent : cache.present = .ofWidth marks)
    (hhead : cache.head = 0) (htail : cache.tail = 0) (hlevel : cache.fillLevel = 0) :
    cache.Windowed where
  ordered := by rw [hhead, htail]
  room := by simp [htail]
  marked slot := by
    rw [hpresent, Bitmap.test_ofWidth]
    refine iff_of_false Bool.false_ne_true ?_
    rintro ⟨block, hblock, -⟩
    simp [InWindow, htail] at hblock
  level := by simp [hlevel, htail]
  count := by simp [presentCount, hpresent, htail]

/-- The oldest block leaves, and with it the mark on its slot, which no other block has. -/
theorem Windowed.dropOldest (h : cache.Windowed) (hoccupied : cache.head.toNat < cache.tail.toNat)
    (hbit : cache.slotOf cache.head.toNat < cache.present.width) {head : UInt64}
    (hhead : head.toNat = cache.head.toNat + 1) :
    Windowed { cache with
      present := cache.present.clear (cache.slotOf cache.head.toNat)
      head := head
      fillLevel := cache.fillLevel - 1 } where
  ordered := hhead.trans_le hoccupied
  room := by
    have := h.room
    dsimp only
    omega
  marked slot := by
    have holdest : cache.InWindow cache.head.toNat := ⟨le_rfl, hoccupied⟩
    refine Bitmap.test_clear_iff.trans ⟨fun ⟨hdiffer, hmarked⟩ => ?_, ?_⟩
    · obtain ⟨block, hblock, rfl⟩ := (h.marked slot).mp hmarked
      have hne : block ≠ cache.head.toNat := fun heq => hdiffer (by rw [heq])
      refine ⟨block, ⟨?_, hblock.2⟩, rfl⟩
      exact hhead.trans_le (lt_of_le_of_ne hblock.1 hne.symm)
    · rintro ⟨block, ⟨hlater, hinside⟩, rfl⟩
      have hlater : cache.head.toNat < block := hhead.symm.trans_le hlater
      have hblock : cache.InWindow block := ⟨hlater.le, hinside⟩
      refine ⟨fun hslot => ?_, (h.marked _).mpr ⟨block, hblock, rfl⟩⟩
      exact absurd (h.slotOf_inj hblock holdest hslot) hlater.ne'
  level := by
    have := h.level
    dsimp only
    omega
  count := by
    have hmark : cache.present.test (cache.slotOf cache.head.toNat) = true :=
      (h.marked _).mpr ⟨_, ⟨le_rfl, hoccupied⟩, rfl⟩
    have := h.count
    simp only [presentCount] at this ⊢
    rw [Bitmap.count_clear hbit hmark]
    omega

/-- A window starts again elsewhere only when it is empty, and then nothing is marked. -/
theorem Windowed.restart (h : cache.Windowed) (hempty : cache.head = cache.tail)
    (start : UInt64) : Windowed { cache with head := start, tail := start } where
  ordered := le_rfl
  room := by simp
  marked slot := by
    refine iff_of_false (fun hmarked => ?_) ?_
    · obtain ⟨other, hother, -⟩ := (h.marked slot).mp hmarked
      exact absurd (hother.1.trans_lt hother.2) (hempty ▸ lt_irrefl _)
    · rintro ⟨other, hother, -⟩
      exact absurd (hother.1.trans_lt hother.2) (lt_irrefl _)
  level := by simpa [hempty] using h.level
  count := by
    have := h.count
    simp only [presentCount, hempty] at this ⊢
    omega

/-- The next block goes to a slot that no block of the window is in. -/
theorem Windowed.grow (h : cache.Windowed)
    (hroom : cache.tail.toNat - cache.head.toNat < cache.cfg.blocks.toNat)
    (hbit : cache.slotOf cache.tail.toNat < cache.present.width) {tail : UInt64}
    (htail : tail.toNat = cache.tail.toNat + 1) (slots : Array (Array IvSample)) :
    Windowed { cache with
      slots := slots
      present := cache.present.set (cache.slotOf cache.tail.toNat)
      tail := tail
      fillLevel := cache.fillLevel + 1 } where
  ordered := by
    have := h.ordered
    dsimp only
    omega
  room := by
    dsimp only
    omega
  marked slot := by
    refine (Bitmap.test_set_iff hbit).trans ⟨fun hset => ?_, ?_⟩
    · obtain rfl | hmarked := hset
      · exact ⟨cache.tail.toNat, ⟨h.ordered, by dsimp only; omega⟩, rfl⟩
      · obtain ⟨block, hblock, rfl⟩ := (h.marked slot).mp hmarked
        exact ⟨block, ⟨hblock.1, hblock.2.trans (by dsimp only; omega)⟩, rfl⟩
    · rintro ⟨block, ⟨hstart, hinside⟩, rfl⟩
      obtain hbefore | rfl := Nat.lt_succ_iff_lt_or_eq.mp (hinside.trans_eq htail)
      · exact .inr ((h.marked _).mpr ⟨block, ⟨hstart, hbefore⟩, rfl⟩)
      · exact .inl rfl
  level := by
    have := h.level
    have := h.ordered
    dsimp only
    omega
  count := by
    have := h.count
    have := h.ordered
    simp only [presentCount] at *
    rw [Bitmap.count_set hbit (h.free hroom)]
    omega

/-! ## The blocks that are staged -/

/-- A cache has the shape of its configuration, which has room for a block and for its samples. -/
structure Shaped (cfg : CacheConfig) (cache : TraceCache) : Prop where
  fits : cache.Fits cfg
  blocks : 0 < cfg.blocks.toNat
  samples : 0 < cfg.blockSamples.toNat

/-- The marks tell the window, and the blocks that end within the range of an index are staged only
when they have been written completely. -/
structure Staged (cfg : CacheConfig) (cache : TraceCache) : Prop extends cache.Shaped cfg where
  window : cache.Windowed
  written : ∀ block, cache.InWindow block → (block + 1) * cfg.blockSamples.toNat < 2 ^ 64 →
    (block + 1) * cfg.blockSamples.toNat ≤ cache.source.available

namespace Shaped

/-- The number of samples in a block fits a word, as it is one in the configuration. -/
theorem blockSamples_eq (h : cache.Shaped cfg) :
    cache.blockSamples.toNat = cfg.blockSamples.toNat := by
  rw [blockSamples, h.fits.config, UInt32.toNat_toUInt64]

theorem slotOf_lt (h : cache.Shaped cfg) (block : ℕ) : cache.slotOf block < cfg.blocks.toNat := by
  rw [slotOf, h.fits.config]
  exact Nat.mod_lt _ h.blocks

theorem new {source : Trace} (hnew : TraceCache.new source cfg = .ok cache) :
    cache.Shaped cfg := by
  obtain ⟨hfits, -⟩ := Fits.new hnew
  simp only [TraceCache.new, bind, Except.bind] at hnew
  split at hnew
  case h_1 => cases hnew
  case h_2 hvalid =>
    obtain ⟨hblocks, hsamples⟩ := CacheConfig.pos_of_validate hvalid
    exact ⟨hfits, hblocks, hsamples⟩

end Shaped

/-- A reading is counted, and that is all it does to a cache. -/
theorem read_snd_eq (cache : TraceCache) (position : ℕ) :
    ∃ hits misses, (cache.read position).2 = { cache with hits := hits, misses := misses } := by
  rw [TraceCache.read]
  split
  · exact ⟨cache.hits + 1, cache.misses, rfl⟩
  · exact ⟨cache.hits, cache.misses + 1, rfl⟩

namespace Staged

theorem empty (h : cache.Shaped cfg) (marks : ℕ) (hpresent : cache.present = .ofWidth marks)
    (hhead : cache.head = 0) (htail : cache.tail = 0) (hlevel : cache.fillLevel = 0) :
    cache.Staged cfg where
  toShaped := h
  window := .empty marks hpresent hhead htail hlevel
  written block hblock := by simp [InWindow, htail] at hblock

theorem new {source : Trace} (hnew : TraceCache.new source cfg = .ok cache) :
    cache.Staged cfg := by
  have hshaped := Shaped.new hnew
  simp only [TraceCache.new, bind, Except.bind] at hnew
  split at hnew
  case h_1 => cases hnew
  case h_2 hvalid =>
    cases hnew
    exact .empty hshaped _ rfl rfl rfl rfl

theorem read (h : cache.Staged cfg) (position : ℕ) : (cache.read position).2.Staged cfg := by
  have hfits := h.fits.read position
  obtain ⟨hordered, hroom, hmarked, hlevel, hcount⟩ := h.window
  obtain ⟨hits, misses, hread⟩ := cache.read_snd_eq position
  rw [hread] at hfits ⊢
  exact ⟨⟨hfits, h.blocks, h.samples⟩, ⟨hordered, hroom, hmarked, hlevel, hcount⟩, h.written⟩

/-- The oldest block leaves with its mark. -/
theorem evict (h : cache.Staged cfg) (reader : UInt64) : (cache.evict reader).2.Staged cfg := by
  have hfits := h.fits.evict reader
  rw [TraceCache.evict] at hfits ⊢
  split_ifs at hfits ⊢ with hpassed
  · have hhead := toNat_head_succ hpassed.1
    refine ⟨⟨hfits, h.blocks, h.samples⟩, ?_, ?_⟩
    · exact h.window.dropOldest (UInt64.lt_iff_toNat_lt.mp hpassed.1)
        (h.fits.marks ▸ h.slotOf_lt _) hhead
    · intro block hblock
      have hlater : cache.head.toNat + 1 ≤ block := hhead.symm.trans_le hblock.1
      exact h.written block ⟨(Nat.le_succ _).trans hlater, hblock.2⟩
  · exact h

/-- An empty window moves to the block of the reader. -/
theorem catchUp (h : cache.Staged cfg) (reader : UInt64) : (cache.catchUp reader).Staged cfg := by
  have hfits := h.fits.catchUp reader
  simp only [TraceCache.catchUp] at hfits ⊢
  split_ifs at hfits ⊢ with hpassed
  · refine ⟨⟨hfits, h.blocks, h.samples⟩, h.window.restart hpassed.1 _, ?_⟩
    intro block hblock
    exact absurd (hblock.1.trans_lt hblock.2) (lt_irrefl _)
  · exact h

/-- What makes room for the next block is the size of the window. -/
theorem toNat_sub (h : cache.Staged cfg) :
    (cache.tail - cache.head).toNat = cache.tail.toNat - cache.head.toNat :=
  UInt64.toNat_sub_of_le _ _ (UInt64.le_iff_toNat_le.mpr h.window.ordered)

/-- A block enters at the end with its mark, unless its number is the last of all. -/
theorem fetch (h : cache.Staged cfg) (hnext : cache.tail.toNat + 1 < 2 ^ 64) :
    cache.fetch.2.Staged cfg := by
  have hfits := h.fits.fetch
  have hgrown := toNat_succ hnext
  simp only [TraceCache.fetch] at hfits ⊢
  split_ifs at hfits ⊢ with hready
  · obtain ⟨hroom, hend⟩ := hready
    rw [h.toNat_sub] at hroom
    refine ⟨⟨hfits, h.blocks, h.samples⟩, ?_, ?_⟩
    · exact h.window.grow hroom (h.fits.marks ▸ h.slotOf_lt _) hgrown _
    · rintro block ⟨hstart, hinside⟩ hrange
      obtain hbefore | rfl := Nat.lt_succ_iff_lt_or_eq.mp (hinside.trans_eq hgrown)
      · exact h.written block ⟨hstart, hbefore⟩ hrange
      · rwa [toNat_endOf, h.blockSamples_eq, Nat.mod_eq_of_lt hrange] at hend
  · exact h

theorem append (h : cache.Staged cfg) (more : Array IvSample) :
    (cache.append more).Staged cfg where
  toShaped := ⟨h.fits.append more, h.blocks, h.samples⟩
  window := ⟨h.window.ordered, h.window.room, h.window.marked, h.window.level, h.window.count⟩
  written block hblock hrange := by
    have hbefore := h.written block hblock hrange
    have hgrown := Trace.available_append cache.source more
    rw [TraceCache.append, hgrown]
    exact hbefore.trans (Nat.le_add_right _ _)

end Staged

/-- A reset empties whatever window there was. -/
theorem Shaped.reset (h : cache.Shaped cfg) : cache.reset.Staged cfg :=
  .empty ⟨h.fits.reset, h.blocks, h.samples⟩ _ rfl rfl rfl rfl

/-- The window that a maintenance offers the next block to. -/
def slid (cache : TraceCache) (reader : UInt64) : TraceCache :=
  (cache.evict reader).2.catchUp reader

theorem Staged.slid (h : cache.Staged cfg) (reader : UInt64) : (cache.slid reader).Staged cfg :=
  (h.evict reader).catchUp reader

end TraceCache

end HarvestTestbed
