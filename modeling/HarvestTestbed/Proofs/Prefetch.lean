import HarvestTestbed.Proofs.Staging

/-!
# A reader that goes through the trace

A maintenance lets one block out of the window and one block in, however far the reader has moved.
For a reader that takes one sample after the other and has the window maintained before each of them
this is enough: the oldest block of the window is then always the block of the reader, as long as
the window has a block at all, and an empty window waits at the block of the reader for the
producer.  So such a reader finds a sample staged just if its block had been written when the window
was last maintained.

Before a maintenance the window starts at the block of the sample before (`Abreast`), the
maintenance brings it to the block of the sample itself (`Abreast.head_slid`), and what the producer
writes leaves it there.  The ends of the blocks are exact as long as the window in front of the
reader is within the range of an index (`CacheConfig.InRange`), which a reader that takes one sample
after the other does not leave in its first `2 ^ 63` samples.
-/

namespace HarvestTestbed

namespace TraceCache

variable {cache : TraceCache} {cfg : CacheConfig} {reader : UInt64} {block : ℕ}

/-! ## The blocks that a maintenance moves -/

/-- A maintenance drops at most the oldest block and fetches at most one into the
window that is left. -/
theorem maintain_eq (henabled : cache.cfg.enabled = true) (reader : ℕ) :
    cache.maintain reader =
      (⟨(cache.evict (.ofNat reader)).1, (cache.slid (.ofNat reader)).fetch.1⟩,
        (cache.slid (.ofNat reader)).fetch.2) := by
  rw [maintain, if_pos henabled]
  rfl

theorem occupied_of_evict (hevicted : (cache.evict reader).1 = true) :
    cache.head.toNat < cache.tail.toNat := by
  simp only [evict] at hevicted
  split at hevicted
  case isTrue hpassed => exact UInt64.lt_iff_toNat_lt.mp hpassed.1
  case isFalse => cases hevicted

/-- What is reported as evicted is the oldest block. -/
theorem inWindow_evict : (cache.evict reader).2.InWindow block ↔
    cache.InWindow block ∧ ¬ ((cache.evict reader).1 = true ∧ block = cache.head.toNat) := by
  simp only [evict]
  split
  case isTrue hpassed =>
    simp only [InWindow, toNat_head_succ hpassed.1, true_and]
    omega
  case isFalse => simp

/-- A window moves up to the reader only when it is empty. -/
theorem inWindow_catchUp : (cache.catchUp reader).InWindow block ↔ cache.InWindow block := by
  simp only [catchUp]
  split
  case isTrue hpassed =>
    simp only [InWindow, hpassed.1]
    omega
  case isFalse => rfl

/-- What is reported as fetched is the block after the newest. -/
theorem inWindow_fetch (hordered : cache.head.toNat ≤ cache.tail.toNat)
    (hnext : cache.tail.toNat + 1 < 2 ^ 64) : cache.fetch.2.InWindow block ↔
      cache.InWindow block ∨ (cache.fetch.1 = true ∧ block = cache.tail.toNat) := by
  simp only [fetch]
  split
  · simp only [InWindow, toNat_succ hnext, true_and]
    omega
  · simp

theorem tail_le_slid (cache : TraceCache) (reader : UInt64) :
    cache.tail.toNat ≤ (cache.slid reader).tail.toNat := by
  rw [← tail_evict cache reader, slid, catchUp]
  split
  case isTrue hpassed => exact (UInt64.lt_iff_toNat_lt.mp hpassed.2).le
  case isFalse => exact le_rfl

/-- A block is in the window after a maintenance if it was before and is not the one that was
evicted, or if it is the one that was fetched. -/
theorem inWindow_maintain {reader : ℕ} (henabled : cache.cfg.enabled = true)
    (hordered : (cache.slid (.ofNat reader)).head.toNat ≤ (cache.slid (.ofNat reader)).tail.toNat)
    (hnext : (cache.slid (.ofNat reader)).tail.toNat + 1 < 2 ^ 64) :
    (cache.maintain reader).2.InWindow block ↔
      (cache.InWindow block ∧
        ¬ ((cache.maintain reader).1.evicted = true ∧ block = cache.head.toNat)) ∨
      ((cache.maintain reader).1.fetched = true ∧
        block = (cache.slid (.ofNat reader)).tail.toNat) := by
  rw [maintain_eq henabled, inWindow_fetch hordered hnext, slid, inWindow_catchUp, inWindow_evict]

/-- The blocks of one window that are not in another. -/
def blocksOnlyIn (cache other : TraceCache) : Set ℕ :=
  {block | cache.InWindow block ∧ ¬ other.InWindow block}

/-- At most one block leaves the window and at most one comes, as reported. -/
structure OneAtATime (before : TraceCache) (done : Maintenance) (after : TraceCache) : Prop where
  left : (before.blocksOnlyIn after).Subsingleton
  evicted_iff : done.evicted = true ↔ (before.blocksOnlyIn after).Nonempty
  came : (after.blocksOnlyIn before).Subsingleton
  fetched_iff : done.fetched = true ↔ (after.blocksOnlyIn before).Nonempty

theorem oneAtATime_maintain (h : cache.Staged cfg) (henabled : cfg.enabled = true) (reader : ℕ)
    (hnext : (cache.slid (.ofNat reader)).tail.toNat + 1 < 2 ^ 64) :
    OneAtATime cache (cache.maintain reader).1 (cache.maintain reader).2 := by
  have hcache : cache.cfg.enabled = true := h.fits.config ▸ henabled
  have hslid := (h.slid (.ofNat reader)).window.ordered
  have htail := cache.tail_le_slid (.ofNat reader)
  have hleft : ∀ block ∈ cache.blocksOnlyIn (cache.maintain reader).2,
      (cache.maintain reader).1.evicted = true ∧ block = cache.head.toNat := by
    rintro block ⟨hbefore, hafter⟩
    rw [inWindow_maintain hcache hslid hnext] at hafter
    by_contra hkept
    exact hafter (.inl ⟨hbefore, hkept⟩)
  have hcame : ∀ block ∈ (cache.maintain reader).2.blocksOnlyIn cache,
      (cache.maintain reader).1.fetched = true ∧
        block = (cache.slid (.ofNat reader)).tail.toNat := by
    rintro block ⟨hafter, hbefore⟩
    rw [inWindow_maintain hcache hslid hnext] at hafter
    exact hafter.resolve_left fun hkept => hbefore hkept.1
  constructor
  case left =>
    intro block hblock other hother
    rw [(hleft block hblock).2, (hleft other hother).2]
  case evicted_iff =>
    refine ⟨fun hevicted => ⟨cache.head.toNat, ?_⟩, fun ⟨block, hblock⟩ => (hleft block hblock).1⟩
    have hoccupied : cache.head.toNat < cache.tail.toNat := by
      rw [maintain_eq hcache] at hevicted
      exact occupied_of_evict hevicted
    refine ⟨⟨le_rfl, hoccupied⟩, fun hafter => ?_⟩
    rw [inWindow_maintain hcache hslid hnext] at hafter
    obtain ⟨-, hkept⟩ | ⟨-, hnew⟩ := hafter
    · exact hkept ⟨hevicted, rfl⟩
    · omega
  case came =>
    intro block hblock other hother
    rw [(hcame block hblock).2, (hcame other hother).2]
  case fetched_iff =>
    refine ⟨fun hfetched => ⟨(cache.slid (.ofNat reader)).tail.toNat, ?_⟩, fun ⟨block, hblock⟩ =>
      (hcame block hblock).1⟩
    refine ⟨(inWindow_maintain hcache hslid hnext).mpr (.inr ⟨hfetched, rfl⟩), fun hbefore => ?_⟩
    exact absurd hbefore.2 htail.not_gt

/-! ## The window at the reader -/

/-- A window that starts at the block of one sample starts at the block of the next one once it is
maintained for that: a block that the reader has passed is evicted, and an empty window moves up. -/
theorem toNat_head_slid (h : cache.Staged cfg) (reader : UInt64)
    (hrange : (cache.head.toNat + 1) * cfg.blockSamples.toNat < 2 ^ 64)
    (hhead : cache.head.toNat = (reader.toNat - 1) / cfg.blockSamples.toNat) :
    (cache.slid reader).head.toNat = reader.toNat / cfg.blockSamples.toNat := by
  have hblock : ∀ cache : TraceCache, cache.Staged cfg →
      (reader / cache.blockSamples).toNat = reader.toNat / cfg.blockSamples.toNat :=
    fun _ hstaged => by rw [UInt64.toNat_div, hstaged.blockSamples_eq]
  have hend : (cache.endOf cache.head).toNat =
      (cache.head.toNat + 1) * cfg.blockSamples.toNat := by
    rw [toNat_endOf, h.blockSamples_eq, Nat.mod_eq_of_lt hrange]
  have hordered := h.window.ordered
  have hlow : cache.head.toNat ≤ reader.toNat / cfg.blockSamples.toNat :=
    hhead ▸ Nat.div_le_div_right (Nat.sub_le _ _)
  have hsamples := h.samples
  have hhigh : reader.toNat / cfg.blockSamples.toNat ≤ cache.head.toNat + 1 := by
    rw [hhead, ← Nat.add_div_right _ hsamples]
    exact Nat.div_le_div_right (by omega)
  have hmoved := hblock _ (h.evict reader)
  rw [slid]
  rw [evict] at hmoved ⊢
  split_ifs at hmoved ⊢ with hpassed
  · have hstart := toNat_head_succ hpassed.1
    have hnext : cache.head.toNat + 1 ≤ reader.toNat / cfg.blockSamples.toNat := by
      rw [Nat.le_div_iff_mul_le hsamples, ← hend]
      exact UInt64.le_iff_toNat_le.mp hpassed.2
    simp only [catchUp]
    split
    case isTrue => exact hmoved
    case isFalse => exact hstart.trans (le_antisymm hnext hhigh)
  · simp only [catchUp]
    split
    case isTrue => exact hmoved
    case isFalse hstays =>
      -- The window has a block that the reader has not passed, or waits at the reader's block.
      rw [UInt64.lt_iff_toNat_lt, UInt64.le_iff_toNat_le, hend,
        ← Nat.le_div_iff_mul_le hsamples] at hpassed
      rw [← UInt64.toNat_inj, UInt64.lt_iff_toNat_lt, hblock cache h] at hstays
      omega

theorem head_fetch (cache : TraceCache) : cache.fetch.2.head = cache.head := by
  simp only [fetch]
  split <;> rfl

/-- A block is fetched if there is room and all of it was written. -/
theorem fetched_iff : cache.fetch.1 = true ↔
    (cache.tail - cache.head).toNat < cache.cfg.blocks.toNat ∧
      (cache.endOf cache.tail).toNat ≤ cache.source.available := by
  simp only [fetch]
  split
  case isTrue hready => exact iff_of_true rfl hready
  case isFalse hready => exact iff_of_false Bool.false_ne_true hready

/-- After a fetch the block that the window starts at is staged just if it has been written. -/
theorem Staged.inWindow_fetch_head (h : cache.Staged cfg)
    (hnext : cache.tail.toNat + 1 < 2 ^ 64)
    (hrange : (cache.tail.toNat + 1) * cfg.blockSamples.toNat < 2 ^ 64) :
    cache.fetch.2.InWindow cache.head.toNat ↔
      (cache.head.toNat + 1) * cfg.blockSamples.toNat ≤ cache.source.available := by
  have hordered := h.window.ordered
  rw [inWindow_fetch hordered hnext]
  obtain hoccupied | hempty := Nat.lt_or_eq_of_le hordered
  · have hblock : cache.InWindow cache.head.toNat := ⟨le_rfl, hoccupied⟩
    have hwithin : (cache.head.toNat + 1) * cfg.blockSamples.toNat < 2 ^ 64 :=
      (Nat.mul_le_mul_right _ (by omega)).trans_lt hrange
    exact iff_of_true (.inl hblock) (h.written _ hblock hwithin)
  · have hroom : (cache.tail - cache.head).toNat < cache.cfg.blocks.toNat := by
      rw [h.toNat_sub, hempty, Nat.sub_self, h.fits.config]
      exact h.blocks
    have houtside : ¬ cache.InWindow cache.head.toNat := fun hblock =>
      absurd hblock.2 hempty.not_lt
    rw [or_iff_right houtside, and_iff_left hempty, fetched_iff, and_iff_right hroom, toNat_endOf,
      h.blockSamples_eq, Nat.mod_eq_of_lt hrange, hempty]

end TraceCache

/-- The window in front of a reader at a sample ends within the range of an index. -/
def CacheConfig.InRange (cfg : CacheConfig) (index : ℕ) : Prop :=
  (index / cfg.blockSamples.toNat + cfg.blocks.toNat + 1) * cfg.blockSamples.toNat < 2 ^ 64

namespace CacheConfig.InRange

variable {cfg : CacheConfig} {index : ℕ}

/-- A reader further back has its window within range as well. -/
theorem of_le (h : cfg.InRange index) {earlier : ℕ} (hle : earlier ≤ index) :
    cfg.InRange earlier := by
  refine (Nat.mul_le_mul_right _ ?_).trans_lt h
  have := Nat.div_le_div_right (c := cfg.blockSamples.toNat) hle
  omega

/-- Every block up to the end of the window has an end that is an index. -/
theorem block (h : cfg.InRange index) {block : ℕ}
    (hblock : block ≤ index / cfg.blockSamples.toNat + cfg.blocks.toNat) :
    (block + 1) * cfg.blockSamples.toNat < 2 ^ 64 :=
  (Nat.mul_le_mul_right _ (Nat.succ_le_succ hblock)).trans_lt h

theorem lt (h : cfg.InRange index) (hsamples : 0 < cfg.blockSamples.toNat) : index < 2 ^ 64 := by
  have hblock := h.block (Nat.le_add_right _ _)
  rw [Nat.add_one_mul] at hblock
  exact (Nat.lt_div_mul_add hsamples).trans hblock

/-- No window is so large that it leaves the range in front of one of the first `2 ^ 63` samples. -/
theorem of_lt (cfg : CacheConfig) (hindex : index < 2 ^ 63) : cfg.InRange index := by
  have hstart := Nat.div_mul_le_self index cfg.blockSamples.toNat
  have hsize := cfg.blockSamples.toNat_lt
  have hwindow : (cfg.blocks.toNat + 1) * cfg.blockSamples.toNat ≤ 2 ^ 8 * 2 ^ 32 :=
    Nat.mul_le_mul cfg.blocks.toNat_lt hsize.le
  rw [InRange, Nat.add_assoc, Nat.add_mul]
  omega

end CacheConfig.InRange

namespace TraceCache

variable {cache : TraceCache} {cfg : CacheConfig} {index : ℕ}

/-- A window that starts at the block of the sample before `index`. -/
structure Abreast (cfg : CacheConfig) (index : ℕ) (cache : TraceCache) : Prop where
  staged : cache.Staged cfg
  head : cache.head.toNat = (index - 1) / cfg.blockSamples.toNat

namespace Abreast

theorem append (h : cache.Abreast cfg index) (more : Array IvSample) :
    (cache.append more).Abreast cfg index :=
  ⟨h.staged.append more, h.head⟩

theorem read (h : cache.Abreast cfg index) (sample : ℕ) :
    (cache.read sample).2.Abreast cfg index := by
  have hstaged := h.staged.read sample
  obtain ⟨hits, misses, hread⟩ := cache.read_snd_eq sample
  rw [hread] at hstaged ⊢
  exact ⟨hstaged, h.head⟩

/-- A window abreast of its reader begins at the block of that reader once it was maintained. -/
theorem head_slid (h : cache.Abreast cfg index) (hrange : cfg.InRange index) :
    (cache.slid (.ofNat index)).head.toNat = index / cfg.blockSamples.toNat := by
  have hindex := UInt64.toNat_ofNat_of_lt' (hrange.lt h.staged.samples)
  have hbehind := Nat.div_le_div_right (c := cfg.blockSamples.toNat) (Nat.sub_le index 1)
  have hhead := toNat_head_slid h.staged (.ofNat index)
    (h.head ▸ hrange.block (hbehind.trans (Nat.le_add_right _ _))) (by rw [hindex, h.head])
  rwa [hindex] at hhead

/-- The block after the window is one that the window in front of the reader may have. -/
theorem tail_slid (h : cache.Abreast cfg index) (hrange : cfg.InRange index) :
    (cache.slid (.ofNat index)).tail.toNat ≤
      index / cfg.blockSamples.toNat + cfg.blocks.toNat := by
  have hslid := h.staged.slid (.ofNat index)
  have hroom := hslid.window.room
  rw [hslid.fits.config, h.head_slid hrange] at hroom
  omega

/-- The window that is maintained does not end at the last block number. -/
theorem next_slid (h : cache.Abreast cfg index) (hrange : cfg.InRange index) :
    (cache.slid (.ofNat index)).tail.toNat + 1 < 2 ^ 64 :=
  (Nat.le_mul_of_pos_right _ h.staged.samples).trans_lt (hrange.block (h.tail_slid hrange))

/-- Step lemma of a pass: one more sample, and the window is abreast again. -/
theorem maintain (h : cache.Abreast cfg index) (hrange : cfg.InRange index)
    (henabled : cfg.enabled = true) : (cache.maintain index).2.Abreast cfg (index + 1) := by
  rw [maintain_eq (h.staged.fits.config ▸ henabled)]
  refine ⟨(h.staged.slid _).fetch (h.next_slid hrange), ?_⟩
  rw [head_fetch, h.head_slid hrange, Nat.add_sub_cancel]

/-- The block of a sample is staged after the maintenance for it just if it has been written. -/
theorem inWindow_maintain_iff (h : cache.Abreast cfg index) (hrange : cfg.InRange index)
    (henabled : cfg.enabled = true) :
    (cache.maintain index).2.InWindow (index / cfg.blockSamples.toNat) ↔
      (index / cfg.blockSamples.toNat + 1) * cfg.blockSamples.toNat ≤
        cache.source.available := by
  have hstaged := h.staged.slid (.ofNat index)
  rw [maintain_eq (h.staged.fits.config ▸ henabled), ← h.head_slid hrange,
    hstaged.inWindow_fetch_head (h.next_slid hrange) (hrange.block (h.tail_slid hrange)),
    source_slid]

end Abreast

/-! ## Hits -/

/-- A block is served from the window if it is in it, as the marks say. -/
theorem Staged.holds_iff (h : cache.Staged cfg) (henabled : cfg.enabled = true) {block : UInt64} :
    cache.holds block = true ↔ cache.InWindow block.toNat := by
  refine ⟨inWindow_of_holds, fun hblock => ?_⟩
  have hmarked := (h.window.marked _).mpr ⟨block.toNat, hblock, rfl⟩
  simp only [holds, h.fits.config, henabled, hmarked, Bool.true_and, Bool.and_true,
    Bool.and_eq_true, decide_eq_true_eq]
  exact hblock

/-- A reading counts as a hit if the block of the sample is in the window, and as a miss if not. -/
theorem Staged.counted_read (h : cache.Staged cfg) (henabled : cfg.enabled = true)
    (hindex : index < 2 ^ 64) :
    ((cache.read index).2.hits = cache.hits + 1 ↔
      cache.InWindow (index / cfg.blockSamples.toNat)) ∧
    ((cache.read index).2.misses = cache.misses + 1 ↔
      ¬ cache.InWindow (index / cfg.blockSamples.toNat)) := by
  have hblock : (UInt64.ofNat index / cache.blockSamples).toNat =
      index / cfg.blockSamples.toNat := by
    rw [UInt64.toNat_div, UInt64.toNat_ofNat_of_lt' hindex, h.blockSamples_eq]
  rw [← hblock, ← h.holds_iff henabled]
  simp only [TraceCache.read]
  split
  case isTrue hholds => simp [hholds]
  case isFalse hholds => simp [hholds]

/-! ## A pass through the trace -/

theorem after_append (cache : TraceCache) (earlier later : List CacheCall) :
    cache.after (earlier ++ later) = (cache.after earlier).after later :=
  List.foldl_append

/-- Several writes of the producer are as good as one. -/
theorem after_writes (cache : TraceCache) (writes : List (Array IvSample)) :
    cache.after (writes.map .append) = cache.append (writes.foldr (· ++ ·) #[]) := by
  induction writes generalizing cache with
  | nil => simp [after, append, Trace.append]
  | cons more writes ih =>
      change (cache.append more).after (writes.map .append) = _
      rw [ih]
      simp [append, Trace.append]

end TraceCache

/-- What the producer of the trace writes while the reader is at one sample: before the window is
maintained for it, and between that and the reading. -/
structure Visit where
  before : List (Array IvSample)
  between : List (Array IvSample)

def Visit.calls (visit : Visit) (index : ℕ) : List CacheCall :=
  visit.before.map .append ++
    .maintain (.ofNat index) :: (visit.between.map .append ++ [.read (.ofNat index)])

/-- The calls of a reader that goes through the trace from its first sample on. -/
def passCalls (visits : List Visit) : List CacheCall :=
  (visits.zipIdx.map fun (visit, index) => visit.calls index).flatten

theorem passCalls_concat (visits : List Visit) (visit : Visit) :
    passCalls (visits ++ [visit]) = passCalls visits ++ visit.calls visits.length := by
  simp [passCalls, List.zipIdx_append]

namespace TraceCache

variable {cache : TraceCache} {cfg : CacheConfig} {index : ℕ}

theorem Abreast.visit (h : cache.Abreast cfg index) (hrange : cfg.InRange index)
    (henabled : cfg.enabled = true) (visit : Visit) :
    (cache.after (visit.calls index)).Abreast cfg (index + 1) := by
  have hindex := UInt64.toNat_ofNat_of_lt' (hrange.lt h.staged.samples)
  rw [Visit.calls, after_append, after_writes]
  change (TraceCache.after (TraceCache.maintain _ (UInt64.ofNat index).toNat).2 _).Abreast cfg
    (index + 1)
  rw [after_append, after_writes, hindex]
  exact (((h.append _).maintain hrange henabled).append _).read _

/-- Run lemma, by induction on the visits. -/
theorem Abreast.pass (h : cache.Abreast cfg 0) (henabled : cfg.enabled = true)
    (visits : List Visit) (hrange : cfg.InRange visits.length) :
    (cache.after (passCalls visits)).Abreast cfg visits.length := by
  induction visits using List.reverseRecOn with
  | nil => exact h
  | append_singleton visits visit ih =>
      rw [List.length_append] at hrange
      have hbefore : cfg.InRange visits.length := hrange.of_le (Nat.le_add_right _ _)
      rw [passCalls_concat, after_append, List.length_append]
      exact (ih hbefore).visit hbefore henabled visit

/-- A cache that is new or has just been reset. -/
def Rewound (fresh start : TraceCache) : Prop :=
  start = fresh ∨ ∃ earlier, start = (fresh.after earlier).reset

theorem Rewound.abreast {source : Trace} {fresh start : TraceCache} (h : fresh.Rewound start)
    (hnew : TraceCache.new source cfg = .ok fresh) : start.Abreast cfg 0 := by
  obtain rfl | ⟨earlier, rfl⟩ := h
  · exact ⟨.new hnew, by simp [(ends_new hnew).1]⟩
  · exact ⟨((Shaped.new hnew).after earlier).reset, by simp [reset]⟩

/-- A reader that starts with a new cache, or with one that was reset after any use, and takes one
sample after the other, each after a maintenance for it, while the producer writes on in between:
it finds a sample staged just if the whole block of the sample had been written when the window was
maintained for it, and no maintenance lets more than one block out of the window and one in.  The
samples are those that have a window within the range of an index in front of them, the first
`2 ^ 63` in any case. -/
theorem hit_iff_written (hvalid : cfg.validate = .ok ()) (henabled : cfg.enabled = true)
    (source : Trace) :
    ∃ fresh, TraceCache.new source cfg = .ok fresh ∧
      ∀ start, fresh.Rewound start → ∀ (visits : List Visit) (visit : Visit),
        let index := visits.length
        let arrived := start.after (passCalls visits ++ visit.before.map .append)
        let maintained := arrived.maintain index
        let reading := maintained.2.after (visit.between.map .append)
        let written := (index / cfg.blockSamples.toNat + 1) * cfg.blockSamples.toNat ≤
          arrived.source.available
        cfg.InRange index →
          ((reading.read index).2.hits = reading.hits + 1 ↔ written) ∧
            ((reading.read index).2.misses = reading.misses + 1 ↔ ¬ written) ∧
            OneAtATime arrived maintained.1 maintained.2 := by
  obtain ⟨fresh, hnew⟩ := exists_new hvalid source
  refine ⟨fresh, hnew, fun start hstart visits visit => ?_⟩
  intro index arrived maintained reading written hrange
  have harrived : arrived.Abreast cfg index := by
    have hpassed := (hstart.abreast hnew).pass henabled visits hrange
    simp only [arrived, after_append, after_writes]
    exact hpassed.append _
  have hreading : reading.Staged cfg := by
    simp only [reading, after_writes]
    exact (harrived.maintain hrange henabled).staged.append _
  have hwindow : reading.InWindow (index / cfg.blockSamples.toNat) ↔ written := by
    simp only [reading, after_writes]
    exact harrived.inWindow_maintain_iff hrange henabled
  obtain ⟨hhits, hmisses⟩ := hreading.counted_read henabled (hrange.lt harrived.staged.samples)
  exact ⟨hhits.trans hwindow, hmisses.trans (not_congr hwindow),
    oneAtATime_maintain harrived.staged henabled index (harrived.next_slid hrange)⟩

/-- A cache that is reset and then passed through while the producer is late.  The reader leaves the
first block before it has been written, so that the empty window starts again at the second one,
finds that staged, comes to the third one a sample too early and finds the rest of it staged. -/
theorem hit_iff_written_late :
    let cfg : CacheConfig := { enabled := true, blocks := 2, blockSamples := 2 }
    let source := Trace.ramp 1 ⟨0, 0⟩ ⟨10, 1⟩
    let visits : List Visit :=
      [⟨[], []⟩, ⟨[], [#[⟨1, 1⟩], #[⟨2, 2⟩, ⟨3, 3⟩]]⟩, ⟨[], []⟩, ⟨[], [#[⟨4, 4⟩]]⟩,
        ⟨[], [#[⟨5, 5⟩]]⟩]
    let last : Visit := ⟨[], [#[⟨6, 6⟩]]⟩
    let used (fresh : TraceCache) := (fresh.after [.maintain 0, .read 9]).reset
    cfg.validate = .ok () ∧ cfg.enabled = true ∧ cfg.InRange visits.length ∧
      (∃ fresh, TraceCache.new source cfg = .ok fresh ∧
        let index := visits.length
        let arrived := (used fresh).after (passCalls visits ++ last.before.map .append)
        let maintained := arrived.maintain index
        let reading := maintained.2.after (last.between.map .append)
        let written := (index / cfg.blockSamples.toNat + 1) * cfg.blockSamples.toNat ≤
          arrived.source.available
        ((reading.read index).2.hits = reading.hits + 1 ↔ written) ∧
          ((reading.read index).2.misses = reading.misses + 1 ↔ ¬ written) ∧
          OneAtATime arrived maintained.1 maintained.2) ∧
      (TraceCache.new source cfg).map (fun fresh => (List.range 7).map fun count =>
        ((used fresh).after (passCalls ((visits ++ [last]).take count))).hits) =
          .ok [0, 0, 0, 1, 2, 2, 3] := by
  intro cfg source visits last used
  have hvalid : cfg.validate = .ok () := rfl
  have hrange : cfg.InRange visits.length := .of_lt cfg (by decide)
  obtain ⟨fresh, hnew, hpass⟩ := hit_iff_written hvalid rfl source
  have hused : fresh.Rewound (used fresh) := .inr ⟨[.maintain 0, .read 9], rfl⟩
  exact ⟨hvalid, rfl, hrange, ⟨fresh, hnew, hpass (used fresh) hused visits last hrange⟩,
    by decide +kernel⟩

end TraceCache

end HarvestTestbed
