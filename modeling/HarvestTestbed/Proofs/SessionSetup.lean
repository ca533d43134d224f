import Mathlib
import HarvestTestbed.Config.Session
import HarvestTestbed.Proofs.ControlLaw
import HarvestTestbed.Proofs.HarvestEnvelope
import HarvestTestbed.Proofs.Periods
import HarvestTestbed.Proofs.Transfer

/-!
# Setting a session up

A configuration is checked once, as a whole, and its parts are handed to constructors that check
again what concerns them: the pool its size, the engines their parameters, the controller its
period, and the arena that neither it nor the pool is in use.  This file proves that the first check
implies all the others, and what the constructors rely on without a check: that the marks of the
cache fit their word, that setpoints have a range, that the free ring has room for every buffer, and
that a buffer has room for every sample of a period.

In the other direction the engines accept exactly the four sections that their own checks accept.
-/

namespace HarvestTestbed

/-- A computation in steps succeeds if and only if each of its steps does. -/
theorem bind_eq_ok_iff {ε α β : Type} {first : Except ε α} {rest : α → Except ε β} {result : β} :
    (first >>= rest) = .ok result ↔ ∃ value, first = .ok value ∧ rest value = .ok result := by
  cases first <;> simp [bind, Except.bind]

/-! ## The samples of a period -/

namespace SampleBuffer

def put? (buffer : SampleBuffer) (numbered : IvSample × ℕ) : Option SampleBuffer :=
  let (stored, next) := buffer.put numbered.2 numbered.1
  if stored then some next else none

/-- Writes samples one after another from the first cell on. -/
def store? (buffer : SampleBuffer) (samples : List IvSample) : Option SampleBuffer :=
  samples.zipIdx.foldlM put? buffer

theorem put?_of_lt {buffer : SampleBuffer} {index : ℕ} (hroom : index < buffer.capacity)
    (sample : IvSample) :
    buffer.put? (sample, index) = some (buffer.put index sample).2 := by
  simp [put?, put, hroom]

theorem store?_concat (buffer : SampleBuffer) (samples : List IvSample) (sample : IvSample) :
    buffer.store? (samples ++ [sample]) =
      (buffer.store? samples).bind fun next => next.put? (sample, samples.length) := by
  simp [store?, List.zipIdx_append, List.foldlM_append]

/-- A buffer that was empty and has taken samples from the first cell on. -/
structure Took (capacity : ℕ) (samples : List IvSample) (buffer : SampleBuffer) : Prop where
  capacity_eq : buffer.capacity = capacity
  length_eq : buffer.length = samples.length
  cell_eq : ∀ (index : ℕ) (h : index < samples.length), buffer.cell index = samples[index]

namespace Took

variable {capacity : ℕ} {samples : List IvSample} {buffer : SampleBuffer}

theorem put (h : buffer.Took capacity samples) (hroom : samples.length < capacity)
    (hcount : samples.length + 1 < UInt32.size) (sample : IvSample) :
    (buffer.put samples.length sample).2.Took capacity (samples ++ [sample]) where
  capacity_eq := (capacity_put buffer samples.length sample).trans h.capacity_eq
  length_eq := by
    simp only [SampleBuffer.put, h.capacity_eq, hroom, if_true, h.length_eq,
      Nat.mod_eq_of_lt hcount, List.length_append, List.length_singleton]
    omega
  cell_eq := by
    intro index hindex
    rw [cell_put, h.capacity_eq]
    rcases Nat.lt_or_ge index samples.length with hlt | hge
    · rw [if_neg (by omega), List.getElem_append_left hlt, h.cell_eq index hlt]
    · have hlast : index = samples.length := by
        rw [List.length_append, List.length_singleton] at hindex
        omega
      subst hlast
      simp [hroom]

theorem samples_eq (h : buffer.Took capacity samples) : buffer.samples.toList = samples := by
  apply List.ext_getElem
  · simp [SampleBuffer.samples, h.length_eq]
  · intro index _ hright
    simpa [SampleBuffer.samples] using h.cell_eq index hright

end Took

/-- Whatever a buffer held before it was reset, it takes as many samples as it has cells, if their
number can be counted, and then presents them. -/
theorem store?_reset {buffer : SampleBuffer} {samples : List IvSample}
    (hroom : samples.length ≤ buffer.capacity) (hcount : samples.length < UInt32.size) :
    ∃ stored, buffer.reset.store? samples = some stored ∧
      stored.Took buffer.capacity samples := by
  induction samples using List.reverseRecOn with
  | nil =>
      exact ⟨buffer.reset, rfl,
        { capacity_eq := rfl, length_eq := rfl, cell_eq := nofun }⟩
  | append_singleton samples sample ih =>
      rw [List.length_append, List.length_singleton] at hroom hcount
      obtain ⟨stored, hstored, htook⟩ := ih (by omega) (by omega)
      have hfits : samples.length < stored.capacity := htook.capacity_eq ▸ hroom
      refine ⟨(stored.put samples.length sample).2, ?_, htook.put hroom hcount sample⟩
      rw [store?_concat, hstored, Option.bind_some, put?_of_lt hfits]

end SampleBuffer

/-! ## The pool and its ring -/

/-- Every buffer of a new pool is free. -/
theorem BufferPool.indicesOf_of_new {count samples : ℕ} {pool : BufferPool}
    (hnew : new count samples = .ok pool) :
    pool.indicesOf .freeRing = (List.range count).map UInt32.ofNat := by
  have hsize := size_of_new hnew
  have hword : pool.size ≤ UInt32.size := hsize.trans_le ((size_le_of_new hnew).trans (by decide))
  rw [← hsize]
  refine List.filter_eq_self.mpr fun index hindex => ?_
  have hlt := (mem_indices hword).mp hindex
  rw [hsize] at hlt
  simp [owner?, entry?_of_new hnew, hlt]

theorem BufferPool.capacity_of_new {count samples : ℕ} {pool : BufferPool}
    (hnew : new count samples = .ok pool) {index : UInt32} {buffer : SampleBuffer}
    (hbuffer : pool.buffer? index = some buffer) : buffer.capacity = samples := by
  rw [buffer?, entry?_of_new hnew] at hbuffer
  split at hbuffer
  · cases hbuffer
    rfl
  · cases hbuffer

/-- The ring of an arena split with a new pool holds every buffer, in order. -/
theorem SharedMemory.split_of_pool {count samples : ℕ} {pool : BufferPool}
    (hnew : BufferPool.new count samples = .ok pool) :
    ∃ memory, ({ pool := pool } : SharedMemory).split = (.ok (), memory) ∧
      memory.arena.freeRing.toList = (List.range count).map UInt32.ofNat := by
  have hsplit := split_of_new hnew
  obtain ⟨attached, hattach, hmemory⟩ := split_of_ok hsplit
  have hentries : attached.entries = pool.entries := BufferPool.entries_of_attach hattach
  have hsize : attached.size ≤ ringCapacity := by
    rw [BufferPool.size, hentries]
    exact (BufferPool.size_of_new hnew).trans_le (BufferPool.size_le_of_new hnew)
  have hfree : attached.indicesOf .freeRing = pool.indicesOf .freeRing := by
    obtain ⟨entries, _⟩ := attached
    cases hentries
    rfl
  refine ⟨_, Prod.ext hsplit hmemory, ?_⟩
  exact (toList_refillRing hsize _).trans (hfree.trans (BufferPool.indicesOf_of_new hnew))

/-! ## The engines -/

/-- The marks of a valid window fit the word that they are kept in. -/
theorem CacheConfig.ofWidth?_of_validate {cfg : CacheConfig} (hvalid : cfg.validate = .ok ()) :
    Bitmap.ofWidth? 64 cfg.blocks.toNat = .ok (Bitmap.ofWidth cfg.blocks.toNat) := by
  simp only [validate] at hvalid
  split at hvalid
  · cases hvalid
  rename_i hblocks
  have hle : cfg.blocks.toNat ≤ 64 :=
    UInt8.le_iff_toNat_le.mp (UInt8.not_lt.mp (not_or.mp hblocks).2)
  rw [Bitmap.ofWidth?, if_pos hle]

namespace SessionConfig

variable {cfg : SessionConfig}

/-- The engines are built from exactly the sections that their own checks accept. -/
theorem exists_engines_iff (source : Trace) :
    (∃ engines, cfg.engines source = .ok engines) ↔
      cfg.converter.validate = .ok () ∧ cfg.calibration.validate = .ok () ∧
        cfg.harvester.validate = .ok () ∧ cfg.cache.validate = .ok () := by
  simp only [engines, Converter.new, Harvester.new, TraceCache.new, bind_eq_ok_iff]
  simp [pure, Except.pure, Unique.exists_iff, and_assoc]

theorem present_of_engines {source : Trace} {engines : Engines}
    (hengines : cfg.engines source = .ok engines) :
    engines.cache.present = Bitmap.ofWidth cfg.cache.blocks.toNat := by
  obtain ⟨converter, -, hengines⟩ := bind_eq_ok_iff.mp hengines
  obtain ⟨harvester, -, hengines⟩ := bind_eq_ok_iff.mp hengines
  obtain ⟨cache, hcache, hengines⟩ := bind_eq_ok_iff.mp hengines
  obtain ⟨_, -, hcache⟩ := bind_eq_ok_iff.mp hcache
  cases hengines
  cases hcache
  rfl

/-! ## The check of a session -/

/-- What the check of a configuration establishes. -/
structure Accepted (cfg : SessionConfig) : Prop where
  count_pos : 0 < cfg.bufferCount
  count_le : cfg.bufferCount ≤ ringCapacity
  period_le : cfg.sync.samplesPerPeriod.toNat ≤ cfg.samplesPerBuffer
  sync : cfg.sync.validate = .ok ()
  cache : cfg.cache.validate = .ok ()
  calibration : cfg.calibration.validate = .ok ()
  converter : cfg.converter.validate = .ok ()
  harvester : cfg.harvester.validate = .ok ()

theorem accepted_of_validate (hvalid : cfg.validate = .ok ()) : cfg.Accepted := by
  rw [validate] at hvalid
  split_ifs at hvalid with hcount hperiod hperiod
  · cases hvalid
  · cases hvalid
  · cases hvalid
  obtain ⟨hsome, hfew⟩ := not_or.mp hcount
  obtain ⟨_, hsync, hvalid⟩ := bind_eq_ok_iff.mp hvalid
  obtain ⟨_, hcache, hvalid⟩ := bind_eq_ok_iff.mp hvalid
  obtain ⟨_, hcalibration, hvalid⟩ := bind_eq_ok_iff.mp hvalid
  obtain ⟨_, hconverter, hharvester⟩ := bind_eq_ok_iff.mp hvalid
  exact
    { count_pos := Nat.pos_of_ne_zero hsome
      count_le := Nat.not_lt.mp hfew
      period_le := Nat.not_lt.mp hperiod
      sync := hsync
      cache := hcache
      calibration := hcalibration
      converter := hconverter
      harvester := hharvester }

theorem Accepted.samples_pos (h : cfg.Accepted) : 0 < cfg.samplesPerBuffer :=
  (SyncConfig.admitted_of_validate h.sync).samples_pos.trans_le h.period_le

theorem Accepted.bufferPool_eq (h : cfg.Accepted) :
    ∃ pool, cfg.bufferPool = .ok pool := by
  have hcount : ¬ (cfg.bufferCount = 0 ∨ ringCapacity < cfg.bufferCount) :=
    not_or.mpr ⟨h.count_pos.ne', h.count_le.not_gt⟩
  rw [bufferPool, BufferPool.new, if_neg hcount, if_neg h.samples_pos.ne']
  exact ⟨_, rfl⟩

/-! ## Sessions -/

/-- What a session is set up from is there, and has what its users rely on without a check. -/
structure SetsUp (cfg : SessionConfig) (source : Trace) (pool : BufferPool) (engines : Engines)
    (controller : SyncController) (memory : SharedMemory) : Prop where
  pool_eq : cfg.bufferPool = .ok pool
  engines_eq : cfg.engines source = .ok engines
  controller_eq : SyncController.new cfg.sync = .ok controller
  memory_eq : ({ pool := pool } : SharedMemory).split = (.ok (), memory)
  /-- The ring takes every buffer of the pool. -/
  queued : memory.arena.freeRing.toList = (List.range cfg.bufferCount).map UInt32.ofNat
  /-- The marks of the cache fit the word that they are kept in. -/
  marked : Bitmap.ofWidth? 64 cfg.cache.blocks.toNat = .ok engines.cache.present
  /-- The range that setpoints are limited to is not empty. -/
  ranged : cfg.harvester.voltageMin ≤ cfg.harvester.voltageMax
  /-- A period is a whole number of ticks, and has a tick for each of its samples. -/
  paced : cfg.sync.Admitted
  sized : pool.size = cfg.bufferCount ∧ ∀ index buffer, pool.buffer? index = some buffer →
    buffer.capacity = cfg.samplesPerBuffer
  /-- A buffer of this size, whatever it was used for before, takes every sample of a period and
  presents what it took. -/
  stored : ∀ buffer : SampleBuffer, buffer.capacity = cfg.samplesPerBuffer →
    ∀ samples : List IvSample, samples.length ≤ cfg.sync.samplesPerPeriod.toNat →
      ∃ filled, buffer.reset.store? samples = some filled ∧ filled.samples.toList = samples

theorem Accepted.exists_store? (h : cfg.Accepted) {buffer : SampleBuffer}
    (hcapacity : buffer.capacity = cfg.samplesPerBuffer) {samples : List IvSample}
    (hlength : samples.length ≤ cfg.sync.samplesPerPeriod.toNat) :
    ∃ filled, buffer.reset.store? samples = some filled ∧ filled.samples.toList = samples := by
  have hroom : samples.length ≤ buffer.capacity :=
    hcapacity ▸ hlength.trans h.period_le
  have hcount : samples.length < UInt32.size :=
    hlength.trans_lt cfg.sync.samplesPerPeriod.toNat_lt
  obtain ⟨filled, hfilled, htook⟩ := SampleBuffer.store?_reset hroom hcount
  exact ⟨filled, hfilled, htook.samples_eq⟩

/-- A session is set up from every configuration that was accepted, over every trace.  The engines
can be built from a configuration if and only if the sections that they are built from are accepted
by their own checks. -/
theorem exists_setsUp (cfg : SessionConfig) (source : Trace) :
    (cfg.validate = .ok () →
      ∃ pool engines controller memory, cfg.SetsUp source pool engines controller memory) ∧
    ((∃ engines, cfg.engines source = .ok engines) ↔
      cfg.converter.validate = .ok () ∧ cfg.calibration.validate = .ok () ∧
        cfg.harvester.validate = .ok () ∧ cfg.cache.validate = .ok ()) := by
  refine ⟨fun hvalid => ?_, exists_engines_iff source⟩
  have h := accepted_of_validate hvalid
  obtain ⟨pool, hpool⟩ := h.bufferPool_eq
  obtain ⟨engines, hengines⟩ :=
    (exists_engines_iff source).mpr ⟨h.converter, h.calibration, h.harvester, h.cache⟩
  obtain ⟨memory, hmemory, hqueued⟩ := SharedMemory.split_of_pool hpool
  refine ⟨pool, engines, .start cfg.sync, memory, ?_⟩
  exact
    { pool_eq := hpool
      engines_eq := hengines
      controller_eq := by rw [SyncController.new, h.sync]; rfl
      memory_eq := hmemory
      queued := hqueued
      marked := by
        rw [present_of_engines hengines]
        exact CacheConfig.ofWidth?_of_validate h.cache
      ranged := (HarvesterConfig.admitted_of_validate h.harvester).min_le_max
      paced := SyncConfig.admitted_of_validate h.sync
      sized := ⟨BufferPool.size_of_new hpool, fun _ _ => BufferPool.capacity_of_new hpool⟩
      stored := fun _ hcapacity _ => h.exists_store? hcapacity }

/-- Every number at its limit: as many buffers as the ring has slots, a period of as many samples as
a timer may have ticks and a buffer that just holds them, as many blocks as a word has bits, and the
largest offsets of the tables.  With one block more the engines refuse. -/
theorem exists_setsUp_limits :
    let cfg : SessionConfig :=
      { bufferCount := 64
        samplesPerBuffer := 2147483647
        sync := { period := 2147483647, tick := 1, samplesPerPeriod := 2147483647 }
        cache := { blocks := 64, blockSamples := 1 }
        converter :=
          { inputVoltageOffset := 31, inputCurrentOffset := 31, outputCurrentOffset := 31 }
        harvester := { voltageMin := 5000000, openCircuitRatio := 256 } }
    let source := Trace.ramp 3 ⟨0, 0⟩ ⟨10, 1⟩
    cfg.validate = .ok () ∧
      (∃ pool engines controller memory,
        cfg.SetsUp source pool engines controller memory) ∧
      ¬ ∃ engines, SessionConfig.engines { cfg with cache.blocks := 65 } source = .ok engines := by
  intro cfg source
  have hvalid : cfg.validate = .ok () := by decide
  refine ⟨hvalid, (exists_setsUp cfg source).1 hvalid, fun hengines => ?_⟩
  obtain ⟨-, -, -, hcache⟩ := (exists_setsUp _ source).2.mp hengines
  exact absurd hcache (by decide)

end SessionConfig

end HarvestTestbed
