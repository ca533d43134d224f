import Mathlib
import HarvestTestbed.Config.Session
import HarvestTestbed.Proofs.HarvestEnvelope

/-!
# What a reset leaves of the engines

The engines keep two kinds of data: what they were set up with, which no operation changes, and what
they have computed so far.  A reset computes everything anew from the setup, with one exception: the
cache only forgets which of its slots hold a block, and the blocks stay where they are.  They are
not read again, since a slot is read while it is marked, and it is marked once it was written.

So engines of one setup over one trace differ after a reset in slots that are not marked, and all
that they answer from then on is the same.
-/

namespace HarvestTestbed

/-! ## Marks -/

namespace Bitmap

variable {bitmap : Bitmap} {bit other : ℕ}

/-- A mark is set where it was set before or was asked for. -/
theorem test_of_test_set (htest : (bitmap.set bit).test other = true) :
    other = bit ∨ bitmap.test other = true := by
  by_cases hother : other = bit
  · exact .inl hother
  · right
    simpa [test, set, Array.getD_eq_getD_getElem?, Array.getElem?_setIfInBounds,
      Ne.symm hother] using htest

theorem test_of_test_clear (htest : (bitmap.clear bit).test other = true) :
    bitmap.test other = true := by
  by_cases hother : other = bit
  · subst hother
    simp only [test, clear, Array.getD_eq_getD_getElem?, Array.getElem?_setIfInBounds] at htest
    split at htest
    · split at htest <;> cases htest
    · contradiction
  · simpa [test, clear, Array.getD_eq_getD_getElem?, Array.getElem?_setIfInBounds,
      Ne.symm hother] using htest

theorem test_clearAll (bitmap : Bitmap) (bit : ℕ) : bitmap.clearAll.test bit = false := by
  simp only [test, clearAll, ofWidth, Array.getD_eq_getD_getElem?, Array.getElem?_replicate]
  split <;> rfl

@[simp]
theorem width_set (bitmap : Bitmap) (bit : ℕ) : (bitmap.set bit).width = bitmap.width := by
  simp [set, width]

@[simp]
theorem width_clear (bitmap : Bitmap) (bit : ℕ) : (bitmap.clear bit).width = bitmap.width := by
  simp [clear, width]

@[simp]
theorem width_ofWidth (marks : ℕ) : (ofWidth marks).width = marks := by
  simp [ofWidth, width]

end Bitmap

/-! ## Caches that answer alike -/

/-- Two caches differ at most in slots that are not marked. -/
structure TraceCache.Alike (left right : TraceCache) : Prop where
  eq : right = { left with slots := right.slots }
  size : left.slots.size = right.slots.size
  marked : ∀ slot, left.present.test slot = true →
    left.slots.getD slot #[] = right.slots.getD slot #[]

/-- A cache has a slot and a mark for every block of its window. -/
structure TraceCache.Fits (cfg : CacheConfig) (cache : TraceCache) : Prop where
  config : cache.cfg = cfg
  slots : cache.slots.size = cfg.blocks.toNat
  marks : cache.present.width = cfg.blocks.toNat

namespace TraceCache

variable {left right cache : TraceCache} {cfg : CacheConfig}

theorem Alike.refl (cache : TraceCache) : cache.Alike cache :=
  ⟨rfl, rfl, fun _ _ => rfl⟩

/-- A reading tells alike caches apart neither by its answer nor by what it counts. -/
theorem Alike.read (h : left.Alike right) (index : ℕ) :
    (left.read index).1 = (right.read index).1 ∧
      (left.read index).2.Alike (right.read index).2 := by
  obtain ⟨heq, hsize, hmarked⟩ := h
  generalize right.slots = slots at heq hsize hmarked
  subst heq
  have hholds : ∀ block, TraceCache.holds { left with slots := slots } block = left.holds block :=
    fun _ => rfl
  have hblock : TraceCache.blockSamples { left with slots := slots } = left.blockSamples := rfl
  simp only [TraceCache.read, hblock, hholds]
  split
  · rename_i hheld
    simp only [TraceCache.holds, Bool.and_eq_true] at hheld
    refine ⟨?_, rfl, hsize, hmarked⟩
    simp only [staged]
    rw [hmarked _ hheld.2]
    rfl
  · exact ⟨rfl, rfl, hsize, hmarked⟩

theorem Alike.evict (h : left.Alike right) (reader : UInt64) :
    (left.evict reader).1 = (right.evict reader).1 ∧
      (left.evict reader).2.Alike (right.evict reader).2 := by
  obtain ⟨heq, hsize, hmarked⟩ := h
  generalize right.slots = slots at heq hsize hmarked
  subst heq
  have hend : ∀ block, TraceCache.endOf { left with slots := slots } block = left.endOf block :=
    fun _ => rfl
  simp only [TraceCache.evict, hend]
  split
  · exact ⟨rfl, rfl, hsize, fun slot hslot => hmarked slot (Bitmap.test_of_test_clear hslot)⟩
  · exact ⟨rfl, rfl, hsize, hmarked⟩

theorem Alike.catchUp (h : left.Alike right) (reader : UInt64) :
    (left.catchUp reader).Alike (right.catchUp reader) := by
  obtain ⟨heq, hsize, hmarked⟩ := h
  generalize right.slots = slots at heq hsize hmarked
  subst heq
  have hblock : TraceCache.blockSamples { left with slots := slots } = left.blockSamples := rfl
  simp only [TraceCache.catchUp, hblock]
  split <;> exact ⟨rfl, hsize, hmarked⟩

/-- A slot that becomes marked holds the same block of the trace on both sides. -/
theorem Alike.fetch (h : left.Alike right) :
    left.fetch.1 = right.fetch.1 ∧ left.fetch.2.Alike right.fetch.2 := by
  obtain ⟨heq, hsize, hmarked⟩ := h
  generalize right.slots = slots at heq hsize hmarked
  subst heq
  have hend : ∀ block, TraceCache.endOf { left with slots := slots } block = left.endOf block :=
    fun _ => rfl
  have hblock : TraceCache.blockSamples { left with slots := slots } = left.blockSamples := rfl
  have hslotOf : ∀ block, TraceCache.slotOf { left with slots := slots } block =
      left.slotOf block := fun _ => rfl
  simp only [TraceCache.fetch, hend, hblock, hslotOf]
  split
  · refine ⟨rfl, rfl, by simpa using hsize, fun slot hslot => ?_⟩
    have hkept := fun hset => hmarked slot hset
    simp only [Array.getD_eq_getD_getElem?] at hkept
    simp only [Array.getD_eq_getD_getElem?, Array.getElem?_setIfInBounds, ← hsize]
    obtain rfl | hbefore := Bitmap.test_of_test_set hslot
    · simp only [if_true]
    · split
      · rfl
      · exact hkept hbefore
  · exact ⟨rfl, rfl, hsize, hmarked⟩

/-- The window moves alike, since it looks at marks and source only. -/
theorem Alike.maintain (h : left.Alike right) (reader : ℕ) :
    (left.maintain reader).2.Alike (right.maintain reader).2 := by
  have hcfg : right.cfg = left.cfg := by rw [h.eq]
  simp only [TraceCache.maintain, hcfg]
  split
  · exact ((h.evict _).2.catchUp _).fetch.2
  · exact h

theorem Alike.append (h : left.Alike right) (more : Array IvSample) :
    (left.append more).Alike (right.append more) := by
  obtain ⟨heq, hsize, hmarked⟩ := h
  generalize right.slots = slots at heq hsize hmarked
  subst heq
  exact ⟨rfl, hsize, hmarked⟩

/-- A reset clears the marks, not the slots. -/
theorem Alike.reset (h : left.Alike right) : left.reset.Alike right.reset := by
  obtain ⟨heq, hsize, -⟩ := h
  generalize right.slots = slots at heq hsize
  subst heq
  refine ⟨rfl, hsize, fun slot hslot => ?_⟩
  rw [TraceCache.reset, Bitmap.test_clearAll] at hslot
  cases hslot

/-- A new cache has as many slots and marks as its configuration asks for. -/
theorem Fits.new {source : Trace} (hnew : TraceCache.new source cfg = .ok cache) :
    cache.Fits cfg ∧ cache.source = source := by
  simp only [TraceCache.new, bind, Except.bind] at hnew
  split at hnew
  · cases hnew
  · cases hnew
    exact ⟨⟨rfl, Array.size_replicate, Bitmap.width_ofWidth _⟩, rfl⟩

theorem Fits.read (h : cache.Fits cfg) (index : ℕ) : (cache.read index).2.Fits cfg := by
  simp only [TraceCache.read]
  split <;> exact ⟨h.config, h.slots, h.marks⟩

theorem Fits.evict (h : cache.Fits cfg) (reader : UInt64) : (cache.evict reader).2.Fits cfg := by
  simp only [TraceCache.evict]
  split
  · exact ⟨h.config, h.slots, (Bitmap.width_clear _ _).trans h.marks⟩
  · exact h

theorem Fits.catchUp (h : cache.Fits cfg) (reader : UInt64) : (cache.catchUp reader).Fits cfg := by
  simp only [TraceCache.catchUp]
  split <;> exact ⟨h.config, h.slots, h.marks⟩

theorem Fits.fetch (h : cache.Fits cfg) : cache.fetch.2.Fits cfg := by
  simp only [TraceCache.fetch]
  split
  · exact ⟨h.config, by simpa using h.slots, (Bitmap.width_set _ _).trans h.marks⟩
  · exact h

/-- Maintenance keeps slots and marks in number. -/
theorem Fits.maintain (h : cache.Fits cfg) (reader : ℕ) : (cache.maintain reader).2.Fits cfg := by
  simp only [TraceCache.maintain]
  split
  · exact ((h.evict _).catchUp _).fetch
  · exact h

theorem Fits.append (h : cache.Fits cfg) (more : Array IvSample) : (cache.append more).Fits cfg :=
  ⟨h.config, h.slots, h.marks⟩

theorem Fits.reset (h : cache.Fits cfg) : cache.reset.Fits cfg :=
  ⟨h.config, h.slots, (Bitmap.width_ofWidth _).trans h.marks⟩

/-- A reset clears every mark, so that no slot matters any more. -/
theorem Fits.alike_reset (hleft : left.Fits cfg) (hright : right.Fits cfg)
    (hsource : left.source = right.source) : left.reset.Alike right.reset where
  eq := by
    have hwidth : left.present.width = right.present.width := hleft.marks.trans hright.marks.symm
    simp only [TraceCache.reset, Bitmap.clearAll, hsource, hwidth, hleft.config, hright.config]
  size := hleft.slots.trans hright.slots.symm
  marked slot hslot := by
    simp [TraceCache.reset, Bitmap.test_clearAll] at hslot

end TraceCache

/-! ## Parameters -/

/-- A tick changes neither the parameters nor the calibration. -/
theorem Converter.cfg_tick (converter : Converter) (voltage current currentRaw : UInt32) :
    (converter.tick voltage current currentRaw).cfg = converter.cfg ∧
      (converter.tick voltage current currentRaw).cal = converter.cal := by
  have hdrawn : ∀ converter : Converter, (converter.outputPhase currentRaw).cfg = converter.cfg ∧
      (converter.outputPhase currentRaw).cal = converter.cal := by
    intro converter
    simp only [outputPhase]
    split <;> exact ⟨rfl, rfl⟩
  exact hdrawn (converter.inputPhase voltage current)

/-! ## Engines -/

structure EngineSetup where
  converter : ConverterConfig
  converterCalibration : Calibration
  harvester : HarvesterConfig
  cache : CacheConfig
  calibration : Calibration

def EngineSetup.engines (setup : EngineSetup) (source : Trace) : Except Fault Engines := do
  let converter ← Converter.new setup.converter setup.converterCalibration
  let harvester ← Harvester.new setup.harvester
  let cache ← TraceCache.new source setup.cache
  return {
    converter := converter
    harvester := harvester
    cache := cache
    calibration := setup.calibration }

/-- The engines of a session are all calibrated alike. -/
def SessionConfig.engineSetup (cfg : SessionConfig) : EngineSetup where
  converter := cfg.converter
  converterCalibration := cfg.calibration
  harvester := cfg.harvester
  cache := cfg.cache
  calibration := cfg.calibration

theorem SessionConfig.engines_eq (cfg : SessionConfig) (source : Trace) :
    cfg.engines source = cfg.engineSetup.engines source :=
  rfl

/-- Engines that were made for a setup, whatever has been done with them since. -/
structure Engines.Fits (setup : EngineSetup) (engines : Engines) : Prop where
  converter : engines.converter.cfg = setup.converter
  converterCalibration : engines.converter.cal = setup.converterCalibration
  harvester : engines.harvester.cfg = setup.harvester
  cache : engines.cache.Fits setup.cache
  calibration : engines.calibration = setup.calibration

namespace Engines

variable {setup : EngineSetup} {engines left right : Engines}

def reset (engines : Engines) : Engines :=
  { engines with
    converter := engines.converter.reset
    harvester := engines.harvester.reset
    cache := engines.cache.reset }

/-- Engines that were just made fit their setup and start with the trace that they were given. -/
theorem Fits.made {source : Trace} (hmade : setup.engines source = .ok engines) :
    engines.Fits setup ∧ engines.cache.source = source := by
  simp only [EngineSetup.engines, bind, Except.bind] at hmade
  split at hmade
  · cases hmade
  rename_i converter hconverter
  split at hmade
  · cases hmade
  rename_i harvester hharvester
  split at hmade
  · cases hmade
  rename_i cache hcache
  cases hmade
  obtain ⟨hfits, hsource⟩ := TraceCache.Fits.new hcache
  simp only [Converter.new, bind, Except.bind] at hconverter
  split at hconverter
  · cases hconverter
  split at hconverter
  · cases hconverter
  simp only [Harvester.new, bind, Except.bind] at hharvester
  split at hharvester
  · cases hharvester
  cases hconverter
  cases hharvester
  exact ⟨⟨rfl, rfl, rfl, hfits, rfl⟩, hsource⟩

/-- Whether engines can be made does not depend on the trace. -/
theorem exists_made {source : Trace} (hmade : setup.engines source = .ok engines)
    (other : Trace) : ∃ renewed, setup.engines other = .ok renewed := by
  simp only [EngineSetup.engines, TraceCache.new, bind, Except.bind] at hmade ⊢
  split at hmade
  · cases hmade
  split at hmade
  · cases hmade
  split at hmade
  · cases hmade
  rename_i hcache
  split at hcache
  · cases hcache
  exact ⟨_, rfl⟩

theorem Fits.setConverter (h : engines.Fits setup) {converter : Converter}
    (hcfg : converter.cfg = engines.converter.cfg) (hcal : converter.cal = engines.converter.cal) :
    Engines.Fits setup { engines with converter := converter } :=
  { h with
    converter := hcfg.trans h.converter
    converterCalibration := hcal.trans h.converterCalibration }

theorem Fits.setHarvester (h : engines.Fits setup) {harvester : Harvester}
    (hcfg : harvester.cfg = engines.harvester.cfg) :
    Engines.Fits setup { engines with harvester := harvester } :=
  { h with harvester := hcfg.trans h.harvester }

theorem Fits.setCache (h : engines.Fits setup) {cache : TraceCache}
    (hcache : cache.Fits setup.cache) : Engines.Fits setup { engines with cache := cache } :=
  { h with cache := hcache }

/-- A reset keeps what the setup determines. -/
theorem Fits.reset (h : engines.Fits setup) : engines.reset.Fits setup where
  converter := h.converter
  converterCalibration := h.converterCalibration
  harvester := h.harvester
  cache := h.cache.reset
  calibration := h.calibration

/-- A reset makes the same engines of all that have one setup and one trace, up to the slots of the
cache. -/
theorem Fits.reset_eq (hleft : left.Fits setup) (hright : right.Fits setup)
    (hsource : left.cache.source = right.cache.source) :
    right.reset = { left.reset with cache := right.reset.cache } ∧
      left.reset.cache.Alike right.reset.cache := by
  refine ⟨?_, hleft.cache.alike_reset hright.cache hsource⟩
  have hconverter : ∀ converter : Converter,
      converter.reset = Converter.reset ⟨converter.cfg, converter.cal, .initial converter.cfg⟩ :=
    fun _ => rfl
  have hharvester : ∀ harvester : Harvester, harvester.reset = .start harvester.cfg :=
    fun _ => rfl
  simp only [Engines.reset, hconverter, hharvester, hleft.converter, hright.converter,
    hleft.converterCalibration, hright.converterCalibration, hleft.harvester, hright.harvester,
    hleft.calibration, hright.calibration]

end Engines

end HarvestTestbed
