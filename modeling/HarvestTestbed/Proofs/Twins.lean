import HarvestTestbed.Proofs.EngineReset
import HarvestTestbed.Proofs.Mirror

/-!
# Loops that run alike

Two sampling loops run alike although their caches hold different blocks in slots that are not
marked, and although the timestamp of the period differs while no buffer is being filled.  Their
front-ends need not be of one kind: it is enough that they answer alike, and that their cycle
counters stay a fixed distance apart.

This is shown piece by piece.  Each piece of a step leaves two such loops alike, on memories whose
buffers are filled alike through the handles that the loops keep.
-/

namespace HarvestTestbed

/-- Front-ends of two kinds, related by what they answer. -/
structure FrontendMatch (F G : Type) [Frontend F] [Frontend G] where
  rel : F → G → Prop
  /-- How far the cycle counters are apart. -/
  apart : UInt32
  readInput : ∀ {left right}, rel left right →
    (Frontend.readInput left).1 = (Frontend.readInput right).1 ∧
      rel (Frontend.readInput left).2 (Frontend.readInput right).2
  readOutputCurrent : ∀ {left right}, rel left right →
    (Frontend.readOutputCurrent left).1 = (Frontend.readOutputCurrent right).1 ∧
      rel (Frontend.readOutputCurrent left).2 (Frontend.readOutputCurrent right).2
  setDac : ∀ {left right}, rel left right → ∀ channel raw,
    rel (Frontend.setDac left channel raw) (Frontend.setDac right channel raw)
  setPowerGood : ∀ {left right}, rel left right → ∀ good,
    rel (Frontend.setPowerGood left good) (Frontend.setPowerGood right good)
  cycles : ∀ {left right}, rel left right →
    Frontend.cycles left = Frontend.cycles right + apart

namespace SamplingLoop

/-- The loop with another front-end, another cache and another timestamp of the period. -/
def recast {F G : Type} (loop : SamplingLoop F) (frontend : G) (cache : TraceCache)
    (timestamp : UInt64) : SamplingLoop G :=
  { loop with
    frontend := frontend
    engines := { loop.engines with cache := cache }
    bufferTimestamp := timestamp }

/-- The handles that the loop keeps, each with the number of cells filled through it. -/
def holdings {F : Type} (loop : SamplingLoop F) : List (ProducerHandle × ℕ) :=
  (loop.current.map (·, loop.sampleIndex.toNat)).toList ++
    (loop.pending.map fun pending => (pending.1, pending.2.sampleCount.toNat)).toList

variable {F G : Type} [Frontend F] [Frontend G]

/-- A loop that runs like another one. -/
inductive Twin (matched : FrontendMatch F G) (setup : EngineSetup) (left : SamplingLoop F) :
    SamplingLoop G → Prop
  | recast (frontend : G) (cache : TraceCache) (timestamp : UInt64)
      (hfrontend : matched.rel left.frontend frontend)
      (hcache : left.engines.cache.Alike cache) (hfits : left.engines.Fits setup)
      (htimestamp : left.current.isSome = true → left.bufferTimestamp = timestamp) :
      Twin matched setup left (left.recast frontend cache timestamp)

/-- Two loops that run alike, on memories whose buffers are filled alike. -/
structure Paired (count capacity : ℕ) (exact : Prop) (matched : FrontendMatch F G)
    (setup : EngineSetup) (consumers : List ConsumerHandle)
    (left : SamplingLoop F × SharedMemory) (right : SamplingLoop G × SharedMemory) : Prop where
  loop : left.1.Twin matched setup right.1
  memory : left.2.Mirror count capacity exact left.1.holdings consumers right.2

variable {count capacity : ℕ} {exact : Prop} {matched : FrontendMatch F G} {setup : EngineSetup}
variable {consumers : List ConsumerHandle} {left : SamplingLoop F} {right : SamplingLoop G}
variable {memory memory' : SharedMemory}

theorem Twin.state_eq (h : left.Twin matched setup right) : right.state = left.state := by
  cases h
  rfl

theorem Twin.current_eq (h : left.Twin matched setup right) : right.current = left.current := by
  cases h
  rfl

theorem Twin.sampleIndex_eq (h : left.Twin matched setup right) :
    right.sampleIndex = left.sampleIndex := by
  cases h
  rfl

theorem Twin.inputIndex_eq (h : left.Twin matched setup right) :
    right.inputIndex = left.inputIndex := by
  cases h
  rfl

theorem Twin.pending_eq (h : left.Twin matched setup right) : right.pending = left.pending := by
  cases h
  rfl

theorem Twin.fits (h : left.Twin matched setup right) : left.engines.Fits setup := by
  cases h
  assumption

/-! ## The reset state -/

theorem Twin.clear (h : left.Twin matched setup right) :
    left.clear.Twin matched setup right.clear := by
  cases h with
  | recast frontend cache timestamp hfrontend hcache hfits htimestamp =>
      exact .recast _ cache.reset timestamp
        (matched.setPowerGood (matched.setDac (matched.setDac hfrontend _ _) _ _) _)
        hcache.reset hfits.reset nofun

/-- Both loops drop the same buffers and hold none afterwards. -/
theorem Paired.dropBuffers
    (h : Paired count capacity exact matched setup consumers (left, memory) (right, memory')) :
    (left.dropBuffers memory).Mirror count capacity exact [] consumers
      (right.dropBuffers memory') := by
  obtain ⟨htwin, hmemory⟩ := h
  cases htwin with
  | recast frontend cache timestamp hfrontend hcache hfits htimestamp =>
      have hquiet := hmemory.apply (.swapEdges none)
      cases hcurrent : left.current <;> cases hpending : left.pending <;>
        simp only [holdings, hcurrent, hpending] at hmemory hquiet <;>
        simp only [SamplingLoop.dropBuffers, hcurrent, hpending]
      case none.none => exact hmemory
      case none.some pending => exact hquiet.dropHandle
      case some.none handle => exact hquiet.dropHandle
      case some.some handle pending => exact hquiet.dropHandle.dropHandle

theorem Paired.acknowledge
    (h : Paired count capacity exact matched setup consumers (left, memory) (right, memory')) :
    Paired count capacity exact matched setup consumers (left.acknowledge memory)
      (right.acknowledge memory') := by
  obtain ⟨htwin, hmemory⟩ := h
  cases htwin with
  | recast frontend cache timestamp hfrontend hcache hfits htimestamp =>
      simp only [SamplingLoop.acknowledge]
      split
      · exact ⟨.recast frontend cache timestamp hfrontend hcache hfits htimestamp, hmemory⟩
      · exact ⟨.recast frontend cache timestamp hfrontend hcache hfits htimestamp,
          hmemory.apply .samplingAcknowledge⟩

theorem Twin.lowerAcked (h : left.Twin matched setup right) :
    Twin matched setup { left with resetAcked := false } { right with resetAcked := false } := by
  cases h with
  | recast frontend cache timestamp hfrontend hcache hfits htimestamp =>
      exact .recast frontend cache timestamp hfrontend hcache hfits htimestamp

/-- Both loops leave the reset state together, and look alike from then on. -/
theorem Paired.stepReset
    (h : Paired count capacity exact matched setup consumers (left, memory) (right, memory')) :
    (left.stepReset memory).1 = (right.stepReset memory').1 ∧
      Paired count capacity exact matched setup consumers (left.stepReset memory).2
        (right.stepReset memory').2 := by
  have hfreed := h.dropBuffers
  have hcleared := h.loop.clear
  simp only [SamplingLoop.stepReset, ← hfreed.alike.state]
  split
  · exact ⟨rfl, Paired.acknowledge ⟨hcleared, hfreed⟩⟩
  · exact ⟨rfl, hcleared.lowerAcked, hfreed⟩

/-! ## Waiting for the start -/

omit [Frontend F] [Frontend G] in
theorem mirror_serveCommands {holdings : List (ProducerHandle × ℕ)}
    (h : memory.Mirror count capacity exact holdings consumers memory') :
    (serveCommands memory).Mirror count capacity exact holdings consumers
      (serveCommands memory') := by
  have hreceived := h.apply .samplingReceive
  have hmessage := h.alike.samplingReceive.result
  simp only [ArenaOp.apply] at hreceived
  simp only [serveCommands]
  generalize memory.samplingReceive = received, memory'.samplingReceive = received'
    at hreceived hmessage
  obtain ⟨message, served⟩ := received
  obtain ⟨message', served'⟩ := received'
  obtain rfl : message = message' := hmessage
  cases message with
  | none => exact hreceived
  | some message =>
      simp only
      split
      · exact hreceived.apply (.samplingSend .pong message.first message.second)
      · exact hreceived.apply (.notify .pru0 .invalidCommand message.type.toWord message.first)

theorem Twin.maintainCache (h : left.Twin matched setup right) (mode : Mode) (reader : ℕ) :
    (left.maintainCache mode reader).Twin matched setup (right.maintainCache mode reader) := by
  cases h with
  | recast frontend cache timestamp hfrontend hcache hfits htimestamp =>
      simp only [SamplingLoop.maintainCache]
      split
      · exact .recast frontend (cache.maintain reader).2 timestamp hfrontend
          (hcache.maintain reader) (hfits.setCache (hfits.cache.maintain reader)) htimestamp
      · exact .recast frontend cache timestamp hfrontend hcache hfits htimestamp

omit [Frontend F] in
theorem holdings_maintainCache (loop : SamplingLoop F) (mode : Mode) (reader : ℕ) :
    (loop.maintainCache mode reader).holdings = loop.holdings := by
  rw [maintainCache]
  split <;> rfl

theorem Paired.stepAwaitStart
    (h : Paired count capacity exact matched setup consumers (left, memory) (right, memory')) :
    (left.stepAwaitStart memory).1 = (right.stepAwaitStart memory').1 ∧
      Paired count capacity exact matched setup consumers (left.stepAwaitStart memory).2
        (right.stepAwaitStart memory').2 := by
  have hserved := mirror_serveCommands
    ((h.memory.apply .takeSwapTrigger).apply .takeSampleTrigger)
  simp only [ArenaOp.apply] at hserved
  simp only [SamplingLoop.stepAwaitStart]
  generalize serveCommands memory.takeSwapTrigger.2.takeSampleTrigger.2 = served,
    serveCommands memory'.takeSwapTrigger.2.takeSampleTrigger.2 = served' at hserved
  have hmode : served.mode = served'.mode := hserved.alike.arena.mode
  rw [← hserved.alike.state, ← hmode]
  cases served.state with
  | running | reset | fault => exact ⟨rfl, h.loop, hserved⟩
  | idle | armed =>
      refine ⟨rfl, h.loop.maintainCache served.mode 0, ?_⟩
      rw [holdings_maintainCache]
      exact hserved

/-! ## Handing buffers over -/

omit [Frontend F] in
theorem handOver_eq (loop : SamplingLoop F) (memory : SharedMemory) (handle : ProducerHandle)
    (summary : BufferMeta) :
    loop.handOver memory handle summary =
      (match (memory.release handle summary).1 with
        | none => { loop with stats := { loop.stats with released := loop.stats.released + 1 } }
        | some back => { loop with pending := some (back, summary) },
        (memory.release handle summary).2) := by
  rw [handOver]
  generalize memory.release handle summary = released
  obtain ⟨_ | back, after⟩ := released <;> rfl

/-- A finished buffer is handed over, or it waits. -/
theorem Paired.handOver {handle : ProducerHandle} {summary : BufferMeta}
    (htwin : left.Twin matched setup right) (hpending : left.pending = none)
    (hmemory : memory.Mirror count capacity exact
      ((handle, summary.sampleCount.toNat) :: left.holdings) consumers memory') :
    Paired count capacity exact matched setup consumers (left.handOver memory handle summary)
      (right.handOver memory' handle summary) := by
  obtain ⟨hresult, hreleased⟩ := hmemory.release (Nat.le_refl _)
  rw [handOver_eq, handOver_eq, ← hresult]
  generalize (memory.release handle summary).1 = back at hreleased
  cases htwin with
  | recast frontend cache timestamp hfrontend hcache hfits htimestamp =>
      cases back with
      | none =>
          exact ⟨.recast frontend cache timestamp hfrontend hcache hfits htimestamp, hreleased⟩
      | some back =>
          refine ⟨.recast frontend cache timestamp hfrontend hcache hfits htimestamp,
            hreleased.perm ?_⟩
          simp only [holdings, hpending, Option.toList_some, List.map_cons, List.map_nil,
            Option.map_none, Option.toList_none, Option.map_some, List.append_nil]
          exact List.perm_append_comm

theorem Paired.retryPending
    (h : Paired count capacity exact matched setup consumers (left, memory) (right, memory')) :
    Paired count capacity exact matched setup consumers (left.retryPending memory)
      (right.retryPending memory') := by
  have hsame : left.Twin matched setup right := h.loop
  simp only [SamplingLoop.retryPending, hsame.pending_eq]
  split
  · rename_i handle summary hpending
    have htwin : Twin matched setup { left with pending := none }
        { right with pending := none } := by
      cases hsame with
      | recast frontend cache timestamp hfrontend hcache hfits htimestamp =>
          exact .recast frontend cache timestamp hfrontend hcache hfits htimestamp
    apply Paired.handOver htwin rfl
    apply h.memory.perm
    simp only [holdings, hpending, Option.map_some, Option.toList_some, Option.map_none,
      Option.toList_none, List.append_nil]
    exact List.perm_append_singleton _ _
  · exact h

/-! ## Period boundaries -/

/-- Both use the successor again, which was being filled, for the new period. -/
theorem Paired.reuseBuffer {handle : ProducerHandle}
    (h : Paired count capacity exact matched setup consumers (left, memory) (right, memory'))
    (hcurrent : left.current = some handle) (timestamp : UInt64) :
    Paired count capacity exact matched setup consumers (left.reuseBuffer memory handle timestamp)
      (right.reuseBuffer memory' handle timestamp) := by
  obtain ⟨htwin, hmemory⟩ := h
  cases htwin with
  | recast frontend cache before hfrontend hcache hfits htimestamp =>
      refine ⟨.recast frontend cache timestamp hfrontend hcache hfits fun _ => rfl, ?_⟩
      have hagain := hmemory.apply (.swapEdges (some handle.index))
      simp only [holdings, hcurrent, Option.map_some, Option.toList_some, List.singleton_append]
        at hagain
      simp only [holdings, SamplingLoop.reuseBuffer, openPeriod, hcurrent, Option.map_some,
        Option.toList_some, List.singleton_append]
      exact hagain.refill (Nat.zero_le _)

/-- Both end the same buffer and begin the same next one. -/
theorem Paired.exchangeBuffer
    (h : Paired count capacity exact matched setup consumers (left, memory) (right, memory'))
    (hroom : left.current = none ∨ left.pending = none) (timestamp : UInt64) :
    Paired count capacity exact matched setup consumers (left.exchangeBuffer memory timestamp)
      (right.exchangeBuffer memory' timestamp) := by
  obtain ⟨htwin, hmemory⟩ := h
  obtain ⟨hresult, hacquired⟩ := hmemory.acquire
  have htaken : memory.acquire.1.toList.map (·, 0) =
      (memory.acquire.1.map (·, UInt32.toNat 0)).toList := by
    cases memory.acquire.1 <;> rfl
  cases htwin with
  | recast frontend cache before hfrontend hcache hfits htimestamp =>
      have hnext : Twin matched setup
          { left.openPeriod timestamp with current := memory.acquire.1 }
          { (left.recast frontend cache before).openPeriod timestamp with
            current := memory'.acquire.1 } := by
        rw [← hresult]
        exact .recast frontend cache timestamp hfrontend hcache hfits fun _ => rfl
      cases hcurrent : left.current with
      | none =>
          simp only [SamplingLoop.exchangeBuffer, hcurrent]
          refine ⟨hnext, ?_⟩
          simpa only [holdings, hcurrent, htaken, openPeriod, Option.map_none, Option.toList_none,
            List.nil_append] using hacquired
      | some finished =>
          have hpending : left.pending = none := by simpa [hcurrent] using hroom
          obtain rfl : left.bufferTimestamp = before := htimestamp (by rw [hcurrent]; rfl)
          simp only [SamplingLoop.exchangeBuffer, hcurrent]
          apply Paired.handOver hnext hpending
          refine hacquired.perm ?_
          simp only [holdings, hcurrent, hpending, htaken, openPeriod, Option.map_some,
            Option.toList_some, Option.map_none, Option.toList_none, List.append_nil]
          exact List.perm_append_singleton _ _

/-- A period boundary is handled alike. -/
theorem Paired.handleSwap
    (h : Paired count capacity exact matched setup consumers (left, memory) (right, memory'))
    (timestamp : UInt64) :
    Paired count capacity exact matched setup consumers (left.handleSwap memory timestamp)
      (right.handleSwap memory' timestamp) := by
  have hsame : left.Twin matched setup right := h.loop
  simp only [SamplingLoop.handleSwap, hsame.current_eq, hsame.pending_eq]
  split
  · exact h.reuseBuffer (by assumption) timestamp
  · rename_i hnot
    apply h.exchangeBuffer _ timestamp
    by_contra hboth
    rw [not_or, ← ne_eq, ← ne_eq, Option.ne_none_iff_exists', Option.ne_none_iff_exists'] at hboth
    obtain ⟨⟨handle, hcurrent⟩, pending, hpending⟩ := hboth
    exact hnot handle pending hcurrent hpending

/-! ## Samples -/

/-- Harvesters of one setup measure alike where their front-ends answer alike. -/
theorem Twin.harvestSample (h : left.Twin matched setup right) :
    left.harvestSample.1 = right.harvestSample.1 ∧
      left.harvestSample.2.Twin matched setup right.harvestSample.2 := by
  cases h with
  | recast frontend cache timestamp hfrontend hcache hfits htimestamp =>
      obtain ⟨hinput, hnext⟩ := matched.readInput hfrontend
      simp only [SamplingLoop.harvestSample, SamplingLoop.recast, ← hinput]
      refine ⟨trivial, ?_⟩
      apply @Twin.recast F G _ _ matched setup _ _ cache timestamp
      · exact matched.setDac hnext _ _
      · exact hcache
      · exact (hfits.setHarvester (Harvester.cfg_step _ _ _)).setConverter rfl rfl
      · exact htimestamp

/-- Converters of one setup are fed from alike caches. -/
theorem Twin.emulateSample (h : left.Twin matched setup right) :
    left.emulateSample.1 = right.emulateSample.1 ∧
      left.emulateSample.2.Twin matched setup right.emulateSample.2 := by
  cases h with
  | recast frontend cache timestamp hfrontend hcache hfits htimestamp =>
      obtain ⟨hcurrent, hnext⟩ := matched.readOutputCurrent hfrontend
      obtain ⟨hread, hcache'⟩ := hcache.read left.inputIndex
      simp only [SamplingLoop.emulateSample, SamplingLoop.recast, ← hcurrent, ← hread]
      refine ⟨trivial, ?_⟩
      apply @Twin.recast F G _ _ matched setup _ _ (cache.read left.inputIndex).2 timestamp
      · exact matched.setPowerGood (matched.setDac hnext _ _) _
      · exact hcache'
      · have hkept := left.engines.converter.cfg_tick
          (left.engines.cache.read left.inputIndex).1.voltage
          (left.engines.cache.read left.inputIndex).1.current
          (Frontend.readOutputCurrent left.frontend).1
        exact (hfits.setCache (hfits.cache.read left.inputIndex)).setConverter hkept.1 hkept.2
      · exact htimestamp

theorem Twin.passthroughSample (h : left.Twin matched setup right) :
    left.passthroughSample.1 = right.passthroughSample.1 ∧
      left.passthroughSample.2.Twin matched setup right.passthroughSample.2 := by
  cases h with
  | recast frontend cache timestamp hfrontend hcache hfits htimestamp =>
      obtain ⟨hinput, hnext⟩ := matched.readInput hfrontend
      obtain ⟨hcurrent, hlast⟩ := matched.readOutputCurrent hnext
      simp only [SamplingLoop.passthroughSample, SamplingLoop.recast, ← hinput, ← hcurrent]
      refine ⟨trivial, ?_⟩
      apply @Twin.recast F G _ _ matched setup _ _ cache timestamp
      · exact matched.setDac hlast _ _
      · exact hcache
      · exact hfits
      · exact htimestamp

theorem Twin.disabledSample (h : left.Twin matched setup right) :
    left.disabledSample.1 = right.disabledSample.1 ∧
      left.disabledSample.2.Twin matched setup right.disabledSample.2 := by
  cases h with
  | recast frontend cache timestamp hfrontend hcache hfits htimestamp =>
      exact ⟨rfl, .recast _ cache timestamp (matched.setDac hfrontend _ _) hcache hfits htimestamp⟩

/-- A sample is taken alike in every mode. -/
theorem Twin.sampleOnce (h : left.Twin matched setup right) (mode : Mode) :
    (left.sampleOnce mode).1 = (right.sampleOnce mode).1 ∧
      (left.sampleOnce mode).2.Twin matched setup (right.sampleOnce mode).2 := by
  cases mode with
  | harvest => exact h.harvestSample
  | emulate => exact h.emulateSample
  | debugPassthrough => exact h.passthroughSample
  | disabled => exact h.disabledSample

theorem holdings_sampleOnce (loop : SamplingLoop F) (mode : Mode) :
    (loop.sampleOnce mode).2.holdings = loop.holdings := by
  cases mode <;> rfl

/-- The difference of two readings of a cycle counter does not depend on where it started. -/
theorem Twin.cycles_sub {left' : SamplingLoop F} {right' : SamplingLoop G}
    (h : left.Twin matched setup right) (h' : left'.Twin matched setup right') :
    Frontend.cycles left'.frontend - Frontend.cycles left.frontend =
      Frontend.cycles right'.frontend - Frontend.cycles right.frontend := by
  cases h with
  | recast frontend cache timestamp hfrontend hcache hfits htimestamp =>
      cases h' with
      | recast frontend' cache' timestamp' hfrontend' hcache' hfits' htimestamp' =>
          rw [matched.cycles hfrontend, matched.cycles hfrontend']
          exact add_sub_add_right_eq_sub _ _ _

/-- A sample is written to the same cell of both buffers. -/
theorem Paired.store
    (h : Paired count capacity exact matched setup consumers (left, memory) (right, memory'))
    (sample : IvSample) :
    (left.store memory sample).1 = (right.store memory' sample).1 ∧
      (left.store memory sample).2.Mirror count capacity exact
        (holdings { left with sampleIndex := Saturating.add32 left.sampleIndex 1 }) consumers
        (right.store memory' sample).2 := by
  have hsame : left.Twin matched setup right := h.loop
  have hmemory := h.memory
  simp only [SamplingLoop.store, hsame.current_eq, hsame.sampleIndex_eq]
  cases hcurrent : left.current with
  | none =>
      simp only [holdings, hcurrent, Option.map_none] at hmemory
      exact ⟨rfl, hmemory⟩
  | some handle =>
      simp only [holdings, hcurrent, Option.map_some, Option.toList_some, List.singleton_append]
        at hmemory ⊢
      obtain ⟨hresult, hput⟩ := hmemory.put sample
      refine ⟨hresult, hput.refill ?_⟩
      rw [Saturating.toNat_add32]
      exact Nat.min_le_left _ _

/-- A sample tick is handled alike. -/
theorem Paired.handleSample
    (h : Paired count capacity exact matched setup consumers (left, memory) (right, memory')) :
    Paired count capacity exact matched setup consumers (left.handleSample memory)
      (right.handleSample memory') := by
  have hsame : left.Twin matched setup right := h.loop
  have hmode : memory.mode = memory'.mode := h.memory.alike.arena.mode
  obtain ⟨hsample, hsampled⟩ := hsame.sampleOnce memory.mode
  have hcycles := hsame.cycles_sub hsampled
  have hkept : Paired count capacity exact matched setup consumers
      ((left.sampleOnce memory.mode).2, memory) ((right.sampleOnce memory.mode).2, memory') := by
    refine ⟨hsampled, ?_⟩
    rw [holdings_sampleOnce]
    exact h.memory
  obtain ⟨hresult, hstored⟩ := hkept.store (left.sampleOnce memory.mode).1
  simp only [SamplingLoop.handleSample, ← hmode, ← hsample, ← hresult, ← hcycles]
  refine ⟨?_, hstored⟩
  generalize (left.sampleOnce memory.mode).2 = next, (right.sampleOnce memory.mode).2 = next'
    at hsampled
  cases hsampled with
  | recast frontend cache timestamp hfrontend hcache hfits htimestamp =>
      exact .recast frontend cache timestamp hfrontend hcache hfits htimestamp

/-! ## A running session -/

theorem Paired.pollSwap
    (h : Paired count capacity exact matched setup consumers (left, memory) (right, memory')) :
    (left.pollSwap memory).1 = (right.pollSwap memory').1 ∧
      Paired count capacity exact matched setup consumers (left.pollSwap memory).2
        (right.pollSwap memory').2 := by
  have htaken := h.memory.apply .takeSwapTrigger
  have hresult := h.memory.alike.takeSwapTrigger.result
  simp only [ArenaOp.apply] at htaken hresult
  simp only [SamplingLoop.pollSwap]
  generalize memory.takeSwapTrigger = taken, memory'.takeSwapTrigger = taken' at htaken hresult
  obtain ⟨timestamp, after⟩ := taken
  obtain ⟨timestamp', after'⟩ := taken'
  obtain rfl : timestamp = timestamp' := hresult
  have hnext : Paired count capacity exact matched setup consumers (left, after) (right, after') :=
    ⟨h.loop, htaken⟩
  cases timestamp with
  | none => exact ⟨rfl, hnext⟩
  | some timestamp => exact ⟨rfl, hnext.handleSwap timestamp⟩

theorem Paired.pollSample
    (h : Paired count capacity exact matched setup consumers (left, memory) (right, memory')) :
    (left.pollSample memory).1 = (right.pollSample memory').1 ∧
      Paired count capacity exact matched setup consumers (left.pollSample memory).2
        (right.pollSample memory').2 := by
  have htaken := h.memory.apply .takeSampleTrigger
  have hresult := h.memory.alike.takeSampleTrigger.result
  simp only [ArenaOp.apply] at htaken hresult
  simp only [SamplingLoop.pollSample]
  generalize memory.takeSampleTrigger = taken, memory'.takeSampleTrigger = taken'
    at htaken hresult
  obtain ⟨raised, after⟩ := taken
  obtain ⟨raised', after'⟩ := taken'
  obtain rfl : raised = raised' := hresult
  have hnext : Paired count capacity exact matched setup consumers (left, after) (right, after') :=
    ⟨h.loop, htaken⟩
  cases raised with
  | false => exact ⟨rfl, hnext⟩
  | true => exact ⟨rfl, hnext.pollSwap.2.handleSample⟩

/-- By the parts of the work, each of which keeps the loops alike. -/
theorem Paired.work
    (h : Paired count capacity exact matched setup consumers (left, memory) (right, memory')) :
    Paired count capacity exact matched setup consumers (left.work memory)
      (right.work memory') := by
  have hretried := h.retryPending
  simp only [SamplingLoop.work]
  generalize left.retryPending memory = retried, right.retryPending memory' = retried'
    at hretried
  obtain ⟨hswap, hswapped⟩ := Paired.pollSwap hretried
  generalize retried.1.pollSwap retried.2 = swapped, retried'.1.pollSwap retried'.2 = swapped'
    at hswap hswapped
  obtain ⟨hsample, hsampled⟩ := Paired.pollSample hswapped
  generalize swapped.2.1.pollSample swapped.2.2 = sampled,
    swapped'.2.1.pollSample swapped'.2.2 = sampled' at hsample hsampled
  rw [← hswap, ← hsample]
  split
  · exact hsampled
  · have hmode : sampled.2.2.mode = sampled'.2.2.mode := hsampled.memory.alike.arena.mode
    rw [← hmode, hsampled.loop.inputIndex_eq]
    refine ⟨hsampled.loop.maintainCache sampled.2.2.mode sampled.2.1.inputIndex, ?_⟩
    rw [holdings_maintainCache]
    exact mirror_serveCommands hsampled.memory

theorem Paired.stepRunning
    (h : Paired count capacity exact matched setup consumers (left, memory) (right, memory')) :
    (left.stepRunning memory).1 = (right.stepRunning memory').1 ∧
      Paired count capacity exact matched setup consumers (left.stepRunning memory).2
        (right.stepRunning memory').2 := by
  have hstate : memory.state = memory'.state := h.memory.alike.state
  simp only [SamplingLoop.stepRunning, ← hstate]
  cases memory.state with
  | running => exact ⟨rfl, h.work⟩
  | idle | armed | reset | fault => exact ⟨rfl, h⟩

/-! ## A whole step -/

/-- By cases on the state, which both loops share. -/
theorem Paired.dispatch
    (h : Paired count capacity exact matched setup consumers (left, memory) (right, memory')) :
    (left.dispatch memory).1 = (right.dispatch memory').1 ∧
      Paired count capacity exact matched setup consumers (left.dispatch memory).2
        (right.dispatch memory').2 := by
  have hsame : left.Twin matched setup right := h.loop
  simp only [SamplingLoop.dispatch, hsame.state_eq]
  cases left.state with
  | reset => exact h.stepReset
  | awaitStart => exact h.stepAwaitStart
  | running => exact h.stepRunning
  | fault =>
      have hstate : memory.state = memory'.state := h.memory.alike.state
      simp only [stepFault, hstate]
      exact ⟨trivial, h⟩

/-- Loops that run alike do so after a step. -/
theorem Paired.step
    (h : Paired count capacity exact matched setup consumers (left, memory) (right, memory')) :
    Paired count capacity exact matched setup consumers (left.step memory)
      (right.step memory') := by
  obtain ⟨hnext, hmoved⟩ := h.dispatch
  have hsame : left.Twin matched setup right := h.loop
  simp only [SamplingLoop.step, hsame.state_eq]
  generalize left.dispatch memory = dispatched, right.dispatch memory' = dispatched' at hnext hmoved
  obtain ⟨next, moved, after⟩ := dispatched
  obtain ⟨next', moved', after'⟩ := dispatched'
  obtain rfl : next = next' := hnext
  dsimp only
  split
  · exact hmoved
  · have htwin : Twin matched setup { moved with state := next } { moved' with state := next } := by
      have hloop : moved.Twin matched setup moved' := hmoved.loop
      cases hloop with
      | recast frontend cache timestamp hfrontend hcache hfits htimestamp =>
          exact .recast frontend cache timestamp hfrontend hcache hfits htimestamp
    exact ⟨htwin, hmoved.memory.log _ _⟩

/-! ## The trace grows -/

theorem Twin.appendTrace (h : left.Twin matched setup right) (more : Array IvSample) :
    (left.appendTrace more).Twin matched setup (right.appendTrace more) := by
  cases h with
  | recast frontend cache timestamp hfrontend hcache hfits htimestamp =>
      exact .recast frontend (cache.append more) timestamp hfrontend (hcache.append more)
        (hfits.setCache (hfits.cache.append more)) htimestamp

end SamplingLoop

end HarvestTestbed
