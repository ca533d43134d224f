import HarvestTestbed.Proofs.Twins

/-!
# Runs of two benches

Two benches on which the same happens stay alike: loops that run alike stay so, and so do memories
whose buffers are filled alike.  What is observed of them is then the same.  A bench is also like
itself, which says that its handles and the owners of its buffers agree and that its engines are
those of its setup.
-/

namespace HarvestTestbed

def SamplingEvent.isStep : SamplingEvent → Bool
  | .step => true
  | _ => false

/-- What the event does to the loop, unless it is a step. -/
def SamplingEvent.onLoop {F : Type} (event : SamplingEvent) (loop : SamplingLoop F) :
    SamplingLoop F :=
  match event with
  | .appendTrace more => loop.appendTrace more
  | _ => loop

/-- Every front-end answers like itself. -/
def FrontendMatch.refl (F : Type) [Frontend F] : FrontendMatch F F where
  rel := Eq
  apart := 0
  readInput := fun heq => by rw [heq]; exact ⟨rfl, rfl⟩
  readOutputCurrent := fun heq => by rw [heq]; exact ⟨rfl, rfl⟩
  setDac := fun heq _ _ => by rw [heq]
  setPowerGood := fun heq _ => by rw [heq]
  cycles := fun heq => by simp [heq]

/-- Front-ends that follow one script and have been asked the same answer alike, wherever their
cycle counters started. -/
def FrontendMatch.scripted (offset offset' : UInt32) :
    FrontendMatch ScriptedFrontend ScriptedFrontend where
  rel left right :=
    left.script = right.script ∧ left.calls = right.calls ∧
      left.offset = offset ∧ right.offset = offset'
  apart := offset - offset'
  readInput := by
    rintro left right ⟨hscript, hcalls, hleft, hright⟩
    simp [Frontend.readInput, ScriptedFrontend.record, *]
  readOutputCurrent := by
    rintro left right ⟨hscript, hcalls, hleft, hright⟩
    simp [Frontend.readOutputCurrent, ScriptedFrontend.record, *]
  setDac := by
    rintro left right ⟨hscript, hcalls, hleft, hright⟩ channel raw
    simp [Frontend.setDac, ScriptedFrontend.record, *]
  setPowerGood := by
    rintro left right ⟨hscript, hcalls, hleft, hright⟩ good
    simp [Frontend.setPowerGood, ScriptedFrontend.record, *]
  cycles := by
    rintro left right ⟨hscript, hcalls, hleft, hright⟩
    simp only [Frontend.cycles, hscript, hcalls, hleft, hright]
    grind

namespace SamplingBench

variable {F G : Type} [Frontend F] [Frontend G]
variable {count capacity : ℕ} {exact : Prop} {holdings : List (ProducerHandle × ℕ)}
variable {matched : FrontendMatch F G} {setup : EngineSetup}
variable {left : SamplingBench F} {right : SamplingBench G}

/-- Two benches whose host has the same handles and whose buffers are filled alike. -/
structure Mirrored (count capacity : ℕ) (exact : Prop) (holdings : List (ProducerHandle × ℕ))
    (left : SamplingBench F) (right : SamplingBench G) : Prop where
  consumers : right.consumers = left.consumers
  memory : left.memory.Mirror count capacity exact holdings left.consumers right.memory

/-- Two benches whose loops run alike as well. -/
structure Paired (count capacity : ℕ) (exact : Prop) (matched : FrontendMatch F G)
    (setup : EngineSetup) (left : SamplingBench F) (right : SamplingBench G) : Prop where
  consumers : right.consumers = left.consumers
  stepped : SamplingLoop.Paired count capacity exact matched setup left.consumers
    (left.loop, left.memory) (right.loop, right.memory)

theorem Paired.mirrored (h : Paired count capacity exact matched setup left right) :
    Mirrored count capacity exact left.loop.holdings left right :=
  ⟨h.consumers, h.stepped.memory⟩

/-- What happens to the memory without a step of the loop. -/
theorem Mirrored.step (h : Mirrored count capacity exact holdings left right)
    {event : SamplingEvent} (hevent : event.isStep = false) :
    Mirrored count capacity exact holdings (left.step event) (right.step event) := by
  obtain ⟨memory, loop, consumers⟩ := left
  obtain ⟨memory', loop', consumers'⟩ := right
  obtain ⟨hconsumers, hmemory⟩ := h
  obtain rfl : consumers' = consumers := hconsumers
  cases event with
  | step => cases hevent
  | op op => exact ⟨rfl, hmemory.apply op⟩
  | claim index =>
      obtain ⟨hresult, hclaimed⟩ := hmemory.claim index
      exact ⟨by simp only [SamplingBench.step, hresult], hclaimed⟩
  | recycle position =>
      simp only [SamplingBench.step]
      cases hhandle : consumers'[position]? with
      | none => exact ⟨rfl, hmemory⟩
      | some handle => exact ⟨rfl, (hmemory.consumer_first hhandle).recycle⟩
  | dropFilled position =>
      simp only [SamplingBench.step]
      cases hhandle : consumers'[position]? with
      | none => exact ⟨rfl, hmemory⟩
      | some handle => exact ⟨rfl, (hmemory.consumer_first hhandle).dropFilled⟩
  | appendTrace more => exact ⟨rfl, hmemory⟩

theorem loop_step {event : SamplingEvent} (hevent : event.isStep = false)
    (bench : SamplingBench F) : (bench.step event).loop = event.onLoop bench.loop := by
  cases event with
  | step => cases hevent
  | recycle position | dropFilled position =>
      simp only [SamplingBench.step]
      split <;> rfl
  | op | claim | appendTrace => rfl

theorem Paired.step (h : Paired count capacity exact matched setup left right)
    (event : SamplingEvent) :
    Paired count capacity exact matched setup (left.step event) (right.step event) := by
  cases hevent : event.isStep with
  | true =>
      cases event with
      | step => exact ⟨h.consumers, h.stepped.step⟩
      | op | claim | recycle | dropFilled | appendTrace => cases hevent
  | false =>
      obtain ⟨hconsumers, hmemory⟩ := h.mirrored.step hevent
      have hholdings : (left.step event).loop.holdings = left.loop.holdings := by
        rw [loop_step hevent]
        cases event <;> rfl
      refine ⟨hconsumers, ?_, hholdings ▸ hmemory⟩
      have hloop : left.loop.Twin matched setup right.loop := h.stepped.loop
      dsimp only
      rw [loop_step hevent, loop_step hevent]
      cases event with
      | appendTrace more => exact hloop.appendTrace more
      | step | op | claim | recycle | dropFilled => exact hloop

/-- Benches that are alike stay so along a run. -/
theorem Paired.run (h : Paired count capacity exact matched setup left right)
    (events : List SamplingEvent) :
    Paired count capacity exact matched setup (left.run events) (right.run events) := by
  induction events generalizing left right with
  | nil => exact h
  | cons event events ih => exact ih (h.step event)

/-- A newly started bench is like itself. -/
theorem paired_start {engines : Engines} {source : Trace} {pool : BufferPool}
    (hpool : BufferPool.new count capacity = .ok pool)
    (hengines : setup.engines source = .ok engines) (frontend : F) :
    Paired count capacity True (.refl F) setup (start pool frontend engines)
      (start pool frontend engines) := by
  have hownership := Ownership.split hpool (SharedMemory.split_of_new hpool)
  refine ⟨rfl, .recast frontend engines.cache 0 rfl (.refl _) (Engines.Fits.made hengines).1 nofun,
    hownership, hownership, (Custody.alike_justSplit hpool).memory, ?_, ?_⟩
  · intro handle fill hmem
    cases hmem
  · exact fun index buffer hbuffer => ⟨fun _ _ => rfl, rfl⟩

/-- Benches that are alike are observed alike. -/
theorem Paired.observe {offset offset' : UInt32} {left right : SamplingBench ScriptedFrontend}
    (h : Paired count capacity exact (.scripted offset offset') setup left right) :
    left.observe = right.observe := by
  obtain ⟨hloop, hmemory⟩ := h.stepped
  have hslot : left.memory.arena.pru0ToHost = right.memory.arena.pru0ToHost :=
    hmemory.alike.arena.pru0ToHost.eq
  have hreleased : left.memory.released = right.memory.released := hmemory.released
  obtain ⟨memory, loop, consumers⟩ := left
  obtain ⟨memory', loop', consumers'⟩ := right
  dsimp only at hloop hslot hreleased
  cases hloop with
  | recast frontend cache timestamp hfrontend hcache hfits htimestamp =>
      have hcounts : loop.engines.cache.hits = cache.hits ∧
          loop.engines.cache.misses = cache.misses := by
        rw [hcache.eq]
        exact ⟨rfl, rfl⟩
      have hcalls : loop.frontend.calls = frontend.calls := hfrontend.2.1
      simp only [SamplingBench.observe, SamplingLoop.recast, hslot, hreleased, hcounts.1,
        hcounts.2, hcalls]

end SamplingBench

end HarvestTestbed
