import HarvestTestbed.Proofs.PumpFrame
import HarvestTestbed.Proofs.Recording
import HarvestTestbed.Proofs.SamplingFrame

/-!
# What is recorded in one step

A step of the sampling loop handles the triggers that wait, and the periods advance by just these.
A service of the pump takes the announced buffer and shows it to the sink.  In between, a reset may
take buffers back, which then record nothing.
-/

namespace HarvestTestbed

/-! ## Samples -/

namespace SamplingLoop

variable {F : Type} [Frontend F]

/-- What a sample tick comes to in a mode. -/
def sampleRecord (loop : SamplingLoop F) (mode : Mode) : SampleRecord :=
  let sampled := loop.sampleOnce mode
  { sample := sampled.1
    power :=
      match mode with
      | .harvest | .emulate => sampled.2.engines.converter.state.inputPower.toInt
      | .debugPassthrough | .disabled => 0
    ticks := Frontend.cycles sampled.2.frontend - Frontend.cycles loop.frontend }

theorem summary_sampleOnce (loop : SamplingLoop F) (mode : Mode) :
    (loop.sampleOnce mode).2.summary =
      { loop.summary with
        inputPower := Saturating.add64 loop.inputPower (loop.sampleRecord mode).power } := by
  cases mode with
  | harvest | emulate => rfl
  | debugPassthrough | disabled =>
      simp only [sampleRecord, Saturating.add64_zero]
      rfl

theorem handles_sampleOnce (loop : SamplingLoop F) (mode : Mode) :
    (loop.sampleOnce mode).2.current = loop.current ∧
      (loop.sampleOnce mode).2.pending = loop.pending := by
  cases mode <;> exact ⟨rfl, rfl⟩

theorem summary_handleSample (loop : SamplingLoop F) (memory : SharedMemory) :
    (loop.handleSample memory).1.summary =
      { loop.summary with
        sampleCount := Saturating.add32 loop.summary.sampleCount 1
        util := loop.summary.util.record (loop.sampleRecord memory.mode).ticks
        inputPower :=
          Saturating.add64 loop.summary.inputPower (loop.sampleRecord memory.mode).power } := by
  have hsummary := loop.summary_sampleOnce memory.mode
  simp only [summary, BufferMeta.mk.injEq] at hsummary
  obtain ⟨htimestamp, hcount, hutil, hpower⟩ := hsummary
  simp only [handleSample, summary, htimestamp, hcount, hutil, hpower]
  rfl

/-- A sample goes into the buffer being filled, at the position it has in the period. -/
theorem memory_handleSample (loop : SamplingLoop F) (memory : SharedMemory) :
    (loop.handleSample memory).2 =
      match loop.current with
      | some handle =>
          (memory.put handle loop.summary.sampleCount.toNat
            (loop.sampleRecord memory.mode).sample).2
      | none => memory := by
  have hcount := congrArg BufferMeta.sampleCount (loop.summary_sampleOnce memory.mode)
  have hindex : (loop.sampleOnce memory.mode).2.sampleIndex = loop.summary.sampleCount := hcount
  simp only [handleSample, store, (loop.handles_sampleOnce memory.mode).1, hindex]
  cases loop.current <;> rfl

end SamplingLoop

/-! ## The triggers that a step handles -/

def SharedMemory.waitingSwaps (memory : SharedMemory) : List LoopEvent :=
  if memory.swapPending then [.swap memory.arena.bufferTimestamp] else []

namespace SamplingLoop

variable {F : Type} [Frontend F]

/-- The sample that waits to be taken. -/
def waitingSamples (loop : SamplingLoop F) (memory : SharedMemory) : List LoopEvent :=
  if memory.samplePending then [.sample (loop.sampleRecord memory.mode)] else []

/-- The triggers that the work of one step handles, a swap before a sample. -/
def workEvents (loop : SamplingLoop F) (memory : SharedMemory) : List LoopEvent :=
  let retried := loop.retryPending memory
  let swapped := (retried.1.pollSwap retried.2).2
  retried.2.waitingSwaps ++ swapped.1.waitingSamples swapped.2

/-- The triggers that a step handles, which it does only in a running session. -/
def handledEvents (loop : SamplingLoop F) (memory : SharedMemory) : List LoopEvent :=
  if loop.state = .running ∧ memory.state = .running then loop.workEvents memory else []

def handlesSwap (loop : SamplingLoop F) (memory : SharedMemory) : Bool :=
  (loop.handledEvents memory).any fun event =>
    match event with
    | .swap _ => true
    | .sample _ => false

theorem handlesSwap_eq (loop : SamplingLoop F) (memory : SharedMemory) :
    loop.handlesSwap memory =
      (decide (loop.state = .running ∧ memory.state = .running) && memory.swapPending) := by
  have hwork : (loop.workEvents memory).any (fun event =>
      match event with
      | .swap _ => true
      | .sample _ => false) = memory.swapPending := by
    simp only [workEvents, SharedMemory.waitingSwaps, waitingSamples, swapPending_retryPending]
    cases memory.swapPending <;> simp
  rw [handlesSwap, handledEvents]
  split
  · rename_i hrunning
    rw [hwork, decide_eq_true hrunning, Bool.true_and]
  · rename_i hrunning
    rw [decide_eq_false hrunning]
    rfl

end SamplingLoop

theorem BufferPool.buffer_view {pool : BufferPool} {handle : ConsumerHandle}
    {buffer : SampleBuffer} (hbuffer : pool.buffer? handle.index = some buffer) :
    (pool.view handle).buffer = buffer := by
  obtain ⟨entry, hentry, rfl⟩ := Option.map_eq_some_iff.mp hbuffer
  rw [view, hentry]

namespace Recording

variable {F : Type} {count capacity : ℕ} {memory after : SharedMemory} {loop : SamplingLoop F}
variable {log : PeriodLog} {delivered : List SampleBuffer}

/-- Storing a sample changes one buffer, which is neither announced nor waiting. -/
theorem put {handle : ProducerHandle} {next : SamplingLoop F} {record : SampleRecord}
    (h : Recording count capacity memory loop log delivered)
    (hcurrent : loop.current = some handle) (hnext : next.current = loop.current)
    (hpending : next.pending = loop.pending)
    (hsummary : next.summary =
      { loop.summary with
        sampleCount := Saturating.add32 loop.summary.sampleCount 1
        util := loop.summary.util.record record.ticks
        inputPower := Saturating.add64 loop.summary.inputPower record.power }) :
    Recording count capacity
      (memory.put handle loop.summary.sampleCount.toNat record.sample).2 next
      (log.note (.sample record)) delivered := by
  obtain ⟨period, hlasting, hsummarizes, hholds⟩ := h.filling handle hcurrent
  have howner := h.owner?_current hcurrent
  have hbuffer : ∀ index, index ≠ handle.index →
      (memory.put handle loop.summary.sampleCount.toNat record.sample).2.pool.buffer? index =
        memory.pool.buffer? index := by
    intro index hne
    simp only [SharedMemory.put, BufferPool.put_snd_eq, BufferPool.buffer?_editBuffer, if_neg hne]
  have hstored : ∀ buffer,
      (memory.put handle loop.summary.sampleCount.toNat record.sample).2.pool.buffer?
          handle.index = some buffer →
        ∃ old, memory.pool.buffer? handle.index = some old ∧
          (old.put loop.summary.sampleCount.toNat record.sample).2 = buffer := by
    intro buffer hsome
    simp only [SharedMemory.put, BufferPool.put_snd_eq, BufferPool.buffer?_editBuffer, if_true]
      at hsome
    exact Option.map_eq_some_iff.mp hsome
  have hownership := h.ownership.put handle loop.summary.sampleCount.toNat record.sample
  rw [SamplingLoop.handles, ← hnext, ← hpending] at hownership
  constructor
  case ownership => exact hownership
  case capacity_eq =>
    intro index buffer hsome
    by_cases hsame : index = handle.index
    · subst hsame
      obtain ⟨old, hold, rfl⟩ := hstored buffer hsome
      rw [capacity_put]
      exact h.capacity_eq _ old hold
    · exact h.capacity_eq index buffer (hbuffer index hsame ▸ hsome)
  case announced_filled =>
    intro index hannounced
    have hkept := h.announced_filled index hannounced
    simpa only [SharedMemory.put, BufferPool.put_snd_eq, BufferPool.owner?_editBuffer] using hkept
  case filling =>
    intro other hother
    rw [hnext, hcurrent, Option.some.injEq] at hother
    subst hother
    refine ⟨period.add record, by simp [PeriodLog.note, hlasting], ?_, ?_⟩
    · rw [hsummary]
      exact hsummarizes.add record
    · intro buffer hsome
      obtain ⟨old, hold, rfl⟩ := hstored buffer hsome
      exact (hholds old hold).put (h.capacity_eq _ old hold) hsummarizes record
  case queue =>
    refine queue_congr h.queue rfl hpending ?_ ?_
    · intro index hannounced
      apply hbuffer index
      rintro rfl
      rw [h.announced_filled _ hannounced] at howner
      cases howner
    · intro waiting summary hwaits
      rw [hbuffer waiting.index (h.current_ne_pending hcurrent hwaits).symm]

/-- Without a buffer a sample is not kept. -/
theorem discard {next : SamplingLoop F} (h : Recording count capacity memory loop log delivered)
    (hcurrent : loop.current = none) (hnext : next.current = loop.current)
    (hpending : next.pending = loop.pending) (record : SampleRecord) :
    Recording count capacity memory next (log.note (.sample record)) delivered where
  ownership := by
    rw [SamplingLoop.handles, hnext, hpending]
    exact h.ownership
  capacity_eq := h.capacity_eq
  announced_filled := h.announced_filled
  filling handle hhandle := by simp [hnext, hcurrent] at hhandle
  queue := queue_congr h.queue rfl hpending (fun _ _ => rfl) (fun _ _ _ => rfl)

theorem handleSample [Frontend F] (h : Recording count capacity memory loop log delivered) :
    Recording count capacity (loop.handleSample memory).2 (loop.handleSample memory).1
      (log.note (.sample (loop.sampleRecord memory.mode))) delivered := by
  have hnext : (loop.handleSample memory).1.current = loop.current :=
    (loop.handles_sampleOnce memory.mode).1
  have hpending : (loop.handleSample memory).1.pending = loop.pending :=
    (loop.handles_sampleOnce memory.mode).2
  rw [loop.memory_handleSample memory]
  cases hcurrent : loop.current with
  | none => exact h.discard hcurrent hnext hpending _
  | some handle => exact h.put hcurrent hnext hpending (loop.summary_handleSample memory)

/-! ## Giving buffers up -/

/-- Dropping a handle leaves every content, and every announced buffer, as it is. -/
theorem drop_cases {handle : ProducerHandle}
    (h : Recording count capacity memory loop log delivered)
    (howner : memory.pool.owner? handle.index = some .producer) :
    (∀ index, (memory.dropHandle handle).pool.buffer? index = memory.pool.buffer? index) ∧
      ∀ index, memory.announcedIndex? = some index →
        (memory.dropHandle handle).pool.owner? index = some .filled := by
  rw [SharedMemory.dropHandle_eq howner]
  refine ⟨fun index => BufferPool.buffer?_setOwner _ _ _ _, fun index hannounced => ?_⟩
  have hfilled := h.announced_filled index hannounced
  have hne : index ≠ handle.index := by
    rintro rfl
    rw [hfilled] at howner
    cases howner
  simp only
  rw [BufferPool.owner?_setOwner howner, if_neg hne]
  exact hfilled

theorem dropCurrent {handle : ProducerHandle}
    (h : Recording count capacity memory loop log delivered)
    (hcurrent : loop.current = some handle) :
    Recording count capacity (memory.dropHandle handle) { loop with current := none } log
      delivered := by
  obtain ⟨hbuffer, hfilled⟩ := h.drop_cases (h.owner?_current hcurrent)
  have hownership := h.ownership
  rw [SamplingLoop.handles, hcurrent] at hownership
  constructor
  case ownership => exact hownership.dropHandle
  case capacity_eq =>
    intro index buffer hsome
    exact h.capacity_eq index buffer (hbuffer index ▸ hsome)
  case announced_filled => exact hfilled
  case filling =>
    intro current hsome
    cases hsome
  case queue =>
    refine queue_congr h.queue rfl rfl ?_ ?_
    · intro index _
      exact hbuffer index
    · intro waiting summary _
      rw [hbuffer waiting.index]

/-- A waiting buffer that is dropped is the last one on its way. -/
theorem dropPending {handle : ProducerHandle} {summary : BufferMeta}
    (h : Recording count capacity memory loop log delivered)
    (hpending : loop.pending = some (handle, summary)) :
    Recording count capacity (memory.dropHandle handle) { loop with pending := none } log
      delivered := by
  obtain ⟨hbuffer, hfilled⟩ := h.drop_cases (h.owner?_pending hpending)
  have hownership : Ownership count memory (handle :: loop.current.toList) [] := by
    refine h.ownership.of_perm ?_ (.refl _)
    rw [SamplingLoop.handles, hpending]
    exact List.perm_append_singleton _ _
  constructor
  case ownership =>
    rw [SamplingLoop.handles]
    simp only [Option.map_none, Option.toList_none, List.append_nil]
    exact hownership.dropHandle
  case capacity_eq =>
    intro index buffer hsome
    exact h.capacity_eq index buffer (hbuffer index ▸ hsome)
  case announced_filled => exact hfilled
  case filling =>
    intro current hcurrent
    obtain ⟨period, hlasting, hsummary, hholds⟩ := h.filling current hcurrent
    refine ⟨period, hlasting, hsummary, ?_⟩
    intro buffer hsome
    exact hholds buffer (hbuffer current.index ▸ hsome)
  case queue =>
    have hqueue : List.SublistForall₂ (Records capacity)
        (delivered ++ (memory.dropHandle handle).announced ++
          loop.waiting (memory.dropHandle handle)) log.ended := by
      refine queue_congr h.queue rfl rfl ?_ ?_
      · intro index _
        exact hbuffer index
      · intro waiting summary _
        rw [hbuffer waiting.index]
    simpa [SamplingLoop.waiting] using sublistForall₂_of_append hqueue

/-- A loop in the reset keeps nothing. -/
theorem dropBuffers (h : Recording count capacity memory loop log delivered) :
    Recording count capacity (loop.dropBuffers memory)
      { loop with current := none, pending := none } log delivered := by
  have hquiet := h.of_material (SharedMemory.material_of_ledger (memory.ledger_swapEdges none))
  rw [SamplingLoop.dropBuffers]
  cases hcurrent : loop.current with
  | none =>
      cases hpending : loop.pending with
      | none => exact h.of_loop hcurrent.symm hpending.symm rfl
      | some waiting =>
          exact (hquiet.dropPending hpending).of_loop hcurrent.symm rfl rfl
  | some handle =>
      have hdropped := hquiet.dropCurrent hcurrent
      cases hpending : loop.pending with
      | none => exact hdropped.of_loop rfl hpending.symm rfl
      | some waiting => exact (hdropped.dropPending hpending).of_loop rfl rfl rfl

/-- A finished reset takes every buffer back that was not shown to the sink. -/
theorem completeReset (h : Recording count capacity memory loop log delivered) :
    Recording count capacity memory.completeReset.2 loop log delivered := by
  by_cases hready : memory.ReadyToComplete
  · obtain ⟨pool, hreclaim, heq⟩ := SharedMemory.completeReset_of_ready hready
    obtain ⟨hhandles, -⟩ := h.ownership.eq_nil_of_held hready.2.2
    rw [SamplingLoop.handles, List.append_eq_nil_iff, Option.toList_eq_nil_iff,
      Option.toList_eq_nil_iff, Option.map_eq_none_iff] at hhandles
    obtain ⟨hcurrent, hpending⟩ := hhandles
    have hread : (memory.afterReset pool).arena.pru0ToHost.isUnread = false := by
      rw [SharedMemory.pru0ToHost_afterReset]
      rfl
    rw [heq]
    constructor
    case ownership => exact h.ownership.afterReset hreclaim
    case capacity_eq =>
      intro index buffer hsome
      simp only [SharedMemory.pool_afterReset, BufferPool.buffer?_of_reclaim hreclaim] at hsome
      exact h.capacity_eq index buffer hsome
    case announced_filled =>
      intro index hannounced
      simp [SharedMemory.announcedIndex?_of_read hread] at hannounced
    case filling =>
      intro handle hhandle
      simp [hcurrent] at hhandle
    case queue =>
      simp only
      rw [SharedMemory.announced_of_read hread, SamplingLoop.waiting, hpending]
      simpa using sublistForall₂_of_append (sublistForall₂_of_append h.queue)
  · obtain ⟨fault, heq⟩ := SharedMemory.completeReset_of_not_ready hready
    rw [heq]
    exact h

/-! ## The slot towards the host -/

/-- Any other message leaves the announcement as it is or finds none. -/
theorem samplingSend (h : Recording count capacity memory loop log delivered)
    {type : MessageType} (hsent : type ≠ .none) (hother : type ≠ .bufferFilled)
    (first second : UInt32) :
    Recording count capacity (memory.samplingSend type first second).2 loop log delivered := by
  cases hread : memory.arena.pru0ToHost.isUnread with
  | true =>
      refine h.of_material ?_
      simp only [SharedMemory.samplingSend, Channel.send_of_unread hread]
      rfl
  | false =>
      have hindex : (memory.samplingSend type first second).2.announcedIndex? = none := by
        have hslot : (memory.samplingSend type first second).2.arena.pru0ToHost =
            Channel.filled .pru0 memory.arena.pru0ToHost type first second := by
          simp only [SharedMemory.samplingSend, Channel.send_of_read hread]
        exact SharedMemory.announcedIndex?_other hsent hother hslot
      have hnone := SharedMemory.announcedIndex?_of_read hread
      refine h.of_buffer? (h.ownership.of_owner? rfl (fun _ => rfl) rfl) (fun _ => rfl)
        (hindex.trans hnone.symm) ?_
      intro index hannounced
      rw [hnone] at hannounced
      cases hannounced

/-- Reading the slot takes the announced buffer, which the host is then about to claim. -/
theorem pumpReceive (h : Recording count capacity memory loop log delivered) :
    Recording count capacity memory.pumpReceive.2 loop log (delivered ++ memory.announced) := by
  have hindex := memory.announcedIndex?_pumpReceive
  have hnone : memory.pumpReceive.2.announced = [] := by
    rw [SharedMemory.announced, hindex]
    rfl
  refine
    { ownership := h.ownership.of_owner? rfl (fun _ => rfl) rfl
      capacity_eq := h.capacity_eq
      announced_filled := fun index hannounced => by simp [hindex] at hannounced
      filling := h.filling
      queue := ?_ }
  rw [hnone, List.append_nil]
  exact h.queue

/-! ## Steps of the sampling loop -/

theorem serveCommands (h : Recording count capacity memory loop log delivered) :
    Recording count capacity (SamplingLoop.serveCommands memory) loop log delivered := by
  have hreceived := h.of_material (SharedMemory.material_of_ledger memory.ledger_samplingReceive)
  rw [SamplingLoop.serveCommands]
  split <;> rename_i heq <;> rw [heq] at hreceived
  · split
    · exact hreceived.samplingSend (by decide) (by decide) _ _
    · exact hreceived.of_material
        (SharedMemory.material_of_ledger (SharedMemory.ledger_notify _ _ _ _ _))
  · exact hreceived

theorem maintainCache (h : Recording count capacity memory loop log delivered) (mode : Mode)
    (reader : ℕ) :
    Recording count capacity memory (loop.maintainCache mode reader) log delivered := by
  rw [SamplingLoop.maintainCache]
  split
  · exact h.of_loop rfl rfl rfl
  · exact h

theorem pollSwap (h : Recording count capacity memory loop log delivered) :
    Recording count capacity (loop.pollSwap memory).2.2 (loop.pollSwap memory).2.1
      (memory.waitingSwaps.foldl .note log) delivered := by
  have htaken := h.of_material (SharedMemory.material_of_ledger memory.ledger_takeSwapTrigger)
  rw [SharedMemory.waitingSwaps]
  cases hpending : memory.swapPending with
  | false =>
      rw [loop.pollSwap_of_low hpending]
      exact htaken
  | true =>
      have heq : memory.takeSwapTrigger =
          (some memory.arena.bufferTimestamp, memory.takeSwapTrigger.2) := by
        rw [SharedMemory.swapPending] at hpending
        simp [SharedMemory.takeSwapTrigger, Flag.take, hpending]
      rw [SamplingLoop.pollSwap, heq]
      exact htaken.handleSwap memory.arena.bufferTimestamp

variable [Frontend F]

/-- Once a waiting swap was handled, a sample is taken into the period that lasts. -/
theorem pollSample (h : Recording count capacity memory loop log delivered)
    (hlow : memory.swapPending = false) :
    Recording count capacity (loop.pollSample memory).2.2 (loop.pollSample memory).2.1
      ((loop.waitingSamples memory).foldl .note log) delivered := by
  have htaken := h.of_material (SharedMemory.material_of_ledger memory.ledger_takeSampleTrigger)
  have heq : memory.takeSampleTrigger = (memory.samplePending, memory.takeSampleTrigger.2) := rfl
  rw [SamplingLoop.waitingSamples, SamplingLoop.pollSample, heq]
  cases memory.samplePending with
  | false => exact htaken
  | true =>
      have hstill : memory.takeSampleTrigger.2.swapPending = false := hlow
      have hagain := htaken.of_material (SharedMemory.material_of_ledger
        memory.takeSampleTrigger.2.ledger_takeSwapTrigger)
      simp only [loop.pollSwap_of_low hstill]
      exact hagain.handleSample

theorem work (h : Recording count capacity memory loop log delivered) :
    Recording count capacity (loop.work memory).2 (loop.work memory).1
      ((loop.workEvents memory).foldl .note log) delivered := by
  have hswapped := h.retryPending.pollSwap
  have hsampled := hswapped.pollSample (SamplingLoop.swapPending_pollSwap _ _)
  rw [← List.foldl_append] at hsampled
  simp only [SamplingLoop.work]
  split
  · exact hsampled
  · exact hsampled.serveCommands.maintainCache _ _

/-- A loop in the reset forgets what it was filling. -/
theorem stepReset (h : Recording count capacity memory loop log delivered) :
    Recording count capacity (loop.stepReset memory).2.2 (loop.stepReset memory).2.1 log
      delivered := by
  have hcleared : Recording count capacity (loop.dropBuffers memory) loop.clear log delivered :=
    h.dropBuffers.of_empty rfl rfl rfl
  simp only [SamplingLoop.stepReset]
  split
  · rw [SamplingLoop.acknowledge]
    split
    · exact hcleared
    · exact of_material (of_loop hcleared rfl rfl rfl) rfl
  · exact hcleared.of_loop rfl rfl rfl

omit [Frontend F] in
theorem stepAwaitStart (h : Recording count capacity memory loop log delivered) :
    Recording count capacity (loop.stepAwaitStart memory).2.2 (loop.stepAwaitStart memory).2.1 log
      delivered := by
  have htaken : Recording count capacity memory.takeSwapTrigger.2.takeSampleTrigger.2 loop log
      delivered := h.of_material rfl
  have hserved := htaken.serveCommands
  simp only [SamplingLoop.stepAwaitStart]
  split
  · exact hserved
  · exact hserved
  · exact hserved
  · exact hserved.maintainCache _ _
  · exact hserved.maintainCache _ _

/-- A step of the loop notes the triggers that it handled. -/
theorem step (h : Recording count capacity memory loop log delivered) :
    Recording count capacity (loop.step memory).2 (loop.step memory).1
      ((loop.handledEvents memory).foldl .note log) delivered := by
  have hdispatch : Recording count capacity (loop.dispatch memory).2.2 (loop.dispatch memory).2.1
      ((loop.handledEvents memory).foldl .note log) delivered := by
    rw [SamplingLoop.dispatch, SamplingLoop.handledEvents]
    cases hloop : loop.state with
    | reset => exact h.stepReset
    | awaitStart => exact h.stepAwaitStart
    | running =>
        rw [SamplingLoop.stepRunning]
        cases hsession : memory.state with
        | running => exact h.work
        | idle | armed | reset | fault => exact h
    | fault => exact h
  rw [SamplingLoop.step]
  split
  rename_i next moved after heq
  rw [heq] at hdispatch
  split
  · exact hdispatch
  · exact of_material (of_loop hdispatch rfl rfl rfl) rfl

/-! ## Services of the pump -/

omit [Frontend F] in
/-- An announced buffer is shown to the sink as it is, and recycled. -/
theorem onBuffer (h : Recording count capacity memory loop log delivered) (pump : MessagePump)
    {index : UInt32} (hfilled : memory.pool.owner? index = some .filled)
    (hindex : memory.announcedIndex? = none) :
    Recording count capacity (pump.onBuffer memory index).2.2 loop log delivered ∧
      (pump.onBuffer memory index).1.map (·.buffer) = memory.pool.buffer? index := by
  obtain ⟨buffer, hbuffer⟩ := BufferPool.exists_buffer?_of_owner? hfilled
  have hclaim := SharedMemory.claim_of_filled hfilled
  have hclaimed := h.ownership.claim index
  rw [hclaim] at hclaimed
  obtain ⟨ring, -, hrecycle⟩ := hclaimed.exists_recycle
  have hownership := hclaimed.recycle
  rw [hrecycle] at hownership
  have hrecycled := h.of_buffer? hownership
    (fun other => by simp only [BufferPool.buffer?_setOwner]) rfl
    (fun other hannounced => by simp [hindex] at hannounced)
  have hview : ((memory.pool.setOwner index .consumer).view ⟨index⟩).buffer = buffer :=
    BufferPool.buffer_view ((memory.pool.buffer?_setOwner index index .consumer).trans hbuffer)
  simp only [MessagePump.onBuffer, hclaim, hrecycle, Option.map_some, hview, hbuffer, and_true]
  exact hrecycled.of_material (SharedMemory.material_of_ledger (SharedMemory.ledger_log _ _ _))

omit [Frontend F] in
theorem onMessage (h : Recording count capacity memory loop log delivered) (pump : MessagePump)
    {message : Message} (hindex : memory.announcedIndex? = none)
    (hfilled : message.type = .bufferFilled →
      memory.pool.owner? message.first = some .filled) :
    Recording count capacity (pump.onMessage memory message).2.2 loop log delivered ∧
      (pump.onMessage memory message).1.map (·.buffer) =
        if message.type = .bufferFilled then memory.pool.buffer? message.first else none := by
  rw [MessagePump.onMessage]
  cases htype : message.type with
  | bufferFilled => exact h.onBuffer pump (hfilled htype) hindex
  | pong => exact ⟨h, rfl⟩
  | none | ping | syncRequest | syncReply => exact ⟨h.of_material rfl, rfl⟩

omit [Frontend F] in
/-- A service shows the sink what was announced, if anything. -/
theorem service (h : Recording count capacity memory loop log delivered) (pump : MessagePump) :
    Recording count capacity (pump.service memory).memory loop log
      (delivered ++ (pump.service memory).consumed.toList.map (·.buffer)) := by
  have hpolled := h.of_material (SharedMemory.material_of_ledger memory.ledger_pollStatus)
  have hhandled := hpolled.of_material
    (pump.onStatuses_cases memory.pollStatus.2 memory.pollStatus.1).1
  unfold MessagePump.service
  dsimp only
  generalize pump.onStatuses memory.pollStatus.2 memory.pollStatus.1 = handled at hhandled ⊢
  have hreceived := hhandled.pumpReceive
  have hindex := handled.2.announcedIndex?_pumpReceive
  have hannounced := handled.2.announcedIndex?_eq_pumpReceive
  rw [handled.2.announced_eq_pumpReceive] at hreceived
  split <;> rename_i heq <;> rw [heq] at hreceived hindex hannounced
  · simpa using hreceived
  · rename_i message after
    have hpool : after.pool = handled.2.pool := congrArg (·.2.pool) heq.symm
    have hfilled : message.type = .bufferFilled →
        after.pool.owner? message.first = some .filled := by
      intro htype
      rw [hpool]
      exact hhandled.announced_filled message.first (by simp [hannounced, htype])
    obtain ⟨hkept, hshown⟩ := hreceived.onMessage handled.1 hindex hfilled
    rw [hpool] at hshown
    simp only [← Option.toList_map, hshown]
    exact hkept

end Recording

end HarvestTestbed
