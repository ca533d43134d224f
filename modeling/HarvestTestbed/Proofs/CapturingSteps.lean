import HarvestTestbed.Proofs.Capturing

/-!
# Edge capture in one step

A step of the sampling loop begins a period if it handles a swap, and otherwise keeps its buffer or
drops it.  A step of the timing loop records at most one edge, which goes onto the page of the
buffer being filled.  A service takes the announced buffer away, and a finished reset everything.
-/

namespace HarvestTestbed

namespace SamplingLoop

variable {F : Type}

theorem reopen_congr {loop next : SamplingLoop F} (hcurrent : next.current = loop.current)
    (htimestamp : next.bufferTimestamp = loop.bufferTimestamp) (pages : UInt32 → Page) :
    next.reopen pages = loop.reopen pages := by
  funext index
  simp only [reopen, hcurrent, htimestamp]

/-! ## The period that the loop is in -/

/-- The buffer being filled and the timestamp of its period. -/
def period (loop : SamplingLoop F) : Option ProducerHandle × UInt64 :=
  (loop.current, loop.bufferTimestamp)

@[simp]
theorem period_handOver (loop : SamplingLoop F) (memory : SharedMemory)
    (handle : ProducerHandle) (summary : BufferMeta) :
    (loop.handOver memory handle summary).1.period = loop.period := by
  rw [handOver]
  split <;> rfl

@[simp]
theorem period_retryPending (loop : SamplingLoop F) (memory : SharedMemory) :
    (loop.retryPending memory).1.period = loop.period := by
  rw [retryPending]
  split
  · rw [period_handOver]
    rfl
  · rfl

theorem bufferTimestamp_handleSwap (loop : SamplingLoop F) (memory : SharedMemory)
    (timestamp : UInt64) :
    (loop.handleSwap memory timestamp).1.bufferTimestamp = timestamp := by
  rw [handleSwap]
  split
  · rfl
  · simp only [exchangeBuffer]
    split
    · exact congrArg Prod.snd (period_handOver _ _ _ _)
    · rfl

@[simp]
theorem period_maintainCache (loop : SamplingLoop F) (mode : Mode) (reader : ℕ) :
    (loop.maintainCache mode reader).period = loop.period := by
  rw [maintainCache]
  split <;> rfl

variable [Frontend F]

@[simp]
theorem period_handleSample (loop : SamplingLoop F) (memory : SharedMemory) :
    (loop.handleSample memory).1.period = loop.period := by
  have hcurrent : (loop.handleSample memory).1.current = loop.current :=
    (loop.handles_sampleOnce memory.mode).1
  have htimestamp := congrArg BufferMeta.timestamp (loop.summary_handleSample memory)
  exact Prod.ext hcurrent htimestamp

theorem period_pollSample (loop : SamplingLoop F) {memory : SharedMemory}
    (hlow : memory.swapPending = false) :
    (loop.pollSample memory).2.1.period = loop.period := by
  have hstill : memory.takeSampleTrigger.2.swapPending = false := hlow
  have heq : memory.takeSampleTrigger = (memory.samplePending, memory.takeSampleTrigger.2) := rfl
  rw [pollSample, heq]
  cases memory.samplePending with
  | false => rfl
  | true =>
      simp only [loop.pollSwap_of_low hstill]
      exact period_handleSample _ _

theorem period_work (loop : SamplingLoop F) (memory : SharedMemory) :
    (loop.work memory).1.period =
      ((loop.retryPending memory).1.pollSwap (loop.retryPending memory).2).2.1.period := by
  have hsampled := period_pollSample
    ((loop.retryPending memory).1.pollSwap (loop.retryPending memory).2).2.1
    (swapPending_pollSwap (loop.retryPending memory).1 (loop.retryPending memory).2)
  simp only [work]
  split
  · exact hsampled
  · rw [period_maintainCache, hsampled]

/-- A step that handles no swap keeps the period of the loop, or drops its buffers. -/
theorem period_step_of_not_handlesSwap {loop : SamplingLoop F} {memory : SharedMemory}
    (hquiet : loop.handlesSwap memory = false) :
    (loop.step memory).1.period = loop.period ∨ (loop.step memory).1.current = none := by
  have hdispatch : (loop.dispatch memory).2.1.period = loop.period ∨
      (loop.dispatch memory).2.1.current = none := by
    rw [handlesSwap_eq] at hquiet
    rw [dispatch]
    cases hloop : loop.state with
    | reset =>
        right
        simp only [stepReset, acknowledge]
        split
        · split <;> rfl
        · rfl
    | awaitStart =>
        left
        simp only [stepAwaitStart]
        split <;> simp only [period_maintainCache]
    | running =>
        left
        rw [stepRunning]
        cases hsession : memory.state with
        | running =>
            have hlow : memory.swapPending = false := by
              simpa [hloop, hsession] using hquiet
            have hretried : (loop.retryPending memory).2.swapPending = false := by
              rw [swapPending_retryPending, hlow]
            simp only [period_work, pollSwap_of_low _ hretried, period_retryPending]
        | idle | armed | reset | fault => rfl
    | fault => exact .inl rfl
  rw [step]
  split
  rename_i next moved after heq
  rw [heq] at hdispatch
  split <;> exact hdispatch

/-- A step that handles a swap takes the period that was announced last. -/
theorem bufferTimestamp_step_of_handlesSwap {loop : SamplingLoop F} {memory : SharedMemory}
    (hswap : loop.handlesSwap memory = true) :
    (loop.step memory).1.bufferTimestamp = memory.arena.bufferTimestamp := by
  rw [handlesSwap_eq, Bool.and_eq_true, decide_eq_true_iff] at hswap
  obtain ⟨⟨hloop, hsession⟩, hpending⟩ := hswap
  have hretried : (loop.retryPending memory).2.swapPending = true := by
    rw [swapPending_retryPending, hpending]
  have htimestamp : (loop.retryPending memory).2.arena.bufferTimestamp =
      memory.arena.bufferTimestamp :=
    loop.timestamp_retryPending memory
  have hwork : (loop.work memory).1.bufferTimestamp = memory.arena.bufferTimestamp := by
    have hperiod := congrArg Prod.snd (loop.period_work memory)
    refine hperiod.trans ?_
    rw [pollSwap, takeSwapTrigger_of_pending hretried]
    exact (bufferTimestamp_handleSwap _ _ _).trans htimestamp
  have hdispatch : loop.dispatch memory = (.running, loop.work memory) := by
    rw [dispatch, hloop, stepRunning, hsession]
  rw [step, hdispatch]
  simp only
  split <;> exact hwork

end SamplingLoop

/-! ## Steps of the sampling loop -/

/-- A message other than the announcement of a buffer announces none. -/
theorem SharedMemory.announcedIndex?_of_samplingSend {memory : SharedMemory} {type : MessageType}
    (hsent : type ≠ .none) (hother : type ≠ .bufferFilled) {first second index : UInt32}
    (hannounced : (memory.samplingSend type first second).2.announcedIndex? = some index) :
    memory.announcedIndex? = some index := by
  cases hread : memory.arena.pru0ToHost.isUnread with
  | true =>
      have hslot : (memory.samplingSend type first second).2.arena.pru0ToHost =
          memory.arena.pru0ToHost := by
        simp only [samplingSend, Channel.send_of_unread hread]
      rwa [announcedIndex?, hslot] at hannounced
  | false =>
      have hslot : (memory.samplingSend type first second).2.arena.pru0ToHost =
          Channel.filled .pru0 memory.arena.pru0ToHost type first second := by
        simp only [samplingSend, Channel.send_of_read hread]
      rw [announcedIndex?_other hsent hother hslot] at hannounced
      cases hannounced

theorem SamplingLoop.buffer?_dropBuffers {F : Type} (loop : SamplingLoop F)
    (memory : SharedMemory) (index : UInt32) :
    (loop.dropBuffers memory).pool.buffer? index = memory.pool.buffer? index := by
  have hquiet := SharedMemory.buffer?_of_material
    (SharedMemory.material_of_ledger (memory.ledger_swapEdges none)) index
  simp only [dropBuffers]
  split
  · cases loop.current <;> cases loop.pending <;>
      simp only [SharedMemory.dropHandle, BufferPool.dropProducer,
        BufferPool.buffer?_getD_transition?, hquiet]
  · rfl

namespace Capturing

variable {F : Type} {count capacity : ℕ} {memory after : SharedMemory} {loop : SamplingLoop F}
variable {log : PeriodLog} {delivered : List SampleBuffer} {pages : UInt32 → Page}

/-- Logs and target are kept, nothing is announced, and what was announced keeps its content. -/
theorem of_capture (h : Capturing memory loop pages)
    (hcapture : after.capture = memory.capture)
    (hannounced : ∀ index, after.announcedIndex? = some index →
      memory.announcedIndex? = some index ∧
        after.pool.buffer? index = memory.pool.buffer? index) :
    Capturing after loop pages where
  paged := h.paged.of_edges (SharedMemory.edges?_of_logs (congrArg Capture.logs hcapture)) hannounced
  target := (congrArg Capture.target hcapture).trans h.target

/-- Operations of the session, which move no buffer and leave edge capture alone. -/
theorem of_session (h : Capturing memory loop pages) (hmaterial : after.material = memory.material)
    (hcapture : after.capture = memory.capture) : Capturing after loop pages :=
  h.of_material hmaterial (congrArg Capture.logs hcapture) (congrArg Capture.target hcapture)

/-- A handled swap opens the page of the buffer that is filled from then on. -/
theorem pollSwap (h : Capturing memory loop pages)
    (hrecording : Recording count capacity memory loop log delivered) :
    Capturing (loop.pollSwap memory).2.2 (loop.pollSwap memory).2.1
      (if memory.swapPending then (loop.pollSwap memory).2.1.reopen pages else pages) := by
  have htaken : Capturing memory.takeSwapTrigger.2 loop pages :=
    h.of_ledger memory.ledger_takeSwapTrigger rfl rfl
  have hrecorded := hrecording.of_material
    (SharedMemory.material_of_ledger memory.ledger_takeSwapTrigger)
  cases hpending : memory.swapPending with
  | false =>
      rw [loop.pollSwap_of_low hpending]
      exact htaken
  | true =>
      rw [SamplingLoop.pollSwap, SamplingLoop.takeSwapTrigger_of_pending hpending]
      exact htaken.handleSwap hrecorded memory.arena.bufferTimestamp

theorem serveCommands (h : Capturing memory loop pages) :
    Capturing (SamplingLoop.serveCommands memory) loop pages := by
  have hreceived : Capturing memory.samplingReceive.2 loop pages :=
    h.of_ledger memory.ledger_samplingReceive rfl rfl
  rw [SamplingLoop.serveCommands]
  split <;> rename_i heq <;> rw [heq] at hreceived
  · split
    · refine hreceived.of_capture rfl fun index hannounced => ⟨?_, rfl⟩
      exact SharedMemory.announcedIndex?_of_samplingSend (by decide) (by decide) hannounced
    · exact hreceived.of_session
        (SharedMemory.material_of_ledger (SharedMemory.ledger_notify _ _ _ _ _))
        (SharedMemory.capture_notify _ _ _ _ _)
  · exact hreceived

theorem maintainCache (h : Capturing memory loop pages) (mode : Mode) (reader : ℕ) :
    Capturing memory (loop.maintainCache mode reader) pages := by
  rw [SamplingLoop.maintainCache]
  split
  · exact h.of_loop rfl rfl rfl
  · exact h

theorem dropBuffers (h : Capturing memory loop pages) {next : SamplingLoop F}
    (hcurrent : next.current = none) (hpending : next.pending = none) :
    Capturing (loop.dropBuffers memory) next pages := by
  have hcapture := loop.capture_dropBuffers memory
  have hlogs : (loop.dropBuffers memory).capture.logs = memory.capture.logs := by
    rw [hcapture]
    split <;> rfl
  have hindex : (loop.dropBuffers memory).announcedIndex? = memory.announcedIndex? := by
    simp only [SamplingLoop.dropBuffers]
    split
    · cases loop.current <;> cases loop.pending <;> rfl
    · rfl
  have hedges := SharedMemory.edges?_of_logs hlogs
  refine ⟨(h.paged.of_edges hedges fun index hannounced => ?_).of_empty hcurrent hpending, ?_⟩
  · exact ⟨hindex ▸ hannounced, loop.buffer?_dropBuffers memory index⟩
  · rw [hcapture, hcurrent]
    split
    · rfl
    · rename_i hnone
      have htarget := h.target
      rw [not_or, Option.not_isSome_iff_eq_none] at hnone
      rwa [hnone.1] at htarget

/-- A finished reset finds no buffer being filled and leaves nobody to capture for. -/
theorem completeReset (h : Capturing memory loop pages)
    (hrecording : Recording count capacity memory loop log delivered) :
    Capturing memory.completeReset.2 loop pages := by
  by_cases hready : memory.ReadyToComplete
  · obtain ⟨pool, hreclaim, heq⟩ := SharedMemory.completeReset_of_ready hready
    obtain ⟨hhandles, -⟩ := hrecording.ownership.eq_nil_of_held hready.2.2
    rw [SamplingLoop.handles, List.append_eq_nil_iff, Option.toList_eq_nil_iff,
      Option.toList_eq_nil_iff, Option.map_eq_none_iff] at hhandles
    have hread : (memory.afterReset pool).arena.pru0ToHost.isUnread = false := by
      rw [SharedMemory.pru0ToHost_afterReset]
      rfl
    have htarget : memory.completeReset.2.capture.target = {} := by
      rw [heq]
      simp only [SharedMemory.afterReset, SharedMemory.capture_setState,
        SharedMemory.capture_notify]
      rfl
    refine ⟨⟨?_, ?_, ?_⟩, ?_⟩
    · simp [hhandles.1]
    · simp [hhandles.2]
    · rw [heq]
      simp [SharedMemory.announcedIndex?_of_read hread]
    · rw [htarget, hhandles.1]
      rfl
  · obtain ⟨fault, heq⟩ := SharedMemory.completeReset_of_not_ready hready
    rw [heq]
    exact h

variable [Frontend F]

/-- A sample goes into the buffer being filled, which is not announced. -/
theorem handleSample (h : Capturing memory loop pages)
    (hrecording : Recording count capacity memory loop log delivered) :
    Capturing (loop.handleSample memory).2 (loop.handleSample memory).1 pages := by
  have hstored : Capturing (loop.handleSample memory).2 loop pages := by
    refine h.of_capture (SamplingLoop.capture_store _ _ _) fun index => ?_
    rw [loop.memory_handleSample memory]
    cases hcurrent : loop.current with
    | none => exact fun hannounced => ⟨hannounced, rfl⟩
    | some handle =>
        intro hannounced
        have howner := hrecording.owner?_current hcurrent
        have hne : index ≠ handle.index := by
          rintro rfl
          rw [hrecording.announced_filled _ hannounced] at howner
          cases howner
        refine ⟨hannounced, ?_⟩
        simp only [SharedMemory.put, BufferPool.put_snd_eq, BufferPool.buffer?_editBuffer,
          if_neg hne]
  obtain ⟨hcurrent, hpending⟩ := loop.handles_sampleOnce memory.mode
  have hperiod := congrArg Prod.snd (loop.period_handleSample memory)
  exact hstored.of_loop hcurrent hpending hperiod

/-- A sample tick without a swap before it opens no page. -/
theorem pollSample (h : Capturing memory loop pages)
    (hrecording : Recording count capacity memory loop log delivered)
    (hlow : memory.swapPending = false) :
    Capturing (loop.pollSample memory).2.2 (loop.pollSample memory).2.1 pages := by
  have htaken : Capturing memory.takeSampleTrigger.2.takeSwapTrigger.2 loop pages :=
    h.of_ledger rfl rfl rfl
  have hrecorded : Recording count capacity memory.takeSampleTrigger.2.takeSwapTrigger.2 loop log
      delivered := hrecording.of_material rfl
  have hstill : memory.takeSampleTrigger.2.swapPending = false := hlow
  have heq : memory.takeSampleTrigger = (memory.samplePending, memory.takeSampleTrigger.2) := rfl
  rw [SamplingLoop.pollSample, heq]
  cases memory.samplePending with
  | false => exact h.of_ledger memory.ledger_takeSampleTrigger rfl rfl
  | true =>
      simp only [loop.pollSwap_of_low hstill]
      exact htaken.handleSample hrecorded

/-- The work of a step opens a page exactly where it handles a swap. -/
theorem work (h : Capturing memory loop pages)
    (hrecording : Recording count capacity memory loop log delivered) :
    Capturing (loop.work memory).2 (loop.work memory).1
      (if memory.swapPending then (loop.work memory).1.reopen pages else pages) := by
  have hswapped := (h.retryPending hrecording).pollSwap hrecording.retryPending
  have hsampled := hswapped.pollSample hrecording.retryPending.pollSwap
    (SamplingLoop.swapPending_pollSwap _ _)
  have hperiod := loop.period_work memory
  rw [loop.swapPending_retryPending, ← SamplingLoop.reopen_congr (congrArg Prod.fst hperiod)
    (congrArg Prod.snd hperiod)] at hsampled
  simp only [SamplingLoop.work] at hsampled ⊢
  split
  · rename_i hbusy
    rw [if_pos hbusy] at hsampled
    exact hsampled
  · rename_i hidle
    rw [if_neg hidle] at hsampled
    exact (hsampled.serveCommands).maintainCache _ _

theorem stepReset (h : Capturing memory loop pages) :
    Capturing (loop.stepReset memory).2.2 (loop.stepReset memory).2.1 pages := by
  have hcleared : Capturing (loop.dropBuffers memory) loop.clear pages := h.dropBuffers rfl rfl
  simp only [SamplingLoop.stepReset]
  split
  · rw [SamplingLoop.acknowledge]
    split
    · exact hcleared
    · generalize loop.dropBuffers memory = freed at hcleared ⊢
      have hacked : freed.samplingAcknowledge.capture = freed.capture := by
        rw [SharedMemory.samplingAcknowledge, SharedMemory.capture_notify]
        rfl
      have hnext := hcleared.of_capture hacked fun index hannounced => ⟨hannounced, rfl⟩
      exact hnext.of_loop rfl rfl rfl
  · exact hcleared.of_loop rfl rfl rfl

omit [Frontend F] in
theorem stepAwaitStart (h : Capturing memory loop pages) :
    Capturing (loop.stepAwaitStart memory).2.2 (loop.stepAwaitStart memory).2.1 pages := by
  have htaken : Capturing memory.takeSwapTrigger.2.takeSampleTrigger.2 loop pages :=
    h.of_ledger rfl rfl rfl
  have hserved := htaken.serveCommands
  simp only [SamplingLoop.stepAwaitStart]
  split
  · exact hserved
  · exact hserved
  · exact hserved
  · exact hserved.maintainCache _ _
  · exact hserved.maintainCache _ _

/-- A step begins a period if it handles a swap. -/
theorem step (h : Capturing memory loop pages)
    (hrecording : Recording count capacity memory loop log delivered) :
    Capturing (loop.step memory).2 (loop.step memory).1
      (if loop.handlesSwap memory then (loop.step memory).1.reopen pages else pages) := by
  have hdispatch : Capturing (loop.dispatch memory).2.2 (loop.dispatch memory).2.1
      (if loop.handlesSwap memory then (loop.dispatch memory).2.1.reopen pages else pages) := by
    rw [SamplingLoop.handlesSwap_eq, SamplingLoop.dispatch]
    cases hloop : loop.state with
    | reset => exact h.stepReset
    | awaitStart => exact h.stepAwaitStart
    | running =>
        rw [SamplingLoop.stepRunning]
        cases hsession : memory.state with
        | running => simpa using h.work hrecording
        | idle | armed | reset | fault => exact h
    | fault => exact h
  rw [SamplingLoop.step]
  split
  rename_i next moved after heq
  rw [heq] at hdispatch
  split
  · exact hdispatch
  · have hlogged := hdispatch.of_ledger
      (after.ledger_log .debug ("pru0 " ++ loop.state.name ++ " -> " ++ next.name)) rfl rfl
    exact hlogged.of_loop rfl rfl rfl

end Capturing

/-! ## Services of the pump -/

namespace MessagePump

theorem capture_onStatuses (pump : MessagePump) (memory : SharedMemory)
    (events : List StatusEvent) :
    (pump.onStatuses memory events).2.capture = memory.capture := by
  induction events generalizing pump memory with
  | nil => rfl
  | cons event events ih =>
      have hdeclared : (pump.onStatus memory event).2.capture = memory.capture := by
        simp only [onStatus, declareFault]
        split
        · rw [SharedMemory.capture_setState]
          rfl
        · rfl
      exact (ih (pump.onStatus memory event).1 (pump.onStatus memory event).2).trans hdeclared

theorem capture_onMessage (pump : MessagePump) (memory : SharedMemory) (message : Message) :
    (pump.onMessage memory message).2.2.capture = memory.capture := by
  have hclaimed := memory.capture_claim message.first
  rw [onMessage]
  cases message.type with
  | bufferFilled =>
      simp only [onBuffer]
      split <;> rename_i heq <;> rw [heq] at hclaimed
      · exact hclaimed
      · exact (SharedMemory.capture_recycle _ _).trans hclaimed
  | pong => rfl
  | none | ping | syncRequest | syncReply => exact SharedMemory.capture_notify _ _ _ _ _

theorem capture_service (pump : MessagePump) (memory : SharedMemory) :
    (pump.service memory).memory.capture = memory.capture := by
  have hhandled := pump.capture_onStatuses memory.pollStatus.2 memory.pollStatus.1
  unfold service
  dsimp only
  generalize pump.onStatuses memory.pollStatus.2 memory.pollStatus.1 = handled at hhandled ⊢
  have hreceived : handled.2.pumpReceive.2.capture = handled.2.capture := rfl
  split <;> rename_i heq <;> rw [heq] at hreceived
  · exact hreceived.trans hhandled
  · exact (capture_onMessage _ _ _).trans (hreceived.trans hhandled)

/-- What the sink sees of a buffer is what the pool holds of it. -/
theorem consumed_onMessage {pump : MessagePump} {memory : SharedMemory} {message : Message}
    {filled : FilledBuffer}
    (hconsumed : (pump.onMessage memory message).1 = some filled)
    (howner : message.type = .bufferFilled → memory.pool.owner? message.first = some .filled) :
    message.type = .bufferFilled ∧ filled.index = message.first ∧
      memory.pool.buffer? filled.index = some filled.buffer ∧
      memory.pool.edges? filled.index = some filled.edges := by
  rw [onMessage] at hconsumed
  cases htype : message.type with
  | bufferFilled =>
      have hfilled := howner htype
      obtain ⟨buffer, hbuffer⟩ := BufferPool.exists_buffer?_of_owner? hfilled
      obtain ⟨entry, hentry, -⟩ := Option.map_eq_some_iff.mp hbuffer
      have hclaimed :
          BufferPool.entry? (memory.pool.setOwner message.first .consumer) message.first =
            some { entry with owner := .consumer } := by
        rw [BufferPool.setOwner, BufferPool.entry?_modify, if_pos rfl, hentry]
        rfl
      simp only [htype, onBuffer, SharedMemory.claim_of_filled hfilled, BufferPool.view, hclaimed,
        Option.some.injEq] at hconsumed
      subst hconsumed
      simp [BufferPool.buffer?, BufferPool.edges?, hentry]
  | pong | none | ping | syncRequest | syncReply => simp [htype] at hconsumed

end MessagePump

namespace Capturing

variable {F : Type} {count capacity : ℕ} {memory : SharedMemory} {loop : SamplingLoop F}
variable {log : PeriodLog} {delivered : List SampleBuffer} {pages : UInt32 → Page}

/-- The buffer that a service shows to the sink carries the log and the timestamp of its page. -/
theorem service (h : Capturing memory loop pages)
    (hrecording : Recording count capacity memory loop log delivered) (pump : MessagePump) :
    Capturing (pump.service memory).memory loop pages ∧
      ∀ filled, (pump.service memory).consumed = some filled →
        filled.edges = (pages filled.index).log ∧
          filled.buffer.timestamp = (pages filled.index).timestamp := by
  have hpolled := SharedMemory.material_of_ledger memory.ledger_pollStatus
  have hmaterial := (pump.onStatuses_cases memory.pollStatus.2 memory.pollStatus.1).1.trans hpolled
  have hhandled : Capturing (pump.onStatuses memory.pollStatus.2 memory.pollStatus.1).2 loop
      pages := by
    refine h.of_capture (pump.capture_onStatuses _ _) fun index hannounced => ⟨?_, ?_⟩
    · rwa [← SharedMemory.announcedIndex?_of_material hmaterial]
    · exact SharedMemory.buffer?_of_material hmaterial index
  have hrecorded := hrecording.of_material hmaterial
  unfold MessagePump.service
  dsimp only
  generalize pump.onStatuses memory.pollStatus.2 memory.pollStatus.1 = handled
    at hhandled hrecorded ⊢
  have hindex := handled.2.announcedIndex?_pumpReceive
  have hannounced := handled.2.announcedIndex?_eq_pumpReceive
  have hreceived : Capturing handled.2.pumpReceive.2 loop pages :=
    hhandled.of_capture rfl fun index hsome => by simp [hindex] at hsome
  split <;> rename_i heq <;> rw [heq] at hreceived hindex hannounced
  · exact ⟨hreceived, nofun⟩
  · rename_i message after
    have hpool : after.pool = handled.2.pool := congrArg (·.2.pool) heq.symm
    have hserved : (handled.1.onMessage after message).2.2.announcedIndex? = none := by
      rwa [SharedMemory.announcedIndex?, MessagePump.slot_onMessage,
        ← SharedMemory.announcedIndex?]
    refine ⟨hreceived.of_capture (MessagePump.capture_onMessage _ _ _) fun index hsome => ?_, ?_⟩
    · simp [hserved] at hsome
    · intro filled hconsumed
      obtain ⟨htype, hfirst, hbuffer, hedges⟩ :=
        MessagePump.consumed_onMessage hconsumed fun htype => by
          rw [hpool]
          exact hrecorded.announced_filled message.first (by simp [hannounced, htype])
      obtain ⟨hlog, htimestamp⟩ := hhandled.paged.announced filled.index
        (by simp [hannounced, htype, hfirst])
      rw [hpool] at hbuffer hedges
      rw [hlog, Option.some.injEq] at hedges
      exact ⟨hedges.symm, htimestamp filled.buffer hbuffer⟩

/-! ## Steps of the timing loop -/

/-- A step of the timing loop notes the edge that it records. -/
theorem captures (h : Capturing memory loop pages)
    (hrecording : Recording count capacity memory loop log delivered)
    {recorded : Option (EdgeEvent × SharedMemory)} {after : SharedMemory}
    (hcaptures : TimingLoop.Captures memory after recorded)
    (hmaterial : after.material = memory.material) :
    Capturing after loop
      (loop.note (recorded.map fun edge => loop.stamp edge.1 edge.2).toList pages) := by
  obtain ⟨noted, hledger, hannounces, hafter⟩ := hcaptures
  have hnoted : Capturing noted loop pages :=
    h.of_ledger hledger hannounces.keeps.1 hannounces.keeps.2
  have hkept : after.material = noted.material :=
    hmaterial.trans (SharedMemory.material_of_ledger hledger).symm
  cases recorded with
  | none =>
      rw [Option.map_none, Option.toList_none, SamplingLoop.note_nil]
      exact hnoted.of_session hkept hafter
  | some edge =>
      obtain ⟨event, before⟩ := edge
      obtain ⟨rfl, hcapture⟩ := hafter
      have hrecorded := hrecording.of_material (SharedMemory.material_of_ledger hledger)
      have hrecord := SharedMemory.material_of_ledger (before.ledger_recordEdge event)
      exact (hnoted.record hrecorded (loop.stamp event before)).of_session
        (hkept.trans hrecord.symm) hcapture

end Capturing

end HarvestTestbed
