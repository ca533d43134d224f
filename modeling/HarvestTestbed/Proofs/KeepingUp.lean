import HarvestTestbed.Proofs.RecordingSteps
import HarvestTestbed.Proofs.SamplingMail

/-!
# A host that keeps up

While the host reads every announcement before the next period ends, every buffer is either queued
in the free ring, being filled, or announced, and at most one is announced.  So with two buffers
there is always one to go on with, the finished one is always accepted, and none ever waits.  The
slot towards the host is free for announcements because nothing else is sent on it, which in turn
is because the host sends no command.
-/

namespace HarvestTestbed

theorem SamplingLoop.stats_maintainCache {F : Type} (loop : SamplingLoop F) (mode : Mode)
    (reader : ℕ) : (loop.maintainCache mode reader).stats = loop.stats := by
  rw [maintainCache]
  split <;> rfl

/-! ## The invariant -/

def PeriodLog.Fits (capacity : ℕ) (log : PeriodLog) : Prop :=
  ∀ period ∈ log.ended ++ log.lasting.toList, period.records.length ≤ capacity

instance (capacity : ℕ) (log : PeriodLog) : Decidable (log.Fits capacity) :=
  inferInstanceAs (Decidable (∀ period ∈ log.ended ++ log.lasting.toList, _))

/-- Every buffer is queued, being filled or announced, and every period that ended was announced. -/
structure KeepingUp {F : Type} (count capacity : ℕ) (memory : SharedMemory)
    (loop : SamplingLoop F) (log : PeriodLog) (delivered : List SampleBuffer) : Prop where
  recording : Recording count capacity memory loop log delivered
  session : memory.state ≠ .reset
  restarted : loop.state = .reset → loop.current = none
  pending : loop.pending = none
  filling : log.lasting ≠ none → loop.current ≠ none
  commands : memory.samplingMail.commands.isUnread = false
  reported : memory.samplingMail.reported.code ≠ .bufferPoolExhausted
  announces : memory.arena.pru0ToHost.isUnread = true → memory.announcedIndex? ≠ none
  accounted : memory.arena.freeRing.length + loop.current.toList.length +
    memory.announcedIndex?.toList.length = count
  complete : delivered.length + memory.announcedIndex?.toList.length = log.ended.length

namespace PeriodLog

/-- Later triggers only add to a log. -/
theorem Fits.of_note {capacity : ℕ} {log : PeriodLog} {event : LoopEvent}
    (h : (log.note event).Fits capacity) : log.Fits capacity := by
  intro period hperiod
  obtain hended | hlasting := List.mem_append.mp hperiod
  · cases event <;> exact h period (by simp [note, hended])
  · cases event with
    | swap timestamp => exact h period (by simp [note, Option.mem_toList.mp hlasting])
    | sample record =>
        rw [Option.mem_toList] at hlasting
        have hmore := h (period.add record) (by simp [note, Option.mem_def.mp hlasting])
        rw [Period.records_add, List.length_append] at hmore
        omega

theorem Fits.of_foldl {capacity : ℕ} {log : PeriodLog} {events : List LoopEvent}
    (h : (events.foldl note log).Fits capacity) : log.Fits capacity := by
  induction events generalizing log with
  | nil => exact h
  | cons event events ih => exact (ih h).of_note

/-- While one more sample fits, there was room for it. -/
theorem Fits.lt_of_note_sample {capacity : ℕ} {log : PeriodLog} {record : SampleRecord}
    (h : (log.note (.sample record)).Fits capacity) {period : Period}
    (hlasting : log.lasting = some period) : period.records.length < capacity := by
  have hmore := h (period.add record) (by simp [note, hlasting])
  rw [Period.records_add, List.length_append, List.length_singleton] at hmore
  omega

end PeriodLog

/-- Where nothing but announcements is sent, the message that the pump takes is one. -/
theorem SharedMemory.announced_of_pumpReceive {memory after : SharedMemory} {message : Message}
    (hannounces : memory.arena.pru0ToHost.isUnread = true → memory.announcedIndex? ≠ none)
    (heq : memory.pumpReceive = (some message, after)) :
    message.type = .bufferFilled ∧ memory.announcedIndex? = some message.first := by
  have hmessage := memory.announcedIndex?_eq_pumpReceive
  rw [heq] at hmessage
  have hunread : memory.arena.pru0ToHost.isUnread = true := by
    by_contra hread
    have hanswer := congrArg Prod.fst heq
    rw [pumpReceive, Channel.answer_receive,
      Channel.waiting?_of_read (Bool.eq_false_iff.mpr hread)] at hanswer
    cases hanswer
  have htype : message.type = .bufferFilled := by
    by_contra hother
    refine hannounces hunread ?_
    simp [hmessage, hother]
  exact ⟨htype, by simp [hmessage, htype]⟩

/-- A buffer that is accepted is announced. -/
theorem SharedMemory.announcedIndex?_release {memory : SharedMemory} {handle : ProducerHandle}
    (howner : memory.pool.owner? handle.index = some .producer) (summary : BufferMeta)
    (hread : memory.arena.pru0ToHost.isUnread = false) :
    (memory.release handle summary).2.announcedIndex? = some handle.index ∧
      (memory.release handle summary).2.arena.freeRing = memory.arena.freeRing ∧
      (memory.release handle summary).2.samplingMail = memory.samplingMail := by
  rw [release_of_read howner summary hread]
  exact ⟨announcedIndex?_filled rfl, rfl, rfl⟩

namespace KeepingUp

variable {F : Type} {count capacity : ℕ} {memory after : SharedMemory} {loop : SamplingLoop F}
variable {log : PeriodLog} {delivered : List SampleBuffer}

/-! ## What it depends on -/

theorem of_material (h : KeepingUp count capacity memory loop log delivered)
    (hmaterial : after.material = memory.material)
    (hmail : after.samplingMail = memory.samplingMail) (hsession : after.state ≠ .reset) :
    KeepingUp count capacity after loop log delivered := by
  have hindex := SharedMemory.announcedIndex?_of_material hmaterial
  have hring : after.arena.freeRing = memory.arena.freeRing := congrArg Material.freeRing hmaterial
  have hslot : after.arena.pru0ToHost = memory.arena.pru0ToHost :=
    congrArg Material.announcement hmaterial
  exact
    { recording := h.recording.of_material hmaterial
      session := hsession
      restarted := h.restarted
      pending := h.pending
      filling := h.filling
      commands := hmail ▸ h.commands
      reported := hmail ▸ h.reported
      announces := by
        rw [hslot, hindex]
        exact h.announces
      accounted := by
        rw [hring, hindex]
        exact h.accounted
      complete := by
        rw [hindex]
        exact h.complete }

theorem of_loop (h : KeepingUp count capacity memory loop log delivered)
    {next : SamplingLoop F} (hcurrent : next.current = loop.current)
    (hpending : next.pending = loop.pending) (hsummary : next.summary = loop.summary)
    (hrestarted : next.state = .reset → next.current = none) :
    KeepingUp count capacity memory next log delivered where
  recording := h.recording.of_loop hcurrent hpending hsummary
  session := h.session
  restarted := hrestarted
  pending := hpending.trans h.pending
  filling hlasting := hcurrent ▸ h.filling hlasting
  commands := h.commands
  reported := h.reported
  announces := h.announces
  accounted := by
    rw [hcurrent]
    exact h.accounted
  complete := h.complete

/-- What was delivered and what is announced record the periods that ended, one for one. -/
theorem forall₂ (h : KeepingUp count capacity memory loop log delivered) :
    List.Forall₂ (Records capacity) (delivered ++ memory.announced) log.ended := by
  have hqueue := h.recording.queue
  rw [SamplingLoop.waiting, h.pending] at hqueue
  simp only [Option.bind_none, Option.toList_none, List.append_nil] at hqueue
  obtain ⟨matched, hmatched, hsublist⟩ := List.sublistForall₂_iff.mp hqueue
  have hannounced : memory.announced.length = memory.announcedIndex?.toList.length := by
    rw [SharedMemory.announced]
    cases hindex : memory.announcedIndex? with
    | none => rfl
    | some index =>
        obtain ⟨buffer, hbuffer⟩ := BufferPool.exists_buffer?_of_owner?
          (h.recording.announced_filled index hindex)
        simp [hbuffer]
  have hlength : matched.length = log.ended.length := by
    rw [← hmatched.length_eq, List.length_append, hannounced, h.complete]
  rwa [hsublist.eq_of_length hlength] at hmatched

/-- The slot towards the host is unread while a period that ended was not shown to the sink. -/
theorem isUnread_iff (h : KeepingUp count capacity memory loop log delivered) :
    memory.arena.pru0ToHost.isUnread = true ↔ delivered.length < log.ended.length := by
  have hcomplete := h.complete
  cases hread : memory.arena.pru0ToHost.isUnread with
  | false =>
      rw [SharedMemory.announcedIndex?_of_read hread, Option.toList_none, List.length_nil]
        at hcomplete
      simp only [Bool.false_eq_true, false_iff, not_lt]
      omega
  | true =>
      obtain ⟨index, hsome⟩ := Option.ne_none_iff_exists'.mp (h.announces hread)
      rw [hsome, Option.toList_some, List.length_singleton] at hcomplete
      simp only [true_iff]
      omega

/-! ## Swaps -/

/-- Once the announcement was read, a buffer is free and becomes the target of edge capture. -/
theorem exists_acquire (h : KeepingUp count capacity memory loop log delivered)
    (hcount : 2 ≤ count) (hread : memory.arena.pru0ToHost.isUnread = false) :
    ∃ index captured, memory.acquire.1 = some ⟨index⟩ ∧
      captured = memory.acquire.2.swapEdges (some index) ∧
      captured.arena.freeRing.length + 1 = memory.arena.freeRing.length ∧
      captured.arena.pru0ToHost = memory.arena.pru0ToHost ∧
      captured.samplingMail = memory.samplingMail := by
  have haccounted := h.accounted
  have hnone := SharedMemory.announcedIndex?_of_read hread
  have hheld : loop.current.toList.length ≤ 1 := by cases loop.current <;> simp
  obtain ⟨hempty, -⟩ | ⟨index, ring, htoList, -, heq⟩ := h.recording.ownership.acquire_cases
  · have hring := memory.arena.freeRing.length_toList
    rw [hempty, List.length_nil] at hring
    rw [hnone, Option.toList_none, List.length_nil] at haccounted
    omega
  · have hring := congrArg List.length htoList
    rw [List.length_cons, FreeRing.length_toList, FreeRing.length_toList] at hring
    refine ⟨index, _, by rw [heq], rfl, ?_, ?_, ?_⟩ <;> rw [heq]
    · exact hring.symm
    · rfl
    · rfl

/-- The first period begins in a buffer of its own. -/
theorem handleSwap_first (h : KeepingUp count capacity memory loop log delivered)
    (hcount : 2 ≤ count) (hread : memory.arena.pru0ToHost.isUnread = false)
    (hstate : loop.state ≠ .reset) (hcurrent : loop.current = none) (timestamp : UInt64) :
    KeepingUp count capacity (loop.handleSwap memory timestamp).2
        (loop.handleSwap memory timestamp).1 (log.note (.swap timestamp)) delivered ∧
      (loop.handleSwap memory timestamp).1.stats.dropped = loop.stats.dropped ∧
      (loop.handleSwap memory timestamp).1.stats.discarded = loop.stats.discarded := by
  obtain ⟨index, captured, hacquired, hcaptured, hring, hslot, hmail⟩ :=
    h.exists_acquire hcount hread
  have hrecording := h.recording.handleSwap timestamp
  have hsession := SharedMemory.state_of_control (loop.control_handleSwap memory timestamp)
  have hlasting : log.lasting = none := by
    by_contra hsome
    exact h.filling hsome hcurrent
  have heq : loop.handleSwap memory timestamp =
      ({ loop.openPeriod timestamp with current := some ⟨index⟩ }, captured) := by
    simp only [SamplingLoop.handleSwap, hcurrent, SamplingLoop.exchangeBuffer, hacquired,
      hcaptured]
    rfl
  rw [heq] at hrecording hsession ⊢
  have hquiet : captured.arena.pru0ToHost.isUnread = false := by rw [hslot, hread]
  have hbefore := SharedMemory.announcedIndex?_of_read hread
  have hafter := SharedMemory.announcedIndex?_of_read hquiet
  refine ⟨?_, rfl, rfl⟩
  constructor
  case recording => exact hrecording
  case session => exact hsession ▸ h.session
  case restarted => exact fun hreset => absurd hreset hstate
  case pending => exact h.pending
  case filling => exact fun _ => Option.some_ne_none _
  case commands => exact hmail ▸ h.commands
  case reported => exact hmail ▸ h.reported
  case announces => exact fun hunread => absurd (hquiet.symm.trans hunread) Bool.false_ne_true
  case accounted =>
    have haccounted := h.accounted
    rw [hcurrent, hbefore] at haccounted
    simp only [hafter, Option.toList_none, Option.toList_some, List.length_nil,
      List.length_singleton] at haccounted ⊢
    omega
  case complete =>
    have hcomplete := h.complete
    rw [hbefore] at hcomplete
    rw [hafter]
    simpa [PeriodLog.note, hlasting] using hcomplete

/-- The buffer of a period that ends is accepted at once. -/
theorem handleSwap_next (h : KeepingUp count capacity memory loop log delivered)
    (hcount : 2 ≤ count) (hread : memory.arena.pru0ToHost.isUnread = false)
    (hstate : loop.state ≠ .reset) {finished : ProducerHandle}
    (hcurrent : loop.current = some finished) (timestamp : UInt64) :
    KeepingUp count capacity (loop.handleSwap memory timestamp).2
        (loop.handleSwap memory timestamp).1 (log.note (.swap timestamp)) delivered ∧
      (loop.handleSwap memory timestamp).1.stats.dropped = loop.stats.dropped ∧
      (loop.handleSwap memory timestamp).1.stats.discarded = loop.stats.discarded := by
  obtain ⟨index, captured, hacquired, hcaptured, hring, hslot, hmail⟩ :=
    h.exists_acquire hcount hread
  have hrecording := h.recording.handleSwap timestamp
  have hsession := SharedMemory.state_of_control (loop.control_handleSwap memory timestamp)
  have hquiet : captured.arena.pru0ToHost.isUnread = false := by rw [hslot, hread]
  have howner : captured.pool.owner? finished.index = some .producer := by
    have hended := h.recording.endPeriod hcurrent h.pending timestamp
    have hkept := (hended.acquire rfl rfl rfl).of_material (SharedMemory.material_of_ledger
      (memory.acquire.2.ledger_swapEdges (some index)))
    rw [hcaptured]
    exact hkept.owner?_pending rfl
  have hrelease := SharedMemory.release_of_read howner loop.summary hquiet
  obtain ⟨period, hlasting, -, -⟩ := h.recording.filling finished hcurrent
  have heq : loop.handleSwap memory timestamp =
      ({ loop.openPeriod timestamp with
          current := some ⟨index⟩
          stats := { loop.stats with released := loop.stats.released + 1 } },
        (captured.release finished loop.summary).2) := by
    simp only [SamplingLoop.handleSwap, hcurrent, h.pending, SamplingLoop.exchangeBuffer,
      hacquired, Option.map_some, ← hcaptured, SamplingLoop.handOver, hrelease]
    rfl
  have hbefore := SharedMemory.announcedIndex?_of_read hread
  obtain ⟨hafter, hqueued, hposted⟩ :=
    SharedMemory.announcedIndex?_release howner loop.summary hquiet
  rw [heq] at hrecording hsession ⊢
  refine ⟨?_, rfl, rfl⟩
  constructor
  case recording => exact hrecording
  case session => exact hsession ▸ h.session
  case restarted => exact fun hreset => absurd hreset hstate
  case pending => exact h.pending
  case filling => exact fun _ => Option.some_ne_none _
  case commands => exact (hposted.trans hmail) ▸ h.commands
  case reported => exact (hposted.trans hmail) ▸ h.reported
  case announces => exact fun _ => hafter ▸ Option.some_ne_none _
  case accounted =>
    have haccounted := h.accounted
    rw [hcurrent, hbefore] at haccounted
    simp only [hafter, hqueued, Option.toList_none, Option.toList_some, List.length_nil,
      List.length_singleton] at haccounted ⊢
    omega
  case complete =>
    have hcomplete := h.complete
    rw [hbefore, Option.toList_none, List.length_nil] at hcomplete
    simp only [hafter, PeriodLog.note, hlasting, Option.toList_some, List.length_append,
      List.length_singleton]
    omega

theorem handleSwap (h : KeepingUp count capacity memory loop log delivered)
    (hcount : 2 ≤ count) (hread : memory.arena.pru0ToHost.isUnread = false)
    (hstate : loop.state ≠ .reset) (timestamp : UInt64) :
    KeepingUp count capacity (loop.handleSwap memory timestamp).2
        (loop.handleSwap memory timestamp).1 (log.note (.swap timestamp)) delivered ∧
      (loop.handleSwap memory timestamp).1.stats.dropped = loop.stats.dropped ∧
      (loop.handleSwap memory timestamp).1.stats.discarded = loop.stats.discarded := by
  cases hcurrent : loop.current with
  | none => exact h.handleSwap_first hcount hread hstate hcurrent timestamp
  | some finished => exact h.handleSwap_next hcount hread hstate hcurrent timestamp

/-! ## Samples -/

variable [Frontend F]

/-- A sample finds room if there is a period that it belongs to. -/
theorem store_fst (h : KeepingUp count capacity memory loop log delivered)
    (hfits : (log.note (.sample (loop.sampleRecord memory.mode))).Fits capacity)
    (hlasting : log.lasting ≠ none) (sample : IvSample) :
    (loop.store memory sample).1 = true := by
  obtain ⟨handle, hcurrent⟩ := Option.ne_none_iff_exists'.mp (h.filling hlasting)
  obtain ⟨period, hperiod, hsummarizes, -⟩ := h.recording.filling handle hcurrent
  obtain ⟨buffer, hbuffer⟩ :=
    BufferPool.exists_buffer?_of_owner? (h.recording.owner?_current hcurrent)
  have hcapacity := h.recording.capacity_eq _ buffer hbuffer
  obtain ⟨entry, hentry, rfl⟩ := Option.map_eq_some_iff.mp hbuffer
  have hroom := hfits.lt_of_note_sample hperiod
  have hindex : loop.sampleIndex.toNat = min period.records.length (UInt32.size - 1) :=
    hsummarizes.sampleCount
  simp only [SamplingLoop.store, hcurrent, SharedMemory.put, BufferPool.put, hentry, hcapacity,
    decide_eq_true_eq]
  omega

/-- While samples fit their period, none is discarded. -/
theorem stats_handleSample (h : KeepingUp count capacity memory loop log delivered)
    (hfits : (log.note (.sample (loop.sampleRecord memory.mode))).Fits capacity) :
    (loop.handleSample memory).1.stats.dropped = loop.stats.dropped ∧
      (log.lasting ≠ none →
        (loop.handleSample memory).1.stats.discarded = loop.stats.discarded) := by
  have hstats : (loop.sampleOnce memory.mode).2.stats = loop.stats := by
    cases memory.mode <;> rfl
  refine ⟨by simp only [SamplingLoop.handleSample, hstats], fun hlasting => ?_⟩
  have hcurrent := (loop.handles_sampleOnce memory.mode).1
  have hcount : (loop.sampleOnce memory.mode).2.sampleIndex = loop.sampleIndex :=
    congrArg BufferMeta.sampleCount (loop.summary_sampleOnce memory.mode)
  have hstored : ((loop.sampleOnce memory.mode).2.store memory
      (loop.sampleOnce memory.mode).1).1 = true := by
    rw [← h.store_fst hfits hlasting (loop.sampleOnce memory.mode).1]
    simp only [SamplingLoop.store, hcurrent, hcount]
  simp only [SamplingLoop.handleSample, hstored, hstats, if_true]

theorem handleSample (h : KeepingUp count capacity memory loop log delivered) :
    KeepingUp count capacity (loop.handleSample memory).2 (loop.handleSample memory).1
      (log.note (.sample (loop.sampleRecord memory.mode))) delivered := by
  obtain ⟨hcurrent, hpending⟩ := loop.handles_sampleOnce memory.mode
  have harena : (loop.handleSample memory).2.arena = memory.arena := by
    rw [loop.memory_handleSample memory]
    cases loop.current <;> rfl
  have hindex : (loop.handleSample memory).2.announcedIndex? = memory.announcedIndex? := by
    rw [SharedMemory.announcedIndex?, harena, ← SharedMemory.announcedIndex?]
  have hmail : (loop.handleSample memory).2.samplingMail = memory.samplingMail := by
    rw [SharedMemory.samplingMail, harena, ← SharedMemory.samplingMail]
  have hnext : (loop.handleSample memory).1.current = loop.current := hcurrent
  have hphase := congrArg Prod.fst (loop.phase_handleSample memory)
  constructor
  case recording => exact h.recording.handleSample
  case session =>
    rw [SharedMemory.state_of_control (loop.control_handleSample memory)]
    exact h.session
  case restarted => exact fun hreset => hcurrent.trans (h.restarted (hphase.symm.trans hreset))
  case pending => exact hpending.trans h.pending
  case filling =>
    intro hlasting
    rw [hnext]
    refine h.filling fun hnone => hlasting ?_
    simp [PeriodLog.note, hnone]
  case commands => exact hmail ▸ h.commands
  case reported => exact hmail ▸ h.reported
  case announces =>
    rw [harena, hindex]
    exact h.announces
  case accounted =>
    rw [harena, hindex, hnext]
    exact h.accounted
  case complete =>
    rw [hindex]
    exact h.complete

/-! ## Steps of the sampling loop -/

omit [Frontend F] in
theorem pollSwap (h : KeepingUp count capacity memory loop log delivered) (hcount : 2 ≤ count)
    (hread : memory.swapPending = true → memory.arena.pru0ToHost.isUnread = false)
    (hstate : loop.state ≠ .reset) :
    KeepingUp count capacity (loop.pollSwap memory).2.2 (loop.pollSwap memory).2.1
        (memory.waitingSwaps.foldl .note log) delivered ∧
      (loop.pollSwap memory).2.1.stats.dropped = loop.stats.dropped ∧
      (loop.pollSwap memory).2.1.stats.discarded = loop.stats.discarded := by
  have htaken : KeepingUp count capacity memory.takeSwapTrigger.2 loop log delivered :=
    h.of_material rfl rfl h.session
  rw [SharedMemory.waitingSwaps]
  cases hpending : memory.swapPending with
  | false =>
      rw [loop.pollSwap_of_low hpending]
      exact ⟨htaken, rfl, rfl⟩
  | true =>
      rw [SamplingLoop.pollSwap, SamplingLoop.takeSwapTrigger_of_pending hpending]
      exact htaken.handleSwap hcount (hread hpending) hstate memory.arena.bufferTimestamp

theorem pollSample (h : KeepingUp count capacity memory loop log delivered)
    (hlow : memory.swapPending = false)
    (hfits : ((loop.waitingSamples memory).foldl .note log).Fits capacity) :
    KeepingUp count capacity (loop.pollSample memory).2.2 (loop.pollSample memory).2.1
        ((loop.waitingSamples memory).foldl .note log) delivered ∧
      (loop.pollSample memory).2.1.stats.dropped = loop.stats.dropped ∧
      (log.lasting ≠ none →
        (loop.pollSample memory).2.1.stats.discarded = loop.stats.discarded) := by
  have htaken : KeepingUp count capacity memory.takeSampleTrigger.2 loop log delivered :=
    h.of_material rfl rfl h.session
  have heq : memory.takeSampleTrigger = (memory.samplePending, memory.takeSampleTrigger.2) := rfl
  rw [SamplingLoop.waitingSamples] at hfits ⊢
  rw [SamplingLoop.pollSample, heq]
  cases hpending : memory.samplePending with
  | false => exact ⟨htaken, rfl, fun _ => rfl⟩
  | true =>
      have hstill : memory.takeSampleTrigger.2.swapPending = false := hlow
      have hagain : KeepingUp count capacity memory.takeSampleTrigger.2.takeSwapTrigger.2 loop log
          delivered := htaken.of_material rfl rfl h.session
      rw [hpending] at hfits
      simp only [loop.pollSwap_of_low hstill]
      exact ⟨hagain.handleSample, hagain.stats_handleSample hfits⟩

omit [Frontend F] in
/-- Without a command there is nothing to serve. -/
theorem serveCommands (h : KeepingUp count capacity memory loop log delivered) :
    SamplingLoop.serveCommands memory = memory := by
  have hread : memory.arena.hostToPru0.isUnread = false := h.commands
  have hreceived : memory.samplingReceive = (none, memory) := by
    simp only [SharedMemory.samplingReceive, Channel.receive, Channel.tryReceive, Channel.tryTake,
      Slot.take?, hread]
    rfl
  rw [SamplingLoop.serveCommands, hreceived]

omit [Frontend F] in
theorem maintainCache (h : KeepingUp count capacity memory loop log delivered) (mode : Mode)
    (reader : ℕ) :
    KeepingUp count capacity memory (loop.maintainCache mode reader) log delivered := by
  rw [SamplingLoop.maintainCache]
  split
  · exact h.of_loop rfl rfl rfl h.restarted
  · exact h

theorem lasting_of_waitingSamples
    (hlasting : ((loop.waitingSamples memory).foldl PeriodLog.note log).lasting ≠ none) :
    log.lasting ≠ none := by
  intro hnone
  apply hlasting
  rw [SamplingLoop.waitingSamples]
  split <;> simp [PeriodLog.note, hnone]

theorem work (h : KeepingUp count capacity memory loop log delivered) (hcount : 2 ≤ count)
    (hread : memory.swapPending = true → memory.arena.pru0ToHost.isUnread = false)
    (hstate : loop.state ≠ .reset)
    (hfits : ((loop.workEvents memory).foldl .note log).Fits capacity) :
    KeepingUp count capacity (loop.work memory).2 (loop.work memory).1
        ((loop.workEvents memory).foldl .note log) delivered ∧
      (loop.work memory).1.stats.dropped = loop.stats.dropped ∧
      (((loop.workEvents memory).foldl PeriodLog.note log).lasting ≠ none →
        (loop.work memory).1.stats.discarded = loop.stats.discarded) := by
  have hretried : loop.retryPending memory = (loop, memory) := by
    rw [SamplingLoop.retryPending, h.pending]
  simp only [SamplingLoop.workEvents, SamplingLoop.work, hretried, List.foldl_append] at hfits ⊢
  obtain ⟨hswapped, hdropped, hdiscarded⟩ := h.pollSwap hcount hread hstate
  obtain ⟨hsampled, hdropped', hdiscarded'⟩ :=
    hswapped.pollSample (SamplingLoop.swapPending_pollSwap _ _) hfits
  split
  · exact ⟨hsampled, hdropped'.trans hdropped, fun hlasting =>
      (hdiscarded' (lasting_of_waitingSamples hlasting)).trans hdiscarded⟩
  · rw [hsampled.serveCommands, SamplingLoop.stats_maintainCache]
    exact ⟨hsampled.maintainCache _ _, hdropped'.trans hdropped, fun hlasting =>
      (hdiscarded' (lasting_of_waitingSamples hlasting)).trans hdiscarded⟩

/-- A loop that leaves the reset has no buffer to drop. -/
theorem stepReset (h : KeepingUp count capacity memory loop log delivered)
    (hreset : loop.state = .reset) :
    KeepingUp count capacity (loop.stepReset memory).2.2 (loop.stepReset memory).2.1 log
        delivered ∧
      (loop.stepReset memory).2.1.stats = loop.stats := by
  have hcurrent := h.restarted hreset
  have hfreed : loop.dropBuffers memory = memory := by
    simp [SamplingLoop.dropBuffers, hcurrent, h.pending]
  have hlasting : log.lasting = none := by
    by_contra hsome
    exact h.filling hsome hcurrent
  have haccounted := h.accounted
  rw [hcurrent] at haccounted
  rw [SamplingLoop.stepReset_of_ne loop h.session, hfreed]
  refine ⟨?_, rfl⟩
  exact
    { recording := h.recording.of_empty hcurrent rfl h.pending.symm
      session := h.session
      restarted := fun _ => rfl
      pending := rfl
      filling := fun hsome => absurd hlasting hsome
      commands := h.commands
      reported := h.reported
      announces := h.announces
      accounted := haccounted
      complete := h.complete }

omit [Frontend F] in
theorem stepAwaitStart (h : KeepingUp count capacity memory loop log delivered) :
    KeepingUp count capacity (loop.stepAwaitStart memory).2.2 (loop.stepAwaitStart memory).2.1 log
        delivered ∧
      (loop.stepAwaitStart memory).2.1.stats = loop.stats := by
  have htaken : KeepingUp count capacity memory.takeSwapTrigger.2.takeSampleTrigger.2 loop log
      delivered := h.of_material rfl rfl h.session
  simp only [SamplingLoop.stepAwaitStart, htaken.serveCommands]
  split
  · exact ⟨htaken, rfl⟩
  · exact ⟨htaken, rfl⟩
  · exact ⟨htaken, rfl⟩
  · exact ⟨htaken.maintainCache _ _, loop.stats_maintainCache _ _⟩
  · exact ⟨htaken.maintainCache _ _, loop.stats_maintainCache _ _⟩

theorem dispatch (h : KeepingUp count capacity memory loop log delivered) (hcount : 2 ≤ count)
    (hread : loop.handlesSwap memory = true → memory.arena.pru0ToHost.isUnread = false)
    (hfits : ((loop.handledEvents memory).foldl .note log).Fits capacity) :
    KeepingUp count capacity (loop.dispatch memory).2.2 (loop.dispatch memory).2.1
        ((loop.handledEvents memory).foldl .note log) delivered ∧
      (loop.dispatch memory).2.1.stats.dropped = loop.stats.dropped ∧
      (((loop.handledEvents memory).foldl PeriodLog.note log).lasting ≠ none →
        (loop.dispatch memory).2.1.stats.discarded = loop.stats.discarded) := by
  rw [SamplingLoop.handlesSwap_eq] at hread
  rw [SamplingLoop.handledEvents] at hfits ⊢
  rw [SamplingLoop.dispatch]
  cases hloop : loop.state with
  | reset =>
      obtain ⟨hnext, hstats⟩ := h.stepReset hloop
      exact ⟨hnext, congrArg SamplingStats.dropped hstats,
        fun _ => congrArg SamplingStats.discarded hstats⟩
  | awaitStart =>
      obtain ⟨hnext, hstats⟩ := h.stepAwaitStart
      exact ⟨hnext, congrArg SamplingStats.dropped hstats,
        fun _ => congrArg SamplingStats.discarded hstats⟩
  | running =>
      rw [SamplingLoop.stepRunning]
      cases hsession : memory.state with
      | running =>
          rw [if_pos ⟨hloop, hsession⟩] at hfits
          exact h.work hcount (fun hpending => hread (by simp [hloop, hsession, hpending]))
            (by simp [hloop]) hfits
      | idle | armed | reset | fault => exact ⟨h, rfl, fun _ => rfl⟩
  | fault => exact ⟨h, rfl, fun _ => rfl⟩

/-- A step loses nothing, provided that it handles a swap only after the last announcement was
read. -/
theorem step (h : KeepingUp count capacity memory loop log delivered) (hcount : 2 ≤ count)
    (hread : loop.handlesSwap memory = true → memory.arena.pru0ToHost.isUnread = false)
    (hfits : ((loop.handledEvents memory).foldl .note log).Fits capacity) :
    KeepingUp count capacity (loop.step memory).2 (loop.step memory).1
        ((loop.handledEvents memory).foldl .note log) delivered ∧
      (loop.step memory).1.stats.dropped = loop.stats.dropped ∧
      (((loop.handledEvents memory).foldl PeriodLog.note log).lasting ≠ none →
        (loop.step memory).1.stats.discarded = loop.stats.discarded) := by
  obtain ⟨hdispatch, hdropped, hdiscarded⟩ := h.dispatch hcount hread hfits
  have hnext : (loop.step memory).1.state ≠ .reset := by
    have hview := congrArg Handshake.loop (loop.step_cases memory).1
    have hstepped := @Handshake.loop_stepped_ne_reset (loop.handshake memory) h.session
    exact fun hreset => hstepped (hview.symm.trans hreset)
  rw [SamplingLoop.step] at hnext ⊢
  split
  rename_i next moved after heq
  simp only [heq] at hdispatch hdropped hdiscarded hnext
  split
  · exact ⟨hdispatch, hdropped, hdiscarded⟩
  · rename_i hmoved
    rw [if_neg hmoved] at hnext
    have hlogged := hdispatch.of_material (SharedMemory.material_of_ledger
      (SharedMemory.ledger_log _ .debug ("pru0 " ++ loop.state.name ++ " -> " ++ next.name))) rfl
        hdispatch.session
    exact ⟨hlogged.of_loop rfl rfl rfl fun hreset => absurd hreset hnext, hdropped, hdiscarded⟩

/-! ## Services of the pump -/

omit [Frontend F] in
/-- The announced buffer is shown to the sink and free again. -/
theorem length_onBuffer (hrecording : Recording count capacity memory loop log delivered)
    (pump : MessagePump) {index : UInt32} (hfilled : memory.pool.owner? index = some .filled) :
    (pump.onBuffer memory index).2.2.arena.freeRing.length = memory.arena.freeRing.length + 1 ∧
      (pump.onBuffer memory index).1.toList.length = 1 := by
  have hclaim := SharedMemory.claim_of_filled hfilled
  have hclaimed := hrecording.ownership.claim index
  rw [hclaim] at hclaimed
  obtain ⟨ring, htoList, hrecycle⟩ := hclaimed.exists_recycle
  have hring := congrArg List.length htoList
  rw [FreeRing.length_toList, List.length_append, FreeRing.length_toList, List.length_singleton]
    at hring
  simp only [MessagePump.onBuffer, hclaim, hrecycle]
  exact ⟨hring, rfl⟩

omit [Frontend F] in
/-- A service takes the announced buffer, if there is one. -/
theorem length_service (h : KeepingUp count capacity memory loop log delivered)
    (pump : MessagePump) :
    (pump.service memory).memory.arena.freeRing.length =
        memory.arena.freeRing.length + memory.announcedIndex?.toList.length ∧
      (pump.service memory).consumed.toList.length = memory.announcedIndex?.toList.length ∧
      (pump.service memory).memory.arena.pru0ToHost.isUnread = false := by
  have hpolled := SharedMemory.material_of_ledger memory.ledger_pollStatus
  have hmaterial := (pump.onStatuses_cases memory.pollStatus.2 memory.pollStatus.1).1.trans hpolled
  have hhandled := h.recording.of_material hmaterial
  have hindex := SharedMemory.announcedIndex?_of_material hmaterial
  have hring := congrArg Material.freeRing hmaterial
  have hslot : (pump.onStatuses memory.pollStatus.2 memory.pollStatus.1).2.arena.pru0ToHost =
      memory.arena.pru0ToHost := congrArg Material.announcement hmaterial
  have hannounces := h.announces
  rw [← hindex, ← hslot] at hannounces
  unfold MessagePump.service
  dsimp only
  generalize pump.onStatuses memory.pollStatus.2 memory.pollStatus.1 = handled
    at hhandled hindex hring hannounces ⊢
  have hreceived := hhandled.pumpReceive
  have hread : handled.2.pumpReceive.2.arena.pru0ToHost.isUnread = false :=
    Channel.isUnread_receive .host .pru0 handled.2.arena.pru0ToHost handled.2.arena.hostStatus
  have hkept : handled.2.pumpReceive.2.arena.freeRing = memory.arena.freeRing := hring
  have hpool : handled.2.pumpReceive.2.pool = handled.2.pool := rfl
  split <;> rename_i heq <;> rw [heq] at hreceived hread hkept hpool
  · have hnothing := handled.2.announcedIndex?_eq_pumpReceive
    rw [heq] at hnothing
    rw [← hindex, hnothing]
    exact ⟨congrArg FreeRing.length hkept, rfl, hread⟩
  · rename_i message after
    obtain ⟨htype, hfirst⟩ := SharedMemory.announced_of_pumpReceive hannounces heq
    have hfilled : after.pool.owner? message.first = some .filled := by
      rw [hpool]
      exact hhandled.announced_filled message.first hfirst
    obtain ⟨hlength, hconsumed⟩ := length_onBuffer hreceived handled.1 hfilled
    have honMessage : handled.1.onMessage after message =
        handled.1.onBuffer after message.first := by
      rw [MessagePump.onMessage, htype]
    have hserved := handled.1.slot_onMessage after message
    rw [honMessage] at hserved ⊢
    rw [← hindex, hfirst]
    refine ⟨?_, hconsumed, hserved ▸ hread⟩
    rw [hlength, hkept]
    rfl

omit [Frontend F] in
theorem service (h : KeepingUp count capacity memory loop log delivered) (pump : MessagePump) :
    KeepingUp count capacity (pump.service memory).memory loop log
      (delivered ++ (pump.service memory).consumed.toList.map (·.buffer)) := by
  obtain ⟨hring, hconsumed, hread⟩ := h.length_service pump
  have hmail := pump.samplingMail_service memory
  have hindex := SharedMemory.announcedIndex?_of_read hread
  constructor
  case recording => exact h.recording.service pump
  case session =>
    obtain hstate | hstate := pump.state_service memory
    · exact hstate.trans_ne h.session
    · exact hstate.trans_ne (by decide)
  case restarted => exact h.restarted
  case pending => exact h.pending
  case filling => exact h.filling
  case commands => exact hmail ▸ h.commands
  case reported => exact hmail ▸ h.reported
  case announces => exact fun hunread => absurd (hread.symm.trans hunread) Bool.false_ne_true
  case accounted =>
    have haccounted := h.accounted
    rw [hring, hindex, Option.toList_none, List.length_nil]
    omega
  case complete =>
    have hcomplete := h.complete
    rw [hindex, Option.toList_none, List.length_nil, List.length_append, List.length_map, hconsumed]
    omega

end KeepingUp

end HarvestTestbed
