import HarvestTestbed.Proofs.PumpFrame
import HarvestTestbed.Proofs.SamplingFrame
import HarvestTestbed.Proofs.TimingFrame
import HarvestTestbed.Proofs.Transfer

/-!
# What edge capture rests on

Edges go into the log of the buffer that the edge target names.  The target is changed where the
sampling core begins a period, hands a buffer over or drops its buffers, and where a reset is
finished; the logs are changed where an edge is recorded and where a buffer becomes the target.  The
period that an edge belongs to is the one announced last, by a timestamp and the swap trigger.  This
file says of each operation what it does to these.  Most of them leave them as they are.
-/

namespace HarvestTestbed

/-- The edge target with the logs of all buffers, and the announcement of the last period. -/
structure Capture where
  target : EdgeTarget
  logs : Array EdgeLog
  timestamp : UInt64
  /-- The trigger that announces the timestamp. -/
  trigger : Flag
  deriving DecidableEq, Repr

def Capture.Announces (before after : Capture) : Prop :=
  after = before ∨
    ∃ timestamp, after = { before with timestamp := timestamp, trigger := .raised }

/-- An announcement moves neither the target nor a log. -/
theorem Capture.Announces.keeps {before after : Capture} (h : before.Announces after) :
    after.logs = before.logs ∧ after.target = before.target := by
  obtain rfl | ⟨timestamp, rfl⟩ := h <;> exact ⟨rfl, rfl⟩

/-- Where no swap waits afterwards, nothing was announced. -/
theorem Capture.Announces.of_low {before after : Capture} (h : before.Announces after)
    (hlow : after.trigger.isRaised = false) :
    before.trigger.isRaised = false ∧ after.timestamp = before.timestamp := by
  obtain rfl | ⟨timestamp, rfl⟩ := h
  · exact ⟨hlow, rfl⟩
  · cases hlow

namespace BufferPool

def logs (pool : BufferPool) : Array EdgeLog :=
  pool.entries.map (·.edges)

theorem edges?_eq_logs (pool : BufferPool) (index : UInt32) :
    pool.edges? index = pool.logs[index.toNat]? := by
  simp [edges?, entry?, logs]

/-- Only what touches edges touches the logs. -/
theorem logs_modify {change : PoolEntry → PoolEntry}
    (hchange : ∀ entry, (change entry).edges = entry.edges) (pool : BufferPool)
    (index : UInt32) : (pool.modify index change).logs = pool.logs := by
  apply Array.ext_getElem?
  intro position
  simp only [logs, modify, Array.getElem?_map, Array.getElem?_modify]
  split
  · simp [Option.map_map, Function.comp_def, hchange]
  · rfl

/-- A buffer changes hands with its log. -/
theorem logs_of_transition? {pool next : BufferPool} {index : UInt32}
    {source target : BufferOwner} (hnext : pool.transition? index source target = some next) :
    next.logs = pool.logs := by
  simp only [transition?] at hnext
  split at hnext
  · rw [← Option.some.inj hnext]
    exact logs_modify (by intro entry; rfl) pool index
  · cases hnext

theorem logs_getD_transition? (pool : BufferPool) (index : UInt32)
    (source target : BufferOwner) :
    ((pool.transition? index source target).getD pool).logs = pool.logs := by
  cases hnext : pool.transition? index source target with
  | none => rfl
  | some next => exact logs_of_transition? hnext

theorem buffer?_getD_transition? (pool : BufferPool) (index other : UInt32)
    (source target : BufferOwner) :
    ((pool.transition? index source target).getD pool).buffer? other = pool.buffer? other := by
  rw [transition?]
  split
  · exact buffer?_modify (by intro entry; rfl) pool index other
  · rfl

theorem logs_of_takeForProducer {pool next : BufferPool} {index : UInt32}
    {handle : ProducerHandle} (htaken : pool.takeForProducer index = some (handle, next)) :
    next.logs = pool.logs := by
  obtain ⟨owned, howned, heq⟩ := Option.map_eq_some_iff.mp htaken
  rw [← (Prod.mk.inj heq).2, logs_modify (by intro entry; rfl)]
  exact logs_of_transition? howned

theorem logs_markFilled (pool : BufferPool) (handle : ProducerHandle) (summary : BufferMeta) :
    (pool.markFilled handle summary).2.logs = pool.logs := by
  simp only [markFilled, logs_getD_transition?]
  exact logs_modify (by intro entry; rfl) pool handle.index

end BufferPool

namespace SharedMemory

def capture (memory : SharedMemory) : Capture where
  target := memory.arena.edgeTarget.value
  logs := memory.pool.logs
  timestamp := memory.arena.bufferTimestamp
  trigger := memory.arena.bufferSwapTrigger

theorem swapPending_eq_capture (memory : SharedMemory) :
    memory.swapPending = memory.capture.trigger.isRaised :=
  rfl

/-! ## Operations that leave edge capture alone -/

@[simp]
theorem capture_notify (memory : SharedMemory) (origin : Origin) (code : StatusCode)
    (first second : UInt32) :
    (memory.notify origin code first second).capture = memory.capture := by
  cases origin <;> rfl

theorem hidesPublished_capture : HidesPublished capture where
  log _ _ _ := rfl
  sessionState _ _ := rfl
  mode _ _ := rfl

@[simp]
theorem capture_setState (memory : SharedMemory) (next : SessionState) :
    (memory.setState next).2.capture = memory.capture :=
  hidesPublished_capture.setState memory next

@[simp]
theorem capture_setMode (memory : SharedMemory) (mode : Mode) :
    (memory.setMode mode).2.capture = memory.capture :=
  hidesPublished_capture.setMode memory mode

@[simp]
theorem capture_acquire (memory : SharedMemory) : memory.acquire.2.capture = memory.capture := by
  simp only [acquire]
  split
  · exact capture_notify _ _ _ _ _
  · split
    · rename_i htaken
      have hlogs := BufferPool.logs_of_takeForProducer htaken
      simp only [capture, mapArena] at hlogs ⊢
      rw [hlogs]
    · exact capture_notify _ _ _ _ _

@[simp]
theorem capture_put (memory : SharedMemory) (handle : ProducerHandle) (index : ℕ)
    (sample : IvSample) : (memory.put handle index sample).2.capture = memory.capture := by
  simp only [put, capture, BufferPool.put_snd_eq, BufferPool.editBuffer]
  rw [BufferPool.logs_modify (by intro entry; rfl)]

@[simp]
theorem capture_dropHandle (memory : SharedMemory) (handle : ProducerHandle) :
    (memory.dropHandle handle).capture = memory.capture := by
  simp only [dropHandle, capture, BufferPool.dropProducer, BufferPool.logs_getD_transition?]

@[simp]
theorem capture_claim (memory : SharedMemory) (index : UInt32) :
    (memory.claim index).2.capture = memory.capture := by
  rw [claim]
  split
  · rename_i hclaimed
    obtain ⟨owned, howned, heq⟩ := Option.map_eq_some_iff.mp hclaimed
    simp only [capture, ← (Prod.mk.inj heq).2, BufferPool.logs_of_transition? howned]
  · exact capture_notify _ _ _ _ _

@[simp]
theorem capture_recycle (memory : SharedMemory) (handle : ConsumerHandle) :
    (memory.recycle handle).2.capture = memory.capture := by
  have hreleased : (memory.pool.releaseConsumed handle).logs = memory.pool.logs :=
    BufferPool.logs_getD_transition? _ _ _ _
  simp only [recycle]
  split
  · simp only [capture, mapArena, hreleased]
  · rw [capture_notify]
    simp only [capture, hreleased]

/-! ## Operations that change it -/

/-- Handing a buffer over stops capture into it. -/
theorem capture_release (memory : SharedMemory) (handle : ProducerHandle)
    (summary : BufferMeta) :
    (memory.release handle summary).2.capture =
      { memory.capture with target := memory.capture.target.detach handle.index } := by
  have hmarked := memory.pool.logs_markFilled handle summary
  simp only [release]
  split
  · simp only [capture, samplingSend, Guarded.update, hmarked]
  · split
    · rename_i hback
      obtain ⟨owned, howned, heq⟩ := Option.map_eq_some_iff.mp hback
      have hlogs := BufferPool.logs_of_transition? howned
      simp only [samplingSend] at hlogs
      simp only [capture, ← (Prod.mk.inj heq).2, samplingSend, Guarded.update, hlogs, hmarked]
    · rw [capture_notify]
      simp only [capture, samplingSend, Guarded.update, hmarked]

theorem capture_swapEdges_none (memory : SharedMemory) :
    (memory.swapEdges none).capture = { memory.capture with target := {} } :=
  rfl

/-- A buffer that becomes the target starts with an empty log. -/
theorem swapEdges_some {memory : SharedMemory} {index : UInt32}
    (hindex : index.toNat < memory.pool.size) :
    (memory.swapEdges (some index)).capture.target = ⟨index, true⟩ ∧
      (∀ other, (memory.swapEdges (some index)).pool.edges? other =
        if other = index then some {} else memory.pool.edges? other) := by
  have hentry : memory.pool.entry? index = some memory.pool.entries[index.toNat] :=
    Array.getElem?_eq_getElem hindex
  simp only [swapEdges, EdgeTarget.swap, if_pos hindex, capture, Guarded.update, true_and]
  intro other
  simp only [BufferPool.edges?, BufferPool.entry?_modify]
  split
  · rename_i hother
    rw [hother, hentry]
    rfl
  · rfl

/-- An edge goes into the log of the target and into no other. -/
theorem edges?_recordEdge (memory : SharedMemory) (event : EdgeEvent) (index : UInt32) :
    (memory.recordEdge event).2.pool.edges? index =
      if memory.capture.target = ⟨index, true⟩ then
        (memory.pool.edges? index).map fun log => (log.push event).2
      else memory.pool.edges? index := by
  have htarget : memory.capture.target = memory.arena.edgeTarget.value := rfl
  rw [htarget]
  generalize htarget : memory.arena.edgeTarget.value = target
  obtain ⟨place, active⟩ := target
  simp only [recordEdge, EdgeTarget.record, htarget]
  cases active with
  | false => simp
  | true =>
      simp only [if_true, EdgeTarget.mk.injEq, and_true]
      cases hentry : memory.pool.entry? place with
      | none =>
          simp only
          split
          · rename_i hplace
            subst hplace
            simp [BufferPool.edges?, hentry]
          · rfl
      | some entry =>
          simp only [BufferPool.edges?, BufferPool.entry?_modify, eq_comm (a := place)]
          split
          · rw [Option.map_map, Option.map_map]
            rfl
          · rfl

end SharedMemory

/-! ## Steps of the sampling core -/

namespace SamplingLoop

variable {F : Type}

/-- A hand-over ends the capture into the buffer before it is announced. -/
theorem capture_handOver (loop : SamplingLoop F) (memory : SharedMemory)
    (handle : ProducerHandle) (summary : BufferMeta) :
    (loop.handOver memory handle summary).2.capture =
      { memory.capture with target := memory.capture.target.detach handle.index } := by
  have hrelease := memory.capture_release handle summary
  rw [handOver]
  split <;> rename_i heq <;> rw [heq] at hrelease <;> exact hrelease

/-- A loop that drops its buffers has stopped capture before. -/
theorem capture_dropBuffers (loop : SamplingLoop F) (memory : SharedMemory) :
    (loop.dropBuffers memory).capture =
      if loop.current.isSome ∨ loop.pending.isSome then { memory.capture with target := {} }
      else memory.capture := by
  have hquiet := memory.capture_swapEdges_none
  simp only [dropBuffers]
  split
  · cases loop.current <;> cases loop.pending <;>
      simp only [SharedMemory.capture_dropHandle, hquiet]
  · rfl

theorem capture_serveCommands (memory : SharedMemory) :
    (serveCommands memory).capture = memory.capture := by
  have hreceived : memory.samplingReceive.2.capture = memory.capture := rfl
  rw [serveCommands]
  split <;> rename_i heq <;> rw [heq] at hreceived
  · split
    · exact hreceived
    · exact (SharedMemory.capture_notify _ _ _ _ _).trans hreceived
  · exact hreceived

theorem capture_store (loop : SamplingLoop F) (memory : SharedMemory) (sample : IvSample) :
    (loop.store memory sample).2.capture = memory.capture := by
  rw [store]
  split
  · exact memory.capture_put _ _ _
  · rfl

/-! The sampling core announces no period. -/

@[simp]
theorem timestamp_retryPending (loop : SamplingLoop F) (memory : SharedMemory) :
    (loop.retryPending memory).2.capture.timestamp = memory.capture.timestamp := by
  rw [retryPending]
  split
  · rw [capture_handOver]
  · rfl

@[simp]
theorem timestamp_pollSwap (loop : SamplingLoop F) (memory : SharedMemory) :
    (loop.pollSwap memory).2.2.capture.timestamp = memory.capture.timestamp := by
  have hswap : ∀ memory timestamp,
      (loop.handleSwap memory timestamp).2.capture.timestamp = memory.capture.timestamp := by
    intro memory timestamp
    have hacquired := congrArg Capture.timestamp memory.capture_acquire
    rw [handleSwap]
    split
    · rfl
    · simp only [exchangeBuffer]
      split
      · rw [capture_handOver]
        exact hacquired
      · exact hacquired
  have htaken : memory.takeSwapTrigger.2.capture.timestamp = memory.capture.timestamp := rfl
  rw [pollSwap]
  split <;> rename_i heq <;> rw [heq] at htaken
  · exact (hswap _ _).trans htaken
  · exact htaken

variable [Frontend F]

@[simp]
theorem timestamp_pollSample (loop : SamplingLoop F) (memory : SharedMemory) :
    (loop.pollSample memory).2.2.capture.timestamp = memory.capture.timestamp := by
  have htaken : memory.takeSampleTrigger.2.capture.timestamp = memory.capture.timestamp := rfl
  rw [pollSample]
  split <;> rename_i heq <;> rw [heq] at htaken
  · simp only [handleSample, capture_store, timestamp_pollSwap]
    exact htaken
  · exact htaken

@[simp]
theorem timestamp_work (loop : SamplingLoop F) (memory : SharedMemory) :
    (loop.work memory).2.capture.timestamp = memory.capture.timestamp := by
  simp only [work]
  split <;>
    simp only [capture_serveCommands, timestamp_pollSample, timestamp_pollSwap,
      timestamp_retryPending]

@[simp]
theorem timestamp_step (loop : SamplingLoop F) (memory : SharedMemory) :
    (loop.step memory).2.capture.timestamp = memory.capture.timestamp := by
  have hdispatch :
      (loop.dispatch memory).2.2.capture.timestamp = memory.capture.timestamp := by
    rw [dispatch]
    cases loop.state with
    | reset =>
        have hfreed :
            (loop.dropBuffers memory).capture.timestamp = memory.capture.timestamp := by
          rw [capture_dropBuffers]
          split <;> rfl
        simp only [stepReset, acknowledge]
        split
        · split
          · exact hfreed
          · exact hfreed
        · exact hfreed
    | awaitStart =>
        have hserved := congrArg Capture.timestamp
          (capture_serveCommands memory.takeSwapTrigger.2.takeSampleTrigger.2)
        simp only [stepAwaitStart]
        split <;> exact hserved
    | running =>
        rw [stepRunning]
        cases memory.state with
        | running => exact loop.timestamp_work memory
        | idle | armed | reset | fault => rfl
    | fault => rfl
  rw [step]
  split
  rename_i heq
  rw [heq] at hdispatch
  split <;> exact hdispatch

end SamplingLoop

/-! ## Steps of the timing core -/

theorem SharedMemory.hidesTiming_capture : HidesTiming SharedMemory.capture where
  takeSyncTrigger _ := rfl
  timingSend _ _ _ _ := rfl
  receiveReply _ := rfl
  notify memory := memory.capture_notify .pru1

namespace TimingLoop

variable {T : Type} [Timer T]

/-- A wrap announces a period; nothing else touches what edge capture rests on. -/
theorem capture_serveTimer (loop : TimingLoop T) (memory : SharedMemory) :
    memory.capture.Announces (loop.serveTimer memory).2.capture := by
  rw [serveTimer]
  split
  · exact .inr ⟨_, rfl⟩
  · split <;> exact .inl rfl

/-- The change of the monitored lines since the last step, if any. -/
def edge? (loop : TimingLoop T) : Option EdgeEvent :=
  let levels := Timer.gpio loop.timer
  if levels = loop.lastGpio then none
  else some
    { sampleIndex := Saturating.sub32 loop.sampleIndex 1
      timestamp := loop.periodTimestamp + (Timer.counter loop.timer).toUInt64 * loop.cfg.tick
      levels := levels }

/-- Edges reach the memory through one recorded event, or not at all. -/
theorem captureEdges_snd (loop : TimingLoop T) (memory : SharedMemory) :
    (loop.captureEdges memory).2 =
      match loop.edge? with
      | some event => (memory.recordEdge event).2
      | none => memory := by
  simp only [captureEdges, edge?]
  split <;> rfl

/-- The edge that the work of a step records, with the memory as it then is. -/
def workEdge? (loop : TimingLoop T) (memory : SharedMemory) : Option (EdgeEvent × SharedMemory) :=
  match loop.serveTrigger memory with
  | (false, _, _) => none
  | (true, loop, memory) =>
      let replied := loop.serveReply memory
      let timed := replied.1.serveTimer replied.2
      timed.1.edge?.map (·, timed.2)

/-- The edge that a step records, which it does only in a running session. -/
def recordedEdge? (loop : TimingLoop T) (memory : SharedMemory) :
    Option (EdgeEvent × SharedMemory) :=
  if loop.state = .running ∧ memory.state = .running then loop.workEdge? memory else none

/-- What a step does to edge capture, given the edge that it records. -/
def Captures (memory after : SharedMemory) (recorded : Option (EdgeEvent × SharedMemory)) : Prop :=
  ∃ noted : SharedMemory, noted.ledger = memory.ledger ∧
    memory.capture.Announces noted.capture ∧
    match recorded with
    | some (event, before) => before = noted ∧ after.capture = (noted.recordEdge event).2.capture
    | none => after.capture = noted.capture

/-- Before the edge is recorded, the work of a step can only announce a period. -/
theorem captures_work (loop : TimingLoop T) (memory : SharedMemory) :
    Captures memory (loop.work memory).2.2 (loop.workEdge? memory) := by
  have hcapture := loop.view_serveTrigger SharedMemory.hidesTiming_capture memory
  have hledger := loop.ledger_serveTrigger memory
  rw [work, workEdge?]
  generalize loop.serveTrigger memory = triggered at hcapture hledger ⊢
  obtain ⟨kept, served, seen⟩ := triggered
  cases kept with
  | false => exact ⟨memory, rfl, .inl rfl, hcapture⟩
  | true =>
      have hreplied :=
        (served.view_serveReply SharedMemory.hidesTiming_capture seen).trans hcapture
      have htimed := (served.serveReply seen).1.capture_serveTimer (served.serveReply seen).2
      rw [hreplied] at htimed
      refine ⟨((served.serveReply seen).1.serveTimer (served.serveReply seen).2).2, ?_, htimed, ?_⟩
      · rw [ledger_serveTimer, ledger_serveReply]
        exact hledger
      · simp only [captureEdges_snd]
        cases ((served.serveReply seen).1.serveTimer (served.serveReply seen).2).1.edge? with
        | none => exact rfl
        | some event => exact ⟨rfl, rfl⟩

/-- Outside of a running session a step records no edge. -/
theorem captures_step (loop : TimingLoop T) (memory : SharedMemory) :
    Captures memory (loop.step memory).2 (loop.recordedEdge? memory) := by
  have hdispatch : Captures memory (loop.dispatch memory).2.2 (loop.recordedEdge? memory) := by
    have hkept : Captures memory memory none := ⟨memory, rfl, .inl rfl, rfl⟩
    rw [dispatch, recordedEdge?]
    cases hloop : loop.state with
    | reset =>
        have hacked : memory.timingAcknowledge.capture = memory.capture := by
          rw [SharedMemory.timingAcknowledge, SharedMemory.capture_notify]
          rfl
        simp only [stepReset, acknowledge]
        split
        · split
          · exact hkept
          · exact ⟨memory, rfl, .inl rfl, hacked⟩
        · exact hkept
    | awaitStart =>
        simp only [stepAwaitStart]
        split <;> exact ⟨memory, rfl, .inl rfl, rfl⟩
    | running =>
        rw [stepRunning]
        cases hsession : memory.state with
        | running => exact loop.captures_work memory
        | idle | armed | reset | fault => exact hkept
    | fault => exact hkept
  rw [step]
  split
  rename_i heq
  rw [heq] at hdispatch
  split <;> exact hdispatch

end TimingLoop

end HarvestTestbed
