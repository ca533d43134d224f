import HarvestTestbed.Host.SyncService
import HarvestTestbed.Proofs.PumpFrame
import HarvestTestbed.Proofs.SamplingFrame

/-!
# What an actor leaves alone

A view of the memory that none of the port operations of an actor changes is not changed by what the
actor makes of them: by a step of the sampling core, by a service of the pump once it has taken the
status events, or by the sync service.
-/

namespace HarvestTestbed

/-! ## The sampling core -/

/-- A view of the memory in which the operations of the sampling core on buffers, edges, swaps and
messages do not show. -/
structure SharedMemory.HidesRecording {α : Type} (view : SharedMemory → α) : Prop where
  acquire : ∀ memory : SharedMemory, view memory.acquire.2 = view memory
  put : ∀ (memory : SharedMemory) handle index sample,
    view (memory.put handle index sample).2 = view memory
  release : ∀ (memory : SharedMemory) handle summary,
    view (memory.release handle summary).2 = view memory
  swapEdges : ∀ (memory : SharedMemory) index, view (memory.swapEdges index) = view memory
  takeSwapTrigger : ∀ memory : SharedMemory, view memory.takeSwapTrigger.2 = view memory
  samplingSend : ∀ (memory : SharedMemory) type first second,
    view (memory.samplingSend type first second).2 = view memory
  samplingReceive : ∀ memory : SharedMemory, view memory.samplingReceive.2 = view memory
  notify : ∀ (memory : SharedMemory) code first second,
    view (memory.notify .pru0 code first second) = view memory

/-- A view of the memory in which no operation of the sampling core shows. -/
structure SharedMemory.HidesSampling {α : Type} (view : SharedMemory → α) : Prop
    extends SharedMemory.HidesRecording view where
  dropHandle : ∀ (memory : SharedMemory) handle, view (memory.dropHandle handle) = view memory
  takeSampleTrigger : ∀ memory : SharedMemory, view memory.takeSampleTrigger.2 = view memory
  samplingAcknowledge : ∀ memory : SharedMemory, view memory.samplingAcknowledge = view memory
  log : ∀ (memory : SharedMemory) level text, view (memory.log level text) = view memory

namespace SamplingLoop

variable {F α : Type} {view : SharedMemory → α}

/-- Buffers are dropped where no other actor looks. -/
theorem view_dropBuffers (h : SharedMemory.HidesSampling view) (loop : SamplingLoop F)
    (memory : SharedMemory) : view (loop.dropBuffers memory) = view memory := by
  have hquiet := h.swapEdges memory none
  simp only [dropBuffers]
  split
  · split <;> split <;> simp only [h.dropHandle, hquiet]
  · rfl

theorem view_serveCommands (h : SharedMemory.HidesRecording view) (memory : SharedMemory) :
    view (serveCommands memory) = view memory := by
  have hreceived := h.samplingReceive memory
  rw [serveCommands]
  split <;> rename_i heq <;> rw [heq] at hreceived
  · split
    · exact (h.samplingSend _ _ _ _).trans hreceived
    · exact (h.notify _ _ _ _).trans hreceived
  · exact hreceived

/-- A hand-over shows only where its operations show, the report of a refusal included. -/
theorem view_handOver (h : SharedMemory.HidesRecording view) (loop : SamplingLoop F)
    (memory : SharedMemory) (handle : ProducerHandle) (summary : BufferMeta) :
    view (loop.handOver memory handle summary).2 = view memory := by
  have hreleased := h.release memory handle summary
  rw [handOver]
  split <;> rename_i heq <;> rw [heq] at hreleased <;> exact hreleased

theorem view_retryPending (h : SharedMemory.HidesRecording view) (loop : SamplingLoop F)
    (memory : SharedMemory) : view (loop.retryPending memory).2 = view memory := by
  rw [retryPending]
  split
  · exact view_handOver h _ _ _ _
  · rfl

/-- A swap shows only where its operations show, whichever way its buffers go. -/
theorem view_handleSwap (h : SharedMemory.HidesRecording view) (loop : SamplingLoop F)
    (memory : SharedMemory) (timestamp : UInt64) :
    view (loop.handleSwap memory timestamp).2 = view memory := by
  have hacquired : ∀ index, view (memory.acquire.2.swapEdges index) = view memory := fun index =>
    (h.swapEdges _ _).trans (h.acquire memory)
  rw [handleSwap]
  split
  · exact h.swapEdges memory _
  · simp only [exchangeBuffer]
    split
    · exact (view_handOver h _ _ _ _).trans (hacquired _)
    · exact hacquired _

theorem view_pollSwap (h : SharedMemory.HidesRecording view) (loop : SamplingLoop F)
    (memory : SharedMemory) : view (loop.pollSwap memory).2.2 = view memory := by
  have htaken := h.takeSwapTrigger memory
  rw [pollSwap]
  split <;> rename_i heq <;> rw [heq] at htaken
  · exact (view_handleSwap h _ _ _).trans htaken
  · exact htaken

variable [Frontend F]

theorem view_handleSample (h : SharedMemory.HidesRecording view) (loop : SamplingLoop F)
    (memory : SharedMemory) : view (loop.handleSample memory).2 = view memory := by
  have hstored : ∀ (loop : SamplingLoop F) sample,
      view (loop.store memory sample).2 = view memory := by
    intro loop sample
    rw [store]
    split
    · exact h.put _ _ _ _
    · rfl
  exact hstored _ _

theorem view_pollSample (h : SharedMemory.HidesSampling view) (loop : SamplingLoop F)
    (memory : SharedMemory) : view (loop.pollSample memory).2.2 = view memory := by
  have htaken := h.takeSampleTrigger memory
  rw [pollSample]
  split <;> rename_i heq <;> rw [heq] at htaken
  · exact (view_handleSample h.toHidesRecording _ _).trans
      ((view_pollSwap h.toHidesRecording _ _).trans htaken)
  · exact htaken

/-- The work of the sampling core is hidden as soon as its operations are. -/
theorem view_work (h : SharedMemory.HidesSampling view) (loop : SamplingLoop F)
    (memory : SharedMemory) : view (loop.work memory).2 = view memory := by
  have hsampled : ∀ (loop : SamplingLoop F) (swapped : SharedMemory),
      view swapped = view memory → view (loop.pollSample swapped).2.2 = view memory :=
    fun loop swapped hswapped => (view_pollSample h loop swapped).trans hswapped
  have hswapped := (view_pollSwap h.toHidesRecording (loop.retryPending memory).1 _).trans
    (view_retryPending h.toHidesRecording loop memory)
  simp only [work]
  split
  · exact hsampled _ _ hswapped
  · exact (view_serveCommands h.toHidesRecording _).trans (hsampled _ _ hswapped)

theorem view_stepReset (h : SharedMemory.HidesSampling view) (loop : SamplingLoop F)
    (memory : SharedMemory) : view (loop.stepReset memory).2.2 = view memory := by
  have hfreed := view_dropBuffers h loop memory
  simp only [stepReset, acknowledge]
  split
  · split
    · exact hfreed
    · exact (h.samplingAcknowledge _).trans hfreed
  · exact hfreed

/-- A step of the sampling core does not show. -/
theorem view_step (h : SharedMemory.HidesSampling view) (loop : SamplingLoop F)
    (memory : SharedMemory) : view (loop.step memory).2 = view memory := by
  have hdispatched : view (loop.dispatch memory).2.2 = view memory := by
    rw [dispatch]
    split
    · exact view_stepReset h loop memory
    · rw [(loop.stepAwaitStart_cases memory).2.2, view_serveCommands h.toHidesRecording,
        h.takeSampleTrigger, h.takeSwapTrigger]
    · rw [stepRunning]
      split
      · exact view_work h loop memory
      all_goals rfl
    · rfl
  simp only [step]
  split
  · exact hdispatched
  · exact (h.log _ _ _).trans hdispatched

end SamplingLoop

/-! ## The pump -/

/-- A view of the memory in which the operations of the pump do not show, the poll apart. -/
structure SharedMemory.HidesPump {α : Type} (view : SharedMemory → α) : Prop where
  setState : ∀ (memory : SharedMemory) next, view (memory.setState next).2 = view memory
  pumpReceive : ∀ memory : SharedMemory, view memory.pumpReceive.2 = view memory
  claim : ∀ (memory : SharedMemory) index, view (memory.claim index).2 = view memory
  recycle : ∀ (memory : SharedMemory) handle, view (memory.recycle handle).2 = view memory
  notify : ∀ (memory : SharedMemory) code first second,
    view (memory.notify .host code first second) = view memory
  log : ∀ (memory : SharedMemory) level text, view (memory.log level text) = view memory

namespace MessagePump

variable {α : Type} {view : SharedMemory → α}

/-- A pump that finds a violation may declare a fault; nothing else that it does
about events shows. -/
theorem view_onStatuses (h : SharedMemory.HidesPump view) (pump : MessagePump)
    (memory : SharedMemory) (events : List StatusEvent) :
    view (pump.onStatuses memory events).2 = view memory := by
  induction events generalizing pump memory with
  | nil => rfl
  | cons event events ih =>
      have hdeclared : view (pump.onStatus memory event).2 = view memory := by
        simp only [onStatus, declareFault]
        split
        · exact (h.setState _ _).trans (h.log _ _ _)
        · exact h.log _ _ _
      exact (ih (pump.onStatus memory event).1 (pump.onStatus memory event).2).trans hdeclared

theorem view_onMessage (h : SharedMemory.HidesPump view) (pump : MessagePump)
    (memory : SharedMemory) (message : Message) :
    view (pump.onMessage memory message).2.2 = view memory := by
  have hclaimed := h.claim memory message.first
  rw [onMessage]
  split
  · simp only [onBuffer]
    split <;> rename_i heq <;> rw [heq] at hclaimed
    · exact hclaimed
    · exact (h.log _ _ _).trans ((h.recycle _ _).trans hclaimed)
  · rfl
  · exact h.notify _ _ _ _

/-- Of a service only the poll shows. -/
theorem view_service (h : SharedMemory.HidesPump view) (pump : MessagePump)
    (memory : SharedMemory) : view (pump.service memory).memory = view memory.pollStatus.2 := by
  have hhandled := view_onStatuses h pump memory.pollStatus.2 memory.pollStatus.1
  have hreceived := h.pumpReceive (pump.onStatuses memory.pollStatus.2 memory.pollStatus.1).2
  unfold service
  dsimp only
  split <;> rename_i heq <;> rw [heq] at hreceived
  · exact hreceived.trans hhandled
  · exact (view_onMessage h _ _ _).trans (hreceived.trans hhandled)

/-- A session in the fault state stays there. -/
theorem state_onStatuses_of_fault (pump : MessagePump) {memory : SharedMemory}
    (hfault : memory.state = .fault) (events : List StatusEvent) :
    (pump.onStatuses memory events).2.state = .fault := by
  obtain hkept | hdeclared := (pump.onStatuses_cases memory events).2
  · exact (SharedMemory.state_of_control hkept).trans hfault
  · rw [SharedMemory.state_eq_control, hdeclared, SessionState.ofWord_toWord]

/-- A violation among the events leads to the fault state. -/
theorem state_onStatuses_of_violation (pump : MessagePump) (memory : SharedMemory)
    {events : List StatusEvent} {event : StatusEvent} (hmem : event ∈ events)
    (hviolation : event.code = .syncStateViolation) :
    (pump.onStatuses memory events).2.state = .fault := by
  induction events generalizing pump memory with
  | nil => cases hmem
  | cons first events ih =>
      obtain rfl | hlater := List.mem_cons.mp hmem
      · have hdeclared : (pump.onStatus memory event).2.state = .fault := by
          have hopen : ∀ state : SessionState, state.canMoveTo .fault = true := by
            intro state
            cases state <;> rfl
          simp only [onStatus, declareFault, hviolation, true_and]
          split
          · rw [SharedMemory.state_setState, if_pos (hopen _)]
          · rename_i hfault
            exact not_not.mp hfault
        exact state_onStatuses_of_fault _ hdeclared events
      · exact ih _ _ hlater

/-- A service that finds a violation leaves the session in the fault state. -/
theorem state_service_of_violation (pump : MessagePump) {memory : SharedMemory}
    {event : StatusEvent} (hmem : event ∈ memory.pollStatus.1)
    (hviolation : event.code = .syncStateViolation) :
    (pump.service memory).memory.state = .fault := by
  have hfault := state_onStatuses_of_violation pump memory.pollStatus.2 hmem hviolation
  have hreceived := SharedMemory.control_pumpReceive
    (pump.onStatuses memory.pollStatus.2 memory.pollStatus.1).2
  have hstate : ∀ {after : SharedMemory},
      after.control = (pump.onStatuses memory.pollStatus.2 memory.pollStatus.1).2.control →
      after.state = .fault := fun hcontrol => (SharedMemory.state_of_control hcontrol).trans hfault
  unfold service
  dsimp only
  split <;> rename_i heq <;> rw [heq] at hreceived
  · exact hstate hreceived
  · exact hstate ((control_onMessage _ _ _).trans hreceived)

end MessagePump

/-! ## The sync service -/

/-- A view of the memory in which the operations of the sync service do not show. -/
structure SharedMemory.HidesSync {α : Type} (view : SharedMemory → α) : Prop where
  raiseSyncTrigger : ∀ memory : SharedMemory, view memory.raiseSyncTrigger = view memory
  syncReceive : ∀ memory : SharedMemory, view memory.syncReceive.2 = view memory
  sendReply : ∀ (memory : SharedMemory) reply, view (memory.sendReply reply).2 = view memory
  notify : ∀ (memory : SharedMemory) code first second,
    view (memory.notify .host code first second) = view memory
  log : ∀ (memory : SharedMemory) level text, view (memory.log level text) = view memory

namespace SyncService

variable {α : Type} {view : SharedMemory → α}

theorem view_trigger (h : SharedMemory.HidesSync view) (service : SyncService)
    (memory : SharedMemory) : view (service.trigger memory).2.2 = view memory := by
  simp only [trigger]
  split
  · exact h.raiseSyncTrigger memory
  · exact h.log _ _ _
  · rfl

theorem view_answer (h : SharedMemory.HidesSync view) (service : SyncService)
    (memory : SharedMemory) (counter : UInt32) (time : UInt64) :
    view (service.answer memory counter time).2.2 = view memory := by
  have hnoted : ∀ (lines : List LogLine) (memory : SharedMemory),
      view (lines.foldl (fun memory line => memory.log line.level line.text) memory) =
        view memory := by
    intro lines
    induction lines with
    | nil => exact fun _ => rfl
    | cons line lines ih => exact fun memory => (ih _).trans (h.log _ _ _)
  have hdelivered : ∀ (memory : SharedMemory) reply,
      view (deliver memory reply) = view memory := by
    intro memory reply
    have hsent := h.sendReply memory reply
    rw [deliver]
    split <;> rename_i heq <;> rw [heq] at hsent
    · exact hsent
    · exact (h.log _ _ _).trans hsent
  have hreported : ∀ (memory : SharedMemory) spacing,
      view (reportSpacing memory spacing counter) = view memory := by
    intro memory spacing
    cases spacing with
    | regular => rfl
    | irregular delta => exact (h.notify _ _ _ _).trans (h.log _ _ _)
    | restarted delta => exact h.notify _ _ _ _
  exact (h.log _ _ _).trans ((hreported _ _).trans ((hdelivered _ _).trans (hnoted _ _)))

/-- An answered request shows where the service consumes it, sends the reply and reports. -/
theorem view_serve (h : SharedMemory.HidesSync view) (service : SyncService)
    (memory : SharedMemory) : view (service.serve memory).2.2 = view memory := by
  have hreceived := h.syncReceive memory
  rw [serve]
  split <;> rename_i heq <;> rw [heq] at hreceived
  · exact hreceived
  · split
    · split
      · exact (view_answer h service _ _ _).trans hreceived
      · exact (h.notify _ _ _ _).trans hreceived
    · exact (h.notify _ _ _ _).trans hreceived

end SyncService

end HarvestTestbed
