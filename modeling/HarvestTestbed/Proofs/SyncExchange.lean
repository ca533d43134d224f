import HarvestTestbed.Proofs.ActorFrames
import HarvestTestbed.Proofs.SyncBench
import HarvestTestbed.Proofs.Triggering

/-!
# Requests and replies

Along a session without a reset at most one message of the sync exchange is on its way.  A request
that waits was sent by a client that still waits for the reply, and a reply that waits answers the
last request.  The boundary named by the reply that the loop is going to apply is therefore the last
one that the controller has announced.
-/

namespace HarvestTestbed

namespace SharedMemory

def syncSlots (memory : SharedMemory) : Slot 2 × Slot 5 :=
  (memory.arena.pru1ToHost, memory.arena.hostToPru1)

def waitingReply? (memory : SharedMemory) : Option SyncReply :=
  Channel.waitingReply? .host memory.arena.hostToPru1

theorem syncSlots_notify (memory : SharedMemory) (origin : Origin) (code : StatusCode)
    (first second : UInt32) :
    (memory.notify origin code first second).syncSlots = memory.syncSlots := by
  cases origin <;> rfl

theorem arena_logs (memory : SharedMemory) (lines : List LogLine) :
    (lines.foldl (fun memory line => memory.log line.level line.text) memory).arena =
      memory.arena := by
  induction lines generalizing memory with
  | nil => rfl
  | cons line lines ih => exact (ih _).trans rfl

/-- The split of a new arena leaves the session idle and nothing on its way. -/
theorem split_quiet (pool : BufferPool) :
    let memory := ({ pool := pool } : SharedMemory).split.2
    memory.state = .idle ∧ memory.arena.syncTrigger.isRaised = false ∧
      memory.syncSlots = ({}, {}) ∧ memory.arena.pru1Status = {} := by
  have hcanary : checkCanary canaryWord = .ok () := rfl
  simp only [split, hcanary]
  cases pool.attach <;> exact ⟨rfl, rfl, rfl, rfl⟩

/-- A receive answers the reply that waits and leaves none behind. -/
theorem receiveReply_eq (memory : SharedMemory) :
    memory.receiveReply = (memory.waitingReply?, memory.receiveReply.2) ∧
      memory.receiveReply.2.replyPending = false :=
  ⟨Prod.ext (Channel.answer_receiveReply .pru1 .host memory.arena.hostToPru1
      memory.arena.pru1Status) rfl,
    Channel.isUnread_receiveReply .pru1 .host memory.arena.hostToPru1 memory.arena.pru1Status⟩

theorem timingPending_syncReceive (memory : SharedMemory) :
    memory.syncReceive.2.timingPending = false :=
  Channel.isUnread_receive .host .pru1 memory.arena.pru1ToHost memory.arena.hostStatus

end SharedMemory

namespace SyncService

/-- The status slot of the host after it has judged the distance between two requests. -/
def judged (status : StatusSlot) (counter : UInt32) : Spacing → StatusSlot
  | .regular => status
  | .irregular delta => (status.report .host .doubtfulTimestamp (clampWord32 delta) counter).2
  | .restarted delta => (status.report .host .doubtfulTimestamp (clampWord32 delta) counter).2

/-- At most a doubtful timestamp is reported. -/
theorem judged_cases (status : StatusSlot) (counter : UInt32) (spacing : Spacing) :
    judged status counter spacing = status ∨ ∃ delta,
      judged status counter spacing = (status.report .host .doubtfulTimestamp delta counter).2 := by
  cases spacing with
  | regular => exact .inl rfl
  | irregular delta => exact .inr ⟨_, rfl⟩
  | restarted delta => exact .inr ⟨_, rfl⟩

theorem arena_reportSpacing (memory : SharedMemory) (spacing : Spacing) (counter : UInt32) :
    (reportSpacing memory spacing counter).arena =
      { memory.arena with hostStatus := judged memory.arena.hostStatus counter spacing } := by
  cases spacing <;> rfl

theorem arena_deliver {memory : SharedMemory} (hfree : memory.replyPending = false)
    (reply : SyncReply) :
    (deliver memory reply).arena =
      { memory.arena with
        hostToPru1 := Channel.replied .host memory.arena.hostToPru1 reply } := by
  have hread : memory.arena.hostToPru1.isUnread = false := hfree
  simp only [deliver, SharedMemory.sendReply, Channel.sendReply_of_read hread]

/-- An answer puts the reply into its slot; besides it at most reports a doubtful timestamp. -/
theorem arena_answer (service : SyncService) {memory : SharedMemory}
    (hfree : memory.replyPending = false) (counter : UInt32) (time : UInt64) :
    let outcome := (service.controller.handleRequest counter time).1
    (service.answer memory counter time).2.2.arena =
      { memory.arena with
        hostToPru1 := Channel.replied .host memory.arena.hostToPru1 outcome.reply
        hostStatus := judged memory.arena.hostStatus counter outcome.spacing } := by
  intro outcome
  have hnoted := memory.arena_logs outcome.notices
  have hread : (outcome.notices.foldl (fun memory line => memory.log line.level line.text)
      memory).replyPending = false := by
    rw [SharedMemory.replyPending, hnoted]
    exact hfree
  have hdelivered := arena_deliver hread outcome.reply
  refine (arena_reportSpacing _ outcome.spacing counter).trans ?_
  rw [hdelivered, hnoted]

end SyncService

/-- What waits in the slots and what the loop keeps, as the state of its client and the boundary of
the controller explain it. -/
structure Exchange (memory : SharedMemory) (client : ClientState) (kept : Option SyncReply)
    (boundary : UInt64) : Prop where
  requested : memory.timingPending = true →
    client = .replyPending ∧ memory.replyPending = false
  replied : memory.replyPending = true →
    client = .replyPending ∧
      ∃ reply, memory.waitingReply? = some reply ∧ reply.nextTimestamp = boundary
  kept : memory.replyPending = false → ∀ reply, kept = some reply →
    reply.nextTimestamp = boundary

namespace Exchange

variable {memory after : SharedMemory} {client : ClientState} {kept : Option SyncReply}
variable {boundary : UInt64}

theorem of_slots (h : Exchange memory client kept boundary)
    (hslots : after.syncSlots = memory.syncSlots) : Exchange after client kept boundary := by
  obtain ⟨hrequest, hreply⟩ := Prod.mk.inj hslots
  have hpending : after.timingPending = memory.timingPending := congrArg Slot.isUnread hrequest
  have hreplied : after.replyPending = memory.replyPending := congrArg Slot.isUnread hreply
  have hwaiting : after.waitingReply? = memory.waitingReply? :=
    congrArg (Channel.waitingReply? .host) hreply
  exact
    { requested := by rw [hpending, hreplied]; exact h.requested
      replied := by rw [hreplied, hwaiting]; exact h.replied
      kept := by rw [hreplied]; exact h.kept }

/-- A client that waits for nothing finds both slots empty. -/
theorem of_idle (h : Exchange memory .idle kept boundary) :
    memory.timingPending = false ∧ memory.replyPending = false := by
  constructor
  · by_contra hpending
    cases (h.requested (Bool.eq_true_of_not_eq_false hpending)).1
  · by_contra hpending
    cases (h.replied (Bool.eq_true_of_not_eq_false hpending)).1

/-- A reply that was applied is kept no longer. -/
theorem forget (h : Exchange memory client kept boundary) :
    Exchange memory client none boundary :=
  { h with kept := fun _ _ => nofun }

/-! ## The timing core -/

theorem serveTrigger {T : Type} [Timer T] {loop : TimingLoop T}
    (h : Exchange memory loop.client.state loop.nextReply boundary) :
    Exchange (loop.serveTrigger memory).2.2 (loop.serveTrigger memory).2.1.client.state
      (loop.serveTrigger memory).2.1.nextReply boundary := by
  have htaken : Exchange memory.takeSyncTrigger.2 loop.client.state loop.nextReply boundary :=
    h.of_slots rfl
  rw [TimingLoop.serveTrigger]
  split <;> rename_i taken heq <;> rw [heq] at htaken
  · exact htaken
  · cases hclient : loop.client.state with
    | replyPending =>
        have htrigger : loop.client.onTrigger (Timer.counter loop.timer) taken =
            (.violation, loop.client, taken) := by
          simp only [SyncClient.onTrigger, hclient]
        simp only [htrigger, hclient]
        rw [hclient] at htaken
        exact htaken.of_slots (SharedMemory.syncSlots_notify _ _ _ _ _)
    | idle =>
        rw [hclient] at htaken
        obtain ⟨hrequest, hreply⟩ := htaken.of_idle
        have hread : taken.arena.pru1ToHost.isUnread = false := hrequest
        simp only [SyncClient.onTrigger, hclient, SharedMemory.timingSend,
          Channel.send_of_read hread, if_true]
        exact
          { requested := fun _ => ⟨rfl, hreply⟩
            replied := fun hpending => absurd (hreply.symm.trans hpending) Bool.false_ne_true
            kept := htaken.kept }

theorem serveReply {T : Type} {loop : TimingLoop T}
    (h : Exchange memory loop.client.state loop.nextReply boundary) :
    Exchange (loop.serveReply memory).2 (loop.serveReply memory).1.client.state
        (loop.serveReply memory).1.nextReply boundary ∧
      (loop.serveReply memory).2.replyPending = false := by
  obtain ⟨heq, hread⟩ := memory.receiveReply_eq
  have hrequest : memory.receiveReply.2.timingPending = memory.timingPending := rfl
  cases hpending : memory.replyPending with
  | false =>
      have hnone : memory.waitingReply? = none := Channel.waitingReply?_of_read hpending
      rw [TimingLoop.serveReply, heq, hnone]
      refine ⟨?_, hread⟩
      exact
        { requested := fun hwaits => ⟨(h.requested (hrequest ▸ hwaits)).1, hread⟩
          replied := fun hwaits => absurd (hread.symm.trans hwaits) Bool.false_ne_true
          kept := fun _ => h.kept hpending }
  | true =>
      obtain ⟨hclient, reply, hwaiting, hboundary⟩ := h.replied hpending
      have hreplied : loop.client.onReply reply =
          (some reply, { loop.client with state := .idle }) := by
        simp only [SyncClient.onReply, hclient]
      rw [TimingLoop.serveReply, heq, hwaiting]
      simp only [hreplied]
      refine ⟨?_, hread⟩
      exact
        { requested := fun hwaits => by
            have hfree := (h.requested (hrequest ▸ hwaits)).2
            rw [hpending] at hfree
            cases hfree
          replied := fun hwaits => absurd (hread.symm.trans hwaits) Bool.false_ne_true
          kept := fun _ other hother => by
            obtain rfl := Option.some.inj hother
            exact hboundary }

/-! ## The host -/

/-- A request that is taken was sent by a client that waits. -/
theorem of_syncReceive (h : Exchange memory client kept boundary) {message : Message}
    (hreceived : memory.syncReceive.1 = some message) :
    client = .replyPending ∧ memory.replyPending = false := by
  refine h.requested ?_
  by_contra hread
  rw [SharedMemory.syncReceive, Channel.answer_receive,
    Channel.waiting?_of_read (Bool.eq_false_iff.mpr hread)] at hreceived
  cases hreceived

/-- Once the request was taken, only the reply matters. -/
theorem received (h : Exchange memory client kept boundary) :
    Exchange memory.syncReceive.2 client kept boundary :=
  { requested := fun hwaits =>
      absurd (memory.timingPending_syncReceive.symm.trans hwaits) Bool.false_ne_true
    replied := h.replied
    kept := h.kept }

/-- The reply to a request names the boundary that the controller has just announced. -/
theorem serve {service : SyncService}
    (h : Exchange memory client kept service.controller.boundary) :
    Exchange (service.serve memory).2.2 client kept
      (service.serve memory).2.1.controller.boundary := by
  have hreceived := h.received
  have hrequest : ∀ message, memory.syncReceive.1 = some message → client = .replyPending ∧
      memory.syncReceive.2.replyPending = false := fun message => h.of_syncReceive
  have hread := memory.timingPending_syncReceive
  rw [SyncService.serve]
  split <;> rename_i heq <;> rw [heq] at hreceived hrequest hread
  · exact hreceived
  · rename_i message taken
    split
    · split
      · rename_i time htime
        obtain ⟨hclient, hfree⟩ := hrequest message rfl
        have harena := service.arena_answer hfree message.first time
        simp only at harena
        exact
          { requested := fun hwaits => by
              rw [SharedMemory.timingPending, harena] at hwaits
              exact absurd (hread.symm.trans hwaits) Bool.false_ne_true
            replied := fun _ => ⟨hclient, _, by
              rw [SharedMemory.waitingReply?, harena]
              exact Channel.waitingReply?_replied .host _ _, rfl⟩
            kept := fun hwaits => by
              rw [SharedMemory.replyPending, harena] at hwaits
              cases hwaits }
      · exact hreceived.of_slots (SharedMemory.syncSlots_notify _ _ _ _ _)
    · exact hreceived.of_slots (SharedMemory.syncSlots_notify _ _ _ _ _)

end Exchange

namespace SyncController

/-- A request anchors the controller, and the controller keeps its configuration. -/
theorem anchored_handleRequest (controller : SyncController) (counter : UInt32) (time : UInt64) :
    (controller.handleRequest counter time).2.anchored = true ∧
      (controller.handleRequest counter time).2.cfg = controller.cfg := by
  have hprepared : (controller.prepare time).anchored = true ∧
      (controller.prepare time).cfg = controller.cfg := by
    rw [prepare]
    split <;> simp only <;> split <;> simp_all [reset, start]
  exact hprepared

/-- From one request to the next the announced boundary moves by the interval of the reply, unless
the controller was restarted. -/
theorem boundary_handleRequest {controller : SyncController}
    (hanchored : controller.anchored = true) (counter : UInt32) {time : UInt64}
    (hspacing : ∀ delta, controller.spacing time ≠ .restarted delta) :
    let handled := controller.handleRequest counter time
    handled.2.boundary =
      controller.boundary + handled.1.reply.syncInterval.toUInt64 * controller.cfg.tick := by
  have hprepared : controller.prepare time = { controller with lastRequest := some time } := by
    rw [prepare]
    split
    · rename_i delta hrestarted
      exact absurd hrestarted (hspacing delta)
    · exact if_pos hanchored
  intro handled
  simp only [handled]
  rw [handleRequest, hprepared]
  rfl

end SyncController

namespace TimingLoop

theorem replySlot_serveTrigger {T : Type} [Timer T] (loop : TimingLoop T) (memory : SharedMemory) :
    (loop.serveTrigger memory).2.2.arena.hostToPru1 = memory.arena.hostToPru1 := by
  have htaken : memory.takeSyncTrigger.2.arena.hostToPru1 = memory.arena.hostToPru1 := rfl
  rw [serveTrigger]
  split <;> rename_i taken heq <;> rw [heq] at htaken
  · exact htaken
  · cases hclient : loop.client.state with
    | replyPending =>
        simp only [SyncClient.onTrigger, hclient]
        exact htaken
    | idle =>
        simp only [SyncClient.onTrigger, hclient]
        split <;> rename_i hsent <;> split at hsent <;> cases hsent <;> exact htaken

/-- A reply that the loop keeps was kept before or waited for it. -/
theorem nextReply_serveReply {T : Type} {loop : TimingLoop T} {memory : SharedMemory}
    (hkept : (loop.serveReply memory).1.nextReply ≠ none) :
    loop.nextReply ≠ none ∨ memory.replyPending = true := by
  by_cases hpending : memory.replyPending = true
  · exact .inr hpending
  · left
    have hnone : memory.waitingReply? = none :=
      Channel.waitingReply?_of_read (Bool.eq_false_iff.mpr hpending)
    rwa [serveReply, memory.receiveReply_eq.1, hnone] at hkept

/-- A trigger that violates the protocol changes nothing. -/
theorem serveTrigger_of_violation {T : Type} [Timer T] {loop : TimingLoop T} {memory : SharedMemory}
    (hviolated : (loop.serveTrigger memory).1 = false) :
    (loop.serveTrigger memory).2.1 = loop ∧
      (loop.serveTrigger memory).2.2.syncSlots = memory.syncSlots := by
  have htaken : memory.takeSyncTrigger.2.syncSlots = memory.syncSlots := rfl
  rw [serveTrigger] at hviolated ⊢
  split at hviolated <;> rename_i taken heq <;> rw [heq] at htaken
  · cases hviolated
  · cases hclient : loop.client.state with
    | replyPending =>
        have htrigger : loop.client.onTrigger (Timer.counter loop.timer) taken =
            (.violation, loop.client, taken) := by
          simp only [SyncClient.onTrigger, hclient]
        simp only [htrigger]
        exact ⟨trivial, (SharedMemory.syncSlots_notify _ _ _ _ _).trans htaken⟩
    | idle =>
        simp only [SyncClient.onTrigger, hclient] at hviolated
        split at hviolated
        · cases hviolated
        · cases hviolated
        · rename_i hsent
          split at hsent <;> cases hsent

end TimingLoop

/-- Raising the trigger concerns neither the slots nor the controller. -/
theorem SyncService.trigger_frame (service : SyncService) (memory : SharedMemory) :
    (service.trigger memory).2.1.controller = service.controller ∧
      (service.trigger memory).2.2.syncSlots = memory.syncSlots ∧
      (service.trigger memory).2.2.state = memory.state := by
  rw [trigger]
  simp only
  split <;> exact ⟨rfl, rfl, rfl⟩

theorem SharedMemory.hidesSync_ledger : HidesSync SharedMemory.ledger where
  raiseSyncTrigger _ := rfl
  syncReceive := ledger_syncReceive
  sendReply := ledger_sendReply
  notify _ _ _ _ := rfl
  log _ _ _ := rfl

/-- The service moves no buffer and leaves the control words alone. -/
theorem SyncService.ledger_serve (service : SyncService) (memory : SharedMemory) :
    (service.serve memory).2.2.ledger = memory.ledger :=
  service.view_serve SharedMemory.hidesSync_ledger memory

/-- The service answers a request out of its controller, or leaves the controller and the reply slot
alone. -/
theorem SyncService.serve_cases (service : SyncService) (memory : SharedMemory) :
    (∃ counter time,
        let handled := service.controller.handleRequest counter time
        (service.serve memory).1 = some handled.1 ∧
          (service.serve memory).2.1.controller = handled.2) ∨
      (service.serve memory).1 = none ∧
        (service.serve memory).2.1.controller = service.controller ∧
        (service.serve memory).2.2.arena.hostToPru1 = memory.arena.hostToPru1 := by
  have hreceived : memory.syncReceive.2.arena.hostToPru1 = memory.arena.hostToPru1 := rfl
  rw [serve]
  split <;> rename_i heq <;> rw [heq] at hreceived
  · exact .inr ⟨rfl, rfl, hreceived⟩
  · rename_i message _
    split
    · split
      · rename_i time _
        exact .inl ⟨message.first, time, rfl, rfl⟩
      · exact .inr ⟨rfl, rfl, hreceived⟩
    · exact .inr ⟨rfl, rfl, hreceived⟩

end HarvestTestbed
