import HarvestTestbed.Proofs.ActorFrames
import HarvestTestbed.Proofs.HostedBench
import HarvestTestbed.Proofs.ResetHandshake
import HarvestTestbed.Proofs.StatusHistory
import HarvestTestbed.Proofs.SyncRounds

/-!
# Violations reach the session

A status slot drops an event that equals the one that lies in it.  Between two violations of the
timing core the session is reset, and a reset that is finished empties the slot.  As long as the
session then lives, the core has nothing to report but the next violation, so that the slot holds
none of its events until then: the violation is published, and it waits for the pump, which stops
the session.
-/

namespace HarvestTestbed

namespace StatusSlot

/-- No event of an actor lies in the slot, and none waits. -/
structure Blank (status : StatusSlot) (origin : Origin) : Prop where
  tag : status.slot.tag ≠ origin.toByte
  delivered : status.delivered = status.seq

variable {status : StatusSlot} {origin : Origin}

/-- An emptied slot is blank for every actor. -/
theorem blank_clear (status : StatusSlot) (origin : Origin) : status.clear.Blank origin where
  tag := by cases origin <;> exact nofun
  delivered := rfl

/-- A blank slot takes any event. -/
theorem Blank.report (h : status.Blank origin) (code : StatusCode) (first second : UInt32) :
    status.report origin code first second = (true, status.overwrite origin code first second) := by
  have htag : (status.slot.tag == origin.toByte) = false := beq_eq_false_iff_ne.mpr h.tag
  simp only [StatusSlot.report, holds, htag, Bool.false_and]
  rfl

theorem Blank.isPending_overwrite (h : status.Blank origin) (hsettled : status.Settled)
    (code : StatusCode) (first second : UInt32) :
    (status.overwrite origin code first second).isPending = true := by
  have hmoved : status.seq + 2 ≠ status.delivered := by
    rw [h.delivered]
    intro hsame
    have hnat := congrArg UInt32.toNat hsame
    have hlt := status.seq.toNat_lt
    simp only [UInt32.toNat_add, UInt32.reduceToNat] at hnat
    omega
  have heven : (status.seq + 2) % 2 = 0 := settled_overwrite hsettled origin code first second
  simp only [isPending, overwrite, heven, beq_self_eq_true, Bool.true_and, bne_iff_ne]
  exact hmoved

theorem Blank.poll (h : status.Blank origin) (expected : Origin) :
    (status.poll expected).2.Blank origin := by
  rw [StatusSlot.poll]
  split
  · exact ⟨h.tag, rfl⟩
  · exact h

theorem poll_of_isPending {status : StatusSlot} (hpending : status.isPending = true)
    (expected : Origin) : (status.poll expected).1 = some (status.event expected) := by
  rw [StatusSlot.poll, if_pos hpending]

theorem isPending_poll (status : StatusSlot) (expected : Origin) :
    (status.poll expected).2.isPending = false := by
  rw [StatusSlot.poll]
  split
  · simp [isPending]
  · rename_i hread
    exact Bool.eq_false_iff.mpr hread

end StatusSlot

/-- A session that is neither being reset nor stopped. -/
def SessionState.live : SessionState → Bool
  | .idle | .armed | .running => true
  | .reset | .fault => false

namespace ExchangeView

/-- In a live session the exchange is in order, and a loop that still has to leave its reset state
finds the slots empty.  Until the loop stops, its status slot is blank. -/
structure Watched (view : ExchangeView) (own : LoopState) (session : SessionState) : Prop where
  order : session.live = true → view.InOrder
  emptied : session.live = true → own = .reset →
    view.request.isUnread = false ∧ view.reply.isUnread = false
  settled : view.status.Settled
  blank : session.live = true → own ≠ .fault → view.status.Blank .pru1

variable {view after : ExchangeView} {own next : LoopState} {session : SessionState}
variable {counter : UInt32}

theorem InOrder.of_read (hrequest : view.request.isUnread = false)
    (hreply : view.reply.isUnread = false) : view.InOrder where
  request hunread := absurd (hrequest.symm.trans hunread) Bool.false_ne_true
  reply hunread := absurd (hreply.symm.trans hunread) Bool.false_ne_true

theorem follow_of_live (hlive : session.live = true) :
    Handshake.follow session ≠ .reset ∧ Handshake.follow session ≠ .fault := by
  cases session <;> simp_all [SessionState.live, Handshake.follow]

theorem Watched.works (h : view.Watched .running .running)
    (hworks : view.Works counter next after) : after.Watched next .running where
  order _ := (h.order rfl).works hworks
  emptied _ hnext := by
    cases hworks <;> cases hnext
  settled := by
    cases hworks with
    | violates => exact StatusSlot.settled_report h.settled _ _ _ _
    | requests | collects | rests => exact h.settled
  blank _ hnext := by
    cases hworks with
    | violates => exact absurd rfl hnext
    | requests | collects | rests => exact h.blank rfl (by decide)

/-- What a step in a session that does not live makes of the status slot is all that matters. -/
theorem Watched.of_not_live (hlive : session.live = false) (hsettled : view.status.Settled) :
    view.Watched own session where
  order hlive' := absurd (hlive.symm.trans hlive') Bool.false_ne_true
  emptied hlive' := absurd (hlive.symm.trans hlive') Bool.false_ne_true
  settled := hsettled
  blank hlive' := absurd (hlive.symm.trans hlive') Bool.false_ne_true

/-- A step of the timing core keeps watch. -/
theorem Watched.steps (h : view.Watched own session)
    (hsteps : view.Steps counter own session next after) : after.Watched next session := by
  cases hlive : session.live with
  | false =>
      refine .of_not_live hlive ?_
      cases hsteps with
      | acknowledges => exact StatusSlot.settled_report h.settled _ _ _ _
      | works => cases hlive
      | clears | awaits | leaves | stands => exact h.settled
  | true =>
      have hsession : session ≠ .reset := by
        rintro rfl
        cases hlive
      obtain ⟨hreset, hfault⟩ := follow_of_live hlive
      cases hsteps with
      | acknowledges => cases hlive
      | clears =>
          obtain ⟨hrequest, hreply⟩ := h.emptied hlive rfl
          rw [if_neg hsession]
          exact
            { order := fun _ => .of_read hrequest hreply
              emptied := nofun
              settled := h.settled
              blank := fun _ _ => h.blank hlive (by decide) }
      | awaits =>
          exact
            { order := fun _ => ⟨(h.order hlive).request, (h.order hlive).reply⟩
              emptied := fun _ hnext => absurd hnext hreset
              settled := h.settled
              blank := fun _ _ => h.blank hlive (by decide) }
      | works hworks => exact h.works hworks
      | leaves =>
          exact
            { order := h.order
              emptied := fun _ hnext => absurd hnext hreset
              settled := h.settled
              blank := fun _ _ => h.blank hlive (by decide) }
      | stands =>
          rw [if_neg hsession]
          exact
            { order := h.order
              emptied := nofun
              settled := h.settled
              blank := fun _ hnext => absurd rfl hnext }

/-- A loop that has stopped does nothing until the session is reset. -/
theorem Steps.of_fault (hsteps : view.Steps counter .fault session next after)
    (hsession : session ≠ .reset) : next = .fault ∧ after = view := by
  cases hsteps with
  | stands => exact ⟨if_neg hsession, rfl⟩

/-- A running loop stops in a running session only with a violation. -/
theorem Steps.status_of_fault (hsteps : view.Steps counter .running .running .fault after) :
    after.status = (view.status.report .pru1 .syncStateViolation counter 0).2 := by
  cases hsteps with
  | works hworks =>
      cases hworks with
      | violates => rfl

/-- Nothing but the messages, the client and the status slot matters. -/
theorem Watched.moved (h : view.Watched own session) {session' : SessionState}
    (hlive : session'.live = true → session.live = true) (hclient : after.client = view.client)
    (hrequest : after.request = view.request) (hreply : after.reply = view.reply)
    (hstatus : after.status = view.status ∨ after.status = (view.status.poll .pru1).2) :
    after.Watched own session' where
  order hlive' := by
    have horder := h.order (hlive hlive')
    constructor
    · rw [hclient, hrequest, hreply]
      exact horder.request
    · rw [hclient, hreply]
      exact horder.reply
  emptied hlive' hloop := by
    rw [hrequest, hreply]
    exact h.emptied (hlive hlive') hloop
  settled := by
    obtain hsame | hpolled := hstatus
    · rw [hsame]
      exact h.settled
    · rw [hpolled]
      exact StatusSlot.settled_poll h.settled .pru1
  blank hlive' hloop := by
    have hblank := h.blank (hlive hlive') hloop
    obtain hsame | hpolled := hstatus
    · rw [hsame]
      exact hblank
    · rw [hpolled]
      exact hblank.poll .pru1

/-- A reset that was finished leaves everything empty. -/
theorem Watched.of_cleared (hrequest : view.request.isUnread = false)
    (hreply : view.reply.isUnread = false) (hsettled : view.status.Settled)
    (hblank : view.status.Blank .pru1) : view.Watched own session where
  order _ := .of_read hrequest hreply
  emptied _ _ := ⟨hrequest, hreply⟩
  settled := hsettled
  blank _ _ := hblank

end ExchangeView

/-! ## The mail of the timing core -/

namespace SharedMemory

/-- The slots of the sync exchange with the status slot of the timing core. -/
def timingMail (memory : SharedMemory) : (Slot 2 × Slot 5) × StatusSlot :=
  (memory.syncSlots, memory.arena.pru1Status)

theorem hidesPublished_timingMail : HidesPublished timingMail where
  log _ _ _ := rfl
  sessionState _ _ := rfl
  mode _ _ := rfl

theorem hidesSampling_timingMail : HidesSampling timingMail where
  acquire memory := by
    simp only [acquire]
    split
    · rfl
    · split <;> rfl
  put _ _ _ _ := rfl
  release memory handle summary := by
    simp only [release]
    split
    · rfl
    · split <;> rfl
  dropHandle _ _ := rfl
  swapEdges _ _ := rfl
  takeSwapTrigger _ := rfl
  takeSampleTrigger _ := rfl
  samplingSend _ _ _ _ := rfl
  samplingReceive _ := rfl
  notify _ _ _ _ := rfl
  samplingAcknowledge _ := rfl
  log _ _ _ := rfl

theorem hidesPump_timingMail : HidesPump timingMail where
  setState := hidesPublished_timingMail.setState
  pumpReceive _ := rfl
  claim memory index := by
    rw [claim]
    split <;> rfl
  recycle memory handle := by
    simp only [recycle]
    split <;> rfl
  notify _ _ _ _ := rfl
  log _ _ _ := rfl

theorem timingMail_afterReset (memory : SharedMemory) (pool : BufferPool) :
    (memory.afterReset pool).timingMail =
      ((memory.arena.pru1ToHost.clear, memory.arena.hostToPru1.clear),
        memory.arena.pru1Status.clear) := by
  rw [afterReset, hidesPublished_timingMail.setState]
  rfl

theorem hidesSync_timingStatus : HidesSync fun memory => memory.arena.pru1Status where
  raiseSyncTrigger _ := rfl
  syncReceive _ := rfl
  sendReply _ _ := rfl
  notify _ _ _ _ := rfl
  log _ _ _ := rfl

end SharedMemory

namespace ExchangeView

variable {T : Type} {loop : TimingLoop T} {memory : SharedMemory}
variable {own : LoopState} {session : SessionState}

theorem Watched.of_mail (h : (loop.exchange memory).Watched own session) {after : SharedMemory}
    {session' : SessionState} (hlive : session'.live = true → session.live = true)
    (hmail : after.timingMail = memory.timingMail) :
    (loop.exchange after).Watched own session' := by
  obtain ⟨hslots, hstatus⟩ := Prod.mk.inj hmail
  obtain ⟨hrequest, hreply⟩ := Prod.mk.inj hslots
  exact h.moved hlive rfl hrequest hreply (.inl hstatus)

/-- Whatever the service makes of the request, it sends a reply only to a client that waits. -/
theorem InOrder.serve (h : (loop.exchange memory).InOrder) (service : SyncService) :
    (loop.exchange (service.serve memory).2.2).InOrder := by
  cases hunread : memory.timingPending with
  | false =>
      rw [SyncService.serve_of_read hunread]
      exact h
  | true =>
      obtain ⟨hclient, hread, counter, number, hwaits⟩ := h.request hunread
      cases htime : service.triggerTime with
      | none =>
          obtain ⟨hrequest, hreply⟩ := Prod.mk.inj (SyncService.serve_of_untimed hwaits htime)
          refine .of_read (congrArg Slot.isUnread hrequest) ?_
          exact (congrArg Slot.isUnread hreply).trans hread
      | some time =>
          obtain ⟨-, -, harena⟩ := SyncService.serve_of_waiting hwaits hread htime
          rw [TimingLoop.exchange, harena]
          exact
            { request := fun hunread => by cases hunread
              reply := fun _ => ⟨hclient, _, Channel.waitingReply?_replied .host _ _⟩ }

theorem Watched.serve (h : (loop.exchange memory).Watched own session) (service : SyncService) :
    (loop.exchange (service.serve memory).2.2).Watched own session := by
  have hstatus : (service.serve memory).2.2.arena.pru1Status = memory.arena.pru1Status :=
    SyncService.view_serve SharedMemory.hidesSync_timingStatus service memory
  have hsame : (loop.exchange (service.serve memory).2.2).status = (loop.exchange memory).status :=
    hstatus
  exact
    { order := fun hlive => (h.order hlive).serve service
      emptied := fun hlive hloop => by
        obtain ⟨hrequest, hreply⟩ := h.emptied hlive hloop
        rw [SyncService.serve_of_read hrequest]
        exact ⟨hrequest, hreply⟩
      settled := by
        rw [hsame]
        exact h.settled
      blank := by
        rw [hsame]
        exact h.blank }

end ExchangeView

/-- A session that lives after a move did so before, unless it was put back to idle. -/
theorem SessionState.live_of_canMoveTo {current next : SessionState}
    (hopen : current.canMoveTo next = true) (hends : current = .reset → next ≠ .idle)
    (hlive : next.live = true) : current.live = true := by
  cases current <;> cases next <;> simp_all [SessionState.canMoveTo, SessionState.live]

namespace HostedBench

variable {F T : Type} [Frontend F] [Timer T]

/-- Whether an event belongs to a loop, the pump, the sync service, the session or the outside
world; the slots of the exchange are left to the loop and the service. -/
def plays : HostedEvent F T → Bool
  | .bench (.sendReply _) => false
  | .bench .receiveRequest => false
  | _ => true

/-- Whether an event moves the session; so does a service of the pump that finds a violation. -/
def movesSession : HostedEvent F T → Bool
  | .bench (.setState _) | .bench .requestReset | .bench .completeReset | .bench .service => true
  | _ => false

def Transition.completes (transition : Transition F T) : Bool :=
  match transition.event with
  | .bench .completeReset => true
  | _ => false

/-- The session leaves the reset for idle only where a reset is completed. -/
def EndsByCompleting (transitions : List (Transition F T)) : Prop :=
  ∀ transition ∈ transitions, transition.before.memory.state = .reset →
    transition.after.memory.state = .idle → transition.completes = true

instance (transitions : List (Transition F T)) : Decidable (EndsByCompleting transitions) :=
  inferInstanceAs (Decidable (∀ transition ∈ transitions, _ → _ → _))

def view (hosted : HostedBench F T) : ExchangeView :=
  hosted.timing.exchange hosted.memory

def Watched (hosted : HostedBench F T) : Prop :=
  hosted.view.Watched hosted.timing.state hosted.memory.state

variable {hosted : HostedBench F T}

omit [Frontend F] [Timer T] in
theorem Watched.setState (h : hosted.Watched) (next : SessionState)
    (hends : hosted.memory.state = .reset →
      (hosted.memory.setState next).2.state ≠ .idle) :
    (hosted.timing.exchange (hosted.memory.setState next).2).Watched hosted.timing.state
      (hosted.memory.setState next).2.state := by
  refine ExchangeView.Watched.of_mail h (fun hlive => ?_)
    (SharedMemory.hidesPublished_timingMail.setState hosted.memory next)
  rw [SharedMemory.state_setState] at hlive hends
  by_cases hopen : hosted.memory.state.canMoveTo next = true
  · rw [if_pos hopen] at hlive hends
    exact SessionState.live_of_canMoveTo hopen hends hlive
  · rwa [if_neg hopen] at hlive

omit [Frontend F] [Timer T] in
theorem Watched.completeReset (h : hosted.Watched) :
    (hosted.timing.exchange hosted.memory.completeReset.2).Watched hosted.timing.state
      hosted.memory.completeReset.2.state := by
  by_cases hready : hosted.memory.ReadyToComplete
  · obtain ⟨pool, -, hcompleted⟩ := SharedMemory.completeReset_of_ready hready
    obtain ⟨hslots, hstatus⟩ := Prod.mk.inj (hosted.memory.timingMail_afterReset pool)
    obtain ⟨hrequest, hreply⟩ := Prod.mk.inj hslots
    have hcleared : (hosted.timing.exchange (hosted.memory.afterReset pool)).status =
        hosted.memory.arena.pru1Status.clear := hstatus
    rw [hcompleted]
    refine .of_cleared (congrArg Slot.isUnread hrequest) (congrArg Slot.isUnread hreply) ?_ ?_
    · rw [hcleared]
      exact h.settled
    · rw [hcleared]
      exact StatusSlot.blank_clear _ .pru1
  · obtain ⟨fault, hrefused⟩ := SharedMemory.completeReset_of_not_ready hready
    rw [hrefused]
    exact h

theorem Watched.service (h : hosted.Watched) :
    (hosted.step (.bench .service)).Watched := by
  have hmail : (hosted.step (.bench .service)).memory.timingMail =
      hosted.memory.pollStatus.2.timingMail :=
    MessagePump.view_service SharedMemory.hidesPump_timingMail hosted.bench.pump hosted.memory
  obtain ⟨hslots, hstatus⟩ := Prod.mk.inj hmail
  obtain ⟨hrequest, hreply⟩ := Prod.mk.inj hslots
  refine ExchangeView.Watched.moved h (fun hlive => ?_) rfl hrequest hreply (.inr hstatus)
  obtain hkept | hfault := hosted.bench.pump.state_service hosted.memory
  · have hstate : (hosted.step (.bench .service)).memory.state = hosted.memory.state := hkept
    rwa [hstate] at hlive
  · have hstate : (hosted.step (.bench .service)).memory.state = .fault := hfault
    rw [hstate] at hlive
    cases hlive

theorem Watched.step_core (h : hosted.Watched) (core : Core) :
    (hosted.step (.bench (.step core))).Watched := by
  have hstate : (hosted.step (.bench (.step core))).memory.state = hosted.memory.state :=
    hosted.bench.state_step core
  cases core with
  | sampling =>
      exact ExchangeView.Watched.of_mail h (fun hlive => hstate ▸ hlive)
        (SamplingLoop.view_step SharedMemory.hidesSampling_timingMail hosted.bench.sampling
          hosted.memory)
  | timing =>
      have hsteps := hosted.timing.steps_step hosted.memory fun _ hsession =>
        h.order (by rw [hsession]; rfl)
      rw [HostedBench.Watched, hstate]
      exact ExchangeView.Watched.steps h hsteps

/-- Every event keeps watch. -/
theorem Watched.step (h : hosted.Watched) {event : HostedEvent F T} (hplays : plays event = true)
    (hends : hosted.memory.state = .reset → (hosted.step event).memory.state = .idle →
      (Transition.mk hosted event).completes = true) : (hosted.step event).Watched := by
  cases event with
  | bench event =>
      cases event with
      | setState next =>
          exact h.setState next fun hreset hidle => Bool.false_ne_true (hends hreset hidle)
      | requestReset =>
          exact h.setState .reset fun hreset hidle => Bool.false_ne_true (hends hreset hidle)
      | setMode mode =>
          have hstate := hosted.memory.state_setMode mode
          have hmail : (hosted.memory.setMode mode).2.timingMail = hosted.memory.timingMail :=
            SharedMemory.hidesPublished_timingMail.setMode hosted.memory mode
          exact ExchangeView.Watched.of_mail h (fun hlive => hstate ▸ hlive) hmail
      | completeReset => exact h.completeReset
      | step core => exact h.step_core core
      | service => exact h.service
      | sendReply | receiveRequest => cases hplays
      | ping | raiseSyncTrigger => exact ExchangeView.Watched.of_mail h id rfl
      | raiseBufferSwap | raiseSample | frontend | timer | appendTrace => exact h
  | trigger =>
      obtain ⟨-, hslots, hstate⟩ := hosted.service.trigger_frame hosted.memory
      have hstatus : (hosted.service.trigger hosted.memory).2.2.arena.pru1Status =
          hosted.memory.arena.pru1Status :=
        SyncService.view_trigger SharedMemory.hidesSync_timingStatus hosted.service hosted.memory
      exact ExchangeView.Watched.of_mail h (fun hlive => hstate ▸ hlive) (Prod.ext hslots hstatus)
  | serve =>
      have hstate := SharedMemory.state_of_control
        (SharedMemory.control_of_ledger (hosted.service.ledger_serve hosted.memory))
      have hserved := ExchangeView.Watched.serve h hosted.service
      rw [← hstate] at hserved
      exact hserved
  | resetService | setClock => exact h

omit [Frontend F] [Timer T] in
theorem Watched.start (setup : HostedSetup F T) : (start setup).Watched := by
  obtain ⟨-, -, hslots, hstatus⟩ := SharedMemory.split_quiet setup.bench.pool
  have hnew : (HostedBench.start setup).view.status = {} := hstatus
  refine .of_cleared (congrArg (fun slots => slots.1.isUnread) hslots)
    (congrArg (fun slots => slots.2.isUnread) hslots) ?_ ?_
  · rw [hnew]
    rfl
  · rw [hnew]
    exact StatusSlot.blank_clear {} .pru1

theorem Watched.run (h : hosted.Watched) {events : List (HostedEvent F T)}
    (hplays : ∀ event ∈ events, plays event = true)
    (hends : EndsByCompleting (hosted.trace events)) : (hosted.run events).Watched := by
  induction events generalizing hosted with
  | nil => exact h
  | cons event events ih =>
      have hnext := h.step (hplays event List.mem_cons_self)
        (hends ⟨hosted, event⟩ List.mem_cons_self)
      exact ih hnext (fun later hlater => hplays later (List.mem_cons_of_mem _ hlater))
        fun transition hlater => hends transition (List.mem_cons_of_mem _ hlater)

/-! ## A violation on its way -/

/-- The loop has stopped in a running session and left something in its status slot. -/
structure Stopped (hosted : HostedBench F T) (status : StatusSlot) : Prop where
  loop : hosted.timing.state = .fault
  session : hosted.memory.state = .running
  status : hosted.memory.arena.pru1Status = status

variable {status : StatusSlot}

omit [Frontend F] [Timer T] in
theorem Stopped.of_memory (h : hosted.Stopped status) {next : HostedBench F T}
    (hloop : next.timing.state = hosted.timing.state)
    (hsession : next.memory.state = hosted.memory.state)
    (hstatus : next.memory.arena.pru1Status = hosted.memory.arena.pru1Status) :
    next.Stopped status :=
  ⟨hloop.trans h.loop, hsession.trans h.session, hstatus.trans h.status⟩

/-- What was left in the status slot stays there as long as nobody moves the session. -/
theorem Stopped.step (h : hosted.Stopped status) {event : HostedEvent F T}
    (hstays : movesSession event = false) : (hosted.step event).Stopped status := by
  cases event with
  | bench event =>
      cases event with
      | setState | requestReset | completeReset | service => cases hstays
      | setMode mode =>
          refine h.of_memory rfl (hosted.memory.state_setMode mode) ?_
          simp only [HostedBench.step, HostedBench.memory, Bench.step, SharedMemory.setMode]
          split <;> rfl
      | step core =>
          have hstate : (hosted.step (.bench (.step core))).memory.state = hosted.memory.state :=
            hosted.bench.state_step core
          cases core with
          | sampling =>
              exact h.of_memory rfl hstate (congrArg Prod.snd
                (SamplingLoop.view_step SharedMemory.hidesSampling_timingMail hosted.bench.sampling
                  hosted.memory))
          | timing =>
              have hloop := h.loop
              have hsteps := hosted.timing.steps_step hosted.memory fun hrunning => by
                rw [hloop] at hrunning
                cases hrunning
              rw [hloop] at hsteps
              obtain ⟨hnext, hview⟩ := hsteps.of_fault (by rw [h.session]; decide)
              exact h.of_memory (hnext.trans hloop.symm) hstate
                (congrArg ExchangeView.status hview)
      | ping | raiseSyncTrigger | sendReply | receiveRequest | raiseBufferSwap | raiseSample
      | frontend | timer | appendTrace => exact h.of_memory rfl rfl rfl
  | trigger =>
      exact h.of_memory rfl (hosted.service.trigger_frame hosted.memory).2.2
        (SyncService.view_trigger SharedMemory.hidesSync_timingStatus hosted.service
          hosted.memory)
  | serve =>
      exact h.of_memory rfl
        (SharedMemory.state_of_control
          (SharedMemory.control_of_ledger (hosted.service.ledger_serve hosted.memory)))
        (SyncService.view_serve SharedMemory.hidesSync_timingStatus hosted.service hosted.memory)
  | resetService | setClock => exact h.of_memory rfl rfl rfl

theorem Stopped.run (h : hosted.Stopped status) {events : List (HostedEvent F T)}
    (hstays : ∀ event ∈ events, movesSession event = false) :
    (hosted.run events).Stopped status := by
  induction events generalizing hosted with
  | nil => exact h
  | cons event events ih =>
      exact ih (h.step (hstays event List.mem_cons_self))
        fun later hlater => hstays later (List.mem_cons_of_mem _ hlater)

/-- A service takes what waits in the status slot. -/
theorem Stopped.service (h : hosted.Stopped status) (hpending : status.isPending = true) :
    status.event .pru1 ∈ hosted.memory.pollStatus.1 ∧
      (hosted.step (.bench .service)).memory.arena.pru1Status.isPending = false := by
  constructor
  · have hpolled := StatusSlot.poll_of_isPending hpending .pru1
    simp only [SharedMemory.pollStatus, h.status, hpolled, List.mem_filterMap, List.mem_cons]
    exact ⟨_, .inr (.inr (.inl rfl)), rfl⟩
  · have hmail : (hosted.step (.bench .service)).memory.timingMail =
        hosted.memory.pollStatus.2.timingMail :=
      MessagePump.view_service SharedMemory.hidesPump_timingMail hosted.bench.pump hosted.memory
    rw [(Prod.mk.inj hmail).2]
    exact hosted.memory.arena.pru1Status.isPending_poll .pru1

/-- A loop that stops in a running session has reported the violation. -/
theorem Watched.stopped (h : hosted.Watched) (hloop : hosted.timing.state = .running)
    (hsession : hosted.memory.state = .running)
    (hfault : (hosted.step (.bench (.step .timing))).timing.state = .fault) :
    (hosted.step (.bench (.step .timing))).Stopped
      (hosted.memory.arena.pru1Status.report .pru1 .syncStateViolation
        (Timer.counter hosted.timing.timer) 0).2 := by
  have hsteps := hosted.timing.steps_step hosted.memory fun _ _ =>
    h.order (by rw [hsession]; rfl)
  have hnext : (hosted.timing.step hosted.memory).1.state = .fault := hfault
  rw [hloop, hsession, hnext] at hsteps
  exact ⟨hfault, (hosted.bench.state_step .timing).trans hsession, hsteps.status_of_fault⟩

/-- What becomes of a violation that the timing core finds at its next step. -/
structure ReachesSession (hosted : HostedBench F T) : Prop where
  /-- No equal event lies in the status slot. -/
  published : (hosted.memory.arena.pru1Status.report .pru1 .syncStateViolation
    (Timer.counter hosted.timing.timer) 0).1 = true
  /-- It waits there after the step. -/
  waits : (hosted.step (.bench (.step .timing))).memory.arena.pru1Status.isPending = true ∧
    (hosted.step (.bench (.step .timing))).memory.arena.pru1Status.event .pru1 =
      ⟨.pru1, .syncStateViolation, Timer.counter hosted.timing.timer, 0⟩
  /-- The next service takes it and stops the session. -/
  taken : ∀ between : List (HostedEvent F T), (∀ event ∈ between, movesSession event = false) →
    let waiting := (hosted.step (.bench (.step .timing))).run between
    ⟨.pru1, .syncStateViolation, Timer.counter hosted.timing.timer, 0⟩ ∈
        waiting.memory.pollStatus.1 ∧
      (waiting.step (.bench .service)).memory.state = .fault ∧
      (waiting.step (.bench .service)).memory.arena.pru1Status.isPending = false

/-- Wherever a running session leaves its resets by completing them, a violation that stops the
timing core is published and reaches the session with the next service of the pump. -/
theorem reachesSession_of_fault (setup : HostedSetup F T) {events : List (HostedEvent F T)}
    (hplays : ∀ event ∈ events, plays event = true)
    (hends : EndsByCompleting ((start setup).trace events))
    (hloop : ((start setup).run events).timing.state = .running)
    (hsession : ((start setup).run events).memory.state = .running)
    (hfault : (((start setup).run events).step (.bench (.step .timing))).timing.state = .fault) :
    ReachesSession ((start setup).run events) := by
  have hwatched := (Watched.start setup).run hplays hends
  generalize (start setup).run events = hosted at hwatched hloop hsession hfault ⊢
  have hblank : hosted.memory.arena.pru1Status.Blank .pru1 :=
    hwatched.blank (by rw [hsession]; rfl) (by rw [hloop]; decide)
  have hsettled : hosted.memory.arena.pru1Status.Settled := hwatched.settled
  have hreport := hblank.report .syncStateViolation (Timer.counter hosted.timing.timer) 0
  have hpending := hblank.isPending_overwrite hsettled .syncStateViolation
    (Timer.counter hosted.timing.timer) 0
  have hevent := hosted.memory.arena.pru1Status.event_overwrite .pru1 .syncStateViolation
    (Timer.counter hosted.timing.timer) 0
  have hstopped := hwatched.stopped hloop hsession hfault
  rw [hreport] at hstopped
  constructor
  case published => rw [hreport]
  case waits =>
    rw [hstopped.status]
    exact ⟨hpending, hevent⟩
  case taken =>
    intro between hstays waiting
    obtain ⟨hmem, hread⟩ := (hstopped.run hstays).service hpending
    rw [hevent] at hmem
    exact ⟨hmem, MessagePump.state_service_of_violation _ hmem rfl, hread⟩

/-- A session that is stopped, reset and started again, with equal violations in both runs. -/
theorem reachesSession_of_fault_twice :
    let setup : HostedSetup SimulatedFrontend SimulatedTimer :=
      { bench := { BenchSetup.simulated 2 4 with cfg := SyncBench.shortPeriod.cfg }
        service := SyncBench.shortPeriod.service }
    let violate : List (HostedEvent SimulatedFrontend SimulatedTimer) :=
      [.bench (.setState .armed), .bench (.setState .running), .bench (.step .timing),
        .bench (.step .timing), .trigger, .bench (.step .timing), .trigger]
    let again := violate ++ [.bench (.step .timing), .bench .service, .bench .requestReset,
      .bench (.step .sampling), .bench (.step .timing), .bench (.step .timing),
      .bench .completeReset, .resetService] ++ violate
    ReachesSession ((start setup).run violate) ∧ ReachesSession ((start setup).run again) ∧
      Timer.counter ((start setup).run violate).timing.timer =
        Timer.counter ((start setup).run again).timing.timer :=
  ⟨reachesSession_of_fault _ (by decide +kernel) (by decide +kernel) (by decide +kernel)
      (by decide +kernel) (by decide +kernel),
    reachesSession_of_fault _ (by decide +kernel) (by decide +kernel) (by decide +kernel)
      (by decide +kernel) (by decide +kernel),
    by decide +kernel⟩

end HostedBench

end HarvestTestbed
