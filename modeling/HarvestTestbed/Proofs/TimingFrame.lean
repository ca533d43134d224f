import HarvestTestbed.Proofs.Handshake
import HarvestTestbed.Proofs.Ledger
import HarvestTestbed.Timing.Loop

/-!
# What a step of the timing core leaves alone

The timing core takes no part in moving buffers.  Of the ledger it touches one word, its own reset
acknowledgement, and that only in the reset state.  Its own state and its latch of the
acknowledgement are set at the end of a step and nowhere within.
-/

namespace HarvestTestbed

/-- A view of the memory in which the messages of the timing core do not show. -/
structure SharedMemory.HidesTiming {α : Type} (view : SharedMemory → α) : Prop where
  takeSyncTrigger : ∀ memory : SharedMemory, view memory.takeSyncTrigger.2 = view memory
  timingSend : ∀ (memory : SharedMemory) type first second,
    view (memory.timingSend type first second).2 = view memory
  receiveReply : ∀ memory : SharedMemory, view memory.receiveReply.2 = view memory
  notify : ∀ (memory : SharedMemory) code first second,
    view (memory.notify .pru1 code first second) = view memory

theorem SharedMemory.hidesTiming_ledger : HidesTiming SharedMemory.ledger where
  takeSyncTrigger := ledger_takeSyncTrigger
  timingSend := ledger_timingSend
  receiveReply := ledger_receiveReply
  notify memory := memory.ledger_notify .pru1

section Messages

variable {α : Type} {view : SharedMemory → α}

theorem SyncClient.view_onTrigger (h : SharedMemory.HidesTiming view) (client : SyncClient)
    (counter : UInt32) (memory : SharedMemory) :
    view (client.onTrigger counter memory).2.2 = view memory := by
  simp only [onTrigger]
  split
  · rfl
  · split
    · exact h.timingSend _ _ _ _
    · exact h.timingSend _ _ _ _

theorem TimingLoop.view_serveTrigger {T : Type} [Timer T] (h : SharedMemory.HidesTiming view)
    (loop : TimingLoop T) (memory : SharedMemory) :
    view (loop.serveTrigger memory).2.2 = view memory := by
  have htaken := h.takeSyncTrigger memory
  rw [serveTrigger]
  split <;> rename_i taken heq <;> rw [heq] at htaken
  · exact htaken
  · have htrigger := loop.client.view_onTrigger h (Timer.counter loop.timer) taken
    simp only
    split <;> rename_i heq' <;> rw [heq'] at htrigger
    · exact htrigger.trans htaken
    · exact htrigger.trans htaken
    · exact (h.notify _ _ _ _).trans (htrigger.trans htaken)

theorem TimingLoop.view_serveReply {T : Type} (h : SharedMemory.HidesTiming view)
    (loop : TimingLoop T) (memory : SharedMemory) :
    view (loop.serveReply memory).2 = view memory := by
  have hreceived := h.receiveReply memory
  rw [serveReply]
  split <;> rename_i heq <;> rw [heq] at hreceived
  · exact hreceived
  · split
    · exact hreceived
    · exact (h.notify _ _ _ _).trans hreceived

end Messages

namespace TimingLoop

variable {T : Type} [Timer T]

def phase (loop : TimingLoop T) : LoopState × Bool :=
  (loop.state, loop.resetAcked)

/-! ## The pieces of a step -/

@[simp]
theorem phase_serveTrigger (loop : TimingLoop T) (memory : SharedMemory) :
    (loop.serveTrigger memory).2.1.phase = loop.phase := by
  rw [serveTrigger]
  split
  · rfl
  · simp only
    split <;> rfl

@[simp]
theorem ledger_serveTrigger (loop : TimingLoop T) (memory : SharedMemory) :
    (loop.serveTrigger memory).2.2.ledger = memory.ledger :=
  loop.view_serveTrigger SharedMemory.hidesTiming_ledger memory

omit [Timer T] in
@[simp]
theorem phase_serveReply (loop : TimingLoop T) (memory : SharedMemory) :
    (loop.serveReply memory).1.phase = loop.phase := by
  rw [serveReply]
  split
  · rfl
  · split <;> rfl

omit [Timer T] in
@[simp]
theorem ledger_serveReply (loop : TimingLoop T) (memory : SharedMemory) :
    (loop.serveReply memory).2.ledger = memory.ledger :=
  loop.view_serveReply SharedMemory.hidesTiming_ledger memory

@[simp]
theorem phase_sample (loop : TimingLoop T) (memory : SharedMemory) :
    (loop.sample memory).1.phase = loop.phase := by
  simp only [sample, armNext]
  split <;> rfl

@[simp]
theorem ledger_sample (loop : TimingLoop T) (memory : SharedMemory) :
    (loop.sample memory).2.ledger = memory.ledger :=
  memory.ledger_raiseSample

@[simp]
theorem phase_applyReply (loop : TimingLoop T) : loop.applyReply.phase = loop.phase := by
  rw [applyReply]
  split <;> rfl

@[simp]
theorem phase_beginPeriod (loop : TimingLoop T) (memory : SharedMemory) :
    (loop.beginPeriod memory).1.phase = loop.phase := by
  simp only [beginPeriod, phase_sample]
  exact loop.phase_applyReply

@[simp]
theorem ledger_beginPeriod (loop : TimingLoop T) (memory : SharedMemory) :
    (loop.beginPeriod memory).2.ledger = memory.ledger := by
  simp only [beginPeriod, ledger_sample, SharedMemory.ledger_raiseBufferSwap]

@[simp]
theorem phase_serveTimer (loop : TimingLoop T) (memory : SharedMemory) :
    (loop.serveTimer memory).1.phase = loop.phase := by
  rw [serveTimer]
  split
  · rw [phase_beginPeriod]
    rfl
  · split
    · rw [phase_sample]
      rfl
    · rfl

@[simp]
theorem ledger_serveTimer (loop : TimingLoop T) (memory : SharedMemory) :
    (loop.serveTimer memory).2.ledger = memory.ledger := by
  rw [serveTimer]
  split
  · rw [ledger_beginPeriod]
  · split
    · rw [ledger_sample]
    · rfl

@[simp]
theorem phase_captureEdges (loop : TimingLoop T) (memory : SharedMemory) :
    (loop.captureEdges memory).1.phase = loop.phase := by
  simp only [captureEdges]
  split <;> rfl

@[simp]
theorem ledger_captureEdges (loop : TimingLoop T) (memory : SharedMemory) :
    (loop.captureEdges memory).2.ledger = memory.ledger := by
  simp only [captureEdges]
  split
  · rfl
  · exact memory.ledger_recordEdge _

/-! ## The four states -/

/-- The acknowledgement is given once per stay: the latch is kept until the session
leaves the reset. -/
theorem stepReset_of_reset (loop : TimingLoop T) {memory : SharedMemory}
    (hsession : memory.state = .reset) :
    (loop.stepReset memory).1 = .reset ∧
      (loop.stepReset memory).2.1.phase = (loop.state, true) ∧
      (loop.stepReset memory).2.2 =
        if loop.resetAcked then memory else memory.timingAcknowledge := by
  have heq : loop.stepReset memory = (.reset, loop.clear.acknowledge memory) := by
    rw [stepReset, if_pos hsession]
  have hlatch : loop.clear.resetAcked = loop.resetAcked := rfl
  rw [heq, acknowledge, hlatch]
  cases hacked : loop.resetAcked with
  | false => exact ⟨rfl, rfl, rfl⟩
  | true => exact ⟨rfl, Prod.ext rfl hacked, rfl⟩

/-- The loop leaves its reset state as a new one that keeps its timer. -/
theorem stepReset_of_ne (loop : TimingLoop T) {memory : SharedMemory}
    (hsession : memory.state ≠ .reset) :
    loop.stepReset memory = (.awaitStart, { loop.clear with resetAcked := false }, memory) := by
  rw [stepReset, if_neg hsession]

/-- While it waits the loop follows the session and touches nothing that ownership or
the reset rests on. -/
theorem stepAwaitStart_cases (loop : TimingLoop T) (memory : SharedMemory) :
    (loop.stepAwaitStart memory).1 = Handshake.follow memory.state ∧
      (loop.stepAwaitStart memory).2.1.phase = loop.phase ∧
      (loop.stepAwaitStart memory).2.2.ledger = memory.ledger := by
  have hledger := memory.ledger_takeSyncTrigger
  have hstate : memory.takeSyncTrigger.2.state = memory.state := rfl
  simp only [stepAwaitStart, hstate]
  cases memory.state <;> exact ⟨rfl, rfl, hledger⟩

/-- A running loop keeps running or, after a violation of the protocol, stops. -/
theorem work_cases (loop : TimingLoop T) (memory : SharedMemory) :
    ((loop.work memory).1 = .running ∨ (loop.work memory).1 = .fault) ∧
      (loop.work memory).2.1.phase = loop.phase ∧
      (loop.work memory).2.2.ledger = memory.ledger := by
  have hphase := loop.phase_serveTrigger memory
  have hledger := loop.ledger_serveTrigger memory
  rw [work]
  split <;> rename_i heq <;> rw [heq] at hphase hledger
  · exact ⟨.inr rfl, hphase, hledger⟩
  · refine ⟨.inl rfl, ?_, ?_⟩
    · simp only [phase_captureEdges, phase_serveTimer, phase_serveReply]
      exact hphase
    · simp only [ledger_captureEdges, ledger_serveTimer, ledger_serveReply]
      exact hledger

/-- A running loop follows the session, or it stops at a violation. -/
theorem stepRunning_cases (loop : TimingLoop T) (memory : SharedMemory) :
    ((loop.stepRunning memory).1 = Handshake.follow memory.state ∨
        memory.state = .running ∧ (loop.stepRunning memory).1 = .fault) ∧
      (loop.stepRunning memory).2.1.phase = loop.phase ∧
      (loop.stepRunning memory).2.2.ledger = memory.ledger := by
  rw [stepRunning]
  cases memory.state with
  | running =>
      obtain ⟨hnext, hkept⟩ := loop.work_cases memory
      exact ⟨hnext.imp id fun hfault => ⟨rfl, hfault⟩, hkept⟩
  | idle | armed | reset | fault => exact ⟨.inl rfl, rfl, rfl⟩

/-! ## A whole step -/

def handshake (loop : TimingLoop T) (memory : SharedMemory) : Handshake where
  session := memory.state
  loop := loop.state
  latched := loop.resetAcked
  flag := memory.arena.pru1ResetAck.isRaised

/-- A step sets the state of the loop to the one that its work leads to. -/
theorem step_of_dispatch {loop : TimingLoop T} {memory : SharedMemory}
    {work : LoopState × TimingLoop T × SharedMemory} {latched : Bool}
    (hdispatch : loop.dispatch memory = work) (hphase : work.2.1.phase = (loop.state, latched)) :
    (loop.step memory).1.handshake (loop.step memory).2 =
        ⟨work.2.2.state, work.1, latched, work.2.2.arena.pru1ResetAck.isRaised⟩ ∧
      (loop.step memory).2.ledger = work.2.2.ledger := by
  obtain ⟨hstate, hlatch⟩ := Prod.mk.inj hphase
  simp only [step, hdispatch]
  split
  · rename_i hsame
    simp only [handshake, hstate, hlatch, hsame]
    exact ⟨trivial, trivial⟩
  · simp only [handshake, hlatch]
    exact ⟨rfl, rfl⟩

/-- A loop follows the rules of the handshake, except that a running one may stop.  Its step moves
no buffer, and of the control words it writes its acknowledgement at most. -/
theorem step_cases (loop : TimingLoop T) (memory : SharedMemory) :
    ((loop.step memory).1.handshake (loop.step memory).2 = (loop.handshake memory).stepped ∨
        loop.state = .running ∧ memory.state = .running ∧
          (loop.step memory).1.handshake (loop.step memory).2 =
            { loop.handshake memory with loop := .fault }) ∧
      ((loop.step memory).2.ledger = memory.ledger ∨
        (loop.step memory).2.ledger = memory.timingAcknowledge.ledger) := by
  cases hloop : loop.state with
  | reset =>
      have hdispatch : loop.dispatch memory = loop.stepReset memory := by rw [dispatch, hloop]
      by_cases hsession : memory.state = .reset
      · obtain ⟨hnext, hphase, hmemory⟩ := loop.stepReset_of_reset hsession
        obtain ⟨hview, hledger⟩ := step_of_dispatch hdispatch hphase
        rw [hview, hledger, hnext, hmemory]
        cases hlatch : loop.resetAcked with
        | true =>
            refine ⟨.inl ?_, .inl rfl⟩
            simp [handshake, Handshake.stepped, hloop, hsession, hlatch]
        | false =>
            refine ⟨.inl ?_, .inr rfl⟩
            have hraised : memory.timingAcknowledge.arena.pru1ResetAck.isRaised = true := rfl
            have hkept : memory.timingAcknowledge.state = .reset := hsession
            simp [handshake, Handshake.stepped, hloop, hsession, hlatch, hraised, hkept]
      · rw [loop.stepReset_of_ne hsession] at hdispatch
        obtain ⟨hview, hledger⟩ := step_of_dispatch hdispatch rfl
        refine ⟨.inl ?_, .inl hledger⟩
        rw [hview]
        simp [handshake, Handshake.stepped, hloop, hsession]
  | awaitStart =>
      have hdispatch : loop.dispatch memory = loop.stepAwaitStart memory := by
        rw [dispatch, hloop]
      obtain ⟨hnext, hphase, hkept⟩ := loop.stepAwaitStart_cases memory
      have hcontrol := SharedMemory.control_of_ledger hkept
      have hflag : (loop.stepAwaitStart memory).2.2.arena.pru1ResetAck =
          memory.arena.pru1ResetAck := congrArg Control.pru1ResetAck hcontrol
      obtain ⟨hview, hledger⟩ := step_of_dispatch hdispatch hphase
      refine ⟨.inl ?_, .inl (hledger.trans hkept)⟩
      rw [hview, hnext, SharedMemory.state_of_control hcontrol, hflag]
      simp [handshake, Handshake.stepped, hloop]
  | running =>
      have hdispatch : loop.dispatch memory = loop.stepRunning memory := by
        rw [dispatch, hloop]
      obtain ⟨hnext, hphase, hkept⟩ := loop.stepRunning_cases memory
      have hcontrol := SharedMemory.control_of_ledger hkept
      have hflag : (loop.stepRunning memory).2.2.arena.pru1ResetAck =
          memory.arena.pru1ResetAck := congrArg Control.pru1ResetAck hcontrol
      obtain ⟨hview, hledger⟩ := step_of_dispatch hdispatch hphase
      refine ⟨?_, .inl (hledger.trans hkept)⟩
      rw [hview, SharedMemory.state_of_control hcontrol, hflag]
      obtain hnext | ⟨hsession, hnext⟩ := hnext
      · left
        simp [handshake, Handshake.stepped, hloop, hnext]
      · right
        simp [handshake, hnext, hsession]
  | fault =>
      have hdispatch : loop.dispatch memory = loop.stepFault memory := by rw [dispatch, hloop]
      obtain ⟨hview, hledger⟩ := step_of_dispatch hdispatch rfl
      refine ⟨.inl ?_, .inl hledger⟩
      rw [hview]
      simp [handshake, Handshake.stepped, hloop, stepFault]

/-- The timing core moves no buffer. -/
theorem material_step (loop : TimingLoop T) (memory : SharedMemory) :
    (loop.step memory).2.material = memory.material := by
  obtain hledger | hledger := (loop.step_cases memory).2
  · exact SharedMemory.material_of_ledger hledger
  · exact congrArg Ledger.material hledger

theorem state_step (loop : TimingLoop T) (memory : SharedMemory) :
    (loop.step memory).2.state = memory.state := by
  obtain hledger | hledger := (loop.step_cases memory).2
  · exact SharedMemory.state_of_control (SharedMemory.control_of_ledger hledger)
  · have hacked : memory.timingAcknowledge.state = memory.state := rfl
    exact (SharedMemory.state_of_control (SharedMemory.control_of_ledger hledger)).trans hacked

end TimingLoop

end HarvestTestbed
