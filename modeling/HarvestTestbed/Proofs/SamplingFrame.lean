import HarvestTestbed.Proofs.Handshake
import HarvestTestbed.Proofs.Ledger
import HarvestTestbed.Sampling.Loop

/-!
# What a step of the sampling core does to the session

Whatever buffers the sampling core moves, of the control words it writes one, its own reset
acknowledgement, and that only in the reset state.  Its own state and its latch of the
acknowledgement are set at the end of a step and nowhere within.
-/

namespace HarvestTestbed.SamplingLoop

variable {F : Type} [Frontend F]

def phase (loop : SamplingLoop F) : LoopState × Bool :=
  (loop.state, loop.resetAcked)

/-! ## The pieces of a step -/

omit [Frontend F] in
@[simp]
theorem control_dropBuffers (loop : SamplingLoop F) (memory : SharedMemory) :
    (loop.dropBuffers memory).control = memory.control := by
  simp only [dropBuffers]
  split
  · split <;> split <;> rfl
  · rfl

theorem control_serveCommands (memory : SharedMemory) :
    (serveCommands memory).control = memory.control := by
  have hreceived := SharedMemory.control_of_ledger memory.ledger_samplingReceive
  rw [serveCommands]
  split <;> rename_i heq <;> rw [heq] at hreceived
  · split
    · exact (SharedMemory.control_samplingSend _ _ _ _).trans hreceived
    · exact (SharedMemory.control_notify _ _ _ _ _).trans hreceived
  · exact hreceived

omit [Frontend F] in
@[simp]
theorem phase_maintainCache (loop : SamplingLoop F) (mode : Mode) (reader : ℕ) :
    (loop.maintainCache mode reader).phase = loop.phase := by
  rw [maintainCache]
  split <;> rfl

omit [Frontend F] in
@[simp]
theorem phase_handOver (loop : SamplingLoop F) (memory : SharedMemory)
    (handle : ProducerHandle) (summary : BufferMeta) :
    (loop.handOver memory handle summary).1.phase = loop.phase := by
  rw [handOver]
  split <;> rfl

omit [Frontend F] in
@[simp]
theorem control_handOver (loop : SamplingLoop F) (memory : SharedMemory)
    (handle : ProducerHandle) (summary : BufferMeta) :
    (loop.handOver memory handle summary).2.control = memory.control := by
  have hreleased := memory.control_release handle summary
  rw [handOver]
  split <;> rename_i heq <;> rw [heq] at hreleased <;> exact hreleased

omit [Frontend F] in
@[simp]
theorem phase_retryPending (loop : SamplingLoop F) (memory : SharedMemory) :
    (loop.retryPending memory).1.phase = loop.phase := by
  rw [retryPending]
  split
  · rw [phase_handOver]
    rfl
  · rfl

omit [Frontend F] in
@[simp]
theorem control_retryPending (loop : SamplingLoop F) (memory : SharedMemory) :
    (loop.retryPending memory).2.control = memory.control := by
  rw [retryPending]
  split
  · rw [control_handOver]
  · rfl

omit [Frontend F] in
@[simp]
theorem phase_exchangeBuffer (loop : SamplingLoop F) (memory : SharedMemory)
    (timestamp : UInt64) : (loop.exchangeBuffer memory timestamp).1.phase = loop.phase := by
  simp only [exchangeBuffer]
  split
  · rw [phase_handOver]
    rfl
  · rfl

omit [Frontend F] in
@[simp]
theorem control_exchangeBuffer (loop : SamplingLoop F) (memory : SharedMemory)
    (timestamp : UInt64) : (loop.exchangeBuffer memory timestamp).2.control = memory.control := by
  simp only [exchangeBuffer]
  split <;> simp

omit [Frontend F] in
@[simp]
theorem phase_handleSwap (loop : SamplingLoop F) (memory : SharedMemory) (timestamp : UInt64) :
    (loop.handleSwap memory timestamp).1.phase = loop.phase := by
  rw [handleSwap]
  split
  · rfl
  · exact loop.phase_exchangeBuffer memory timestamp

omit [Frontend F] in
@[simp]
theorem control_handleSwap (loop : SamplingLoop F) (memory : SharedMemory)
    (timestamp : UInt64) : (loop.handleSwap memory timestamp).2.control = memory.control := by
  rw [handleSwap]
  split
  · exact memory.control_swapEdges _
  · exact loop.control_exchangeBuffer memory timestamp

@[simp]
theorem phase_sampleOnce (loop : SamplingLoop F) (mode : Mode) :
    (loop.sampleOnce mode).2.phase = loop.phase := by
  cases mode <;> rfl

omit [Frontend F] in
@[simp]
theorem control_store (loop : SamplingLoop F) (memory : SharedMemory) (sample : IvSample) :
    (loop.store memory sample).2.control = memory.control := by
  rw [store]
  split <;> rfl

@[simp]
theorem phase_handleSample (loop : SamplingLoop F) (memory : SharedMemory) :
    (loop.handleSample memory).1.phase = loop.phase :=
  loop.phase_sampleOnce memory.mode

@[simp]
theorem control_handleSample (loop : SamplingLoop F) (memory : SharedMemory) :
    (loop.handleSample memory).2.control = memory.control :=
  control_store _ _ _

omit [Frontend F] in
@[simp]
theorem phase_pollSwap (loop : SamplingLoop F) (memory : SharedMemory) :
    (loop.pollSwap memory).2.1.phase = loop.phase := by
  rw [pollSwap]
  split
  · exact loop.phase_handleSwap _ _
  · rfl

omit [Frontend F] in
@[simp]
theorem control_pollSwap (loop : SamplingLoop F) (memory : SharedMemory) :
    (loop.pollSwap memory).2.2.control = memory.control := by
  have htaken := SharedMemory.control_of_ledger memory.ledger_takeSwapTrigger
  rw [pollSwap]
  split <;> rename_i heq <;> rw [heq] at htaken
  · exact (loop.control_handleSwap _ _).trans htaken
  · exact htaken

@[simp]
theorem phase_pollSample (loop : SamplingLoop F) (memory : SharedMemory) :
    (loop.pollSample memory).2.1.phase = loop.phase := by
  rw [pollSample]
  split
  · simp
  · rfl

@[simp]
theorem control_pollSample (loop : SamplingLoop F) (memory : SharedMemory) :
    (loop.pollSample memory).2.2.control = memory.control := by
  have htaken := SharedMemory.control_of_ledger memory.ledger_takeSampleTrigger
  rw [pollSample]
  split <;> rename_i heq <;> rw [heq] at htaken
  · simpa using htaken
  · exact htaken

@[simp]
theorem phase_work (loop : SamplingLoop F) (memory : SharedMemory) :
    (loop.work memory).1.phase = loop.phase := by
  simp only [work]
  split <;> simp

@[simp]
theorem control_work (loop : SamplingLoop F) (memory : SharedMemory) :
    (loop.work memory).2.control = memory.control := by
  simp only [work]
  split <;> simp [control_serveCommands]

/-! ## The swap trigger -/

omit [Frontend F] in
@[simp]
theorem swapPending_handOver (loop : SamplingLoop F) (memory : SharedMemory)
    (handle : ProducerHandle) (summary : BufferMeta) :
    (loop.handOver memory handle summary).2.swapPending = memory.swapPending := by
  have hreleased : (memory.release handle summary).2.swapPending = memory.swapPending := by
    simp only [SharedMemory.release]
    split
    · rfl
    · split <;> rfl
  rw [handOver]
  split <;> rename_i heq <;> rw [heq] at hreleased <;> exact hreleased

omit [Frontend F] in
@[simp]
theorem swapPending_retryPending (loop : SamplingLoop F) (memory : SharedMemory) :
    (loop.retryPending memory).2.swapPending = memory.swapPending := by
  rw [retryPending]
  split
  · exact swapPending_handOver _ _ _ _
  · rfl

omit [Frontend F] in
/-- A handled swap raises no further one. -/
theorem swapPending_handleSwap (loop : SamplingLoop F) (memory : SharedMemory)
    (timestamp : UInt64) :
    (loop.handleSwap memory timestamp).2.swapPending = memory.swapPending := by
  have hacquired : memory.acquire.2.swapPending = memory.swapPending := by
    simp only [SharedMemory.acquire]
    split
    · rfl
    · split <;> rfl
  rw [handleSwap]
  split
  · rfl
  · simp only [exchangeBuffer]
    split
    · rw [swapPending_handOver]
      exact hacquired
    · exact hacquired

omit [Frontend F] in
/-- A swap that was handled is not handled again. -/
theorem swapPending_pollSwap (loop : SamplingLoop F) (memory : SharedMemory) :
    (loop.pollSwap memory).2.2.swapPending = false := by
  have htaken : memory.takeSwapTrigger.2.swapPending = false := rfl
  rw [pollSwap]
  split <;> rename_i heq <;> rw [heq] at htaken
  · rw [swapPending_handleSwap]
    exact htaken
  · exact htaken

theorem takeSwapTrigger_of_pending {memory : SharedMemory} (hpending : memory.swapPending = true) :
    memory.takeSwapTrigger = (some memory.arena.bufferTimestamp, memory.takeSwapTrigger.2) := by
  rw [SharedMemory.swapPending] at hpending
  simp [SharedMemory.takeSwapTrigger, Flag.take, hpending]

omit [Frontend F] in
/-- Without a swap nothing is handled. -/
theorem pollSwap_of_low (loop : SamplingLoop F) {memory : SharedMemory}
    (hlow : memory.swapPending = false) :
    loop.pollSwap memory = (false, loop, memory.takeSwapTrigger.2) := by
  have htaken : memory.takeSwapTrigger = (none, memory.takeSwapTrigger.2) := by
    rw [SharedMemory.swapPending] at hlow
    simp [SharedMemory.takeSwapTrigger, Flag.take, hlow]
  rw [pollSwap, htaken]

/-! ## The four states -/

/-- As in the timing loop the acknowledgement is given once per stay, here after the
buffers were dropped. -/
theorem stepReset_of_reset (loop : SamplingLoop F) {memory : SharedMemory}
    (hsession : memory.state = .reset) :
    (loop.stepReset memory).1 = .reset ∧
      (loop.stepReset memory).2.1.phase = (loop.state, true) ∧
      (loop.stepReset memory).2.2 =
        if loop.resetAcked then loop.dropBuffers memory
        else (loop.dropBuffers memory).samplingAcknowledge := by
  have hfreed : (loop.dropBuffers memory).state = .reset :=
    (SharedMemory.state_of_control (loop.control_dropBuffers memory)).trans hsession
  have heq : loop.stepReset memory =
      (.reset, loop.clear.acknowledge (loop.dropBuffers memory)) := by
    simp only [stepReset, if_pos hfreed]
  have hlatch : loop.clear.resetAcked = loop.resetAcked := rfl
  rw [heq, acknowledge, hlatch]
  cases hacked : loop.resetAcked with
  | false => exact ⟨rfl, rfl, rfl⟩
  | true => exact ⟨rfl, Prod.ext rfl hacked, rfl⟩

/-- The loop leaves its reset state without buffers and with its latch lowered. -/
theorem stepReset_of_ne (loop : SamplingLoop F) {memory : SharedMemory}
    (hsession : memory.state ≠ .reset) :
    loop.stepReset memory =
      (.awaitStart, { loop.clear with resetAcked := false }, loop.dropBuffers memory) := by
  have hfreed : (loop.dropBuffers memory).state ≠ .reset := by
    rwa [SharedMemory.state_of_control (loop.control_dropBuffers memory)]
  simp only [stepReset, if_neg hfreed]

omit [Frontend F] in
/-- Triggers from before the start are consumed, and pings are answered. -/
theorem stepAwaitStart_cases (loop : SamplingLoop F) (memory : SharedMemory) :
    (loop.stepAwaitStart memory).1 = Handshake.follow memory.state ∧
      (loop.stepAwaitStart memory).2.1.phase = loop.phase ∧
      (loop.stepAwaitStart memory).2.2 =
        serveCommands memory.takeSwapTrigger.2.takeSampleTrigger.2 := by
  have hstate : (serveCommands memory.takeSwapTrigger.2.takeSampleTrigger.2).state =
      memory.state :=
    SharedMemory.state_of_control (control_serveCommands _)
  unfold stepAwaitStart
  dsimp only
  rw [hstate]
  cases memory.state <;> simp only [Handshake.follow, phase_maintainCache] <;>
    exact ⟨trivial, trivial, trivial⟩

theorem stepRunning_cases (loop : SamplingLoop F) (memory : SharedMemory) :
    (loop.stepRunning memory).1 = Handshake.follow memory.state ∧
      (loop.stepRunning memory).2.1.phase = loop.phase ∧
      (loop.stepRunning memory).2.2.control = memory.control := by
  rw [stepRunning]
  cases memory.state with
  | running => exact ⟨rfl, loop.phase_work memory, loop.control_work memory⟩
  | idle | armed | reset | fault => exact ⟨rfl, rfl, rfl⟩

/-! ## A whole step -/

def handshake (loop : SamplingLoop F) (memory : SharedMemory) : Handshake where
  session := memory.state
  loop := loop.state
  latched := loop.resetAcked
  flag := memory.arena.pru0ResetAck.isRaised

/-- A step sets the state of the loop to the one that its work leads to. -/
theorem step_of_dispatch {loop : SamplingLoop F} {memory : SharedMemory}
    {work : LoopState × SamplingLoop F × SharedMemory} {latched : Bool}
    (hdispatch : loop.dispatch memory = work) (hphase : work.2.1.phase = (loop.state, latched)) :
    (loop.step memory).1.handshake (loop.step memory).2 =
        ⟨work.2.2.state, work.1, latched, work.2.2.arena.pru0ResetAck.isRaised⟩ ∧
      (loop.step memory).2.ledger = work.2.2.ledger := by
  obtain ⟨hstate, hlatch⟩ := Prod.mk.inj hphase
  simp only [step, hdispatch]
  split
  · rename_i hsame
    simp only [handshake, hstate, hlatch, hsame]
    exact ⟨trivial, trivial⟩
  · simp only [handshake, hlatch]
    exact ⟨rfl, rfl⟩

/-- A loop follows the rules of the handshake, and of the control words its step writes its
acknowledgement at most. -/
theorem step_cases (loop : SamplingLoop F) (memory : SharedMemory) :
    (loop.step memory).1.handshake (loop.step memory).2 = (loop.handshake memory).stepped ∧
      ((loop.step memory).2.control = memory.control ∨
        (loop.step memory).2.control = memory.samplingAcknowledge.control) := by
  cases hloop : loop.state with
  | reset =>
      have hdispatch : loop.dispatch memory = loop.stepReset memory := by rw [dispatch, hloop]
      have hfreed := loop.control_dropBuffers memory
      have hkept : (loop.dropBuffers memory).state = memory.state :=
        SharedMemory.state_of_control hfreed
      have hflag : (loop.dropBuffers memory).arena.pru0ResetAck = memory.arena.pru0ResetAck :=
        congrArg Control.pru0ResetAck hfreed
      by_cases hsession : memory.state = .reset
      · obtain ⟨hnext, hphase, hmemory⟩ := loop.stepReset_of_reset hsession
        obtain ⟨hview, hledger⟩ := step_of_dispatch hdispatch hphase
        rw [hview, SharedMemory.control_of_ledger hledger, hnext, hmemory]
        cases hlatch : loop.resetAcked with
        | true =>
            refine ⟨?_, .inl hfreed⟩
            simp [handshake, Handshake.stepped, hloop, hsession, hlatch, hkept, hflag]
        | false =>
            have hacked : (loop.dropBuffers memory).samplingAcknowledge.control =
                memory.samplingAcknowledge.control :=
              congrArg (fun control : Control => { control with pru0ResetAck := .raised }) hfreed
            refine ⟨?_, .inr hacked⟩
            have hraised :
                (loop.dropBuffers memory).samplingAcknowledge.arena.pru0ResetAck.isRaised =
                  true := rfl
            have hstate : (loop.dropBuffers memory).samplingAcknowledge.state = .reset :=
              hkept.trans hsession
            simp [handshake, Handshake.stepped, hloop, hsession, hlatch, hraised, hstate]
      · rw [loop.stepReset_of_ne hsession] at hdispatch
        obtain ⟨hview, hledger⟩ := step_of_dispatch hdispatch rfl
        rw [hview, SharedMemory.control_of_ledger hledger]
        refine ⟨?_, .inl hfreed⟩
        simp [handshake, Handshake.stepped, hloop, hsession, hkept, hflag]
  | awaitStart =>
      have hdispatch : loop.dispatch memory = loop.stepAwaitStart memory := by
        rw [dispatch, hloop]
      obtain ⟨hnext, hphase, hmemory⟩ := loop.stepAwaitStart_cases memory
      have hcontrol : (loop.stepAwaitStart memory).2.2.control = memory.control := by
        rw [hmemory, control_serveCommands]
        rfl
      have hflag : (loop.stepAwaitStart memory).2.2.arena.pru0ResetAck =
          memory.arena.pru0ResetAck := congrArg Control.pru0ResetAck hcontrol
      obtain ⟨hview, hledger⟩ := step_of_dispatch hdispatch hphase
      refine ⟨?_, .inl ((SharedMemory.control_of_ledger hledger).trans hcontrol)⟩
      rw [hview, hnext, SharedMemory.state_of_control hcontrol, hflag]
      simp [handshake, Handshake.stepped, hloop]
  | running =>
      have hdispatch : loop.dispatch memory = loop.stepRunning memory := by rw [dispatch, hloop]
      obtain ⟨hnext, hphase, hcontrol⟩ := loop.stepRunning_cases memory
      have hflag : (loop.stepRunning memory).2.2.arena.pru0ResetAck =
          memory.arena.pru0ResetAck := congrArg Control.pru0ResetAck hcontrol
      obtain ⟨hview, hledger⟩ := step_of_dispatch hdispatch hphase
      refine ⟨?_, .inl ((SharedMemory.control_of_ledger hledger).trans hcontrol)⟩
      rw [hview, hnext, SharedMemory.state_of_control hcontrol, hflag]
      simp [handshake, Handshake.stepped, hloop]
  | fault =>
      have hdispatch : loop.dispatch memory = loop.stepFault memory := by rw [dispatch, hloop]
      obtain ⟨hview, hledger⟩ := step_of_dispatch hdispatch rfl
      refine ⟨?_, .inl (SharedMemory.control_of_ledger hledger)⟩
      rw [hview]
      simp [handshake, Handshake.stepped, hloop, stepFault]

end HarvestTestbed.SamplingLoop
