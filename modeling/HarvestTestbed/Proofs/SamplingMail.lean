import HarvestTestbed.Proofs.ActorFrames
import HarvestTestbed.Proofs.TimingFrame

/-!
# The mail of the sampling core

The host writes commands for the sampling core into one slot, and the core reports events of its own
in another.  Changes of the session, services of the pump and steps of the timing core leave the
commands where they are and report nothing in the name of the sampling core: a poll marks what was
reported as delivered and no more.
-/

namespace HarvestTestbed

/-- The commands that wait for the sampling core, and the last event that it reported. -/
structure SamplingMail where
  commands : Slot 2
  reported : StatusEvent
  deriving DecidableEq, Repr

/-- A poll leaves the event in the slot. -/
theorem StatusSlot.event_poll (status : StatusSlot) (origin : Origin) :
    (status.poll origin).2.event origin = status.event origin := by
  rw [poll]
  split <;> rfl

namespace SharedMemory

def samplingMail (memory : SharedMemory) : SamplingMail where
  commands := memory.arena.hostToPru0
  reported := memory.arena.pru0Status.event .pru0

theorem hidesPublished_samplingMail : HidesPublished samplingMail where
  log _ _ _ := rfl
  sessionState _ _ := rfl
  mode _ _ := rfl

theorem samplingMail_setState (memory : SharedMemory) (next : SessionState) :
    (memory.setState next).2.samplingMail = memory.samplingMail :=
  hidesPublished_samplingMail.setState memory next

theorem samplingMail_setMode (memory : SharedMemory) (mode : Mode) :
    (memory.setMode mode).2.samplingMail = memory.samplingMail :=
  hidesPublished_samplingMail.setMode memory mode

theorem samplingMail_pollStatus (memory : SharedMemory) :
    memory.pollStatus.2.samplingMail = memory.samplingMail := by
  simp only [samplingMail, pollStatus, StatusSlot.event_poll]

theorem samplingMail_claim (memory : SharedMemory) (index : UInt32) :
    (memory.claim index).2.samplingMail = memory.samplingMail := by
  rw [claim]
  split <;> rfl

theorem samplingMail_recycle (memory : SharedMemory) (handle : ConsumerHandle) :
    (memory.recycle handle).2.samplingMail = memory.samplingMail := by
  simp only [recycle]
  split <;> rfl

theorem hidesPump_samplingMail : HidesPump samplingMail where
  setState := samplingMail_setState
  pumpReceive _ := rfl
  claim := samplingMail_claim
  recycle := samplingMail_recycle
  notify _ _ _ _ := rfl
  log _ _ _ := rfl

end SharedMemory

namespace MessagePump

/-- The pump polls the status slot but does not write it. -/
theorem samplingMail_service (pump : MessagePump) (memory : SharedMemory) :
    (pump.service memory).memory.samplingMail = memory.samplingMail :=
  (view_service SharedMemory.hidesPump_samplingMail pump memory).trans
    memory.samplingMail_pollStatus

end MessagePump

theorem SharedMemory.hidesTiming_samplingMail : HidesTiming SharedMemory.samplingMail where
  takeSyncTrigger _ := rfl
  timingSend _ _ _ _ := rfl
  receiveReply _ := rfl
  notify _ _ _ _ := rfl

namespace TimingLoop

variable {T : Type} [Timer T]

theorem samplingMail_work (loop : TimingLoop T) (memory : SharedMemory) :
    (loop.work memory).2.2.samplingMail = memory.samplingMail := by
  have htimed : ∀ (loop : TimingLoop T) memory,
      (loop.serveTimer memory).2.samplingMail = memory.samplingMail := by
    intro loop memory
    rw [serveTimer]
    split
    · rfl
    · split <;> rfl
  have hcaptured : ∀ (loop : TimingLoop T) memory,
      (loop.captureEdges memory).2.samplingMail = memory.samplingMail := by
    intro loop memory
    simp only [captureEdges]
    split <;> rfl
  have hserved := loop.view_serveTrigger SharedMemory.hidesTiming_samplingMail memory
  rw [work]
  split <;> rename_i served seen heq <;> rw [heq] at hserved
  · exact hserved
  · rw [hcaptured, htimed]
    exact (served.view_serveReply SharedMemory.hidesTiming_samplingMail seen).trans hserved

/-- The timing core neither commands the sampling core nor reports in its place. -/
theorem samplingMail_step (loop : TimingLoop T) (memory : SharedMemory) :
    (loop.step memory).2.samplingMail = memory.samplingMail := by
  have hdispatch : (loop.dispatch memory).2.2.samplingMail = memory.samplingMail := by
    rw [dispatch]
    cases loop.state with
    | reset =>
        simp only [stepReset, acknowledge]
        split
        · split <;> rfl
        · rfl
    | awaitStart =>
        simp only [stepAwaitStart]
        split <;> rfl
    | running =>
        rw [stepRunning]
        cases memory.state with
        | running => exact loop.samplingMail_work memory
        | idle | armed | reset | fault => rfl
    | fault => rfl
  rw [step]
  split
  rename_i heq
  rw [heq] at hdispatch
  split <;> exact hdispatch

end TimingLoop

end HarvestTestbed
