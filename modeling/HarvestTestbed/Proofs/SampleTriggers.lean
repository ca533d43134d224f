import HarvestTestbed.Proofs.HostedBench
import HarvestTestbed.Proofs.KeepingUp
import HarvestTestbed.Proofs.SyncBench
import HarvestTestbed.Proofs.Triggering

/-!
# Sample triggers are taken, merged or pending

The sample trigger is one bit between two loops that run at speeds of their own.  The timing loop
raises it and counts what it raises, the sampling loop takes it and counts what it takes.  A trigger
raised before the last one was taken is merged with it, and this is what the timing loop counts as
an overrun, whether a period begins or goes on.  So while both loops run, no trigger is lost
uncounted and none is counted twice.
-/

namespace HarvestTestbed

/-- What has been counted of the sample trigger, and whether one is pending. -/
@[ext]
structure SampleTally where
  raised : ℕ
  /-- Raised before the last one was taken. -/
  merged : ℕ
  taken : ℕ
  pending : Bool
  deriving DecidableEq, Repr

namespace SampleTally

def raise (tally : SampleTally) : SampleTally :=
  { tally with
    raised := tally.raised + 1
    merged := tally.merged + tally.pending.toNat
    pending := true }

def take (tally : SampleTally) : SampleTally :=
  { tally with taken := tally.taken + tally.pending.toNat, pending := false }

/-- What was raised in the meantime was taken, was merged or is pending. -/
structure Conserved (before after : SampleTally) : Prop where
  balance : (after.raised : ℤ) - before.raised =
    ((after.taken : ℤ) - before.taken) + ((after.merged : ℤ) - before.merged) +
      ((after.pending.toNat : ℤ) - before.pending.toNat)
  raised_le : before.raised ≤ after.raised
  merged_le : before.merged ≤ after.merged
  taken_le : before.taken ≤ after.taken

namespace Conserved

theorem refl (tally : SampleTally) : tally.Conserved tally :=
  ⟨by omega, le_rfl, le_rfl, le_rfl⟩

/-- Conservation over two stretches adds up. -/
theorem trans {first second third : SampleTally} (hleft : first.Conserved second)
    (hright : second.Conserved third) : first.Conserved third where
  balance := by
    have hearlier := hleft.balance
    have hlater := hright.balance
    omega
  raised_le := hleft.raised_le.trans hright.raised_le
  merged_le := hleft.merged_le.trans hright.merged_le
  taken_le := hleft.taken_le.trans hright.taken_le

/-- A trigger raised while one is pending is merged with it and counted so. -/
theorem raise (tally : SampleTally) : tally.Conserved tally.raise where
  balance := by simp [SampleTally.raise]
  raised_le := Nat.le_succ _
  merged_le := Nat.le_add_right _ _
  taken_le := le_rfl

/-- A trigger that is taken is no longer pending. -/
theorem take (tally : SampleTally) : tally.Conserved tally.take where
  balance := by simp [SampleTally.take]
  raised_le := le_rfl
  merged_le := le_rfl
  taken_le := Nat.le_add_right _ _

end Conserved

end SampleTally

/-- What the counters of both loops and the trigger between them say. -/
def SharedMemory.sampleTally (memory : SharedMemory) (timing : TimingStats)
    (sampling : SamplingStats) : SampleTally where
  raised := timing.samples
  merged := timing.overruns
  taken := sampling.samples
  pending := memory.samplePending

theorem SharedMemory.sampleTally_congr {before after : SharedMemory}
    (hpending : after.samplePending = before.samplePending) (timing : TimingStats)
    (sampling : SamplingStats) :
    after.sampleTally timing sampling = before.sampleTally timing sampling := by
  rw [sampleTally, hpending, sampleTally]

/-! ## The timing loop -/

theorem SharedMemory.hidesTiming_samplePending : HidesTiming samplePending where
  takeSyncTrigger _ := rfl
  timingSend _ _ _ _ := rfl
  receiveReply _ := rfl
  notify _ _ _ _ := rfl

namespace TimingLoop

variable {T : Type} [Timer T]

/-- The timing core counts what it merges. -/
theorem sampleTally_sample (loop : TimingLoop T) (memory : SharedMemory)
    (sampling : SamplingStats) :
    (loop.sample memory).2.sampleTally (loop.sample memory).1.stats sampling =
      (memory.sampleTally loop.stats sampling).raise := by
  have hstats : (loop.sample memory).1.stats.samples = loop.stats.samples + 1 ∧
      (loop.sample memory).1.stats.overruns =
        loop.stats.overruns + memory.samplePending.toNat := by
    simp only [sample, armNext]
    cases memory.samplePending <;> split <;> exact ⟨rfl, rfl⟩
  exact SampleTally.ext hstats.1 hstats.2 rfl rfl

/-- The first sample of a period is counted like any other. -/
theorem sampleTally_beginPeriod (loop : TimingLoop T) (memory : SharedMemory)
    (sampling : SamplingStats) :
    (loop.beginPeriod memory).2.sampleTally (loop.beginPeriod memory).1.stats sampling =
      (memory.sampleTally loop.stats sampling).raise := by
  have hstats : loop.applyReply.stats.samples = loop.stats.samples ∧
      loop.applyReply.stats.overruns = loop.stats.overruns := by
    rw [applyReply]
    split <;> exact ⟨rfl, rfl⟩
  simp only [beginPeriod, sampleTally_sample]
  exact congrArg SampleTally.raise (SampleTally.ext hstats.1 hstats.2 rfl rfl)

theorem sampleTally_serveTimer (loop : TimingLoop T) (memory : SharedMemory)
    (sampling : SamplingStats) :
    let before := memory.sampleTally loop.stats sampling
    let after := (loop.serveTimer memory).2.sampleTally (loop.serveTimer memory).1.stats sampling
    after = before ∨ after = before.raise := by
  intro before after
  simp only [after, serveTimer]
  split
  · exact .inr (sampleTally_beginPeriod _ memory sampling)
  · split
    · exact .inr (sampleTally_sample _ memory sampling)
    · exact .inl rfl

/-- A step that stays in the running state raises the trigger once or not at all. -/
theorem sampleTally_step {loop : TimingLoop T} {memory : SharedMemory}
    (hloop : loop.state = .running) (hnext : (loop.step memory).1.state = .running)
    (sampling : SamplingStats) :
    let before := memory.sampleTally loop.stats sampling
    let after := (loop.step memory).2.sampleTally (loop.step memory).1.stats sampling
    after = before ∨ after = before.raise := by
  intro before after
  obtain ⟨-, -, hstep⟩ := step_of_running hloop hnext
  obtain ⟨client, requests, htriggered⟩ := loop.serveTrigger_eq memory
  have hasked := loop.view_serveTrigger SharedMemory.hidesTiming_samplePending memory
  simp only at hstep
  generalize (loop.serveTrigger memory).2 = triggered at hstep htriggered hasked
  obtain ⟨client', reply, hreplied⟩ := triggered.1.serveReply_eq triggered.2
  have hreceived := triggered.1.view_serveReply SharedMemory.hidesTiming_samplePending triggered.2
  generalize triggered.1.serveReply triggered.2 = replied at hstep hreplied hreceived
  have hserved : replied.2.sampleTally replied.1.stats sampling = before := by
    rw [hreplied, htriggered]
    exact SampleTally.ext rfl rfl rfl (hreceived.trans hasked)
  have htimed := replied.1.sampleTally_serveTimer replied.2 sampling
  generalize replied.1.serveTimer replied.2 = timed at hstep htimed
  have hcaptured : after = timed.2.sampleTally timed.1.stats sampling := by
    simp only [after, hstep, captureEdges]
    split
    · rfl
    · split <;> rfl
  rw [hcaptured, ← hserved]
  exact htimed

end TimingLoop

/-! ## The sampling loop -/

theorem SharedMemory.hidesRecording_samplePending : HidesRecording samplePending where
  acquire memory := by
    simp only [acquire]
    split
    · rfl
    · split <;> rfl
  put _ _ _ _ := rfl
  release memory handle summary := by
    simp only [release]
    split
    · rfl
    · split <;> rfl
  swapEdges _ _ := rfl
  takeSwapTrigger _ := rfl
  samplingSend _ _ _ _ := rfl
  samplingReceive _ := rfl
  notify _ _ _ _ := rfl

namespace SamplingLoop

variable {F : Type}

theorem samples_handOver (loop : SamplingLoop F) (memory : SharedMemory)
    (handle : ProducerHandle) (summary : BufferMeta) :
    (loop.handOver memory handle summary).1.stats.samples = loop.stats.samples := by
  rw [handOver]
  split <;> rfl

theorem samples_retryPending (loop : SamplingLoop F) (memory : SharedMemory) :
    (loop.retryPending memory).1.stats.samples = loop.stats.samples := by
  rw [retryPending]
  split
  · exact samples_handOver _ _ _ _
  · rfl

theorem samples_pollSwap (loop : SamplingLoop F) (memory : SharedMemory) :
    (loop.pollSwap memory).2.1.stats.samples = loop.stats.samples := by
  have hswapped : ∀ memory timestamp,
      (loop.handleSwap memory timestamp).1.stats.samples = loop.stats.samples := by
    intro memory timestamp
    rw [handleSwap]
    split
    · rfl
    · simp only [exchangeBuffer]
      split
      · exact samples_handOver _ _ _ _
      · rfl
  rw [pollSwap]
  split
  · exact hswapped _ _
  · rfl

variable [Frontend F]

theorem samples_handleSample (loop : SamplingLoop F) (memory : SharedMemory) :
    (loop.handleSample memory).1.stats.samples = loop.stats.samples + 1 := by
  have hsampled : (loop.sampleOnce memory.mode).2.stats = loop.stats := by
    cases memory.mode <;> rfl
  simp only [handleSample, hsampled]

/-- A trigger that is pending is taken, and its sample is counted. -/
theorem sampleTally_pollSample (loop : SamplingLoop F) (memory : SharedMemory)
    (timing : TimingStats) :
    (loop.pollSample memory).2.2.sampleTally timing (loop.pollSample memory).2.1.stats =
      (memory.sampleTally timing loop.stats).take := by
  have heq : memory.takeSampleTrigger = (memory.samplePending, memory.takeSampleTrigger.2) := rfl
  have hlow : memory.takeSampleTrigger.2.samplePending = false := rfl
  have hswap := loop.view_pollSwap SharedMemory.hidesRecording_samplePending
    memory.takeSampleTrigger.2
  have hsample := view_handleSample SharedMemory.hidesRecording_samplePending
    (loop.pollSwap memory.takeSampleTrigger.2).2.1 (loop.pollSwap memory.takeSampleTrigger.2).2.2
  rw [pollSample, heq]
  cases hpending : memory.samplePending with
  | true =>
      refine SampleTally.ext rfl rfl ?_ (hsample.trans (hswap.trans hlow))
      simp [SharedMemory.sampleTally, SampleTally.take, samples_handleSample, samples_pollSwap,
        hpending]
  | false =>
      refine SampleTally.ext rfl rfl ?_ hlow
      simp [SharedMemory.sampleTally, SampleTally.take, hpending]

/-- The sampling core takes at most one trigger in a step and counts it. -/
theorem sampleTally_work (loop : SamplingLoop F) (memory : SharedMemory) (timing : TimingStats) :
    (loop.work memory).2.sampleTally timing (loop.work memory).1.stats =
      (memory.sampleTally timing loop.stats).take := by
  have hretried := loop.view_retryPending SharedMemory.hidesRecording_samplePending memory
  have hcounted := loop.samples_retryPending memory
  have hswapped := (loop.retryPending memory).1.view_pollSwap
    SharedMemory.hidesRecording_samplePending (loop.retryPending memory).2
  have hkept := (loop.retryPending memory).1.samples_pollSwap (loop.retryPending memory).2
  simp only [work]
  generalize (loop.retryPending memory).1.pollSwap (loop.retryPending memory).2 = swapped
    at hswapped hkept
  have hbefore : swapped.2.2.sampleTally timing swapped.2.1.stats =
      memory.sampleTally timing loop.stats :=
    SampleTally.ext rfl rfl (hkept.trans hcounted) (hswapped.trans hretried)
  rw [← hbefore, ← swapped.2.1.sampleTally_pollSample swapped.2.2 timing]
  split
  · rfl
  · rw [stats_maintainCache]
    exact SharedMemory.sampleTally_congr
      (view_serveCommands SharedMemory.hidesRecording_samplePending _) _ _

/-- Every step in a running session takes the trigger if it is raised. -/
theorem sampleTally_step {loop : SamplingLoop F} {memory : SharedMemory}
    (hloop : loop.state = .running) (hsession : memory.state = .running) (timing : TimingStats) :
    (loop.step memory).2.sampleTally timing (loop.step memory).1.stats =
      (memory.sampleTally timing loop.stats).take := by
  have hstep : loop.step memory = loop.work memory := by
    simp only [step, dispatch, hloop, stepRunning, hsession, if_true]
  rw [hstep]
  exact loop.sampleTally_work memory timing

end SamplingLoop

/-! ## The host -/

namespace SharedMemory

theorem hidesPublished_samplePending : HidesPublished samplePending where
  log _ _ _ := rfl
  sessionState _ _ := rfl
  mode _ _ := rfl

/-- A reset lowers the trigger, but a running session is not reset. -/
theorem samplePending_completeReset {memory : SharedMemory} (hsession : memory.state = .running) :
    memory.completeReset.2.samplePending = memory.samplePending := by
  have hready : ¬ memory.ReadyToComplete := by
    rintro ⟨hstate, -⟩
    rw [hsession] at hstate
    cases hstate
  obtain ⟨fault, herror⟩ := completeReset_of_not_ready hready
  rw [herror]

theorem hidesPump_samplePending : HidesPump samplePending where
  setState := hidesPublished_samplePending.setState
  pumpReceive _ := rfl
  claim memory index := by
    rw [claim]
    split <;> rfl
  recycle memory handle := by
    simp only [recycle]
    split <;> rfl
  notify _ _ _ _ := rfl
  log _ _ _ := rfl

theorem hidesSync_samplePending : HidesSync samplePending where
  raiseSyncTrigger _ := rfl
  syncReceive _ := rfl
  sendReply _ _ := rfl
  notify _ _ _ _ := rfl
  log _ _ _ := rfl

end SharedMemory

/-! ## Runs -/

/-- Whether someone else raises the sample trigger in place of the timing loop. -/
def HostedEvent.raisesSample {F T : Type} : HostedEvent F T → Bool
  | .bench .raiseSample => true
  | _ => false

namespace HostedBench

variable {F T : Type} [Frontend F] [Timer T]

/-- Whether the session and both loops are in the running state. -/
def Running (hosted : HostedBench F T) : Prop :=
  hosted.bench.sampling.state = .running ∧ hosted.timing.state = .running ∧
    hosted.memory.state = .running

instance (hosted : HostedBench F T) : Decidable hosted.Running :=
  inferInstanceAs (Decidable (_ ∧ _))

/-- The session and both loops run before and after every event. -/
def KeepsRunning (hosted : HostedBench F T) (events : List (HostedEvent F T)) : Prop :=
  ∀ transition ∈ hosted.trace events, transition.before.Running ∧ transition.after.Running

instance (hosted : HostedBench F T) (events : List (HostedEvent F T)) :
    Decidable (hosted.KeepsRunning events) :=
  inferInstanceAs (Decidable (∀ transition ∈ hosted.trace events, _))

def sampleTally (hosted : HostedBench F T) : SampleTally :=
  hosted.memory.sampleTally hosted.timing.stats hosted.bench.sampling.stats

omit [Frontend F] [Timer T] in
/-- An event that does not concern the trigger leaves the tally as it is. -/
theorem conserved_of_same {hosted next : HostedBench F T}
    (hpending : next.memory.samplePending = hosted.memory.samplePending)
    (htiming : next.timing.stats = hosted.timing.stats)
    (hsampling : next.bench.sampling.stats = hosted.bench.sampling.stats) :
    hosted.sampleTally.Conserved next.sampleTally := by
  have hsame : next.sampleTally = hosted.sampleTally := by
    rw [sampleTally, sampleTally, htiming, hsampling]
    exact SharedMemory.sampleTally_congr hpending _ _
  rw [hsame]
  exact .refl _

/-- Step lemma: whoever acts, the balance is kept. -/
theorem conserved_step {hosted : HostedBench F T} {event : HostedEvent F T}
    (hother : event.raisesSample = false) (hbefore : hosted.Running)
    (hafter : (hosted.step event).Running) :
    hosted.sampleTally.Conserved (hosted.step event).sampleTally := by
  obtain ⟨hsampling, htiming, hsession⟩ := hbefore
  cases event with
  | bench event =>
      cases event with
      | setState next =>
          exact conserved_of_same (SharedMemory.hidesPublished_samplePending.setState _ _) rfl rfl
      | setMode mode =>
          exact conserved_of_same (SharedMemory.hidesPublished_samplePending.setMode _ _) rfl rfl
      | requestReset =>
          exact conserved_of_same (SharedMemory.hidesPublished_samplePending.setState _ _) rfl rfl
      | completeReset =>
          exact conserved_of_same (SharedMemory.samplePending_completeReset hsession) rfl rfl
      | step core =>
          cases core with
          | sampling =>
              have hstep : (hosted.step (.bench (.step .sampling))).sampleTally =
                  hosted.sampleTally.take :=
                SamplingLoop.sampleTally_step hsampling hsession hosted.timing.stats
              rw [hstep]
              exact .take _
          | timing =>
              have hstep : (hosted.step (.bench (.step .timing))).sampleTally =
                    hosted.sampleTally ∨
                  (hosted.step (.bench (.step .timing))).sampleTally = hosted.sampleTally.raise :=
                TimingLoop.sampleTally_step htiming hafter.2.1 hosted.bench.sampling.stats
              obtain hstep | hstep := hstep <;> rw [hstep]
              · exact .refl _
              · exact .raise _
      | service =>
          exact conserved_of_same
            (MessagePump.view_service SharedMemory.hidesPump_samplePending _ _) rfl rfl
      | raiseSample => cases hother
      | ping | raiseSyncTrigger | sendReply | receiveRequest | raiseBufferSwap | frontend | timer
      | appendTrace => exact conserved_of_same rfl rfl rfl
  | trigger =>
      exact conserved_of_same
        (SyncService.view_trigger SharedMemory.hidesSync_samplePending _ _) rfl rfl
  | serve =>
      exact conserved_of_same
        (SyncService.view_serve SharedMemory.hidesSync_samplePending _ _) rfl rfl
  | resetService | setClock => exact conserved_of_same rfl rfl rfl

/-- Run lemma, by induction on the events. -/
theorem conserved_run {hosted : HostedBench F T} {events : List (HostedEvent F T)}
    (hothers : ∀ event ∈ events, event.raisesSample = false)
    (hruns : hosted.KeepsRunning events) :
    hosted.sampleTally.Conserved (hosted.run events).sampleTally := by
  induction events generalizing hosted with
  | nil => exact .refl _
  | cons event events ih =>
      obtain ⟨hbefore, hafter⟩ := hruns ⟨hosted, event⟩ List.mem_cons_self
      have hlater : (hosted.step event).KeepsRunning events :=
        fun transition hmem => hruns transition (List.mem_cons_of_mem _ hmem)
      exact (conserved_step (hothers event List.mem_cons_self) hbefore hafter).trans
        (ih (fun event hmem => hothers event (List.mem_cons_of_mem _ hmem)) hlater)

/-- While the session and both loops run, the samples that the timing loop raises are those that the
sampling loop takes, those that are counted as overruns, and the change of the one that is
pending. -/
theorem samples_conserved {hosted : HostedBench F T} {events : List (HostedEvent F T)}
    (hothers : ∀ event ∈ events, event.raisesSample = false)
    (hruns : hosted.KeepsRunning events) :
    ((hosted.run events).timing.stats.samples : ℤ) - hosted.timing.stats.samples =
      (((hosted.run events).bench.sampling.stats.samples : ℤ) -
          hosted.bench.sampling.stats.samples) +
        (((hosted.run events).timing.stats.overruns : ℤ) - hosted.timing.stats.overruns) +
        (((hosted.run events).memory.samplePending.toNat : ℤ) -
          hosted.memory.samplePending.toNat) :=
  (conserved_run hothers hruns).balance

/-- Two periods begin before the sampling loop steps: one trigger is merged and one is taken, and
the first sample of a third period is pending. -/
theorem samples_conserved_merged :
    let setup : HostedSetup SimulatedFrontend SimulatedTimer :=
      { bench := BenchSetup.simulated 2 4, service := (SyncSetup.simulated {}).service }
    let hosted := (start setup).run
      [.bench (.setState .armed), .bench (.setState .running), .bench (.step .sampling),
        .bench (.step .timing), .bench (.step .sampling), .bench (.step .timing)]
    let wrap : HostedEvent SimulatedFrontend SimulatedTimer :=
      .bench (.timer { period := 100, wrapped := true })
    let events : List (HostedEvent SimulatedFrontend SimulatedTimer) :=
      [wrap, .bench (.step .timing), wrap, .bench (.step .timing), .bench (.step .sampling),
        .bench .service, .bench .completeReset, wrap, .bench (.step .timing)]
    hosted.KeepsRunning events ∧
      (hosted.run events).sampleTally = { raised := 3, merged := 1, taken := 1, pending := true } ∧
      ((hosted.run events).timing.stats.samples : ℤ) - hosted.timing.stats.samples =
        (((hosted.run events).bench.sampling.stats.samples : ℤ) -
            hosted.bench.sampling.stats.samples) +
          (((hosted.run events).timing.stats.overruns : ℤ) - hosted.timing.stats.overruns) +
          (((hosted.run events).memory.samplePending.toNat : ℤ) -
            hosted.memory.samplePending.toNat) := by
  intro setup hosted wrap events
  have hruns : hosted.KeepsRunning events := by decide +kernel
  exact ⟨hruns, by decide +kernel, samples_conserved (by decide +kernel) hruns⟩

end HostedBench

end HarvestTestbed
