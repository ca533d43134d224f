import HarvestTestbed.Proofs.Bench
import HarvestTestbed.Proofs.PumpFrame
import HarvestTestbed.Proofs.SamplingFrame
import HarvestTestbed.Proofs.TimingFrame
import HarvestTestbed.Proofs.Transfer

/-!
# The reset handshake

The host asks for a reset, both loops acknowledge it, and the host finishes it.  Both directions of
the handshake have a gap.  A reset that a loop acknowledged may be abandoned for a fault; its flag
then stays raised, and the next reset can be finished before the loop has noticed it.  And a reset
may be requested again before a loop has stepped outside of the one it acknowledged; the loop then
holds that it acknowledged already, and its flag stays low.  The theorems below say that nothing
else can go wrong: outside of these two cases a finished reset was acknowledged by both loops, and
two steps of each loop are enough for a requested one.
-/

namespace HarvestTestbed.Bench

variable {F T : Type}

def handshake (bench : Bench F T) : Core → Handshake
  | .sampling => bench.sampling.handshake bench.memory
  | .timing => bench.timing.handshake bench.memory

def ackFlag (memory : SharedMemory) : Core → Flag
  | .sampling => memory.arena.pru0ResetAck
  | .timing => memory.arena.pru1ResetAck

def Transition.isStepOf (transition : Transition F T) (core : Core) : Bool :=
  match transition.event with
  | .step stepped => stepped = core
  | _ => false

def Transition.finishes (transition : Transition F T) : Bool :=
  match transition.event with
  | .completeReset => transition.before.memory.completeReset.1.isOk
  | _ => false

/-! ## Reading the handshake off the memory -/

theorem session_handshake (bench : Bench F T) (core : Core) :
    (bench.handshake core).session = bench.memory.state := by
  cases core <;> rfl

theorem flag_handshake (bench : Bench F T) (core : Core) :
    (bench.handshake core).flag = (ackFlag bench.memory core).isRaised := by
  cases core <;> rfl

/-- Both flags have to read as raised. -/
theorem resetAcknowledged_iff (memory : SharedMemory) :
    memory.resetAcknowledged = true ↔ ∀ core, (ackFlag memory core).isRaised = true := by
  rw [SharedMemory.resetAcknowledged, Bool.and_eq_true]
  constructor
  · rintro ⟨hsampling, htiming⟩ core
    cases core with
    | sampling => exact hsampling
    | timing => exact htiming
  · exact fun hraised => ⟨hraised .sampling, hraised .timing⟩

theorem handshake_memory (bench : Bench F T) (memory : SharedMemory) (core : Core) :
    { bench with memory := memory }.handshake core =
      { bench.handshake core with
        session := memory.state, flag := (ackFlag memory core).isRaised } := by
  cases core <;> rfl

theorem handshake_congr {bench : Bench F T} {memory : SharedMemory} {core : Core}
    (hstate : memory.state = bench.memory.state)
    (hflag : ackFlag memory core = ackFlag bench.memory core) :
    { bench with memory := memory }.handshake core = bench.handshake core := by
  rw [handshake_memory, hstate, hflag]
  cases core <;> rfl

/-- The handshake rests on the control words. -/
theorem handshake_of_control {bench : Bench F T} {memory : SharedMemory}
    (hcontrol : memory.control = bench.memory.control) (core : Core) :
    { bench with memory := memory }.handshake core = bench.handshake core := by
  refine handshake_congr (SharedMemory.state_of_control hcontrol) ?_
  cases core with
  | sampling => exact congrArg Control.pru0ResetAck hcontrol
  | timing => exact congrArg Control.pru1ResetAck hcontrol

/-! ## Operations of the host -/

/-- A change of the session state alone. -/
theorem moves_of_state {bench : Bench F T} {memory : SharedMemory} {next : SessionState}
    (hopen : bench.memory.state.canMoveTo next = true)
    (hcontrol : memory.control =
      { bench.memory.control with sessionState := next.toWord }) (core : Core) :
    (bench.handshake core).Moves false false
      ({ bench with memory := memory }.handshake core) := by
  have hstate : memory.state = next := by
    rw [SharedMemory.state_eq_control, hcontrol, SessionState.ofWord_toWord]
  have hflag : ackFlag memory core = ackFlag bench.memory core := by
    cases core with
    | sampling => exact congrArg Control.pru0ResetAck hcontrol
    | timing => exact congrArg Control.pru1ResetAck hcontrol
  rw [handshake_memory bench memory, hstate, hflag]
  cases core with
  | sampling => exact .session (bench.handshake .sampling) next hopen
  | timing => exact .session (bench.handshake .timing) next hopen

theorem moves_setState (bench : Bench F T) (next : SessionState) (core : Core) :
    (bench.handshake core).Moves false false
      ({ bench with memory := (bench.memory.setState next).2 }.handshake core) := by
  have hcontrol := congrArg Ledger.control (bench.memory.ledger_setState next)
  split at hcontrol
  · rename_i hopen
    exact moves_of_state hopen hcontrol core
  · rw [handshake_of_control hcontrol]
    exact .stay _

theorem handshake_setMode (bench : Bench F T) (mode : Mode) (core : Core) :
    { bench with memory := (bench.memory.setMode mode).2 }.handshake core =
      bench.handshake core := by
  have hcontrol := congrArg Ledger.control (bench.memory.ledger_setMode mode)
  split at hcontrol
  · refine handshake_congr ?_ ?_
    · exact congrArg (fun control : Control => SessionState.ofWord control.sessionState) hcontrol
    · cases core with
      | sampling => exact congrArg Control.pru0ResetAck hcontrol
      | timing => exact congrArg Control.pru1ResetAck hcontrol
  · exact handshake_of_control hcontrol core

/-- A finished reset lowers both flags; one that is refused changes nothing. -/
theorem moves_completeReset (bench : Bench F T) (core : Core) :
    (bench.handshake core).Moves false bench.memory.completeReset.1.isOk
      ({ bench with memory := bench.memory.completeReset.2 }.handshake core) := by
  by_cases hready : bench.memory.ReadyToComplete
  · obtain ⟨pool, -, heq⟩ := SharedMemory.completeReset_of_ready hready
    obtain ⟨hstate, hacknowledged, -⟩ := hready
    have hcontrol := SharedMemory.control_afterReset hstate pool
    have hidle : (bench.memory.afterReset pool).state = .idle := by
      rw [SharedMemory.state_eq_control, hcontrol, SessionState.ofWord_toWord]
    have hraised := (resetAcknowledged_iff _).mp hacknowledged core
    rw [heq]
    simp only
    rw [handshake_memory bench (bench.memory.afterReset pool), hidle]
    cases core with
    | sampling =>
        have hlow : ackFlag (bench.memory.afterReset pool) .sampling = .low :=
          congrArg Control.pru0ResetAck hcontrol
        rw [hlow]
        exact .finish (bench.handshake .sampling) hstate hraised
    | timing =>
        have hlow : ackFlag (bench.memory.afterReset pool) .timing = .low :=
          congrArg Control.pru1ResetAck hcontrol
        rw [hlow]
        exact .finish (bench.handshake .timing) hstate hraised
  · obtain ⟨fault, heq⟩ := SharedMemory.completeReset_of_not_ready hready
    rw [heq]
    exact .stay _

theorem moves_service (bench : Bench F T) (core : Core) :
    (bench.handshake core).Moves false false
      ({ bench with memory := (bench.pump.service bench.memory).memory }.handshake core) := by
  have hopen : bench.memory.state.canMoveTo .fault = true := by
    cases bench.memory.state <;> rfl
  obtain hcontrol | hcontrol := bench.pump.keepsOrFaults_service bench.memory
  · rw [handshake_of_control hcontrol]
    exact .stay _
  · exact moves_of_state hopen hcontrol core

/-! ## Steps of the loops -/

variable [Frontend F] [Timer T]

/-- One step of a core moves its side of the handshake, unless a violation stops the loop. -/
theorem handshake_step (bench : Bench F T) (core : Core) :
    (bench.step (.step core)).handshake core = (bench.handshake core).stepped ∨
      bench.memory.state = .running ∧ (bench.handshake core).loop = .running ∧
        (bench.step (.step core)).handshake core =
          { bench.handshake core with loop := .fault } := by
  cases core with
  | sampling => exact .inl (bench.sampling.step_cases bench.memory).1
  | timing =>
      obtain hview | ⟨hloop, hsession, hview⟩ := (bench.timing.step_cases bench.memory).1
      · exact .inl hview
      · exact .inr ⟨hsession, hloop, hview⟩

/-- A step of one loop does not show in the handshake of the other. -/
theorem handshake_step_of_ne (bench : Bench F T) {stepped core : Core} (hne : stepped ≠ core) :
    (bench.step (.step stepped)).handshake core = bench.handshake core := by
  cases stepped with
  | sampling =>
      cases core with
      | sampling => exact absurd rfl hne
      | timing =>
          obtain hcontrol | hcontrol := (bench.sampling.step_cases bench.memory).2
          · exact handshake_of_control hcontrol .timing
          · have hstate : (bench.step (.step .sampling)).memory.state = bench.memory.state :=
              (SharedMemory.state_of_control hcontrol :)
            have hflag : ackFlag (bench.step (.step .sampling)).memory .timing =
                ackFlag bench.memory .timing := congrArg Control.pru1ResetAck hcontrol
            exact handshake_congr hstate hflag
  | timing =>
      cases core with
      | timing => exact absurd rfl hne
      | sampling =>
          obtain hledger | hledger := (bench.timing.step_cases bench.memory).2
          · exact handshake_of_control (SharedMemory.control_of_ledger hledger) .sampling
          · have hcontrol := SharedMemory.control_of_ledger hledger
            have hstate : (bench.step (.step .timing)).memory.state = bench.memory.state :=
              (SharedMemory.state_of_control hcontrol :)
            have hflag : ackFlag (bench.step (.step .timing)).memory .sampling =
                ackFlag bench.memory .sampling := congrArg Control.pru0ResetAck hcontrol
            exact handshake_congr hstate hflag

/-- A step of the other core does not touch this one's flag. -/
theorem moves_step (bench : Bench F T) (stepped core : Core) :
    (bench.handshake core).Moves (stepped = core) false
      ((bench.step (.step stepped)).handshake core) := by
  by_cases hsame : stepped = core
  · subst hsame
    rw [decide_eq_true rfl]
    obtain hview | ⟨hsession, hloop, hview⟩ := bench.handshake_step stepped
    · rw [hview]
      exact .step _
    · rw [hview]
      exact .stop _ ((bench.session_handshake stepped).trans hsession) hloop
  · rw [decide_eq_false hsame, bench.handshake_step_of_ne hsame]
    exact .stay _

/-- Every event is a move of the handshake of either core. -/
theorem moves_transition (transition : Transition F T) (core : Core) :
    (transition.before.handshake core).Moves (transition.isStepOf core) transition.finishes
      (transition.after.handshake core) := by
  obtain ⟨bench, event⟩ := transition
  cases event with
  | setState next => exact moves_setState bench next core
  | requestReset => exact moves_setState bench .reset core
  | completeReset => exact moves_completeReset bench core
  | step stepped => exact moves_step bench stepped core
  | setMode mode =>
      rw [show (Transition.after ⟨bench, .setMode mode⟩).handshake core = _ from
        handshake_setMode bench mode core]
      exact .stay _
  | service =>
      have hmoves := moves_service bench core
      cases core <;> exact hmoves
  | frontend | timer | appendTrace | ping | raiseSyncTrigger | sendReply | receiveRequest
  | raiseBufferSwap | raiseSample =>
      cases core <;> exact .stay _

/-! ## Whole runs -/

def ackHistory (core : Core) (transitions : List (Transition F T)) : AckHistory :=
  transitions.foldl
    (fun history transition =>
      history.record (transition.before.handshake core) (transition.isStepOf core)
        transition.finishes (transition.after.handshake core))
    {}

omit [Frontend F] [Timer T] in
theorem state_start (setup : BenchSetup F T) : (start setup).memory.state = .idle := by
  have hcanary : checkCanary canaryWord = .ok () := rfl
  simp only [start, SharedMemory.split, hcanary]
  cases setup.pool.attach <;> rfl

theorem ackHistory_append (core : Core) (bench : Bench F T) (events : List (BenchEvent F T))
    (event : BenchEvent F T) :
    ackHistory core (bench.trace (events ++ [event])) =
      (ackHistory core (bench.trace events)).record ((bench.run events).handshake core)
        (Transition.isStepOf ⟨bench.run events, event⟩ core)
        (Transition.finishes ⟨bench.run events, event⟩)
        ((bench.run (events ++ [event])).handshake core) := by
  rw [trace_append, ackHistory, List.foldl_append, run_append]
  rfl

/-- Along every run, flag and latch of each core are what its history makes them. -/
theorem agrees_run (setup : BenchSetup F T) (events : List (BenchEvent F T)) (core : Core) :
    (ackHistory core ((start setup).trace events)).Agrees
      (((start setup).run events).handshake core) := by
  induction events using List.reverseRecOn with
  | nil =>
      have hstate : (start setup).memory.state = .idle := state_start setup
      cases core <;>
        exact
          { latched_loop := nofun
            flag_eq := fun hreset => absurd (hstate.symm.trans hreset) (by decide)
            acknowledged_latched := nofun
            unaware_eq := rfl }
  | append_singleton events event ih =>
      have hmoves := moves_transition ⟨(start setup).run events, event⟩ core
      rw [ackHistory_append, run_append]
      exact ih.record hmoves

/-! ## Finishing a reset -/

/-- The session leaves the reset for idle only where a reset is finished. -/
def EndsByFinishing (transitions : List (Transition F T)) : Prop :=
  ∀ transition ∈ transitions, transition.before.memory.state = .reset →
    transition.after.memory.state = .idle → transition.finishes = true

instance (transitions : List (Transition F T)) : Decidable (EndsByFinishing transitions) :=
  inferInstanceAs (Decidable (∀ transition ∈ transitions, _ → _ → _))

/-- No reset was finished on a flag from before it was requested. -/
def FinishesFresh (transitions : List (Transition F T)) : Prop :=
  ∀ earlier transition later, transitions = earlier ++ transition :: later →
    transition.finishes = true → ∀ core, (ackHistory core earlier).Fresh

theorem EndsByFinishing.of_append {transitions more : List (Transition F T)}
    (hends : EndsByFinishing (transitions ++ more)) : EndsByFinishing transitions :=
  fun transition hmem => hends transition (List.mem_append_left more hmem)

theorem FinishesFresh.of_append {transitions more : List (Transition F T)}
    (hfresh : FinishesFresh (transitions ++ more)) : FinishesFresh transitions := by
  rintro earlier transition later rfl
  exact hfresh earlier transition (later ++ more) (by simp)

/-- By induction on the events, where only resets that are finished lead back to idle. -/
theorem atRest_run (setup : BenchSetup F T) (events : List (BenchEvent F T))
    (hends : EndsByFinishing ((start setup).trace events))
    (hfresh : FinishesFresh ((start setup).trace events)) (core : Core) :
    AckHistory.AtRest (((start setup).run events).handshake core) := by
  induction events using List.reverseRecOn with
  | nil =>
      intro _
      cases core <;> exact .inl rfl
  | append_singleton events event ih =>
      rw [trace_append] at hends hfresh
      have hmoves := moves_transition ⟨(start setup).run events, event⟩ core
      have hlast := hends ⟨(start setup).run events, event⟩ (by simp [trace])
      rw [run_append]
      refine (agrees_run setup events core).atRest (ih hends.of_append hfresh.of_append) hmoves
        (fun hbefore hafter => hlast ?_ ?_) (fun hfinishes => ?_)
      · rwa [session_handshake] at hbefore
      · rwa [session_handshake] at hafter
      · exact hfresh _ _ [] rfl hfinishes core

/-- A reset that can be finished was acknowledged by both loops since it was requested, and finds
them in their reset state, if and only if neither flag was left raised from before.  If that holds
of every reset that was finished, no loop runs or is stopped while the session is idle. -/
theorem completeReset_acknowledged (setup : BenchSetup F T) (events : List (BenchEvent F T))
    (hends : EndsByFinishing ((start setup).trace events)) :
    let bench := (start setup).run events
    let history := fun core => ackHistory core ((start setup).trace events)
    (bench.memory.completeReset.1 = .ok () →
      ((∀ core, (history core).acknowledged = true ∧ (bench.handshake core).loop = .reset) ↔
        ∀ core, (history core).Fresh)) ∧
    (FinishesFresh ((start setup).trace events) → bench.memory.state = .idle →
      ∀ core, (bench.handshake core).loop ≠ .running ∧ (bench.handshake core).loop ≠ .fault) := by
  intro bench history
  refine ⟨fun hok => ⟨fun hacked core _ => (hacked core).1, fun hfresh core => ?_⟩,
    fun hfresh hidle core => ?_⟩
  · obtain ⟨hstate, hacknowledged, -⟩ := (SharedMemory.completeReset_eq_ok_iff _).mp hok
    have hraised := (resetAcknowledged_iff _).mp hacknowledged core
    refine (agrees_run setup events core).acknowledged_of_flag ?_ ?_ (hfresh core)
    · rwa [session_handshake]
    · rwa [flag_handshake]
  · have hrest := atRest_run setup events hends hfresh core
    rw [AckHistory.AtRest, session_handshake] at hrest
    obtain hloop | hloop := hrest (.inl hidle) <;> simp [bench, hloop]

/-- A reset requested once, acknowledged by both loops and ready to be finished. -/
theorem completeReset_acknowledged_first :
    let setup := BenchSetup.simulated 64 10000
    let events := [.requestReset, .step .sampling, .step .timing]
    let bench := (start setup).run events
    EndsByFinishing ((start setup).trace events) ∧ bench.memory.completeReset.1 = .ok () ∧
      ∀ core, (ackHistory core ((start setup).trace events)).acknowledged = true ∧
        (bench.handshake core).loop = .reset :=
  ⟨by decide +kernel, by decide +kernel,
    ((completeReset_acknowledged _ _ (by decide +kernel)).1 (by decide +kernel)).mpr
      (by decide +kernel)⟩

/-- A reset that was acknowledged, abandoned for a fault and requested again can be finished at
once, with neither loop having noticed; both are then stopped in an idle session. -/
theorem completeReset_stale :
    let setup := BenchSetup.simulated 64 10000
    let events := [.requestReset, .step .sampling, .step .timing, .setState .fault,
      .step .sampling, .step .sampling, .step .timing, .step .timing, .requestReset]
    let bench := (start setup).run events
    let finished := bench.run [.completeReset, .step .sampling, .step .sampling, .step .sampling,
      .step .timing, .step .timing, .step .timing]
    EndsByFinishing ((start setup).trace events) ∧ bench.memory.completeReset.1 = .ok () ∧
      (∀ core, (ackHistory core ((start setup).trace events)).acknowledged = false) ∧
      finished.memory.state = .idle ∧ ∀ core, (finished.handshake core).loop = .fault := by
  decide +kernel

/-! ## Acknowledging a reset -/

theorem state_step (bench : Bench F T) (core : Core) :
    (bench.step (.step core)).memory.state = bench.memory.state := by
  rw [← session_handshake _ core, ← session_handshake _ core]
  obtain hview | ⟨-, -, hview⟩ := bench.handshake_step core
  · rw [hview, Handshake.session_stepped]
  · rw [hview]

/-- In the reset, the steps of a loop are all that shows in its handshake. -/
theorem handshake_run_steps {bench : Bench F T} (hreset : bench.memory.state = .reset)
    (steps : List Core) (core : Core) :
    (bench.run (steps.map .step)).handshake core =
      Handshake.stepped^[steps.count core] (bench.handshake core) := by
  induction steps generalizing bench with
  | nil => rfl
  | cons stepped steps ih =>
      have hkept := (bench.state_step stepped).trans hreset
      have hrun : bench.run ((stepped :: steps).map .step) =
          (bench.step (.step stepped)).run (steps.map .step) := rfl
      rw [hrun, ih hkept]
      by_cases hsame : stepped = core
      · subst hsame
        rw [List.count_cons_self, Function.iterate_succ_apply]
        obtain hview | ⟨hrunning, -⟩ := bench.handshake_step stepped
        · rw [hview]
        · simp [hreset] at hrunning
      · rw [List.count_cons_of_ne hsame, bench.handshake_step_of_ne hsame]

/-- Two steps of each loop, in any order, acknowledge a requested reset if and only if neither
loop is still in a reset that was finished before. -/
theorem resetAcknowledged_run_steps (setup : BenchSetup F T) (events : List (BenchEvent F T))
    (hreset : ((start setup).run events).memory.state = .reset) (steps : List Core)
    (htwo : ∀ core, 2 ≤ steps.count core) :
    (((start setup).run events).run (steps.map .step)).memory.resetAcknowledged = true ↔
      ∀ core, (ackHistory core ((start setup).trace events)).unaware = false := by
  rw [resetAcknowledged_iff]
  apply forall_congr'
  intro core
  obtain ⟨more, hmore⟩ := Nat.exists_eq_add_of_le' (htwo core)
  have hsession : (((start setup).run events).handshake core).session = .reset := by
    rwa [session_handshake]
  rw [← flag_handshake, handshake_run_steps hreset, hmore,
    Handshake.flag_iterate_stepped hsession, (agrees_run setup events core).unaware_eq]
  cases (((start setup).run events).handshake core).flag <;>
    cases (((start setup).run events).handshake core).latched <;> simp

/-- A reset requested for the first time is acknowledged after two steps of each loop. -/
theorem resetAcknowledged_run_steps_first :
    let bench := (start (.simulated 64 10000)).run [.requestReset]
    let steps := [.sampling, .timing, .timing, .sampling]
    bench.memory.state = .reset ∧ (∀ core, 2 ≤ steps.count core) ∧
      (bench.run (steps.map .step)).memory.resetAcknowledged = true :=
  ⟨by decide +kernel, by decide,
    (resetAcknowledged_run_steps (.simulated 64 10000) [.requestReset] (by decide +kernel) _
      (by decide)).mpr (by decide +kernel)⟩

/-- A reset requested again right after one was finished is not acknowledged. -/
theorem resetAcknowledged_run_steps_again :
    let bench := (start (.simulated 64 10000)).run
      [.requestReset, .step .sampling, .step .timing, .completeReset, .requestReset]
    let steps := [.sampling, .sampling, .timing, .timing]
    bench.memory.state = .reset ∧ (∀ core, 2 ≤ steps.count core) ∧
      (bench.run (steps.map .step)).memory.resetAcknowledged = false := by
  decide +kernel

end HarvestTestbed.Bench
