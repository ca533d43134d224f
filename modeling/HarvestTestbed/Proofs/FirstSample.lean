import HarvestTestbed.Proofs.SyncBench
import HarvestTestbed.Proofs.TimerAdvance
import HarvestTestbed.Proofs.Triggering

/-!
# Samples before the first period

A loop that starts to run discards the wraps and matches that were latched before.  It does not
disarm the sample compare, which a reset leaves in the timer as well.  So until the first period of
a run begins, a sample is raised exactly when the compare was armed ahead of the counter and the
counter reaches it.
-/

namespace HarvestTestbed

namespace SimulatedTimer

/-- Whether a timer has reached the value that was armed ahead of an earlier counter. -/
def Reached (entry timer : SimulatedTimer) : Prop :=
  ∃ value, entry.compare = some value ∧ entry.counter < value ∧ value ≤ timer.counter

/-- A timer that has counted on from an earlier moment, with a match latched if its compare was
reached. -/
structure CountsFrom (entry timer : SimulatedTimer) : Prop where
  counter : entry.counter ≤ timer.counter
  matched : timer.matched = true ↔ Reached entry timer
  compare : timer.matched = false → timer.compare = entry.compare

namespace CountsFrom

variable {entry timer : SimulatedTimer}

theorem discarded (entry : SimulatedTimer) :
    CountsFrom entry { entry with wrapped := false, matched := false } where
  counter := le_rfl
  matched := by
    refine ⟨nofun, ?_⟩
    rintro ⟨value, -, hahead, hreached⟩
    exact absurd hreached (by simpa using hahead)
  compare _ := rfl

/-- Short of the wrap the match is latched on the way. -/
theorem advance (h : CountsFrom entry timer) {ticks : ℕ} (hshort : ticks < timer.ticksToWrap) :
    CountsFrom entry (timer.advance ticks) := by
  have hcounter := h.counter
  rw [advance_of_lt hshort, latchMatch]
  split
  · rename_i armed harmed
    split
    · rename_i hpassed
      refine ⟨by simp only; omega, ⟨fun _ => ?_, fun _ => rfl⟩,
        fun hunmatched => absurd hunmatched.symm Bool.false_ne_true⟩
      cases hmatched : timer.matched with
      | true =>
          obtain ⟨value, hvalue, hahead, hreached⟩ := h.matched.mp hmatched
          exact ⟨value, hvalue, hahead, by simp only; omega⟩
      | false =>
          exact ⟨armed, (h.compare hmatched).symm.trans harmed, by omega, hpassed.2⟩
    · rename_i hmissed
      refine ⟨by simp only; omega, ⟨fun hmatched => ?_, fun hlater => ?_⟩, h.compare⟩
      · obtain ⟨value, hvalue, hahead, hreached⟩ := h.matched.mp hmatched
        exact ⟨value, hvalue, hahead, by simp only; omega⟩
      · obtain ⟨value, hvalue, hahead, hreached⟩ := hlater
        by_contra hunmatched
        have hsame := (h.compare (Bool.eq_false_iff.mpr hunmatched)).trans hvalue
        obtain rfl : armed = value := Option.some.inj (harmed.symm.trans hsame)
        refine hunmatched (h.matched.mpr ⟨armed, hvalue, hahead, ?_⟩)
        simp only at hreached
        omega
  · rename_i harmed
    refine ⟨by simp only; omega, ⟨fun hmatched => ?_, fun hlater => ?_⟩, h.compare⟩
    · obtain ⟨value, hvalue, hahead, hreached⟩ := h.matched.mp hmatched
      exact ⟨value, hvalue, hahead, by simp only; omega⟩
    · obtain ⟨value, hvalue, hahead, hreached⟩ := hlater
      by_contra hunmatched
      have hsame := (h.compare (Bool.eq_false_iff.mpr hunmatched)).trans hvalue
      rw [harmed] at hsame
      cases hsame

end CountsFrom

end SimulatedTimer

namespace SyncBench

def Transition.raisesSample (transition : Transition) : Bool :=
  match transition.event with
  | .step => transition.before.timing.raisesSample transition.before.memory
  | _ => false

def Transition.beginsPeriod (transition : Transition) : Bool :=
  match transition.event with
  | .step => transition.before.timing.beginsPeriod transition.before.memory
  | _ => false

/-- The loop waits for the start at `entry`, runs from its next step on, and begins no period in the
events after that. -/
structure BeforeFirstPeriod (entry : SyncBench) (events : List SyncEvent) : Prop where
  awaits : entry.timing.state = .awaitStart
  runs : ∀ earlier, earlier <+: events →
    ((entry.step .step).run earlier).timing.state = .running
  early : ∀ transition ∈ (entry.step .step).trace events, transition.beginsPeriod = false

/-- Whether a step finds the timer at a value that was armed ahead of an earlier counter. -/
def Transition.Reaches (timer : SimulatedTimer) (transition : Transition) : Prop :=
  transition.event = .step ∧ timer.Reached transition.before.timing.timer

namespace BeforeFirstPeriod

variable {entry : SyncBench} {events : List SyncEvent} {event : SyncEvent}

theorem of_concat (h : BeforeFirstPeriod entry (events ++ [event])) :
    BeforeFirstPeriod entry events where
  awaits := h.awaits
  runs earlier hearlier := h.runs earlier (hearlier.trans (List.prefix_append events [event]))
  early transition hmem := by
    refine h.early transition ?_
    rw [trace_append]
    exact List.mem_append_left _ hmem

/-- The loop has just discarded what was latched. -/
theorem timer_entered (h : BeforeFirstPeriod entry events) :
    (entry.step .step).timing.timer =
      { entry.timing.timer with wrapped := false, matched := false } := by
  have hruns : (entry.timing.step entry.memory).1.state = .running :=
    h.runs [] (List.nil_prefix)
  obtain ⟨-, htimer⟩ := entry.timing.step_of_counts entry.memory
  rw [TimingLoop.state_step_eq] at hruns
  have hkept : (entry.step .step).timing.timer = _ := htimer
  rw [hkept]
  rw [TimingLoop.dispatch, h.awaits, TimingLoop.stepAwaitStart] at hruns ⊢
  cases hsession : entry.memory.takeSyncTrigger.2.state <;>
    simp only [hsession] at hruns ⊢ <;> first | rfl | cases hruns

/-- Before the first period a step raises a sample if a match is latched, and does nothing to the
timer otherwise. -/
theorem step_last (h : BeforeFirstPeriod entry (events ++ [.step])) :
    let bench := (entry.step .step).run events
    bench.timing.timer.wrapped = false ∧
      (Transition.mk bench .step).raisesSample = bench.timing.timer.matched ∧
      (bench.timing.timer.matched = false →
        (bench.step .step).timing.timer = bench.timing.timer) := by
  intro bench
  have hbefore : bench.timing.state = .running :=
    h.runs events (List.prefix_append events [.step])
  have hafter : (bench.timing.step bench.memory).1.state = .running := by
    have hlast := h.runs (events ++ [.step]) (List.prefix_refl _)
    rw [run_append] at hlast
    exact hlast
  obtain ⟨hraises, hquiet⟩ := TimingLoop.raises_step hbefore hafter
  obtain ⟨hperiod, hsample⟩ := hraises.flags
  have hwrapped : bench.timing.timer.wrapped = false := by
    have hearly := h.early ⟨bench, .step⟩ (by rw [trace_concat]; simp [bench])
    exact hperiod.symm.trans hearly
  refine ⟨hwrapped, ?_, fun hmatched => ?_⟩
  · refine Eq.trans hsample ?_
    exact (congrArg (· || bench.timing.timer.matched) hwrapped).trans (Bool.false_or _)
  · exact (hquiet hwrapped hmatched).trans (SimulatedTimer.take_of_low hwrapped hmatched)

/-- An event other than a step leaves a wrapped timer wrapped, and lets any other one count on. -/
theorem countsFrom_step {bench : SyncBench} {timer : SimulatedTimer}
    (h : bench.timing.timer.wrapped = true ∨ timer.CountsFrom bench.timing.timer)
    (hstep : event ≠ .step) :
    (bench.step event).timing.timer.wrapped = true ∨
      timer.CountsFrom (bench.step event).timing.timer := by
  cases event with
  | step => exact absurd rfl hstep
  | advance ticks =>
      have hwrapped := bench.timing.timer.wrapped_advance ticks
      obtain hbefore | hcounts := h
      · exact .inl (hwrapped.trans (by rw [hbefore, Bool.true_or]))
      · obtain hshort | hlong := Nat.lt_or_ge ticks bench.timing.timer.ticksToWrap
        · exact .inr (hcounts.advance hshort)
        · exact .inl (hwrapped.trans (by rw [decide_eq_true hlong, Bool.or_true]))
  | setGpio levels =>
      exact h.imp id fun hcounts => ⟨hcounts.counter, hcounts.matched, hcounts.compare⟩
  | trigger | serve | resetService | setClock | op => exact h

theorem exists_mem_trace_concat (bench : SyncBench) (events : List SyncEvent) (event : SyncEvent)
    (p : Transition → Prop) :
    (∃ transition ∈ bench.trace (events ++ [event]), p transition) ↔
      (∃ transition ∈ bench.trace events, p transition) ∨ p ⟨bench.run events, event⟩ := by
  simp [trace_concat, or_and_right, exists_or]

/-- As long as no sample was raised the timer counts on from where the loop found it. -/
theorem raises_iff_and_counts (h : BeforeFirstPeriod entry events) :
    ((∃ transition ∈ (entry.step .step).trace events, transition.raisesSample = true) ↔
        ∃ transition ∈ (entry.step .step).trace events,
          transition.Reaches entry.timing.timer) ∧
      ((¬ ∃ transition ∈ (entry.step .step).trace events, transition.raisesSample = true) →
        ((entry.step .step).run events).timing.timer.wrapped = true ∨
          entry.timing.timer.CountsFrom ((entry.step .step).run events).timing.timer) := by
  induction events using List.reverseRecOn with
  | nil =>
      refine ⟨by simp [trace], fun _ => .inr ?_⟩
      have hentered := h.timer_entered
      simp only [run, List.foldl_nil]
      rw [hentered]
      exact .discarded entry.timing.timer
  | append_singleton events event ih =>
      obtain ⟨hiff, hcounts⟩ := ih h.of_concat
      simp only [exists_mem_trace_concat, run_append]
      by_cases hraised :
          ∃ transition ∈ (entry.step .step).trace events, transition.raisesSample = true
      · have hreached := hiff.mp hraised
        exact ⟨by simp [hraised, hreached], fun hnone => absurd (.inl hraised) hnone⟩
      · have hmissed := hiff.not.mp hraised
        simp only [hraised, hmissed, false_or]
        have hsofar := hcounts hraised
        by_cases hstep : event = .step
        · subst hstep
          obtain ⟨hwrapped, hraises, htimer⟩ := h.step_last
          have hfrom : entry.timing.timer.CountsFrom
              ((entry.step .step).run events).timing.timer :=
            hsofar.resolve_left (by rw [hwrapped]; exact Bool.false_ne_true)
          rw [hraises, hfrom.matched]
          refine ⟨⟨fun hreached => ⟨rfl, hreached⟩, And.right⟩, fun hmissed => .inr ?_⟩
          have hlow : ((entry.step .step).run events).timing.timer.matched = false :=
            Bool.eq_false_iff.mpr (hfrom.matched.not.mpr hmissed)
          have hsame : (((entry.step .step).run events).run [.step]).timing.timer = _ :=
            htimer hlow
          rw [hsame]
          exact hfrom
        · refine ⟨⟨fun hraises => ?_, fun hreaches => absurd hreaches.1 hstep⟩,
            fun _ => countsFrom_step hsofar hstep⟩
          cases event with
          | step => exact absurd rfl hstep
          | _ => cases hraises

end BeforeFirstPeriod

/-! ## Before the first period of all -/

/-- The compare of a timer is armed by samples only. -/
theorem unarmed_step {loop : TimingLoop SimulatedTimer} {memory : SharedMemory}
    (hnone : loop.timer.compare = none ∧ loop.timer.matched = false)
    (hperiod : loop.beginsPeriod memory = false) :
    (loop.step memory).1.timer.compare = none ∧ (loop.step memory).1.timer.matched = false := by
  obtain ⟨-, htimer⟩ := loop.step_of_counts memory
  cases hloop : loop.state with
  | running =>
      by_cases hnext : (loop.step memory).1.state = .running
      · obtain ⟨hraises, hquiet⟩ := TimingLoop.raises_step hloop hnext
        have hwrapped : loop.timer.wrapped = false := hraises.flags.1.symm.trans hperiod
        rw [hquiet hwrapped hnone.2, SimulatedTimer.take_of_low hwrapped hnone.2]
        exact hnone
      · rw [TimingLoop.state_step_eq] at hnext
        rw [htimer, (TimingLoop.dispatch_of_leaving hloop hnext).2]
        exact hnone
  | reset =>
      rw [htimer, TimingLoop.dispatch, hloop]
      simp only [TimingLoop.stepReset, TimingLoop.acknowledge]
      split
      · split <;> exact hnone
      · exact hnone
  | awaitStart =>
      rw [htimer, TimingLoop.dispatch, hloop]
      simp only [TimingLoop.stepAwaitStart]
      split
      · exact ⟨hnone.1, rfl⟩
      · exact hnone
      · exact hnone
      · exact hnone
      · exact hnone
  | fault =>
      rw [htimer, TimingLoop.dispatch, hloop]
      exact hnone

theorem unarmed_run (setup : SyncSetup) {events : List SyncEvent}
    (hnone : ∀ transition ∈ (start setup).trace events, transition.beginsPeriod = false) :
    ((start setup).run events).timing.timer.compare = none ∧
      ((start setup).run events).timing.timer.matched = false := by
  induction events using List.reverseRecOn with
  | nil => exact ⟨rfl, rfl⟩
  | append_singleton events event ih =>
      rw [trace_concat] at hnone
      have hbefore := ih fun transition hmem => hnone transition (List.mem_append_left _ hmem)
      have hlast := hnone ⟨(start setup).run events, event⟩ (by simp)
      rw [run_append]
      cases event with
      | step => exact unarmed_step hbefore hlast
      | advance ticks =>
          obtain ⟨hcompare, hmatched⟩ := SimulatedTimer.compare_advance hbefore.1 ticks
          exact ⟨hcompare, hmatched.trans hbefore.2⟩
      | setGpio | trigger | serve | resetService | setClock | op => exact hbefore

/-- Before the first period of a stay in the running state, a sample is raised if and only if a step
finds the timer at a value that was armed, when the loop entered, ahead of the counter.  Nothing is
armed before the very first period. -/
theorem sample_before_period_iff (setup : SyncSetup) {before events : List SyncEvent}
    (h : BeforeFirstPeriod ((start setup).run before) events) :
    let entry := (start setup).run before
    let transitions := (entry.step .step).trace events
    ((∃ transition ∈ transitions, transition.raisesSample = true) ↔
        ∃ transition ∈ transitions, transition.Reaches entry.timing.timer) ∧
      ((∀ transition ∈ (start setup).trace before, transition.beginsPeriod = false) →
        ∀ transition ∈ transitions, transition.raisesSample = false) := by
  intro entry transitions
  have hiff := h.raises_iff_and_counts.1
  refine ⟨hiff, fun hnone transition hmem => ?_⟩
  by_contra hraises
  obtain ⟨_, _, _, value, hvalue, _⟩ :=
    hiff.mp ⟨transition, hmem, Bool.eq_true_of_not_eq_false hraises⟩
  rw [(unarmed_run setup hnone).1] at hvalue
  cases hvalue

/-- A first run in which half a period passes: the compare is still disarmed. -/
theorem sample_before_period_iff_first :
    let setup := SyncSetup.simulated { period := 5000, samplesPerPeriod := 10 }
    let before := [.op (.setState .armed), .op (.setState .running), .step]
    let events := [.advance 500, .step]
    let entry := (start setup).run before
    let transitions := (entry.step .step).trace events
    BeforeFirstPeriod entry events ∧
    ((∃ transition ∈ transitions, transition.raisesSample = true) ↔
        ∃ transition ∈ transitions, transition.Reaches entry.timing.timer) ∧
      ((∀ transition ∈ (start setup).trace before, transition.beginsPeriod = false) →
        ∀ transition ∈ transitions, transition.raisesSample = false) := by
  intro setup before events entry transitions
  have hruns : ∀ earlier ∈ events.inits,
      ((entry.step .step).run earlier).timing.state = .running := by decide +kernel
  have h : BeforeFirstPeriod entry events :=
    { awaits := by decide +kernel
      runs := fun earlier hearlier => hruns earlier ((List.mem_inits earlier events).mpr hearlier)
      early := by decide +kernel }
  exact ⟨h, sample_before_period_iff setup h⟩

/-- A period of a thousand ticks and ten samples begins, and is cut short by a reset that is
finished properly.  The compare armed for its second sample raises one in the next session, before
the first wrap. -/
theorem sample_before_period_reset :
    let setup := SyncSetup.simulated { period := 5000, samplesPerPeriod := 10 }
    let reset := [.op (.setState .armed), .op (.setState .running), .step, .step, .advance 1000,
      .step, .op .requestReset, .step, .step, .op .samplingAcknowledge]
    let before := reset ++ [.op .completeReset, .step, .op (.setState .armed),
      .op (.setState .running)]
    let events := [.advance 100, .step]
    let entry := (start setup).run before
    let transitions := (entry.step .step).trace events
    ((start setup).run reset).memory.completeReset.1 = .ok () ∧
      entry.timing.state = .awaitStart ∧
      (entry.step .step).timing.state = .running ∧
      ((entry.step .step).run events).timing.state = .running ∧
      (∀ transition ∈ transitions, transition.beginsPeriod = false) ∧
      transitions.map (·.raisesSample) = [false, true] := by
  decide +kernel

end SyncBench

end HarvestTestbed
