import HarvestTestbed.Proofs.Pacing
import HarvestTestbed.Proofs.PeriodTimeline

/-!
# Samples of a period come in time

However the timer is advanced between the steps of a running loop, the counter has reached the
position of a sample when the sample is raised, with one exception.  A match that is still latched
when a wrap begins a period is not discarded, and the next step takes it for the second sample of
the new period.  That sample is early unless the counter has reached its position by then.
-/

namespace HarvestTestbed

namespace Pacer

variable {opened pacer : Pacer} {number ticks : ℕ}

/-- A moment of a period of which some samples were raised.  A value that is armed ahead of the
counter is the position of the next one. -/
structure InPeriod (opened pacer : Pacer) (number : ℕ) : Prop where
  division : SameDivision opened pacer
  tracks : pacer.Tracks number
  ahead : ∀ value, pacer.timer.compare = some value → pacer.timer.counter < value →
    number < opened.samples.toNat ∧ value = opened.position number

/-- The counter has reached the position of the next sample. -/
def Due (opened pacer : Pacer) (number : ℕ) : Prop :=
  number < opened.samples.toNat ∧ opened.position number ≤ pacer.timer.counter

/-- The value that is armed with a sample is not ahead of the counter if it exceeds its word. -/
theorem ahead_sample (h : pacer.Tracks number) (hnext : number + 1 < pacer.samples.toNat)
    (hreached : pacer.position number ≤ pacer.timer.counter) (value : ℕ)
    (harmed : pacer.sample.timer.compare = some value)
    (hahead : pacer.sample.timer.counter < value) : value = pacer.position (number + 1) := by
  have htimer := (h.sample_of_lt hnext).2
  rw [htimer] at harmed hahead
  obtain rfl := Option.some.inj harmed
  refine Nat.mod_eq_of_lt (Nat.lt_of_not_le fun hlong => ?_)
  have hinterval := pacer.interval.toNat_lt
  have hposition := pacer.position_succ number
  have hshort : pacer.position (number + 1) - UInt32.size ≤ pacer.timer.counter := by
    have hsize : UInt32.size = 2 ^ 32 := rfl
    split at hposition <;> omega
  have hvalue : pacer.position (number + 1) % UInt32.size ≤
      pacer.position (number + 1) - UInt32.size := by
    rw [Nat.mod_eq_sub_mod hlong]
    exact Nat.mod_le _ _
  exact absurd hahead (Nat.not_lt.mpr (hvalue.trans hshort))

/-- A period begins with its first sample.  If it has no other the compare has to be disarmed. -/
theorem inPeriod_opened (pacer : Pacer) (reply? : Option SyncReply)
    (hsingle : pacer.samples.toNat ≤ 1 → pacer.timer.compare = none) :
    InPeriod (pacer.opened reply?).sample (pacer.opened reply?).sample 1 := by
  have htracks := pacer.tracks_opened reply?
  have hdivision := (pacer.opened reply?).sameDivision_sample
  obtain hmore | hlast := Nat.lt_or_ge 1 (pacer.opened reply?).samples.toNat
  · refine ⟨⟨rfl, rfl, rfl, rfl⟩, (htracks.sample_of_lt hmore).1, fun value harmed hahead => ?_⟩
    have hvalue := ahead_sample htracks hmore (by simp) value harmed hahead
    exact ⟨by rw [hdivision.samples]; exact hmore, by rw [hdivision.position]; exact hvalue⟩
  · obtain ⟨hsampled, hnext⟩ := htracks.sample_of_le hlast (by decide)
    refine ⟨⟨rfl, rfl, rfl, rfl⟩, hnext, fun value harmed => ?_⟩
    rw [samples_opened] at hlast
    rw [hsampled] at harmed
    simp only [compare_opened, hsingle hlast] at harmed
    cases harmed

/-- While the counter counts on, a match is latched when the next sample is due. -/
theorem InPeriod.advance (h : InPeriod opened pacer number)
    (hshort : ticks < pacer.timer.ticksToWrap) :
    InPeriod opened (pacer.advance ticks) number ∧
      pacer.timer.counter ≤ (pacer.advance ticks).timer.counter ∧
      ((pacer.advance ticks).timer.matched = true →
        pacer.timer.matched = true ∨ Due opened (pacer.advance ticks) number) := by
  have hcounter : (pacer.timer.advance ticks).counter = pacer.timer.counter + ticks := by
    rw [SimulatedTimer.advance_of_lt hshort]
  have hdivision : SameDivision opened (pacer.advance ticks) :=
    h.division.trans (pacer.sameDivision_advance ticks)
  have hlater : pacer.timer.counter ≤ (pacer.advance ticks).timer.counter := by
    simp only [Pacer.advance, hcounter]
    omega
  obtain ⟨value, harmed, hahead, hreached, hlatch⟩ | ⟨hmiss, hlatch⟩ :=
    pacer.timer.latchMatch_cases ticks
  · obtain ⟨hnumber, rfl⟩ := h.ahead value harmed hahead
    have hdue : Due opened (pacer.advance ticks) number := by
      refine ⟨hnumber, ?_⟩
      simp only [Pacer.advance, hcounter]
      exact hreached
    refine ⟨⟨hdivision, h.tracks.advance ticks, fun value hstill => ?_⟩, hlater,
      fun _ => .inr hdue⟩
    simp only [Pacer.advance, SimulatedTimer.advance_of_lt hshort, hlatch] at hstill
    cases hstill
  · have hsame : (pacer.timer.advance ticks).compare = pacer.timer.compare ∧
        (pacer.timer.advance ticks).matched = pacer.timer.matched := by
      rw [SimulatedTimer.advance_of_lt hshort, hlatch]
      exact ⟨rfl, rfl⟩
    refine ⟨⟨hdivision, h.tracks.advance ticks, fun value harmed hahead => ?_⟩, hlater,
      fun hmatched => ?_⟩
    · exact h.ahead value (hsame.1.symm.trans harmed) (hlater.trans_lt hahead)
    · exact .inl (hsame.2.symm.trans hmatched)

/-- A sample that is due is raised. -/
theorem InPeriod.sample (h : InPeriod opened pacer number) (hdue : Due opened pacer number) :
    InPeriod opened pacer.quieted.sample (number + 1) := by
  have htracks := h.tracks.quieted
  have hquieted : SameDivision opened pacer.quieted := h.division.trans pacer.sameDivision_quieted
  have hdivision : SameDivision opened pacer.quieted.sample :=
    hquieted.trans pacer.quieted.sameDivision_sample
  have hsamples : pacer.quieted.samples.toNat = opened.samples.toNat := by rw [hquieted.samples]
  have hreached : pacer.quieted.position number ≤ pacer.quieted.timer.counter := by
    rw [hquieted.position]
    exact hdue.2
  obtain hmore | hlast := Nat.lt_or_ge (number + 1) pacer.quieted.samples.toNat
  · refine ⟨hdivision, (htracks.sample_of_lt hmore).1, fun value harmed hahead => ?_⟩
    have hvalue := ahead_sample htracks hmore hreached value harmed hahead
    rw [hquieted.position] at hvalue
    exact ⟨hsamples ▸ hmore, hvalue⟩
  · have hsize := opened.samples.toNat_lt
    have hword : UInt32.size = 2 ^ 32 := rfl
    have hnumber := hdue.1
    obtain ⟨hlastSample, hnext⟩ := htracks.sample_of_le hlast (by omega)
    refine ⟨hdivision, hnext, fun value harmed hahead => ?_⟩
    rw [hlastSample] at harmed hahead
    obtain ⟨-, rfl⟩ := h.ahead value harmed hahead
    exact absurd hahead (Nat.not_lt.mpr hdue.2)

end Pacer

namespace SyncBench

variable {first bench : SyncBench} {events : List SyncEvent} {event : SyncEvent}

/-- Between two steps the timer counts, and nothing else paces. -/
theorem pacer_of_ne_step (bench : SyncBench) (hstep : event ≠ .step) :
    (bench.step event).timing.pacer = bench.timing.pacer.advance event.ticks := by
  have hstill : bench.timing.pacer = bench.timing.pacer.advance 0 := by
    rw [Pacer.advance, SimulatedTimer.advance_zero]
  cases event with
  | step => exact absurd rfl hstep
  | advance ticks =>
    have hadvance := bench.timing.timer.advance_setGpio 0 ticks
    simp only [Pacer.advance, TimingLoop.pacer, SyncEvent.ticks, hadvance]
    rfl
  | setGpio | trigger | serve | resetService | setClock | op => exact hstill

theorem raisesSample_of_ne_step (bench : SyncBench) (hstep : event ≠ .step) :
    (Transition.mk bench event).raisesSample = false := by
  cases event with
  | step => exact absurd rfl hstep
  | advance | setGpio | trigger | serve | resetService | setClock | op => rfl

theorem idle_concat (hidle : SyncEvent.step ∉ events ++ [event]) :
    SyncEvent.step ∉ events ∧ event ≠ .step := by
  rw [List.mem_append, List.mem_singleton, not_or] at hidle
  exact ⟨hidle.1, Ne.symm hidle.2⟩

@[simp]
theorem ticksOf_append (events more : List SyncEvent) :
    ticksOf (events ++ more) = ticksOf events + ticksOf more := by
  rw [ticksOf, List.map_append, List.sum_append, ticksOf, ticksOf]

/-- As long as there is no step the timer counts, and the loop stays in its state. -/
theorem timing_of_idle (bench : SyncBench) (hidle : SyncEvent.step ∉ events) :
    (bench.run events).timing.pacer = bench.timing.pacer.advance (ticksOf events) ∧
      (bench.run events).timing.state = bench.timing.state := by
  induction events using List.reverseRecOn with
  | nil =>
    refine ⟨?_, rfl⟩
    rw [Pacer.advance, ticksOf, List.map_nil, List.sum_nil, SimulatedTimer.advance_zero]
    rfl
  | append_singleton events event ih =>
    obtain ⟨hbefore, hstep⟩ := idle_concat hidle
    obtain ⟨hpacer, hstate⟩ := ih hbefore
    rw [run_concat]
    constructor
    · rw [pacer_of_ne_step _ hstep, hpacer, ticksOf_append, Pacer.advance, Pacer.advance,
        Pacer.advance, ← SimulatedTimer.advance_add]
      simp [ticksOf]
    · rw [← hstate]
      cases event with
      | step => exact absurd rfl hstep
      | advance | setGpio | trigger | serve | resetService | setClock | op => rfl

end SyncBench

namespace Pacer

variable {pacer : Pacer}

/-- The compare is not armed, and nothing is left of it. -/
structure Unarmed (pacer : Pacer) : Prop where
  compare : pacer.timer.compare = none
  matched : pacer.timer.matched = false

theorem samples_serve (pacer : Pacer) (reply? : Option SyncReply) :
    (pacer.serve reply?).samples = pacer.samples := by
  rw [serve]
  split
  · exact (pacer.opened reply?).sameDivision_sample.samples.trans (pacer.samples_opened reply?)
  · split
    · exact pacer.quieted.sameDivision_sample.samples
    · rfl

/-- A period that has no sample but the first does not arm the compare. -/
theorem Unarmed.serve (h : pacer.Unarmed) (hsingle : pacer.samples.toNat ≤ 1)
    (reply? : Option SyncReply) : (pacer.serve reply?).Unarmed := by
  rw [Pacer.serve]
  split
  · have hlast : (pacer.opened reply?).samples.toNat ≤ 0 + 1 := by
      rwa [samples_opened]
    rw [((pacer.tracks_opened reply?).sample_of_le hlast (by decide)).1]
    exact ⟨(pacer.compare_opened reply?).trans h.compare,
      (pacer.matched_opened reply?).trans h.matched⟩
  · rw [if_neg (by rw [h.matched]; exact Bool.false_ne_true)]
    exact h

theorem Unarmed.advance (h : pacer.Unarmed) (ticks : ℕ) : (pacer.advance ticks).Unarmed := by
  obtain ⟨hcompare, hmatched⟩ := SimulatedTimer.compare_advance h.compare ticks
  exact ⟨hcompare, hmatched.trans h.matched⟩

theorem Unarmed.step {loop : TimingLoop SimulatedTimer} {memory : SharedMemory}
    (h : loop.pacer.samples.toNat ≤ 1 → loop.pacer.Unarmed)
    (hsingle : (loop.step memory).1.pacer.samples.toNat ≤ 1) :
    (loop.step memory).1.pacer.Unarmed := by
  obtain ⟨-, -, hpacer⟩ | ⟨-, -, hpacer⟩ | ⟨-, hpacer⟩ | ⟨-, -, hpacer⟩ :=
    loop.pacer_step_cases memory
  · rw [hpacer] at hsingle ⊢
    rw [samples_serve] at hsingle
    exact (h hsingle).serve hsingle _
  · rw [hpacer] at hsingle ⊢
    exact ⟨(h hsingle).compare, (h hsingle).matched⟩
  · rw [hpacer] at hsingle ⊢
    exact ⟨(h hsingle).compare, rfl⟩
  · rw [hpacer] at hsingle ⊢
    exact h hsingle

end Pacer

namespace SyncBench

theorem unarmed_of_single (setup : SyncSetup) (events : List SyncEvent)
    (hsingle : ((start setup).run events).timing.pacer.samples.toNat ≤ 1) :
    ((start setup).run events).timing.pacer.Unarmed := by
  induction events using List.reverseRecOn with
  | nil => exact ⟨rfl, rfl⟩
  | append_singleton events event ih =>
    rw [run_concat] at hsingle ⊢
    by_cases hstep : event = .step
    · subst hstep
      exact Pacer.Unarmed.step ih hsingle
    · rw [pacer_of_ne_step _ hstep] at hsingle ⊢
      exact (ih hsingle).advance _

/-! ## Open periods -/

/-- A step begins a period, and none begins in the events after it, while the loop runs. -/
structure OpenPeriod (first : SyncBench) (events : List SyncEvent) : Prop where
  opens : (Transition.mk first .step).beginsPeriod = true
  runs : ∀ earlier, earlier <+: events →
    ((first.step .step).run earlier).timing.state = .running
  quiet : ∀ transition ∈ (first.step .step).trace events, transition.beginsPeriod = false

def samplesIn (bench : SyncBench) (events : List SyncEvent) : ℕ :=
  (bench.trace events).countP Transition.raisesSample

theorem samplesIn_concat (bench : SyncBench) (events : List SyncEvent) (event : SyncEvent) :
    bench.samplesIn (events ++ [event]) =
      bench.samplesIn events +
        (Transition.mk (bench.run events) event).raisesSample.toNat := by
  rw [samplesIn, trace_concat, List.countP_append, List.countP_singleton, samplesIn]
  cases (Transition.mk (bench.run events) event).raisesSample <;> rfl

/-- Every sample after the first one of a period is raised by a step that finds the counter at its
position or past it. -/
def Timely (opened : SyncBench) (events : List SyncEvent) : Prop :=
  ∀ earlier later, events = earlier ++ .step :: later →
    (Transition.mk (opened.run earlier) .step).raisesSample = true →
    opened.timing.pacer.position (opened.samplesIn earlier + 1) ≤
      (opened.run earlier).timing.timer.counter

/-- A match is latched when the period begins, and the step after that finds the counter short of
the second sample. -/
def Hasty (first : SyncBench) (events : List SyncEvent) : Prop :=
  first.timing.timer.matched = true ∧
    ∃ idle later, events = idle ++ .step :: later ∧ SyncEvent.step ∉ idle ∧
      ((first.step .step).run idle).timing.timer.counter <
        (first.step .step).timing.pacer.position 1

theorem Hasty.append (h : Hasty first events) (later : List SyncEvent) :
    Hasty first (events ++ later) := by
  obtain ⟨hleft, idle, rest, rfl, hidle, hshort⟩ := h
  exact ⟨hleft, idle, rest ++ later, by simp, hidle, hshort⟩

namespace OpenPeriod

theorem of_append {later : List SyncEvent} (h : OpenPeriod first (events ++ later)) :
    OpenPeriod first events where
  opens := h.opens
  runs earlier hearlier := h.runs earlier (hearlier.trans (List.prefix_append events later))
  quiet transition hmem := by
    refine h.quiet transition ?_
    rw [trace_append]
    exact List.mem_append_left _ hmem

/-- What the step makes of the pacer that begins the period. -/
theorem pacer_opened (h : OpenPeriod first events) :
    (first.step .step).timing.pacer =
      (first.timing.pacer.opened (first.timing.replyAt first.memory)).sample := by
  obtain ⟨hloop, hnext, hwrapped⟩ := TimingLoop.beginsPeriod_eq_true h.opens
  have hwrap : first.timing.pacer.timer.wrapped = true := hwrapped
  refine (TimingLoop.pacer_step_of_running hloop hnext).trans ?_
  rw [Pacer.serve, if_pos hwrap]

/-- Within the period no wrap is latched at a step, and a match that is latched is a sample. -/
theorem step_last (h : OpenPeriod first (events ++ [.step])) :
    let bench := (first.step .step).run events
    bench.timing.pacer.timer.wrapped = false ∧
      (Transition.mk bench .step).raisesSample = bench.timing.pacer.timer.matched ∧
      (bench.step .step).timing.pacer =
        if bench.timing.pacer.timer.matched then bench.timing.pacer.quieted.sample
        else bench.timing.pacer := by
  intro bench
  have hloop : bench.timing.state = .running := h.runs events (List.prefix_append events _)
  have hnext : (bench.timing.step bench.memory).1.state = .running := by
    have hlast := h.runs (events ++ [.step]) (List.prefix_refl _)
    rw [run_append] at hlast
    exact hlast
  obtain ⟨hbegins, hraises⟩ := TimingLoop.flags_of_running hloop hnext
  have hquiet := h.quiet ⟨bench, .step⟩ (by rw [trace_concat]; simp [bench])
  have hlow : bench.timing.pacer.timer.wrapped = false := hbegins.symm.trans hquiet
  refine ⟨hlow, hraises.trans (by rw [hlow, Bool.false_or]), ?_⟩
  refine (TimingLoop.pacer_step_of_running hloop hnext).trans ?_
  rw [Pacer.serve, if_neg (by rw [hlow]; exact Bool.false_ne_true)]

/-- The first step of the period raised its first sample.  What was latched before is still
there. -/
theorem inPeriod_first (h : OpenPeriod first events)
    (hsingle : first.timing.pacer.samples.toNat ≤ 1 → first.timing.pacer.Unarmed) :
    Pacer.InPeriod (first.step .step).timing.pacer (first.step .step).timing.pacer 1 ∧
      (first.step .step).timing.pacer.timer.matched = first.timing.timer.matched := by
  rw [h.pacer_opened]
  refine ⟨Pacer.inPeriod_opened _ _ fun hlast => (hsingle hlast).compare, ?_⟩
  rw [Pacer.matched_sample]
  cases first.timing.replyAt first.memory <;> rfl

theorem samplesIn_of_idle (bench : SyncBench) (hidle : SyncEvent.step ∉ events) :
    bench.samplesIn events = 0 := by
  induction events using List.reverseRecOn with
  | nil => rfl
  | append_singleton events event ih =>
    obtain ⟨hbefore, hstep⟩ := idle_concat hidle
    rw [samplesIn_concat, ih hbefore, raisesSample_of_ne_step _ hstep]
    rfl

/-- What the pacer has come to in an open period. -/
structure Paces (first : SyncBench) (events : List SyncEvent) : Prop where
  period : Pacer.InPeriod (first.step .step).timing.pacer
    ((first.step .step).run events).timing.pacer ((first.step .step).samplesIn events + 1)
  /-- A match is that of the next sample, unless no step has taken the one from before. -/
  matched : ((first.step .step).run events).timing.pacer.timer.matched = true →
    (first.timing.timer.matched = true ∧ SyncEvent.step ∉ events) ∨
      Pacer.Due (first.step .step).timing.pacer ((first.step .step).run events).timing.pacer
        ((first.step .step).samplesIn events + 1)

theorem samples_opened (h : OpenPeriod first events) :
    (first.step .step).timing.pacer.samples = first.timing.pacer.samples := by
  rw [h.pacer_opened, (Pacer.sameDivision_sample _).samples, Pacer.samples_opened]

/-- A match that a step takes is that of the next sample, unless the period is hasty. -/
theorem due_of_matched (h : OpenPeriod first (events ++ [.step])) (hpaces : Paces first events)
    (hsingle : first.timing.pacer.samples.toNat ≤ 1 → first.timing.pacer.Unarmed)
    (hgood : ¬ Hasty first (events ++ [.step]))
    (hmatched : ((first.step .step).run events).timing.pacer.timer.matched = true) :
    Pacer.Due (first.step .step).timing.pacer ((first.step .step).run events).timing.pacer
      ((first.step .step).samplesIn events + 1) := by
  obtain ⟨hleft, hidle⟩ | hdue := hpaces.matched hmatched
  · rw [samplesIn_of_idle _ hidle]
    constructor
    · by_contra hlast
      rw [h.samples_opened] at hlast
      have hlow : first.timing.timer.matched = false := (hsingle (Nat.le_of_not_lt hlast)).matched
      exact Bool.false_ne_true (hlow.symm.trans hleft)
    · by_contra hshort
      exact hgood ⟨hleft, events, [], rfl, hidle, Nat.lt_of_not_le hshort⟩
  · exact hdue

theorem paces_step (h : OpenPeriod first (events ++ [.step])) (hpaces : Paces first events)
    (hsingle : first.timing.pacer.samples.toNat ≤ 1 → first.timing.pacer.Unarmed)
    (hgood : ¬ Hasty first (events ++ [.step])) : Paces first (events ++ [.step]) := by
  obtain ⟨-, hraises, hpacer⟩ := h.step_last
  have hdue := h.due_of_matched hpaces hsingle hgood
  cases hmatched : ((first.step .step).run events).timing.pacer.timer.matched with
  | true =>
    rw [hmatched] at hraises
    rw [hmatched, if_pos rfl] at hpacer
    constructor
    case period =>
      rw [samplesIn_concat, hraises, run_concat, hpacer]
      exact hpaces.period.sample (hdue hmatched)
    case matched =>
      rw [run_concat, hpacer, Pacer.matched_sample]
      exact fun hlow => absurd hlow Bool.false_ne_true
  | false =>
    rw [hmatched] at hraises
    rw [hmatched, if_neg Bool.false_ne_true] at hpacer
    constructor
    case period =>
      rw [samplesIn_concat, hraises, run_concat, hpacer]
      exact hpaces.period
    case matched =>
      rw [run_concat, hpacer, hmatched]
      exact fun hlow => absurd hlow Bool.false_ne_true

/-- Between two steps the timer wraps, or counts on towards the next sample. -/
theorem paces_of_ne_step (hpaces : Paces first events) (hstep : event ≠ .step) :
    ((first.step .step).run (events ++ [event])).timing.pacer.timer.wrapped = true ∨
      Paces first (events ++ [event]) := by
  have hpacer := ((first.step .step).run events).pacer_of_ne_step hstep
  have hraises := raisesSample_of_ne_step ((first.step .step).run events) hstep
  obtain hshort | hlong := Nat.lt_or_ge event.ticks
    ((first.step .step).run events).timing.pacer.timer.ticksToWrap
  · obtain ⟨hperiod, hlater, hmatched⟩ := hpaces.period.advance hshort
    right
    constructor
    case period =>
      rw [samplesIn_concat, hraises, run_concat, hpacer]
      exact hperiod
    case matched =>
      rw [samplesIn_concat, hraises, run_concat, hpacer]
      intro hlatched
      obtain hbefore | hdue := hmatched hlatched
      · obtain ⟨hleft, hidle⟩ | hdue := hpaces.matched hbefore
        · refine .inl ⟨hleft, fun hmem => ?_⟩
          obtain hmem | hmem := List.mem_append.mp hmem
          · exact hidle hmem
          · exact hstep (List.mem_singleton.mp hmem).symm
        · exact .inr ⟨hdue.1, hdue.2.trans hlater⟩
      · exact .inr hdue
  · left
    rw [run_concat, hpacer]
    refine (SimulatedTimer.wrapped_advance _ _).trans ?_
    rw [decide_eq_true hlong, Bool.or_true]

theorem paces_run (h : OpenPeriod first events)
    (hsingle : first.timing.pacer.samples.toNat ≤ 1 → first.timing.pacer.Unarmed)
    (hgood : ¬ Hasty first events) :
    ((first.step .step).run events).timing.pacer.timer.wrapped = true ∨ Paces first events := by
  induction events using List.reverseRecOn with
  | nil =>
    obtain ⟨hperiod, hmatched⟩ := h.inPeriod_first hsingle
    exact .inr ⟨hperiod, fun hleft => .inl ⟨hmatched.symm.trans hleft, by simp⟩⟩
  | append_singleton events event ih =>
    have hbefore : ¬ Hasty first events := fun hasty => hgood (hasty.append [event])
    by_cases hstep : event = .step
    · subst hstep
      have hlow := h.step_last.1
      have hpaces := (ih h.of_append hbefore).resolve_left (by rw [hlow]; exact Bool.false_ne_true)
      exact .inr (h.paces_step hpaces hsingle hgood)
    · obtain hwrapped | hpaces := ih h.of_append hbefore
      · left
        rw [run_concat, pacer_of_ne_step _ hstep]
        exact (SimulatedTimer.wrapped_advance _ _).trans (by rw [hwrapped, Bool.true_or])
      · exact paces_of_ne_step hpaces hstep

/-- A match that is latched when the period begins stays latched until the next step. -/
theorem matched_of_idle (bench : SyncBench) (hidle : SyncEvent.step ∉ events)
    (hmatched : bench.timing.pacer.timer.matched = true) :
    (bench.run events).timing.pacer.timer.matched = true := by
  rw [(bench.timing_of_idle hidle).1]
  exact SimulatedTimer.matched_advance hmatched _

end OpenPeriod

/-- In a period that a running loop has begun, whatever replies it got and however the timer is
advanced between its steps, every sample after the first is raised at its position or later, unless
the match of a sample was left over when the period began and the next step comes before the
position of the second sample. -/
theorem timely_iff (setup : SyncSetup) {before events : List SyncEvent}
    (h : OpenPeriod ((start setup).run before) events) :
    Timely (((start setup).run before).step .step) events ↔
      ¬ Hasty ((start setup).run before) events := by
  have hsingle := unarmed_of_single setup before
  generalize (start setup).run before = first at h hsingle ⊢
  constructor
  · rintro htimely ⟨hleft, idle, later, rfl, hidle, hshort⟩
    rw [List.append_cons] at h
    have hopened : (first.step .step).timing.pacer.timer.matched = true :=
      (h.inPeriod_first hsingle).2.trans hleft
    have hraises := h.of_append.step_last.2.1.trans (OpenPeriod.matched_of_idle _ hidle hopened)
    have hreached := htimely idle later rfl hraises
    rw [OpenPeriod.samplesIn_of_idle _ hidle] at hreached
    exact absurd hreached (Nat.not_le.mpr hshort)
  · rintro hgood earlier later rfl hraises
    rw [List.append_cons] at h hgood
    have hgood := mt (fun hasty : Hasty first (earlier ++ [.step]) => hasty.append later) hgood
    obtain ⟨hlow, hmatched, -⟩ := h.of_append.step_last
    have hbefore := mt (fun hasty : Hasty first earlier => hasty.append [.step]) hgood
    have hpaces := (h.of_append.of_append.paces_run hsingle hbefore).resolve_left
      (by rw [hlow]; exact Bool.false_ne_true)
    exact (h.of_append.due_of_matched hpaces hsingle hgood (hmatched.symm.trans hraises)).2

/-- A session starts to run, and the timer wraps for the first time. -/
def firstWrap : List SyncEvent :=
  [.op (.setState .armed), .op (.setState .running), .step, .step, .advance 1000]

/-- A bench with a period of a thousand ticks and ten samples. -/
def tenSamples : SyncSetup :=
  .simulated { period := 5000, samplesPerPeriod := 10 }

theorem openPeriod_of_trace (hopens : (Transition.mk first .step).beginsPeriod = true)
    (hcalm : ∀ transition ∈ (first.step .step).trace events,
      transition.after.timing.state = .running ∧ transition.beginsPeriod = false) :
    OpenPeriod first events := by
  refine ⟨hopens, ?_, fun transition hmem => (hcalm transition hmem).2⟩
  rintro earlier ⟨later, rfl⟩
  obtain rfl | ⟨start, event, rfl⟩ := List.eq_nil_or_concat' earlier
  · exact (TimingLoop.beginsPeriod_eq_true hopens).2.1
  · rw [run_concat]
    refine (hcalm ⟨(first.step .step).run start, event⟩ ?_).1
    rw [trace_append, trace_concat]
    simp

/-- The loop sleeps over the second and the third sample; the second is raised late and the third is
never raised. -/
theorem timely_iff_late :
    let first := (start tenSamples).run firstWrap
    let events := [.advance 250, .step, .step, .advance 100, .step]
    OpenPeriod first events ∧
      (Timely (first.step .step) events ↔ ¬ Hasty first events) ∧
      first.timing.timer.matched = false ∧
      ((first.step .step).trace events).map (·.raisesSample) =
        [false, true, false, false, false] := by
  intro first events
  have hopen : OpenPeriod first events :=
    openPeriod_of_trace (by decide +kernel) (by decide +kernel)
  exact ⟨hopen, timely_iff tenSamples hopen, by decide +kernel, by decide +kernel⟩

/-- The loop sleeps over a whole period, so that the match of its second sample and the wrap at its
end are both latched.  The wrap begins the next period, and the step after that takes the match for
the second sample of the new period, a hundred ticks too soon. -/
theorem timely_hasty :
    let first := (start tenSamples).run (firstWrap ++ [.step, .advance 1000])
    let events := [.step]
    tenSamples.cfg.validate = .ok () ∧ OpenPeriod first events ∧
      first.timing.timer.matched = true ∧
      (Transition.mk (first.step .step) .step).raisesSample = true ∧
      (first.step .step).timing.timer.counter = 0 ∧
      (first.step .step).timing.pacer.position 1 = 100 ∧
      ¬ Timely (first.step .step) events := by
  intro first events
  have hopen : OpenPeriod first events :=
    openPeriod_of_trace (by decide +kernel) (by decide +kernel)
  have hraises : (Transition.mk (first.step .step) .step).raisesSample = true := by decide +kernel
  have hcounter : (first.step .step).timing.timer.counter = 0 := by decide +kernel
  have hposition : (first.step .step).timing.pacer.position 1 = 100 := by decide +kernel
  refine ⟨rfl, hopen, by decide +kernel, hraises, hcounter, hposition, fun htimely => ?_⟩
  have hreached := htimely [] [] rfl hraises
  simp only [run, List.foldl_nil, hcounter] at hreached
  rw [samplesIn, trace, List.countP_nil, hposition] at hreached
  exact absurd hreached (by decide)

end SyncBench

end HarvestTestbed
