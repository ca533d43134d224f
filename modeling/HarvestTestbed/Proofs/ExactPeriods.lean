import HarvestTestbed.Proofs.PeriodPacing

/-!
# Periods that are paced exactly

If the timer moves by one tick from each step of the loop to the next, a period raises its samples
at their positions and nowhere else.  There are two exceptions.  A reply may make the period shorter
than its number of samples, which is only checked against the nominal period; the samples that do
not fit are never raised, and the match of the next one is left over for the period after.  And a
match that is left over when a period begins is taken for its second sample.
-/

namespace HarvestTestbed

namespace SyncBench

variable {first bench : SyncBench} {events between : List SyncEvent} {event : SyncEvent}
  {cfg : SyncConfig}

/-! ## One tick per step -/

/-- One tick passes from each step after which the loop runs to the next one. -/
def OneTickPerStep (bench : SyncBench) (events : List SyncEvent) : Prop :=
  ∀ earlier between later, events = earlier ++ .step :: (between ++ .step :: later) →
    SyncEvent.step ∉ between → (bench.run (earlier ++ [.step])).timing.state = .running →
    ticksOf between = 1

namespace OneTickPerStep

theorem of_append {later : List SyncEvent} (h : OneTickPerStep bench (events ++ later)) :
    OneTickPerStep bench events := by
  rintro earlier between rest rfl hidle hruns
  exact h earlier between (rest ++ later) (by simp) hidle hruns

theorem after {before : List SyncEvent} (h : OneTickPerStep bench (before ++ events)) :
    OneTickPerStep (bench.run before) events := by
  rintro earlier between later rfl hidle hruns
  refine h (before ++ earlier) between later (by simp) hidle ?_
  rwa [List.append_assoc, run_append]

end OneTickPerStep

theorem exists_last_step (hmem : SyncEvent.step ∈ events) :
    ∃ earlier idle, events = earlier ++ .step :: idle ∧ SyncEvent.step ∉ idle := by
  obtain ⟨idle, earlier, hsplit, hidle⟩ := List.eq_append_cons_of_mem (List.mem_reverse.mpr hmem)
  refine ⟨earlier.reverse, idle.reverse, ?_, by simpa using hidle⟩
  simpa using congrArg List.reverse hsplit

/-- The pacer of a period, after the step that begins it. -/
def opened (first : SyncBench) : Pacer :=
  (first.step .step).timing.pacer

/-- What holds when a period has begun, and holds again after each tick and the step that follows,
holds before the last tick. -/
theorem OpenPeriod.induction {motive : List SyncEvent → Prop} (h : OpenPeriod first events)
    (hpaced : OneTickPerStep first (.step :: (events ++ [.step]))) (nil : motive [])
    (next : ∀ earlier idle, OpenPeriod first (earlier ++ idle ++ [.step]) →
      SyncEvent.step ∉ idle → ticksOf idle = 1 → motive earlier →
      motive (earlier ++ idle ++ [.step])) :
    ∃ earlier idle, events = earlier ++ idle ∧ SyncEvent.step ∉ idle ∧ ticksOf idle = 1 ∧
      motive earlier := by
  induction hlength : events.length using Nat.strong_induction_on generalizing events with
  | h length ih =>
    by_cases hmem : SyncEvent.step ∈ events
    · -- The events are cut at the last step: what comes after it is the last tick.
      obtain ⟨earlier, idle, rfl, hidle⟩ := exists_last_step hmem
      rw [List.append_cons] at h
      have hruns : (first.run (.step :: earlier ++ [.step])).timing.state = .running :=
        h.of_append.runs _ List.prefix_rfl
      have hone : ticksOf idle = 1 := hpaced (.step :: earlier) idle [] (by simp) hidle hruns
      have hbefore : OneTickPerStep first (.step :: (earlier ++ [.step]) ++ (idle ++ [.step])) := by
        simpa using hpaced
      obtain ⟨start, rest, rfl, hrest, htick, hmotive⟩ :=
        ih earlier.length (by rw [← hlength]; simp) h.of_append.of_append hbefore.of_append rfl
      refine ⟨start ++ rest ++ [.step], idle, by simp, hidle, hone, ?_⟩
      exact next start rest h.of_append hrest htick hmotive
    · exact ⟨[], events, rfl, hmem, hpaced [] events [] rfl hmem (h.runs [] List.nil_prefix), nil⟩

/-! ## What the periods of a run go by -/

def Transition.applied? (transition : Transition) : Option SyncReply :=
  if transition.beginsPeriod then transition.before.timing.replyAt transition.before.memory
  else none

/-- The loop has its configuration, and after its first step its periods go by it. -/
structure Configured (cfg : SyncConfig) (bench : SyncBench) : Prop where
  samples : bench.timing.pacer.samples = cfg.samplesPerPeriod
  nominal : bench.timing.pacer.nominal = cfg.nominalTicks
  goesBy : bench.timing.state ≠ .reset → bench.timing.pacer.GoesBy cfg

theorem Configured.goesBy_step (h : Configured cfg bench) (hadmitted : cfg.Admitted)
    (hcomputed : ∀ reply, (Transition.mk bench .step).applied? = some reply →
      reply.Computed cfg) : (bench.step .step).timing.pacer.GoesBy cfg := by
  obtain ⟨hloop, hnext, hpacer⟩ | ⟨-, -, hpacer⟩ | ⟨hloop, hpacer⟩ | ⟨hloop, -, hpacer⟩ :=
    bench.timing.pacer_step_cases bench.memory
  all_goals
    have hmoved : (bench.step .step).timing.pacer = _ := hpacer
    rw [hmoved]
  · refine (h.goesBy (by rw [hloop]; decide)).serve fun hwrapped reply hreply => ?_
    have hbegins : (Transition.mk bench .step).beginsPeriod = true :=
      (TimingLoop.flags_of_running hloop hnext).1.trans hwrapped
    exact hcomputed reply (by rw [Transition.applied?, if_pos hbegins, hreply])
  · exact .of_cleared hadmitted h.samples h.nominal
  · exact (h.goesBy (by rw [hloop]; decide)).quieted
  · exact h.goesBy hloop

theorem configured_run (setup : SyncSetup) (hadmitted : setup.cfg.Admitted)
    (hcomputed : ∀ transition ∈ (start setup).trace events, ∀ reply,
      transition.applied? = some reply → reply.Computed setup.cfg) :
    Configured setup.cfg ((start setup).run events) := by
  induction events using List.reverseRecOn with
  | nil => exact ⟨rfl, rfl, fun hstarted => absurd rfl hstarted⟩
  | append_singleton events event ih =>
    rw [trace_concat] at hcomputed
    have h := ih fun transition hmem => hcomputed transition (List.mem_append_left _ hmem)
    rw [run_concat]
    by_cases hstep : event = .step
    · subst hstep
      have hgoes := h.goesBy_step hadmitted (hcomputed _ (by simp))
      exact ⟨hgoes.samples, hgoes.nominal, fun _ => hgoes⟩
    · have hpacer := ((start setup).run events).pacer_of_ne_step hstep
      have hidle : SyncEvent.step ∉ [event] := by simpa using Ne.symm hstep
      have hstate := (((start setup).run events).timing_of_idle hidle).2
      refine ⟨by rw [hpacer]; exact h.samples, by rw [hpacer]; exact h.nominal, fun hstarted => ?_⟩
      rw [hpacer]
      exact (h.goesBy (hstate ▸ hstarted)).advance _

/-! ## Where the counter is -/

/-- A step of a loop that runs after it leaves no wrap latched. -/
theorem wrapped_step (hnext : (bench.step .step).timing.state = .running) :
    (bench.step .step).timing.pacer.timer.wrapped = false := by
  obtain ⟨-, -, hpacer⟩ | ⟨-, hleft, -⟩ | ⟨-, hpacer⟩ | ⟨-, hleft, -⟩ :=
    bench.timing.pacer_step_cases bench.memory
  · exact (congrArg (fun pacer => pacer.timer.wrapped) hpacer).trans (Pacer.wrapped_serve _ _)
  · exact absurd hnext hleft
  · exact congrArg (fun pacer => pacer.timer.wrapped) hpacer
  · exact absurd hnext hleft

/-- With one tick per step a period begins when the counter is zero. -/
theorem counter_of_opens (setup : SyncSetup) {before : List SyncEvent}
    (hpaced : OneTickPerStep (start setup) (before ++ [.step]))
    (hopens : (Transition.mk ((start setup).run before) .step).beginsPeriod = true) :
    ((start setup).run before).timing.timer.counter = 0 := by
  obtain ⟨hloop, -, hwrapped⟩ := TimingLoop.beginsPeriod_eq_true hopens
  have hstepped : SyncEvent.step ∈ before := by
    by_contra hidle
    rw [((start setup).timing_of_idle hidle).2] at hloop
    cases hloop
  obtain ⟨earlier, idle, rfl, hidle⟩ := exists_last_step hstepped
  have hone : ticksOf idle = 1 := by
    refine hpaced earlier idle [] (by simp) hidle ?_
    rwa [List.append_cons, run_append, (timing_of_idle _ hidle).2] at hloop
  rw [List.append_cons, run_append, run_concat] at hloop hwrapped ⊢
  generalize (start setup).run earlier = bench at hloop hwrapped ⊢
  obtain ⟨hpacer, hstate⟩ := (bench.step .step).timing_of_idle hidle
  have hlow := wrapped_step (hstate.symm.trans hloop)
  have htimer : ((bench.step .step).run idle).timing.pacer.timer =
      (bench.step .step).timing.pacer.timer.advance 1 := by
    rw [hpacer, hone, Pacer.advance]
  have hcounter := SimulatedTimer.counter_advance_one hlow (by rw [← htimer]; exact hwrapped)
  rwa [← htimer] at hcounter

/-! ## Whole periods -/

/-- A period from the step that begins it up to the one that begins the next. -/
structure WholePeriod (first : SyncBench) (between : List SyncEvent) : Prop
    extends OpenPeriod first between where
  closes : (closing first between).beginsPeriod = true

/-- What the counter showed whenever a sample was raised, from the step that begins a period on. -/
def raisedAt (first : SyncBench) (events : List SyncEvent) : List ℕ :=
  ((first.trace (.step :: events)).filter Transition.raisesSample).map fun transition =>
    transition.before.timing.timer.counter

/-- A period raises as many samples as it has to, each at its position, and the positions increase
and lie within the period. -/
structure ExactlyPaced (first : SyncBench) (between : List SyncEvent) : Prop where
  raised : raisedAt first between =
    (List.range first.opened.samples.toNat).map first.opened.position
  increasing : ∀ earlier later, earlier < later → later < first.opened.samples.toNat →
    first.opened.position earlier < first.opened.position later
  within : ∀ number < first.opened.samples.toNat,
    first.opened.position number < first.opened.ticks.toNat

theorem raisedAt_concat (first : SyncBench) (events : List SyncEvent) (event : SyncEvent) :
    raisedAt first (events ++ [event]) = raisedAt first events ++
      if (Transition.mk ((first.step .step).run events) event).raisesSample then
        [((first.step .step).run events).timing.timer.counter]
      else [] := by
  rw [raisedAt, ← List.cons_append, trace_concat, List.filter_append, List.map_append, raisedAt,
    List.filter_singleton]
  have hrun : first.run (.step :: events) = (first.step .step).run events := rfl
  rw [hrun]
  cases (Transition.mk ((first.step .step).run events) event).raisesSample <;> rfl

theorem raisedAt_of_idle (first : SyncBench) (events : List SyncEvent) {idle : List SyncEvent}
    (hidle : SyncEvent.step ∉ idle) : raisedAt first (events ++ idle) = raisedAt first events := by
  induction idle using List.reverseRecOn with
  | nil => rw [List.append_nil]
  | append_singleton idle event ih =>
    obtain ⟨hbefore, hstep⟩ := idle_concat hidle
    rw [← List.append_assoc, raisedAt_concat, ih hbefore, raisesSample_of_ne_step _ hstep,
      if_neg Bool.false_ne_true, List.append_nil]

namespace OpenPeriod

/-- The step that begins a period raises its first sample. -/
theorem raisedAt_nil (h : OpenPeriod first events) :
    raisedAt first [] = [first.timing.timer.counter] := by
  obtain ⟨hloop, hnext, hwrapped⟩ := TimingLoop.beginsPeriod_eq_true h.opens
  have hraises : (Transition.mk first .step).raisesSample = true := by
    refine (TimingLoop.flags_of_running hloop hnext).2.trans ?_
    have hhigh : first.timing.pacer.timer.wrapped = true := hwrapped
    rw [hhigh, Bool.true_or]
  rw [raisedAt, trace, trace, List.filter_cons_of_pos hraises]
  rfl

/-- A period begins with the counter at zero, for as many ticks as the timer counts to. -/
theorem counting_first (h : OpenPeriod first events)
    (hcounter : first.timing.timer.counter = 0)
    (hgoes : first.opened.GoesBy cfg) :
    Pacer.Counting first.opened first.opened 0 where
  division := ⟨rfl, rfl, rfl, rfl⟩
  counter := by
    rw [opened, h.pacer_opened]
    obtain ⟨compare, htimer⟩ :=
      (first.timing.pacer.opened (first.timing.replyAt first.memory)).timer_sample
    rw [htimer]
    exact (first.timing.pacer.counter_opened _).trans hcounter
  period := hgoes.period
  within := hgoes.divided.ticks_pos
  wrapped := wrapped_step (h.runs [] List.nil_prefix)

/-- What is left over of the period before does no harm if the second sample is due with the first
tick anyway. -/
theorem punctual_first (h : OpenPeriod first events)
    (hcounting : Pacer.Counting first.opened first.opened 0)
    (hdivided : first.opened.Divided)
    (hsingle : first.timing.pacer.samples.toNat ≤ 1 → first.timing.pacer.Unarmed)
    (hharmless : first.timing.timer.matched = true → first.opened.position 1 = 1) :
    Pacer.Punctual first.opened first.opened 0 1 := by
  have hsamples := h.samples_opened
  rw [opened, h.pacer_opened] at hcounting hdivided hharmless
  rw [h.pacer_opened] at hsamples
  rw [opened, h.pacer_opened]
  generalize first.timing.replyAt first.memory = reply? at hcounting hdivided hharmless hsamples ⊢
  have hdivision := (first.timing.pacer.opened reply?).sameDivision_sample
  obtain ⟨compare, htimer⟩ := (first.timing.pacer.opened reply?).timer_sample
  have hbegun : Pacer.Counting (first.timing.pacer.opened reply?).sample
      (first.timing.pacer.opened reply?) 0 := by
    have hcounter := hcounting.counter
    have hperiod := hcounting.period
    have hwrapped := hcounting.wrapped
    rw [htimer] at hcounter hperiod hwrapped
    exact ⟨hdivision.symm, hcounter, hperiod, hcounting.within, hwrapped⟩
  refine hbegun.punctual_sample hdivided (first.timing.pacer.tracks_opened reply?)
    hdivided.samples_pos (Pacer.position_zero _) (fun hlast => ?_) (fun hleft => ?_)
  · rw [Pacer.compare_opened]
    exact (hsingle (by rw [← hsamples]; omega)).compare
  · rw [Pacer.matched_opened] at hleft
    refine ⟨rfl, rfl, ?_, hharmless hleft⟩
    by_contra hfew
    have hlow := (hsingle (by rw [← hsamples]; omega)).matched
    exact absurd (hlow.symm.trans hleft) Bool.false_ne_true

/-- A tick and the step after it: a match that is latched then is a sample. -/
theorem round {earlier idle : List SyncEvent}
    (h : OpenPeriod first (earlier ++ idle ++ [.step])) (hidle : SyncEvent.step ∉ idle)
    (hone : ticksOf idle = 1) (hcounting : Pacer.Counting first.opened
      ((first.step .step).run earlier).timing.pacer (ticksOf earlier)) :
    let ticked := ((first.step .step).run earlier).timing.pacer.advance 1
    ticksOf earlier + 1 < first.opened.ticks.toNat ∧
      ticksOf (earlier ++ idle ++ [.step]) = ticksOf earlier + 1 ∧
      ((first.step .step).run (earlier ++ idle ++ [.step])).timing.pacer =
        (if ticked.timer.matched then ticked.quieted.sample else ticked) ∧
      raisedAt first (earlier ++ idle ++ [.step]) = raisedAt first earlier ++
        if ticked.timer.matched then [ticksOf earlier + 1] else [] := by
  intro ticked
  obtain ⟨hlow, hraises, hpacer⟩ := h.step_last
  have hticked : ((first.step .step).run (earlier ++ idle)).timing.pacer = ticked := by
    rw [run_append, (timing_of_idle _ hidle).1, hone]
  rw [hticked] at hlow hraises hpacer
  -- No wrap is latched at the step, so this was not the last tick.
  have hshort : ticksOf earlier + 1 < first.opened.ticks.toNat := by
    have hwithin := hcounting.within
    have hlast := mt hcounting.wrapped_advance_one.mpr (by rw [hlow]; exact Bool.false_ne_true)
    omega
  have hcounter : ((first.step .step).run (earlier ++ idle)).timing.timer.counter =
      ticksOf earlier + 1 :=
    (congrArg (fun pacer => pacer.timer.counter) hticked).trans
      (hcounting.advance_one hshort).counter
  refine ⟨hshort, ?_, ?_, ?_⟩
  · rw [ticksOf_append, ticksOf_append, hone]
    rfl
  · rw [run_concat]
    exact hpacer
  · rw [raisedAt_concat, raisedAt_of_idle first earlier hidle, hraises, hcounter]

end OpenPeriod

/-- What a period has come to after a step. -/
structure PacedUpTo (first : SyncBench) (events : List SyncEvent) : Prop where
  counting :
    Pacer.Counting first.opened ((first.step .step).run events).timing.pacer (ticksOf events)
  punctual : (first.timing.timer.matched = true → first.opened.position 1 = 1) →
    ∃ number, Pacer.Punctual first.opened ((first.step .step).run events).timing.pacer
        (ticksOf events) number ∧
      raisedAt first events = (List.range number).map first.opened.position
  hasty : first.timing.timer.matched = true → events = [] ∨ 1 ∈ raisedAt first events

theorem PacedUpTo.next {earlier idle : List SyncEvent} (h : PacedUpTo first earlier)
    (hopen : OpenPeriod first (earlier ++ idle ++ [.step]))
    (hdivided : first.opened.Divided) (hidle : SyncEvent.step ∉ idle)
    (hone : ticksOf idle = 1)
    (hopened : first.opened.timer.matched = first.timing.timer.matched) :
    PacedUpTo first (earlier ++ idle ++ [.step]) := by
  obtain ⟨hshort, hticks, hpacer, hraised⟩ := hopen.round hidle hone h.counting
  constructor
  case counting =>
    rw [hticks, hpacer]
    split
    · exact (h.counting.advance_one hshort).quieted.sample
    · exact h.counting.advance_one hshort
  case punctual =>
    intro hharmless
    obtain ⟨number, hpunctual, hbefore⟩ := h.punctual hharmless
    rw [hticks, hpacer, hraised, hbefore]
    obtain ⟨hmatched, hposition, hsampled⟩ | ⟨hmatched, hkept⟩ :=
      hpunctual.tick hdivided hshort
    · rw [if_pos hmatched, if_pos hmatched]
      refine ⟨number + 1, hsampled, ?_⟩
      rw [List.range_succ, List.map_append, ← hposition]
      rfl
    · rw [hmatched, if_neg Bool.false_ne_true, if_neg Bool.false_ne_true, List.append_nil]
      exact ⟨number, hkept, rfl⟩
  case hasty =>
    intro hleft
    right
    rw [hraised]
    obtain rfl | hearly := h.hasty hleft
    · have hmatched : ((first.step .step).run []).timing.pacer.timer.matched = true :=
        hopened.trans hleft
      have hstill : (((first.step .step).run []).timing.pacer.advance 1).timer.matched = true :=
        SimulatedTimer.matched_advance hmatched 1
      rw [if_pos hstill]
      exact List.mem_append_right _ (List.mem_singleton.mpr rfl)
    · exact List.mem_append_left _ hearly

/-- What a whole period has come to when the next one begins. -/
structure PacedWhole (first : SyncBench) (between : List SyncEvent) : Prop where
  divided : first.opened.Divided
  ticks : ticksOf between = first.opened.ticks.toNat
  /-- All samples that fit the period are raised, and a match is left over if one does not. -/
  punctual : (first.timing.timer.matched = true → first.opened.position 1 = 1) →
    raisedAt first between =
        (List.range (min first.opened.samples.toNat first.opened.ticks.toNat)).map
          first.opened.position ∧
      ((closing first between).before.timing.timer.matched = true ↔
        first.opened.ticks.toNat < first.opened.samples.toNat)
  /-- A match that was left over before is taken with the first tick. -/
  hasty : first.timing.timer.matched = true →
    1 < first.opened.ticks.toNat → 1 ∈ raisedAt first between

theorem WholePeriod.paced (h : WholePeriod first between)
    (hpaced : OneTickPerStep first (.step :: (between ++ [.step])))
    (hcounter : first.timing.timer.counter = 0)
    (hgoes : first.opened.GoesBy cfg)
    (hsingle : first.timing.pacer.samples.toNat ≤ 1 → first.timing.pacer.Unarmed) :
    PacedWhole first between := by
  have hcounting := h.counting_first hcounter hgoes
  have hopened := (h.inPeriod_first hsingle).2
  have hbegun : PacedUpTo first [] :=
    { counting := hcounting
      punctual := fun hharmless =>
        ⟨1, h.punctual_first hcounting hgoes.divided hsingle hharmless, by
          rw [h.raisedAt_nil, hcounter]
          simp⟩
      hasty := fun _ => .inl rfl }
  obtain ⟨earlier, idle, rfl, hidle, hone, hlast⟩ :=
    h.induction (motive := PacedUpTo first) hpaced hbegun
      fun earlier idle hopen hidle hone hsofar =>
        hsofar.next hopen hgoes.divided hidle hone hopened
  have hticked : (closing first (earlier ++ idle)).before.timing.pacer =
      ((first.step .step).run earlier).timing.pacer.advance 1 := by
    rw [closing, run_append, (timing_of_idle _ hidle).1, hone]
  have hwrapped : (closing first (earlier ++ idle)).before.timing.pacer.timer.wrapped = true :=
    (TimingLoop.beginsPeriod_eq_true h.closes).2.2
  rw [hticked, hlast.counting.wrapped_advance_one] at hwrapped
  constructor
  case divided => exact hgoes.divided
  case ticks => rw [ticksOf_append, hone, hwrapped]
  case punctual =>
    intro hharmless
    obtain ⟨number, hpunctual, hraised⟩ := hlast.punctual hharmless
    have hmatched := hpunctual.matched_last hgoes.divided hwrapped
    rw [← hticked] at hmatched
    rw [raisedAt_of_idle first earlier hidle, hraised,
      hpunctual.number_eq hgoes.divided hwrapped]
    exact ⟨rfl, hmatched⟩
  case hasty =>
    intro hleft hlong
    rw [raisedAt_of_idle first earlier hidle]
    refine (hlast.hasty hleft).resolve_left ?_
    rintro rfl
    rw [← hwrapped] at hlong
    exact absurd hlong (Nat.lt_irrefl 1)

namespace PacedWhole

/-- The samples are at their positions if they fit the period, unless one that was left over before
is not at the position of the second. -/
theorem exactly_iff (h : PacedWhole first between) :
    ExactlyPaced first between ↔
      first.opened.samples.toNat ≤ first.opened.ticks.toNat ∧
        (first.timing.timer.matched = true → first.opened.position 1 = 1) := by
  have hdivided := h.divided
  have hsome := hdivided.samples_pos
  constructor
  · intro hexact
    have hfits : first.opened.samples.toNat ≤ first.opened.ticks.toNat := by
      by_contra hfew
      have hlast := hexact.within (first.opened.samples.toNat - 1) (by omega)
      rw [hdivided.position_of_few (Nat.lt_of_not_le hfew)] at hlast
      omega
    refine ⟨hfits, fun hleft => ?_⟩
    by_contra hlong
    rw [hdivided.position_one] at hlong
    have hearly := h.hasty hleft (by omega)
    rw [hexact.raised] at hearly
    obtain ⟨number, hnumber, hposition⟩ := List.mem_map.mp hearly
    have hnumber := List.mem_range.mp hnumber
    have hpos : 0 < number := by
      refine Nat.pos_of_ne_zero ?_
      rintro rfl
      rw [Pacer.position_zero] at hposition
      cases hposition
    have hupper : first.opened.position 1 ≤ 1 :=
      (first.opened.position_mono hpos).trans hposition.le
    have hlower := hexact.increasing 0 1 Nat.one_pos (by omega)
    rw [Pacer.position_zero] at hlower
    exact hlong (hdivided.position_one.mp (by omega))
  · rintro ⟨hfits, hharmless⟩
    have hraised := (h.punctual hharmless).1
    rw [min_eq_left hfits] at hraised
    exact ⟨hraised, fun _ _ => hdivided.position_strict hfits,
      fun _ => hdivided.position_lt hfits⟩

/-- A period with fewer ticks than samples raises one at every tick. -/
theorem raisedAt_of_few (h : PacedWhole first between)
    (hfew : first.opened.ticks.toNat < first.opened.samples.toNat) :
    raisedAt first between = List.range first.opened.ticks.toNat ∧
      (closing first between).before.timing.timer.matched = true := by
  obtain ⟨hraised, hleft⟩ := h.punctual fun _ => h.divided.position_one.mpr hfew.le
  refine ⟨?_, hleft.mpr hfew⟩
  rw [hraised, min_eq_right hfew.le]
  conv_rhs => rw [← List.map_id (List.range _)]
  refine List.map_congr_left fun number hnumber => ?_
  rw [h.divided.position_of_few hfew]
  exact min_eq_left (List.mem_range.mp hnumber).le

/-- A period that was paced exactly leaves no match over. -/
theorem matched_of_exactly (h : PacedWhole first between) (hexact : ExactlyPaced first between) :
    (closing first between).before.timing.timer.matched = false := by
  obtain ⟨hfits, hharmless⟩ := h.exactly_iff.mp hexact
  exact Bool.eq_false_iff.mpr fun hleft =>
    absurd ((h.punctual hharmless).2.mp hleft) (Nat.not_lt.mpr hfits)

end PacedWhole

/-- If one tick passes from each step of a running loop to the next, and all replies that are
applied were computed for the configuration, each whole period takes as many ticks as it is long,
and its samples are raised at their positions, unless it has fewer ticks than samples, or a match is
left over from before that is not due with the first tick.  A period with fewer ticks raises one
sample at every tick and leaves a match over; one that is paced exactly leaves none, and neither is
there one before the first period. -/
theorem exactly_paced_iff (setup : SyncSetup) {before between : List SyncEvent}
    (hvalid : setup.cfg.validate = .ok ())
    (hpaced : OneTickPerStep (start setup) (before ++ .step :: (between ++ [.step])))
    (hcomputed : ∀ transition ∈ (start setup).trace (before ++ [.step]), ∀ reply,
      transition.applied? = some reply → reply.Computed setup.cfg)
    (h : WholePeriod ((start setup).run before) between) :
    let first := (start setup).run before
    let last := (closing first between).before
    let opened := first.opened
    opened.samples = setup.cfg.samplesPerPeriod ∧ opened.Divided ∧
      ticksOf between = opened.ticks.toNat ∧
      setup.cfg.nominalTicks.toNat ≤ opened.ticks.toNat + setup.cfg.nominalTicks.toNat / 250 ∧
      (ExactlyPaced first between ↔ opened.samples.toNat ≤ opened.ticks.toNat ∧
        (first.timing.timer.matched = true → opened.ticks.toNat ≤ opened.samples.toNat)) ∧
      (opened.ticks.toNat < opened.samples.toNat →
        raisedAt first between = List.range opened.ticks.toNat ∧
          last.timing.timer.matched = true) ∧
      (ExactlyPaced first between → last.timing.timer.matched = false) ∧
      ((∀ transition ∈ (start setup).trace before, transition.beginsPeriod = false) →
        first.timing.timer.matched = false) := by
  intro first last opened
  have hadmitted := SyncConfig.admitted_of_validate hvalid
  have hconfigured := configured_run setup hadmitted hcomputed
  rw [run_concat] at hconfigured
  have hruns : (first.step .step).timing.state = .running := h.runs [] List.nil_prefix
  have hgoes : opened.GoesBy setup.cfg := hconfigured.goesBy (by
    have hloop : (((start setup).run before).step .step).timing.state = .running := hruns
    rw [hloop]
    decide)
  have hbefore : OneTickPerStep (start setup) (before ++ [.step] ++ (between ++ [.step])) := by
    simpa using hpaced
  have hcounter := counter_of_opens setup hbefore.of_append h.opens
  have hwhole : PacedWhole first between :=
    h.paced hpaced.after hcounter hgoes (unarmed_of_single setup before)
  refine ⟨hgoes.samples, hgoes.divided, hwhole.ticks, hgoes.corrected, ?_, hwhole.raisedAt_of_few,
    hwhole.matched_of_exactly, fun hnone => (unarmed_run setup hnone).2⟩
  rw [← hgoes.divided.position_one]
  exact hwhole.exactly_iff

/-! ## Two configurations -/

/-- Whether one tick passes before each step, where some ticks may have passed since the last. -/
def countsOne : Option ℕ → List SyncEvent → Bool
  | _, [] => true
  | since?, .step :: events => since?.all (· == 1) && countsOne (some 0) events
  | since?, event :: events => countsOne (since?.map (· + event.ticks)) events

theorem countsOne_cons {since? : Option ℕ} (hstep : event ≠ .step) :
    countsOne since? (event :: events) = countsOne (since?.map (· + event.ticks)) events := by
  cases event with
  | step => exact absurd rfl hstep
  | advance | setGpio | trigger | serve | resetService | setClock | op => rfl

theorem ticksOf_of_countsOne {since : ℕ} {idle later : List SyncEvent}
    (hcounts : countsOne (some since) (idle ++ .step :: later) = true)
    (hidle : SyncEvent.step ∉ idle) : since + ticksOf idle = 1 := by
  induction idle generalizing since with
  | nil =>
    simp only [List.nil_append, countsOne, Bool.and_eq_true] at hcounts
    exact beq_iff_eq.mp hcounts.1
  | cons event idle ih =>
    obtain ⟨hstep, hrest⟩ := not_or.mp (mt List.mem_cons.mpr hidle)
    rw [List.cons_append, countsOne_cons (Ne.symm hstep)] at hcounts
    have hsum : since + event.ticks + ticksOf idle = 1 := ih hcounts hrest
    rw [ticksOf, List.map_cons, List.sum_cons, ← ticksOf]
    omega

theorem oneTickPerStep_of_countsOne {since? : Option ℕ} (bench : SyncBench)
    (hcounts : countsOne since? events = true) : OneTickPerStep bench events := by
  induction events generalizing since? bench with
  | nil =>
    intro earlier between later hsplit
    simp at hsplit
  | cons event events ih =>
    intro earlier between later hsplit hidle hruns
    have hrest : ∃ rest?, countsOne rest? events = true := by
      by_cases hstep : event = .step
      · subst hstep
        rw [countsOne, Bool.and_eq_true] at hcounts
        exact ⟨_, hcounts.2⟩
      · exact ⟨_, (countsOne_cons hstep).symm.trans hcounts⟩
    obtain ⟨rest?, hrest⟩ := hrest
    cases earlier with
    | nil =>
      obtain ⟨rfl, rfl⟩ := List.cons.inj hsplit
      rw [countsOne, Bool.and_eq_true] at hcounts
      exact (Nat.zero_add _).symm.trans (ticksOf_of_countsOne hcounts.2 hidle)
    | cons other earlier =>
      obtain ⟨rfl, rfl⟩ := List.cons.inj hsplit
      exact ih (bench.step event) hrest earlier between later rfl hidle hruns

def rounds (count : ℕ) : List SyncEvent :=
  (List.replicate count [.advance 1, .step]).flatten

/-- A session starts to run, and its first request is answered before the first wrap. -/
def answeredStart (clock : SteppingClock) (nominal : ℕ) : List SyncEvent :=
  [.op (.setState .armed), .op (.setState .running), .step] ++ rounds 1 ++
    [.setClock clock, .trigger] ++ rounds 1 ++ [.serve] ++ rounds (nominal - 3) ++ [.advance 1]

theorem computed_of_single {transitions : List Transition} {single : SyncReply}
    (hsingle : ∀ transition ∈ transitions,
      transition.applied? = none ∨ transition.applied? = some single)
    (hcomputed : single.Computed cfg) : ∀ transition ∈ transitions, ∀ reply,
      transition.applied? = some reply → reply.Computed cfg := by
  intro transition hmem reply happlied
  obtain hnone | hsome := hsingle transition hmem
  · rw [hnone] at happlied
    cases happlied
  · obtain rfl := Option.some.inj (hsome.symm.trans happlied)
    exact hcomputed

def sevenTicks : SyncSetup :=
  .simulated { period := 35, samplesPerPeriod := 3, spinWindow := 0 }

/-- The first period begins with a reply, and its samples follow each other after three ticks and
after two. -/
theorem exactly_paced_iff_seven :
    let before := answeredStart ⟨32, 3⟩ 7
    let between := rounds 6 ++ [.advance 1]
    let first := (start sevenTicks).run before
    sevenTicks.cfg.validate = .ok () ∧
      OneTickPerStep (start sevenTicks) (before ++ .step :: (between ++ [.step])) ∧
      (∀ transition ∈ (start sevenTicks).trace (before ++ [.step]), ∀ reply,
        transition.applied? = some reply → reply.Computed sevenTicks.cfg) ∧
      WholePeriod first between ∧ (Transition.mk first .step).applied?.isSome = true ∧
      ExactlyPaced first between ∧ raisedAt first between = [0, 3, 5] := by
  intro before between first
  have hvalid : sevenTicks.cfg.validate = .ok () := rfl
  have hcounts : countsOne none (before ++ .step :: (between ++ [.step])) = true := by
    decide +kernel
  have hpaced := oneTickPerStep_of_countsOne (start sevenTicks) hcounts
  have hreply : SyncReply.Computed sevenTicks.cfg ⟨7, 2, 1, 70⟩ :=
    ⟨.start sevenTicks.cfg, [], .request 2 35, rfl, by decide +kernel⟩
  have hsingle : ∀ transition ∈ (start sevenTicks).trace (before ++ [.step]),
      transition.applied? = none ∨ transition.applied? = some ⟨7, 2, 1, 70⟩ := by
    decide +kernel
  have hcomputed := computed_of_single hsingle hreply
  have hopen : OpenPeriod first between :=
    openPeriod_of_trace (by decide +kernel) (by decide +kernel)
  have hwhole : WholePeriod first between := ⟨hopen, by decide +kernel⟩
  obtain ⟨-, -, -, -, hiff, -⟩ := exactly_paced_iff sevenTicks hvalid hpaced hcomputed hwhole
  exact ⟨hvalid, hpaced, hcomputed, hwhole, by decide +kernel, hiff.mpr (by decide +kernel),
    by decide +kernel⟩

/-- A bench with a sample for each tick of its nominal period. -/
def sampleEachTick : SyncSetup :=
  .simulated { period := 1250, samplesPerPeriod := 250, spinWindow := 0 }

/-- The trigger comes six tenths of a microsecond late, and the reply takes one tick off the
period.  Its last sample is not raised. -/
theorem exactly_paced_short :
    let before := answeredStart ⟨1247, 603⟩ 250
    let between := rounds 248 ++ [.advance 1]
    let first := (start sampleEachTick).run before
    sampleEachTick.cfg.validate = .ok () ∧
      OneTickPerStep (start sampleEachTick) (before ++ .step :: (between ++ [.step])) ∧
      (∀ transition ∈ (start sampleEachTick).trace (before ++ [.step]), ∀ reply,
        transition.applied? = some reply → reply.Computed sampleEachTick.cfg) ∧
      WholePeriod first between ∧
      first.opened.samples = 250 ∧ (raisedAt first between).length = 249 ∧
      ¬ ExactlyPaced first between := by
  intro before between first
  have hcounts : countsOne none (before ++ .step :: (between ++ [.step])) = true := by
    decide +kernel
  have hreply : SyncReply.Computed sampleEachTick.cfg ⟨249, 0, 249, 2495⟩ :=
    ⟨.start sampleEachTick.cfg, [], .request 2 1850, rfl, by decide +kernel⟩
  have hsingle : ∀ transition ∈ (start sampleEachTick).trace (before ++ [.step]),
      transition.applied? = none ∨ transition.applied? = some ⟨249, 0, 249, 2495⟩ := by
    decide +kernel
  have hperiod : (Transition.mk first .step).beginsPeriod = true ∧
      (∀ transition ∈ (first.step .step).trace between,
        transition.after.timing.state = .running ∧ transition.beginsPeriod = false) ∧
      (closing first between).beginsPeriod = true ∧
      first.opened.samples = 250 ∧ (raisedAt first between).length = 249 := by
    decide +kernel
  obtain ⟨hopens, hcalm, hcloses, hsamples, hlength⟩ := hperiod
  refine ⟨rfl, oneTickPerStep_of_countsOne _ hcounts, computed_of_single hsingle hreply,
    ⟨openPeriod_of_trace hopens hcalm, hcloses⟩, hsamples, hlength, fun hexact => ?_⟩
  rw [hexact.raised, List.length_map, List.length_range, hsamples] at hlength
  exact absurd hlength (by decide)

end SyncBench

end HarvestTestbed
