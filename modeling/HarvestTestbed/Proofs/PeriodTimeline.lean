import HarvestTestbed.Proofs.FirstSample
import HarvestTestbed.Proofs.InSync

/-!
# Period timestamps and the timer

The timestamps of two consecutive periods differ by the first period if the second begins without a
reply.  If it begins with one they differ by what the host has announced in between, and that is the
time between the two wraps only if the host announced just the first period again.  The timer itself
keeps to the period that it was given, unless the loop was so late to begin it that the counter had
passed its end.
-/

namespace HarvestTestbed

namespace SyncEvent

/-- The ticks that pass with an event. -/
def ticks : SyncEvent → ℕ
  | .advance ticks => ticks
  | _ => 0

end SyncEvent

def Spacing.restarts : Spacing → Bool
  | .restarted _ => true
  | _ => false

namespace SyncBench

/-- The timestamp that was announced with the last period. -/
def announced (bench : SyncBench) : UInt64 :=
  bench.memory.arena.bufferTimestamp

/-- How far the boundary that the host announced last lies ahead of the announced timestamp. -/
def lead (bench : SyncBench) : UInt64 :=
  bench.service.controller.boundary - bench.announced

def ticksOf (events : List SyncEvent) : ℕ :=
  (events.map SyncEvent.ticks).sum

def Transition.wraps (transition : Transition) : ℕ :=
  match transition.event with
  | .advance ticks => transition.before.timing.timer.wraps ticks
  | _ => 0

def Transition.answer? (transition : Transition) : Option SyncOutcome :=
  match transition.event with
  | .serve => (transition.before.service.serve transition.before.memory).1
  | _ => none

/-- The length of the period that the service announces at a transition. -/
def Transition.announcedTicks (transition : Transition) : UInt64 :=
  match transition.answer? with
  | some outcome => outcome.reply.syncInterval.toUInt64
  | none => 0

/-- Whether the service takes the timing core for restarted. -/
def Transition.restartsHost (transition : Transition) : Bool :=
  match transition.answer? with
  | some outcome => outcome.spacing.restarts
  | none => false

/-- Whether a period begins with a reply. -/
def Transition.appliesReply (transition : Transition) : Bool :=
  transition.after.timing.stats.repliesApplied ==
    transition.before.timing.stats.repliesApplied + 1

def wrapsIn (bench : SyncBench) (events : List SyncEvent) : ℕ :=
  ((bench.trace events).map Transition.wraps).sum

/-- The ticks of the periods that the service announces in a run. -/
def announcedIn (bench : SyncBench) (events : List SyncEvent) : UInt64 :=
  ((bench.trace events).map Transition.announcedTicks).sum

/-- The ticks from the wrap that is latched at `first` to the one that is latched after a step and
some more events.  The counter shows how many ticks ago the last wrap was. -/
def ticksBetween (first : SyncBench) (between : List SyncEvent) : ℕ :=
  first.timing.timer.counter + ticksOf between -
    ((first.step .step).run between).timing.timer.counter

/-- The second of two steps with some events in between. -/
def closing (first : SyncBench) (between : List SyncEvent) : Transition :=
  ⟨(first.step .step).run between, .step⟩

/-- By how much the announced timestamps of two steps differ. -/
def timestampsBetween (first : SyncBench) (between : List SyncEvent) : UInt64 :=
  (closing first between).after.announced - (first.step .step).announced

/-- Two steps with some events in between begin consecutive periods.  The loop runs all the time,
and the timer wraps only once. -/
structure Consecutive (first : SyncBench) (between : List SyncEvent) : Prop where
  opens : (Transition.mk first .step).beginsPeriod = true
  runs : ∀ earlier, earlier <+: between →
    ((first.step .step).run earlier).timing.state = .running
  quiet : ∀ transition ∈ (first.step .step).trace between, transition.beginsPeriod = false
  single : (first.step .step).wrapsIn between ≤ 1
  closes : (closing first between).beginsPeriod = true

/-- What the timestamps of two consecutive periods have to do with the timer. -/
structure PeriodTimestamps (tick : UInt64) (first : SyncBench) (between : List SyncEvent) :
    Prop where
  /-- The timer runs for the period, unless that was over when the loop began it. -/
  ticks : ticksBetween first between =
    max (first.step .step).timing.periodTicks.toNat (first.timing.timer.counter + 1)
  /-- Without a reply the timestamp moves by the period. -/
  elapsed : (closing first between).appliesReply = false →
    timestampsBetween first between = (first.step .step).timing.periodTicks.toUInt64 * tick
  /-- With a reply it moves to the last boundary that the host has announced. -/
  replied : (closing first between).appliesReply = true →
    (∀ transition ∈ (first.step .step).trace between, transition.restartsHost = false) →
    timestampsBetween first between =
      (first.step .step).lead + (first.step .step).announcedIn between * tick
  level : (Transition.mk first .step).appliesReply = true → (first.step .step).lead = 0
  /-- So the two agree without a reply, and with one if the host has announced just that period. -/
  matches_iff : first.timing.timer.counter < (first.step .step).timing.periodTicks.toNat →
    (∀ transition ∈ (first.step .step).trace between, transition.restartsHost = false) →
    (timestampsBetween first between = UInt64.ofNat (ticksBetween first between) * tick ↔
      (closing first between).appliesReply = false ∨
        (first.step .step).lead + (first.step .step).announcedIn between * tick =
          UInt64.ofNat (ticksBetween first between) * tick)

end SyncBench

/-! ## Within a period -/

/-- A moment of the period that was opened before, some ticks and at most one wrap later. -/
structure Timeline.Elapsed (opened present : Timeline) (ticks wraps : ℕ) : Prop where
  same : present = { opened with counter := present.counter, wrapped := present.wrapped }
  short : wraps = 0 → present.wrapped = false ∧ present.counter = opened.counter + ticks ∧
    max opened.period (present.counter + 1) = max opened.period (opened.counter + 1)
  long : wraps = 1 → present.wrapped = true ∧
    opened.counter + ticks = max opened.period (opened.counter + 1) + present.counter

namespace Timeline.Elapsed

variable {opened present : Timeline} {ticks wraps : ℕ}

theorem opening (hwrapped : opened.wrapped = false) : Elapsed opened opened 0 0 where
  same := rfl
  short _ := ⟨hwrapped, rfl, rfl⟩
  long := nofun

theorem period (h : Elapsed opened present ticks wraps) : present.period = opened.period := by
  rw [h.same]

theorem advance {loop : TimingLoop SimulatedTimer} (h : Elapsed opened loop.timeline ticks wraps)
    (more : ℕ) :
    Elapsed opened { loop with timer := loop.timer.advance more }.timeline (ticks + more)
      (wraps + loop.timer.wraps more) := by
  have hperiod : loop.timer.period = opened.period := h.period
  have hsame : { loop with timer := loop.timer.advance more }.timeline =
      { loop.timeline with
        counter := (loop.timer.advance more).counter
        wrapped := (loop.timer.advance more).wrapped } := by
    simp only [TimingLoop.timeline, SimulatedTimer.period_advance]
  rw [hsame]
  constructor
  case same =>
    rw [h.same]
  case short =>
    intro hnone
    have hstill : loop.timer.wraps more = 0 := by omega
    obtain ⟨hcount, hwrapped, hbound⟩ := SimulatedTimer.advance_of_wraps_zero hstill
    obtain ⟨hlow, hcounter, hnext⟩ := h.short (by omega)
    have hcounter : loop.timer.counter = opened.counter + ticks := hcounter
    have hnext : max opened.period (loop.timer.counter + 1) =
        max opened.period (opened.counter + 1) := hnext
    rw [hperiod] at hbound
    refine ⟨hwrapped.trans hlow, ?_, ?_⟩ <;> simp only [hcount] <;> omega
  case long =>
    intro hone
    obtain hbefore | hnow : wraps = 0 ∨ wraps = 1 := by omega
    · have hwraps : loop.timer.wraps more = 1 := by omega
      obtain ⟨hwrapped, hcount⟩ := SimulatedTimer.advance_of_wraps_one hwraps
      obtain ⟨-, hcounter, hnext⟩ := h.short hbefore
      have hcounter : loop.timer.counter = opened.counter + ticks := hcounter
      have hnext : max opened.period (loop.timer.counter + 1) =
          max opened.period (opened.counter + 1) := hnext
      rw [hperiod] at hcount
      refine ⟨hwrapped, ?_⟩
      simp only
      omega
    · have hstill : loop.timer.wraps more = 0 := by omega
      obtain ⟨hcount, hwrapped, -⟩ := SimulatedTimer.advance_of_wraps_zero hstill
      obtain ⟨hhigh, htotal⟩ := h.long hnow
      have htotal : opened.counter + ticks =
          max opened.period (opened.counter + 1) + loop.timer.counter := htotal
      refine ⟨hwrapped.trans hhigh, ?_⟩
      simp only [hcount]
      omega

end Timeline.Elapsed

namespace SyncBench

variable {cfg : SyncConfig} {bench : SyncBench} {event : SyncEvent}

theorem wrapsIn_concat (bench : SyncBench) (events : List SyncEvent) (event : SyncEvent) :
    bench.wrapsIn (events ++ [event]) =
      bench.wrapsIn events + (Transition.mk (bench.run events) event).wraps := by
  simp [wrapsIn, trace_concat]

theorem announcedIn_concat (bench : SyncBench) (events : List SyncEvent) (event : SyncEvent) :
    bench.announcedIn (events ++ [event]) =
      bench.announcedIn events + (Transition.mk (bench.run events) event).announcedTicks := by
  simp [announcedIn, trace_concat]

/-- A step within a period leaves the timeline alone. -/
theorem timeline_step (h : InSync cfg bench) (hloop : bench.timing.state = .running)
    (hnext : (bench.step .step).timing.state = .running)
    (hquiet : (Transition.mk bench .step).beginsPeriod = false) :
    (bench.step .step).timing.timeline = bench.timing.timeline := by
  obtain ⟨served, hstepped⟩ := h.stepped hloop hnext
  obtain ⟨hperiod, -⟩ := (TimingLoop.raises_step hloop hnext).1.flags
  have hlow : bench.timing.timer.wrapped = false := hperiod.symm.trans hquiet
  obtain ⟨hwrapped, -⟩ | ⟨-, hsame⟩ := hstepped.timer
  · rw [hlow] at hwrapped
    cases hwrapped
  · exact hsame.timeline.trans hstepped.timeline

/-- A step that begins a period turns the timeline, with a reply only if that names the last
boundary that the host has announced. -/
theorem turn_step (h : InSync cfg bench)
    (hbegins : (Transition.mk bench .step).beginsPeriod = true) :
    ∃ reply?, (bench.step .step).timing.timeline = bench.timing.timeline.turn cfg.tick reply? ∧
      (∀ reply, reply? = some reply →
        reply.nextTimestamp = bench.service.controller.boundary) ∧
      (bench.step .step).announced = (bench.step .step).timing.periodTimestamp := by
  obtain ⟨hloop, hnext, hwrapped⟩ := TimingLoop.beginsPeriod_eq_true hbegins
  obtain ⟨served, hstepped⟩ := h.stepped hloop hnext
  obtain ⟨-, hturns⟩ | ⟨hlow, -⟩ := hstepped.timer
  · have htick : served.cfg = cfg := hstepped.cfg.trans h.loopCfg
    refine ⟨served.nextReply, ?_, hstepped.exchange.kept hstepped.read, hturns.announced⟩
    rw [hturns.timeline, hstepped.timeline, htick]
  · have hhigh : bench.timing.timer.wrapped = true := hwrapped
    rw [hlow] at hhigh
    cases hhigh

theorem appliesReply_of_turn {tick : UInt64} {reply? : Option SyncReply}
    (hturn : (bench.step .step).timing.timeline = bench.timing.timeline.turn tick reply?) :
    (Transition.mk bench .step).appliesReply = reply?.isSome := by
  have happlied : (bench.step .step).timing.stats.repliesApplied =
      bench.timing.stats.repliesApplied + reply?.isSome.toNat :=
    (congrArg Timeline.applied hturn).trans (Timeline.applied_turn _ _ _)
  simp only [Transition.appliesReply, Transition.after, happlied]
  cases reply? <;> simp

/-- The boundary moves with the periods that the host announces. -/
theorem boundary_step (h : InSync cfg bench) (hanchored : bench.service.controller.anchored = true)
    (hstays : staysInSync event = true)
    (hcarries : (Transition.mk bench event).restartsHost = false) :
    (bench.step event).service.controller.anchored = true ∧
      (bench.step event).service.controller.boundary = bench.service.controller.boundary +
        (Transition.mk bench event).announcedTicks * cfg.tick := by
  cases event with
  | serve =>
      have hcfg := h.hostCfg
      have hserved : (bench.step .serve).service = (bench.service.serve bench.memory).2.1 := rfl
      rw [hserved]
      simp only [Transition.restartsHost, Transition.answer?] at hcarries
      simp only [Transition.announcedTicks, Transition.answer?]
      obtain ⟨counter, time, hanswer, hcontroller⟩ | ⟨hanswer, hcontroller, -⟩ :=
        bench.service.serve_cases bench.memory
      · rw [hanswer] at hcarries ⊢
        rw [hcontroller]
        have hspacing : ∀ delta, bench.service.controller.spacing time ≠ .restarted delta := by
          intro delta hrestarted
          have hverdict : (bench.service.controller.spacing time).restarts = false := hcarries
          rw [hrestarted] at hverdict
          cases hverdict
        have hmoved := SyncController.boundary_handleRequest hanchored counter hspacing
        rw [hcfg] at hmoved
        exact ⟨(bench.service.controller.anchored_handleRequest counter time).1, hmoved⟩
      · rw [hanswer, hcontroller]
        exact ⟨hanchored, by simp⟩
  | trigger =>
      obtain ⟨hcontroller, -, -⟩ := bench.service.trigger_frame bench.memory
      have hkept : (bench.step .trigger).service.controller = bench.service.controller :=
        hcontroller
      rw [hkept]
      exact ⟨hanchored, by simp [Transition.announcedTicks, Transition.answer?]⟩
  | resetService => cases hstays
  | step | advance | setGpio | setClock | op =>
      exact ⟨hanchored, by simp [Transition.announcedTicks, Transition.answer?, step, mapTimer]⟩

variable {opened : SyncBench}

/-- Within a period the timer counts on, and the timeline stands still. -/
theorem elapsed_run (h : InSync cfg opened) (hwrapped : opened.timing.timer.wrapped = false)
    {events : List SyncEvent} (hstays : ∀ event ∈ events, staysInSync event = true)
    (hruns : ∀ earlier, earlier <+: events → (opened.run earlier).timing.state = .running)
    (hquiet : ∀ transition ∈ opened.trace events, transition.beginsPeriod = false) :
    opened.timing.timeline.Elapsed (opened.run events).timing.timeline (ticksOf events)
      (opened.wrapsIn events) := by
  induction events using List.reverseRecOn with
  | nil => exact .opening hwrapped
  | append_singleton events event ih =>
      rw [trace_concat] at hquiet
      have hbefore := ih (fun event hmem => hstays event (List.mem_append_left _ hmem))
        (fun earlier hearlier => hruns earlier (hearlier.trans (List.prefix_append _ _)))
        (fun transition hmem => hquiet transition (List.mem_append_left _ hmem))
      have hlast := hquiet ⟨opened.run events, event⟩ (by simp)
      have hticks : ticksOf (events ++ [event]) = ticksOf events + event.ticks := by
        simp [ticksOf]
      rw [hticks, wrapsIn_concat, run_append]
      cases event with
      | advance ticks => exact hbefore.advance ticks
      | step =>
          have hsync := h.run fun event hmem => hstays event (List.mem_append_left _ hmem)
          have hloop := hruns events (List.prefix_append events [.step])
          have hnext := hruns (events ++ [.step]) (List.prefix_refl _)
          rw [run_append] at hnext
          have hsame : ((opened.run events).run [.step]).timing.timeline = _ :=
            timeline_step hsync hloop hnext hlast
          rw [hsame]
          exact hbefore
      | setGpio | trigger | serve | resetService | setClock | op => exact hbefore

theorem boundary_run (h : InSync cfg opened) (hanchored : opened.service.controller.anchored = true)
    {events : List SyncEvent} (hstays : ∀ event ∈ events, staysInSync event = true)
    (hcarries : ∀ transition ∈ opened.trace events, transition.restartsHost = false) :
    (opened.run events).service.controller.anchored = true ∧
      (opened.run events).service.controller.boundary =
        opened.service.controller.boundary + opened.announcedIn events * cfg.tick := by
  induction events using List.reverseRecOn with
  | nil => exact ⟨hanchored, by simp [announcedIn, trace, run]⟩
  | append_singleton events event ih =>
      rw [trace_concat] at hcarries
      have hbefore := fun event hmem => hstays event (List.mem_append_left _ hmem)
      obtain ⟨hstill, hboundary⟩ := ih hbefore
        fun transition hmem => hcarries transition (List.mem_append_left _ hmem)
      obtain ⟨hanchored, hmoved⟩ := boundary_step (h.run hbefore) hstill
        (hstays event (by simp)) (hcarries ⟨opened.run events, event⟩ (by simp))
      rw [run_append, announcedIn_concat]
      refine ⟨hanchored, ?_⟩
      have hlast : ((opened.run events).run [event]).service.controller.boundary = _ := hmoved
      rw [hlast, hboundary, UInt64.add_mul, UInt64.add_assoc]

namespace Consecutive

variable {first : SyncBench} {between : List SyncEvent}

/-- The period lasts as long as it was announced, unless its beginning was handled later than
that. -/
theorem ticksBetween_eq (h : Consecutive first between) (hsync : InSync cfg first)
    (hstays : ∀ event ∈ between, staysInSync event = true) :
    let opened := first.step .step
    ticksBetween first between =
        max opened.timing.periodTicks.toNat (first.timing.timer.counter + 1) ∧
      (opened.run between).timing.timeline =
        { opened.timing.timeline with
          counter := (opened.run between).timing.timer.counter
          wrapped := (opened.run between).timing.timer.wrapped } := by
  intro opened
  have hopened : InSync cfg opened := hsync.step_loop
  obtain ⟨reply?, hturn, -, -⟩ := turn_step hsync h.opens
  have hlow : opened.timing.timer.wrapped = false := by
    have hwrapped : opened.timing.timeline.wrapped =
        (first.timing.timeline.turn cfg.tick reply?).wrapped := by rw [hturn]
    refine hwrapped.trans ?_
    cases reply? <;> rfl
  have hcounter : opened.timing.timer.counter = first.timing.timer.counter := by
    have hkept : opened.timing.timeline.counter =
        (first.timing.timeline.turn cfg.tick reply?).counter := by rw [hturn]
    refine hkept.trans ?_
    cases reply? <;> rfl
  have hperiod : opened.timing.timer.period = max opened.timing.periodTicks.toNat 1 := by
    have hruns : opened.timing.state = .running := h.runs [] List.nil_prefix
    refine hopened.period ?_
    rw [hruns]
    decide
  have helapsed := elapsed_run hopened hlow hstays h.runs h.quiet
  have hone : opened.wrapsIn between = 1 := by
    obtain ⟨-, -, hwrapped⟩ := TimingLoop.beginsPeriod_eq_true h.closes
    have hhigh : (opened.run between).timing.timer.wrapped = true := hwrapped
    obtain hnone | hone := Nat.le_one_iff_eq_zero_or_eq_one.mp h.single
    · have hshort : (opened.run between).timing.timer.wrapped = false :=
        (helapsed.short hnone).1
      rw [hhigh] at hshort
      cases hshort
    · exact hone
  have htotal : opened.timing.timer.counter + ticksOf between =
      max opened.timing.timer.period (opened.timing.timer.counter + 1) +
        (opened.run between).timing.timer.counter := (helapsed.long hone).2
  refine ⟨?_, helapsed.same⟩
  rw [hcounter, hperiod] at htotal
  have hbetween : ticksBetween first between = first.timing.timer.counter + ticksOf between -
      (opened.run between).timing.timer.counter := rfl
  rw [hbetween]
  omega

/-- A period that begins with a reply is announced with the last boundary of the host. -/
theorem lead_eq_zero (h : Consecutive first between) (hsync : InSync cfg first)
    (happlies : (Transition.mk first .step).appliesReply = true) :
    (first.step .step).lead = 0 := by
  obtain ⟨reply?, hturn, hnamed, hannounced⟩ := turn_step hsync h.opens
  have hreplied := (appliesReply_of_turn hturn).symm.trans happlies
  obtain ⟨reply, rfl⟩ := Option.isSome_iff_exists.mp hreplied
  have hopened : (first.step .step).announced = reply.nextTimestamp :=
    hannounced.trans (congrArg Timeline.timestamp hturn)
  have hboundary : (first.step .step).service.controller.boundary = reply.nextTimestamp :=
    (hnamed reply rfl).symm
  rw [lead, hopened, hboundary]
  exact UInt64.sub_self _

/-- The two ways to a timestamp. -/
theorem timestampsBetween_eq (h : Consecutive first between) (hsync : InSync cfg first)
    (hstays : ∀ event ∈ between, staysInSync event = true)
    (happlied : 0 < (first.step .step).timing.stats.repliesApplied) :
    let opened := first.step .step
    ((closing first between).appliesReply = false →
        timestampsBetween first between = opened.timing.periodTicks.toUInt64 * cfg.tick) ∧
      ((closing first between).appliesReply = true →
        (∀ transition ∈ opened.trace between, transition.restartsHost = false) →
        timestampsBetween first between =
          opened.lead + opened.announcedIn between * cfg.tick) := by
  intro opened
  have hopened : InSync cfg opened := hsync.step_loop
  obtain ⟨-, -, -, hopening⟩ := turn_step hsync h.opens
  obtain ⟨reply?, hturn, hnamed, hclosing⟩ := turn_step (hopened.run hstays) h.closes
  have hreplied : (closing first between).appliesReply = reply?.isSome :=
    appliesReply_of_turn hturn
  have hsame := (h.ticksBetween_eq hsync hstays).2
  have hstill : (opened.run between).timing.periodTimestamp = opened.announced :=
    (congrArg Timeline.timestamp hsame).trans hopening.symm
  have hticks : (opened.run between).timing.periodTicks = opened.timing.periodTicks :=
    congrArg Timeline.ticks hsame
  have hclosed : (closing first between).after.announced =
      ((opened.run between).timing.timeline.turn cfg.tick reply?).timestamp :=
    hclosing.trans (congrArg Timeline.timestamp hturn)
  rw [timestampsBetween, hclosed, hreplied]
  cases reply? with
  | none =>
      refine ⟨fun _ => ?_, nofun⟩
      have helapsed : ((opened.run between).timing.timeline.turn cfg.tick none).timestamp =
          (opened.run between).timing.periodTimestamp +
            (opened.run between).timing.periodTicks.toUInt64 * cfg.tick := rfl
      rw [helapsed, hstill, hticks, UInt64.add_comm]
      exact UInt64.add_sub_cancel _ _
  | some reply =>
      refine ⟨nofun, fun _ hcarries => ?_⟩
      have hnext : ((opened.run between).timing.timeline.turn cfg.tick (some reply)).timestamp =
          (opened.run between).service.controller.boundary := hnamed reply rfl
      have hanchored := hopened.anchored (.inr (.inr happlied))
      obtain ⟨-, hboundary⟩ := boundary_run hopened hanchored hstays hcarries
      rw [hnext, hboundary, lead, UInt64.sub_eq_add_neg, UInt64.sub_eq_add_neg, UInt64.add_assoc,
        UInt64.add_assoc, UInt64.add_comm (-_)]

end Consecutive

/-- Once a reply has been applied, the timestamps of consecutive periods differ by what the host has
announced in between if the second period begins with a reply, and by the first period otherwise. -/
theorem period_timestamps {setup : SyncSetup} {clock : SteppingClock}
    (hnew : SyncService.new setup.cfg clock = .ok setup.service) {before between : List SyncEvent}
    (hstays : ∀ event ∈ before ++ .step :: between, staysInSync event = true)
    (h : Consecutive ((start setup).run before) between)
    (happlied : 0 < (((start setup).run before).step .step).timing.stats.repliesApplied) :
    PeriodTimestamps setup.cfg.tick ((start setup).run before) between := by
  have hbetween : ∀ event ∈ between, staysInSync event = true := fun event hmem =>
    hstays event (List.mem_append_right _ (List.mem_cons_of_mem _ hmem))
  have hsync : InSync setup.cfg ((start setup).run before) :=
    (InSync.start hnew).run fun event hmem => hstays event (List.mem_append_left _ hmem)
  obtain ⟨hticks, -⟩ := h.ticksBetween_eq hsync hbetween
  obtain ⟨helapsed, hreplied⟩ := h.timestampsBetween_eq hsync hbetween happlied
  refine ⟨hticks, helapsed, hreplied, h.lead_eq_zero hsync, fun htimely hcarries => ?_⟩
  have hperiod : ticksBetween ((start setup).run before) between =
      (((start setup).run before).step .step).timing.periodTicks.toNat :=
    hticks.trans (Nat.max_eq_left htimely)
  cases happlies : (closing ((start setup).run before) between).appliesReply with
  | false =>
      rw [helapsed happlies, hperiod, UInt64.ofNat_uInt32ToNat]
      exact iff_of_true rfl (.inl rfl)
  | true =>
      rw [hreplied happlies hcarries]
      simp

/-! ## Two sessions -/

def shortPeriod : SyncSetup :=
  .simulated { period := 5000, samplesPerPeriod := 10, spinWindow := 0 }

def startup : List SyncEvent :=
  [.op (.setState .armed), .op (.setState .running), .step, .step]

/-- A period in which the host raises its trigger and answers the request. -/
def exchange : List SyncEvent :=
  [.trigger, .step, .serve, .step, .advance 1000]

/-- Two periods that both begin with a reply; nothing is corrected, and the timestamps match. -/
theorem period_timestamps_regular :
    Consecutive ((start shortPeriod).run (startup ++ exchange)) exchange ∧
      PeriodTimestamps shortPeriod.cfg.tick ((start shortPeriod).run (startup ++ exchange))
        exchange ∧
      (closing ((start shortPeriod).run (startup ++ exchange)) exchange).appliesReply = true ∧
      timestampsBetween ((start shortPeriod).run (startup ++ exchange)) exchange = 1000 * 5 := by
  have hruns : ∀ earlier ∈ exchange.inits,
      ((((start shortPeriod).run (startup ++ exchange)).step .step).run earlier).timing.state =
        .running := by
    decide +kernel
  have h : Consecutive ((start shortPeriod).run (startup ++ exchange)) exchange :=
    { opens := by decide +kernel
      runs := fun earlier hearlier => hruns earlier ((List.mem_inits earlier _).mpr hearlier)
      quiet := by decide +kernel
      single := by decide +kernel
      closes := by decide +kernel }
  have hvalid : shortPeriod.cfg.validate = .ok () := by decide +kernel
  have hnew : SyncService.new shortPeriod.cfg { now := 0, step := 0 } =
      .ok shortPeriod.service := by
    rw [SyncService.new, SyncController.new, hvalid]
    rfl
  have hstays : ∀ event ∈ startup ++ exchange ++ .step :: exchange,
      staysInSync event = true := by decide +kernel
  exact ⟨h, period_timestamps hnew hstays h (by decide +kernel), by decide +kernel,
    by decide +kernel⟩

/-- The answer to a request of the first period comes after the wrap.  The loop has gone on without
it and applies it at the next wrap: the second period and the third have the same timestamp. -/
theorem period_timestamps_late :
    let before := startup ++ exchange ++ [.step, .trigger, .step, .advance 1000]
    let between := [.serve, .step, .advance 1000]
    let first := (start shortPeriod).run before
    0 < first.timing.stats.repliesApplied ∧
      (Transition.mk first .step).beginsPeriod = true ∧
      (closing first between).beginsPeriod = true ∧
      (∀ transition ∈ (first.step .step).trace between, transition.beginsPeriod = false) ∧
      (start shortPeriod).wrapsIn (before ++ .step :: between) =
        (closing first between).after.timing.stats.periods ∧
      ticksBetween first between = 1000 ∧
      (first.step .step).announced = 15000 ∧
      (closing first between).after.announced = 15000 := by
  decide +kernel

end SyncBench

end HarvestTestbed
