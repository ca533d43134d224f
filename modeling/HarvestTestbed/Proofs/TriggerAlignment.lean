import HarvestTestbed.Proofs.BoundaryWait

/-!
# The alignment of the trigger

The host waits for period boundaries of its clock.  Whatever it did before, and however the clock was
advanced in between, a wait ends, its deadline is a multiple of the period, and the deadlines grow from
wait to wait, so that no boundary is triggered twice.  A boundary that was missed by more than a period
is given up, and the schedule goes on from the next one.

All of this is said of runs in which no sum leaves the words of clock and deadlines
(`TriggerBench.Fits`).
-/

namespace HarvestTestbed

/-! ## Runs -/

inductive TriggerCall
  | wait
  | resync
  | advance (delta : UInt64)
  deriving DecidableEq, Repr

structure TriggerBench where
  aligner : TriggerAligner
  clock : SteppingClock
  deriving DecidableEq, Repr

namespace TriggerBench

def start (cfg : SyncConfig) (clock : SteppingClock) : TriggerBench :=
  ⟨.new cfg, clock⟩

def answer (bench : TriggerBench) : Alignment :=
  (bench.aligner.wait bench.clock).1

def call (bench : TriggerBench) : TriggerCall → TriggerBench
  | .wait => ⟨(bench.aligner.wait bench.clock).2.1, (bench.aligner.wait bench.clock).2.2⟩
  | .resync => { bench with aligner := bench.aligner.resync }
  | .advance delta => { bench with clock := bench.clock.advance delta }

def run (bench : TriggerBench) (calls : List TriggerCall) : TriggerBench :=
  calls.foldl call bench

/-- No sum of a call leaves the words. -/
def CallFits (bench : TriggerBench) : TriggerCall → Prop
  | .wait => bench.aligner.WaitFits bench.clock
  | .resync => True
  | .advance delta => bench.clock.now.toNat + delta.toNat < UInt64.size

/-- No sum of a run leaves the words. -/
def Fits (bench : TriggerBench) : List TriggerCall → Prop
  | [] => True
  | call :: calls => bench.CallFits call ∧ (bench.call call).Fits calls

theorem fits_append {bench : TriggerBench} {calls more : List TriggerCall} :
    bench.Fits (calls ++ more) ↔ bench.Fits calls ∧ (bench.run calls).Fits more := by
  induction calls generalizing bench with
  | nil => simp [Fits, run]
  | cons call calls ih => simp only [List.cons_append, Fits, ih, and_assoc, run, List.foldl_cons]

theorem run_append (bench : TriggerBench) (calls more : List TriggerCall) :
    bench.run (calls ++ more) = (bench.run calls).run more :=
  List.foldl_append

theorem run_append_cons (bench : TriggerBench) (before : List TriggerCall) (call : TriggerCall)
    (after : List TriggerCall) :
    bench.run (before ++ call :: after) = ((bench.run before).call call).run after :=
  bench.run_append before (call :: after)

variable {bench : TriggerBench} {period step time : ℕ} {deadline late next missed : UInt64}

/-! ### What every call keeps -/

/-- A bench with a period and a clock that moves, whose schedule keeps to the boundaries. -/
structure Ready (period step : ℕ) (bench : TriggerBench) : Prop where
  period_eq : bench.aligner.period.toNat = period
  step_eq : bench.clock.step.toNat = step
  period_pos : 0 < period
  step_pos : 0 < step
  dvd : ∀ deadline ∈ bench.aligner.deadline, period ∣ deadline.toNat

theorem ready_start {cfg : SyncConfig} {clock : SteppingClock} (hperiod : 0 < cfg.period)
    (hstep : 0 < clock.step) : (start cfg clock).Ready cfg.period.toNat clock.step.toNat := by
  have hone : (1 : UInt64) ≤ cfg.period := by
    rw [UInt64.lt_iff_toNat_lt] at hperiod
    exact UInt64.le_iff_toNat_le.mpr hperiod
  constructor
  case period_eq =>
    change (if cfg.period ≤ 1 then (1 : UInt64) else cfg.period).toNat = _
    split_ifs with hle
    · exact congrArg UInt64.toNat (UInt64.le_antisymm hone hle)
    · rfl
  case step_eq => rfl
  case period_pos => exact UInt64.lt_iff_toNat_lt.mp hperiod
  case step_pos => exact UInt64.lt_iff_toNat_lt.mp hstep
  case dvd => exact fun _ hnone => nomatch hnone

/-- A wait that has not missed its boundary reaches it. -/
theorem Ready.reaches (h : bench.Ready period step)
    (hfits : bench.aligner.WaitFits bench.clock) (hmissed : ¬ bench.aligner.Missed bench.clock.now) :
    ∃ late, bench.aligner.Reaches bench.clock late (bench.call .wait).clock ∧
      bench.answer = .aligned (bench.aligner.due bench.clock.now) late ∧
      (bench.call .wait).aligner =
        { bench.aligner with
          deadline := some (bench.aligner.due bench.clock.now + bench.aligner.period) } := by
  obtain ⟨late, after, hreaches⟩ :=
    TriggerAligner.exists_reaches (h.step_eq ▸ h.step_pos) hfits hmissed
  have hwait := hreaches.wait_eq
  have hafter : (bench.call .wait).clock = after := congrArg (fun waited => waited.2.2) hwait
  use late
  exact ⟨hafter.symm ▸ hreaches, congrArg Prod.fst hwait, congrArg (fun waited => waited.2.1) hwait⟩

/-- A wait that has missed its boundary goes on from the next one. -/
theorem call_wait_of_missed (hmissed : bench.aligner.Missed bench.clock.now) :
    bench.answer = .resynced (bench.aligner.nextBoundary bench.clock.now)
        ((bench.clock.now - bench.aligner.due bench.clock.now) / bench.aligner.period) ∧
      bench.call .wait =
        ⟨{ bench.aligner with deadline := some (bench.aligner.nextBoundary bench.clock.now) },
          bench.clock.read.2⟩ := by
  have hwait := TriggerAligner.wait_of_missed hmissed
  constructor
  · exact congrArg Prod.fst hwait
  · rw [call, hwait]

theorem Ready.toNat_nextBoundary (h : bench.Ready period step)
    (hfits : bench.aligner.WaitFits bench.clock)
    (hneeded : bench.aligner.deadline = none ∨ bench.aligner.Missed bench.clock.now) :
    (bench.aligner.nextBoundary bench.clock.now).toNat =
      TriggerAligner.boundaryAfter period bench.clock.now.toNat := by
  have hfits := hfits.boundary hneeded
  have hpos := h.period_pos
  rw [← h.period_eq] at hpos ⊢
  exact TriggerAligner.toNat_nextBoundary hpos hfits

/-- The boundary that is due is the scheduled one, or the next one where nothing is scheduled. -/
theorem Ready.due_cases (h : bench.Ready period step)
    (hfits : bench.aligner.WaitFits bench.clock) :
    bench.aligner.deadline = some (bench.aligner.due bench.clock.now) ∨
      bench.aligner.deadline = none ∧
        (bench.aligner.due bench.clock.now).toNat =
          TriggerAligner.boundaryAfter period bench.clock.now.toNat := by
  cases hdeadline : bench.aligner.deadline with
  | none =>
      right
      have hdue : bench.aligner.due bench.clock.now =
          bench.aligner.nextBoundary bench.clock.now := by
        rw [TriggerAligner.due, hdeadline, Option.getD_none]
      rw [hdue]
      exact ⟨rfl, h.toNat_nextBoundary hfits (.inl hdeadline)⟩
  | some deadline =>
      left
      rw [TriggerAligner.due, hdeadline, Option.getD_some]

theorem Ready.dvd_due (h : bench.Ready period step)
    (hfits : bench.aligner.WaitFits bench.clock) :
    period ∣ (bench.aligner.due bench.clock.now).toNat := by
  obtain hdeadline | ⟨-, hdue⟩ := h.due_cases hfits
  · exact h.dvd _ hdeadline
  · rw [hdue]
    exact Nat.dvd_mul_left _ _

theorem Ready.toNat_next (h : bench.Ready period step)
    (hfits : bench.aligner.WaitFits bench.clock)
    (hmissed : ¬ bench.aligner.Missed bench.clock.now) :
    (bench.aligner.due bench.clock.now + bench.aligner.period).toNat =
      (bench.aligner.due bench.clock.now).toNat + period := by
  rw [← h.period_eq]
  exact toNat_add_of_lt (hfits.next hmissed)

theorem Ready.call (h : bench.Ready period step) {call : TriggerCall}
    (hfits : bench.CallFits call) : (bench.call call).Ready period step := by
  obtain ⟨hperiod, hstep, hperiod_pos, hstep_pos, hdvd⟩ := id h
  cases call with
  | resync => exact ⟨hperiod, hstep, hperiod_pos, hstep_pos, fun _ hnone => nomatch hnone⟩
  | advance delta => exact ⟨hperiod, hstep, hperiod_pos, hstep_pos, hdvd⟩
  | wait =>
      by_cases hmissed : bench.aligner.Missed bench.clock.now
      · rw [(call_wait_of_missed hmissed).2]
        refine ⟨hperiod, hstep, hperiod_pos, hstep_pos, ?_⟩
        rintro _ ⟨⟩
        rw [h.toNat_nextBoundary hfits (.inr hmissed)]
        exact Nat.dvd_mul_left _ _
      · obtain ⟨late, hreaches, -, haligner⟩ := h.reaches hfits hmissed
        refine ⟨?_, hreaches.step_eq ▸ hstep, hperiod_pos, hstep_pos, ?_⟩ <;> rw [haligner]
        · exact hperiod
        · rintro _ ⟨⟩
          rw [h.toNat_next hfits hmissed]
          exact Nat.dvd_add (h.dvd_due hfits) (Nat.dvd_refl period)

theorem Ready.run (h : bench.Ready period step) {calls : List TriggerCall}
    (hfits : bench.Fits calls) : (bench.run calls).Ready period step := by
  induction calls generalizing bench with
  | nil => exact h
  | cons call calls ih => exact ih (h.call hfits.1) hfits.2

/-! ### Boundaries are not triggered twice -/

/-- The clock and the schedule are after a time. -/
structure Beyond (bench : TriggerBench) (time : ℕ) : Prop where
  now : time < bench.clock.now.toNat
  deadline : ∀ deadline ∈ bench.aligner.deadline, time < deadline.toNat

theorem Beyond.lt_due (h : bench.Beyond time) (hready : bench.Ready period step)
    (hfits : bench.aligner.WaitFits bench.clock) :
    time < (bench.aligner.due bench.clock.now).toNat := by
  obtain hdeadline | ⟨-, hdue⟩ := hready.due_cases hfits
  · exact h.deadline _ hdeadline
  · rw [hdue]
    exact h.now.trans (TriggerAligner.lt_boundaryAfter hready.period_pos _)

theorem Beyond.call (h : bench.Beyond time) (hready : bench.Ready period step)
    {call : TriggerCall} (hfits : bench.CallFits call) : (bench.call call).Beyond time := by
  cases call with
  | resync => exact ⟨h.now, fun _ hnone => nomatch hnone⟩
  | advance delta =>
      refine ⟨?_, h.deadline⟩
      have hadvanced : (bench.clock.advance delta).now.toNat =
          bench.clock.now.toNat + delta.toNat :=
        toNat_add_of_lt hfits
      exact h.now.trans_le (hadvanced.symm ▸ Nat.le_add_right _ _)
  | wait =>
      by_cases hmissed : bench.aligner.Missed bench.clock.now
      · rw [(call_wait_of_missed hmissed).2]
        constructor
        · rw [SteppingClock.toNat_now_read hfits.first]
          exact h.now.trans_le (Nat.le_add_right _ _)
        · rintro _ ⟨⟩
          rw [hready.toNat_nextBoundary hfits (.inr hmissed)]
          exact h.now.trans (TriggerAligner.lt_boundaryAfter hready.period_pos _)
      · obtain ⟨late, hreaches, -, haligner⟩ := hready.reaches hfits hmissed
        constructor
        · exact h.now.trans hreaches.passed
        · rw [haligner]
          rintro _ ⟨⟩
          rw [hready.toNat_next hfits hmissed]
          exact (h.lt_due hready hfits).trans_le (Nat.le_add_right _ _)

theorem Beyond.run (h : bench.Beyond time) (hready : bench.Ready period step)
    {calls : List TriggerCall} (hfits : bench.Fits calls) : (bench.run calls).Beyond time := by
  induction calls generalizing bench with
  | nil => exact h
  | cons call calls ih => exact ih (h.call hready hfits.1) (hready.call hfits.1) hfits.2

/-- What a wait that is answered with a deadline has done. -/
structure Triggers (period : ℕ) (bench : TriggerBench) (deadline late : UInt64) : Prop where
  due_eq : bench.aligner.due bench.clock.now = deadline
  reaches : bench.aligner.Reaches bench.clock late (bench.call .wait).clock
  aligner_eq : (bench.call .wait).aligner =
    { bench.aligner with deadline := some (deadline + bench.aligner.period) }
  next_eq : (deadline + bench.aligner.period).toNat = deadline.toNat + period

theorem Ready.triggers (h : bench.Ready period step)
    (hfits : bench.aligner.WaitFits bench.clock) (haligned : bench.answer = .aligned deadline late) :
    bench.Triggers period deadline late := by
  by_cases hmissed : bench.aligner.Missed bench.clock.now
  · rw [(call_wait_of_missed hmissed).1] at haligned
    exact nomatch haligned
  · obtain ⟨reached, hreaches, hanswer, haligner⟩ := h.reaches hfits hmissed
    rw [hanswer] at haligned
    obtain ⟨rfl, rfl⟩ := Alignment.aligned.inj haligned
    exact ⟨rfl, hreaches, haligner, h.toNat_next hfits hmissed⟩

/-- After a trigger everything is beyond its deadline. -/
theorem Triggers.beyond (h : bench.Triggers period deadline late)
    (hready : bench.Ready period step) : (bench.call .wait).Beyond deadline.toNat := by
  have hmoved := h.reaches.moved
  have hstep := hready.step_eq ▸ hready.step_pos
  have hperiod := hready.period_pos
  have hnext := h.next_eq
  rw [h.due_eq] at hmoved
  constructor
  · omega
  · rw [h.aligner_eq]
    rintro _ ⟨⟩
    omega

/-- Advances of the clock leave the schedule as it is. -/
theorem aligner_run_advances {calls : List TriggerCall}
    (hadvances : ∀ call ∈ calls, ∃ delta, call = .advance delta) :
    (bench.run calls).aligner = bench.aligner := by
  induction calls generalizing bench with
  | nil => rfl
  | cons call calls ih =>
      obtain ⟨⟨delta, rfl⟩, hrest⟩ := List.forall_mem_cons.mp hadvances
      exact ih hrest

/-- The boundary after a trigger is due next, unless the schedule is dropped. -/
theorem Triggers.toNat_due_next (h : bench.Triggers period deadline late)
    {between : List TriggerCall}
    (hadvances : ∀ call ∈ between, ∃ delta, call = .advance delta) (time : UInt64) :
    (((bench.call .wait).run between).aligner.due time).toNat = deadline.toNat + period := by
  rw [aligner_run_advances hadvances, h.aligner_eq, TriggerAligner.due, Option.getD_some, h.next_eq]

/-- A trigger is late by the last reading of the clock. -/
theorem Triggers.toNat_lastReading (h : bench.Triggers period deadline late) :
    (bench.call .wait).clock.lastReading.toNat = deadline.toNat + late.toNat := by
  have hmoved := h.reaches.moved
  rw [h.due_eq] at hmoved
  have hstep_le : (bench.call .wait).clock.step ≤ (bench.call .wait).clock.now := by
    rw [UInt64.le_iff_toNat_le, h.reaches.step_eq]
    omega
  rw [SteppingClock.lastReading, UInt64.toNat_sub_of_le _ _ hstep_le, h.reaches.step_eq]
  omega

/-! ### Missed boundaries -/

/-- A boundary is only missed when it was scheduled: the next one after a reading is after it. -/
theorem Ready.missed_iff (h : bench.Ready period step)
    (hfits : bench.aligner.WaitFits bench.clock) :
    bench.aligner.Missed bench.clock.now ↔
      ∃ scheduled, bench.aligner.deadline = some scheduled ∧
        scheduled.toNat + period < bench.clock.now.toNat := by
  rw [TriggerAligner.Missed, h.period_eq]
  obtain hdeadline | ⟨hnone, hdue⟩ := h.due_cases hfits
  · rw [hdeadline]
    simp
  · have hafter := TriggerAligner.lt_boundaryAfter h.period_pos bench.clock.now.toNat
    rw [hdue, hnone]
    constructor
    · omega
    · rintro ⟨scheduled, hsome, -⟩
      exact absurd hsome.symm (Option.some_ne_none scheduled)

theorem Ready.resynced_iff (h : bench.Ready period step)
    (hfits : bench.aligner.WaitFits bench.clock) :
    (∃ next missed, bench.answer = .resynced next missed) ↔
      bench.aligner.Missed bench.clock.now := by
  constructor
  · rintro ⟨next, missed, hresynced⟩
    by_contra hmissed
    obtain ⟨late, -, hanswer, -⟩ := h.reaches hfits hmissed
    rw [hanswer] at hresynced
    exact nomatch hresynced
  · exact fun hmissed => ⟨_, _, (call_wait_of_missed hmissed).1⟩

theorem Ready.answer_ne_stalled (h : bench.Ready period step)
    (hfits : bench.aligner.WaitFits bench.clock) : bench.answer ≠ .stalled := by
  by_cases hmissed : bench.aligner.Missed bench.clock.now
  · rw [(call_wait_of_missed hmissed).1]
    exact nofun
  · obtain ⟨late, -, hanswer, -⟩ := h.reaches hfits hmissed
    rw [hanswer]
    exact nofun

/-! ### What a wait owes -/

/-- What a wait after some calls owes to its reading of the clock and to the waits before it. -/
structure Aligns (start : TriggerBench) (period step : ℕ) (calls : List TriggerCall) : Prop where
  ends : (start.run calls).answer ≠ .stalled
  boundary : ∀ deadline late, (start.run calls).answer = .aligned deadline late →
    period ∣ deadline.toNat
  later : ∀ before after earlier earlierLate deadline late, calls = before ++ .wait :: after →
    (start.run before).answer = .aligned earlier earlierLate →
    (start.run calls).answer = .aligned deadline late → earlier.toNat < deadline.toNat
  next : ∀ before between previous previousLate deadline late, calls = before ++ .wait :: between →
    (∀ call ∈ between, ∃ delta, call = .advance delta) →
    (start.run before).answer = .aligned previous previousLate →
    (start.run calls).answer = .aligned deadline late →
    deadline.toNat = previous.toNat + period
  late : ∀ deadline late, (start.run calls).answer = .aligned deadline late →
    ((start.run calls).call .wait).clock.lastReading.toNat = deadline.toNat + late.toNat
  soon : ∀ deadline late, (start.run calls).answer = .aligned deadline late →
    (start.run calls).clock.now < deadline → late.toNat < step
  resynced_iff : (∃ next missed, (start.run calls).answer = .resynced next missed) ↔
    ∃ scheduled, (start.run calls).aligner.deadline = some scheduled ∧
      scheduled.toNat + period < (start.run calls).clock.now.toNat
  reschedules : ∀ next missed, (start.run calls).answer = .resynced next missed →
    ((start.run calls).call .wait).aligner.deadline = some next ∧
      IsLeast {boundary | period ∣ boundary ∧ (start.run calls).clock.now.toNat < boundary}
        next.toNat

/-- With every period of at least one nanosecond, every spin window and a clock that moves, each wait
after any calls in which no sum leaves the words ends; its deadline is a boundary after all deadlines
before, and the one right after the last if only the clock was advanced since; it is late by the last
reading of the clock, and by less than a step if it started in time; and it gives up a boundary exactly
if that was scheduled and is missed by more than a period, and then goes on from the next one. -/
theorem aligns_start {cfg : SyncConfig} {clock : SteppingClock} (hperiod : 0 < cfg.period)
    (hstep : 0 < clock.step) {calls : List TriggerCall}
    (hfits : (start cfg clock).Fits (calls ++ [.wait])) :
    (start cfg clock).Aligns cfg.period.toNat clock.step.toNat calls := by
  have hstart := ready_start hperiod hstep
  generalize start cfg clock = first at *
  obtain ⟨hcalls, hwait, -⟩ := fits_append.mp hfits
  have hready := hstart.run hcalls
  constructor
  case ends => exact hready.answer_ne_stalled hwait
  case boundary =>
    intro deadline late haligned
    have htriggers := hready.triggers hwait haligned
    exact htriggers.due_eq ▸ hready.dvd_due hwait
  case later =>
    rintro before after earlier earlierLate deadline late rfl hearlier haligned
    obtain ⟨hbefore, hfirst, hafter⟩ := fits_append.mp hcalls
    have hreadyBefore := hstart.run hbefore
    have hbeyond := (hreadyBefore.triggers hfirst hearlier).beyond hreadyBefore
    have hbeyondAfter := hbeyond.run (hreadyBefore.call hfirst) hafter
    rw [run_append_cons] at hready hwait haligned
    exact (hready.triggers hwait haligned).due_eq ▸ hbeyondAfter.lt_due hready hwait
  case next =>
    rintro before between previous previousLate deadline late rfl hadvances hprevious haligned
    obtain ⟨hbefore, hfirst, -⟩ := fits_append.mp hcalls
    have htriggers := (hstart.run hbefore).triggers hfirst hprevious
    rw [run_append_cons] at hready hwait haligned
    rw [← (hready.triggers hwait haligned).due_eq]
    exact htriggers.toNat_due_next hadvances _
  case late => exact fun _ _ haligned => (hready.triggers hwait haligned).toNat_lastReading
  case soon =>
    intro deadline late haligned hearly
    have htriggers := hready.triggers hwait haligned
    rw [UInt64.lt_iff_toNat_lt, ← htriggers.due_eq] at hearly
    exact hready.step_eq ▸ htriggers.reaches.soon hearly
  case resynced_iff => rw [hready.resynced_iff hwait, hready.missed_iff hwait]
  case reschedules =>
    intro next missed hresynced
    have hmissed := (hready.resynced_iff hwait).mp ⟨next, missed, hresynced⟩
    obtain ⟨hanswer, hcall⟩ := call_wait_of_missed hmissed
    rw [hanswer] at hresynced
    obtain ⟨rfl, -⟩ := Alignment.resynced.inj hresynced
    rw [hcall, hready.toNat_nextBoundary hwait (.inr hmissed)]
    exact ⟨rfl, TriggerAligner.isLeast_boundaryAfter hready.period_pos _⟩

/-- The first wait starts at 30, sleeps and spins over the last 50 nanoseconds to 1006.  The next one
starts two periods late and gives up the boundary at 2000, and the last one triggers at 4000. -/
theorem aligns_start_missed :
    let cfg : SyncConfig := { period := 1000, spinWindow := 50 }
    let bench := start cfg ⟨30, 7⟩
    let calls : List TriggerCall := [.wait, .advance 2500, .wait, .advance 200]
    0 < cfg.period ∧ (0 : UInt64) < 7 ∧ bench.Fits (calls ++ [.wait]) ∧
      bench.Aligns 1000 7 calls ∧ bench.answer = .aligned 1000 6 ∧
      (bench.run [.wait, .advance 2500]).answer = .resynced 4000 1 ∧
      (bench.run calls).answer = .aligned 4000 6 := by
  intro cfg bench calls
  have hfits : bench.Fits (calls ++ [.wait]) := by
    have hwait (bench : TriggerBench) (hperiod : 0 < bench.aligner.period.toNat)
        (hnow : bench.clock.now.toNat ≤ 4000)
        (hdeadline : (bench.aligner.deadline.getD 0).toNat ≤ 4000)
        (hlimit : 4000 + 2 * bench.aligner.period.toNat + 2 * bench.clock.step.toNat <
          UInt64.size) : bench.CallFits .wait :=
      TriggerAligner.waitFits_of_le hperiod hnow hdeadline hlimit
    have hadvance (bench : TriggerBench) (delta : UInt64)
        (hsum : bench.clock.now.toNat + delta.toNat < UInt64.size) :
        bench.CallFits (.advance delta) := hsum
    refine ⟨hwait _ ?_ ?_ ?_ ?_, hadvance _ _ ?_, hwait _ ?_ ?_ ?_ ?_, hadvance _ _ ?_,
      hwait _ ?_ ?_ ?_ ?_, trivial⟩
    all_goals decide +kernel
  exact ⟨by decide, by decide, hfits, aligns_start (by decide) (by decide) hfits, by decide +kernel,
    by decide +kernel, by decide +kernel⟩

end TriggerBench

end HarvestTestbed
