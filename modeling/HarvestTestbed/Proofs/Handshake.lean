import Mathlib
import HarvestTestbed.Session.LoopState
import HarvestTestbed.Session.State

/-!
# What one core sees of the session

A loop decides its next state by two things, its own state and the state of the session.  In the
reset state it acknowledges once: it raises its flag in the shared memory and latches that it did,
and the latch holds until the loop finds the session outside of the reset.  Both loops follow these
rules.

The flag and the latch are two records of one acknowledgement, and they can come apart.  The flag is
lowered when a reset is finished but not when it is abandoned, so it may be found raised when the
next reset begins; the latch falls when the loop steps outside of the reset, so it may still hold
when the next reset begins.  The history of a run says which of this has happened, and the invariant
at the end says what flag and latch then are.
-/

namespace HarvestTestbed

/-- The session and one loop, as far as the reset handshake goes. -/
structure Handshake where
  session : SessionState
  loop : LoopState
  /-- Whether the loop holds that it acknowledged. -/
  latched : Bool
  /-- Whether its acknowledgement is raised in the shared memory. -/
  flag : Bool
  deriving DecidableEq, Repr

namespace Handshake

/-- The state of a session decides where a loop goes that is not being reset. -/
def follow : SessionState → LoopState
  | .running => .running
  | .reset => .reset
  | .fault => .fault
  | .idle => .awaitStart
  | .armed => .awaitStart

def stepped (view : Handshake) : Handshake :=
  match view.loop with
  | .reset =>
      if view.session = .reset then
        { view with latched := true, flag := view.flag || !view.latched }
      else { view with loop := .awaitStart, latched := false }
  | .awaitStart => { view with loop := follow view.session }
  | .running => { view with loop := follow view.session }
  | .fault => { view with loop := if view.session = .reset then .reset else .fault }

@[simp]
theorem session_stepped (view : Handshake) : view.stepped.session = view.session := by
  simp only [stepped]
  split
  · split <;> rfl
  all_goals rfl

/-- A loop goes into the reset state only with the session. -/
theorem loop_stepped_ne_reset {view : Handshake} (hsession : view.session ≠ .reset) :
    view.stepped.loop ≠ .reset := by
  obtain ⟨session, loop, latched, flag⟩ := view
  cases loop <;> cases session <;> simp_all [stepped, follow]

/-- What can happen to the session and one loop: whether it was a step of that loop, and whether it
finished a reset. -/
inductive Moves : Handshake → Bool → Bool → Handshake → Prop
  | stay (view : Handshake) : Moves view false false view
  | session (view : Handshake) (next : SessionState)
      (hopen : view.session.canMoveTo next = true) :
      Moves view false false { view with session := next }
  | finish (view : Handshake) (hsession : view.session = .reset) (hflag : view.flag = true) :
      Moves view false true { view with session := .idle, flag := false }
  | step (view : Handshake) : Moves view true false view.stepped
  /-- A running loop stops after a fatal error. -/
  | stop (view : Handshake) (hsession : view.session = .running) (hloop : view.loop = .running) :
      Moves view true false { view with loop := .fault }

/-! ## Two steps in the reset -/

/-- After two steps in the reset, a loop has acknowledged unless it holds that it had before. -/
theorem stepped_stepped {view : Handshake} (hsession : view.session = .reset) :
    view.stepped.stepped =
      { view with loop := .reset, latched := true, flag := view.flag || !view.latched } := by
  obtain ⟨session, loop, latched, flag⟩ := view
  subst hsession
  cases loop <;> simp [stepped, follow]

/-- From then on nothing changes. -/
theorem stepped_eq_self {view : Handshake} (hsession : view.session = .reset)
    (hloop : view.loop = .reset) (hlatched : view.latched = true) : view.stepped = view := by
  obtain ⟨session, loop, latched, flag⟩ := view
  subst hsession hloop hlatched
  simp [stepped]

theorem flag_iterate_stepped {view : Handshake} (hsession : view.session = .reset) (more : Nat) :
    (stepped^[more + 2] view).flag = (view.flag || !view.latched) := by
  have hacked := stepped_stepped hsession
  have hfixed : view.stepped.stepped.stepped = view.stepped.stepped := by
    apply stepped_eq_self
    · simpa using hsession
    · rw [hacked]
    · rw [hacked]
  calc (stepped^[more + 2] view).flag = (stepped^[more] view.stepped.stepped).flag := by
        rw [Function.iterate_add_apply]
        rfl
    _ = view.stepped.stepped.flag := by rw [Function.iterate_fixed hfixed]
    _ = (view.flag || !view.latched) := by rw [hacked]

end Handshake

/-- What has happened to the acknowledgements of one loop. -/
structure AckHistory where
  /-- It acknowledged since the session last entered the reset. -/
  acknowledged : Bool := false
  /-- Its flag was raised already when the session last entered the reset. -/
  stale : Bool := false
  /-- It acknowledged a reset that was finished since, and has not stepped outside of it yet. -/
  unaware : Bool := false
  deriving DecidableEq, Repr

namespace AckHistory

def record (history : AckHistory) (before : Handshake) (own finishes : Bool)
    (after : Handshake) : AckHistory where
  acknowledged :=
    if before.session ≠ .reset ∧ after.session = .reset then false
    else history.acknowledged || (!before.latched && after.latched)
  stale :=
    if before.session ≠ .reset ∧ after.session = .reset then before.flag else history.stale
  unaware :=
    if finishes then before.latched
    else history.unaware && !(own && before.session ≠ .reset)

/-- The loop acknowledged the present reset if its flag says so. -/
def Fresh (history : AckHistory) : Prop :=
  history.stale = true → history.acknowledged = true

instance (history : AckHistory) : Decidable history.Fresh :=
  inferInstanceAs (Decidable (_ → _))

/-- The flag and the latch are what the history makes them. -/
structure Agrees (history : AckHistory) (view : Handshake) : Prop where
  latched_loop : view.latched = true → view.loop = .reset
  flag_eq : view.session = .reset → view.flag = (history.stale || history.acknowledged)
  acknowledged_latched :
    view.session = .reset → history.acknowledged = true → view.latched = true
  unaware_eq : history.unaware = (view.latched && !view.flag)

variable {history : AckHistory} {before after : Handshake} {own finishes : Bool}

theorem Agrees.session (h : history.Agrees before) {next : SessionState}
    (hopen : before.session.canMoveTo next = true) :
    (history.record before false false { before with session := next }).Agrees
      { before with session := next } := by
  have hentered : next = .reset → before.session ≠ .reset := by
    rintro rfl hsession
    rw [hsession] at hopen
    exact Bool.false_ne_true hopen
  refine
    { latched_loop := h.latched_loop
      flag_eq := fun hsession => ?_
      acknowledged_latched := fun hsession hacked => ?_
      unaware_eq := by simp [AckHistory.record, h.unaware_eq] }
  · have hbefore := hentered hsession
    simp_all [AckHistory.record]
  · have hbefore := hentered hsession
    simp_all [AckHistory.record]

theorem Agrees.step (h : history.Agrees before) :
    (history.record before true false before.stepped).Agrees before.stepped := by
  obtain ⟨hlatched, hflag, hacked, hunaware⟩ := h
  obtain ⟨session, loop, latched, flag⟩ := before
  cases loop with
  | reset =>
      by_cases hsession : session = .reset
      · subst hsession
        have hraised : flag = (history.stale || history.acknowledged) := hflag rfl
        refine
          { latched_loop := fun _ => rfl
            flag_eq := fun _ => ?_
            acknowledged_latched := fun _ _ => rfl
            unaware_eq := ?_ }
        · simp [AckHistory.record, Handshake.stepped, hraised, Bool.or_assoc]
        · simp [AckHistory.record, Handshake.stepped, hunaware, Bool.and_comm]
      · exact
          { latched_loop := by simp [Handshake.stepped, hsession]
            flag_eq := by simp [hsession]
            acknowledged_latched := by simp [hsession]
            unaware_eq := by simp [AckHistory.record, Handshake.stepped, hsession] }
  | awaitStart | running | fault =>
      -- outside of the reset a loop holds no acknowledgement
      have hlow : latched = false := by simpa using hlatched
      subst hlow
      exact
        { latched_loop := nofun
          flag_eq := fun hsession => by
            have hreset : session = .reset := hsession
            simp [AckHistory.record, Handshake.stepped, hflag hreset]
          acknowledged_latched := fun hsession hnow => by
            have hreset : session = .reset := hsession
            simp [AckHistory.record, Handshake.stepped] at hnow
            exact hacked hreset hnow
          unaware_eq := by simp [AckHistory.record, Handshake.stepped, hunaware] }

theorem Agrees.record (h : history.Agrees before)
    (hmoves : before.Moves own finishes after) :
    (history.record before own finishes after).Agrees after := by
  cases hmoves with
  | stay =>
      exact
        { latched_loop := h.latched_loop
          flag_eq := fun hsession => by simp [AckHistory.record, h.flag_eq hsession]
          acknowledged_latched := fun hsession hacked => by
            simp [AckHistory.record] at hacked
            exact h.acknowledged_latched hsession hacked
          unaware_eq := by simp [AckHistory.record, h.unaware_eq] }
  | session next hopen => exact h.session hopen
  | finish hsession hraised =>
      exact
        { latched_loop := h.latched_loop
          flag_eq := nofun
          acknowledged_latched := nofun
          unaware_eq := by simp [AckHistory.record] }
  | step => exact h.step
  | stop hsession hrunning =>
      have hlow : before.latched = false := by
        by_contra hlatched
        have hloop := h.latched_loop (by simpa using hlatched)
        rw [hrunning] at hloop
        cases hloop
      exact
        { latched_loop := fun hlatched => absurd hlatched (by simp [hlow])
          flag_eq := fun hreset => absurd hreset (by simp [hsession])
          acknowledged_latched := fun hreset => absurd hreset (by simp [hsession])
          unaware_eq := by simp [AckHistory.record, hsession, hlow] }

/-- In the reset, a raised flag that is fresh means that the loop acknowledged and waits. -/
theorem Agrees.acknowledged_of_flag {view : Handshake} (h : history.Agrees view)
    (hsession : view.session = .reset) (hraised : view.flag = true) (hfresh : history.Fresh) :
    history.acknowledged = true ∧ view.loop = .reset := by
  have hflag := h.flag_eq hsession
  rw [hraised] at hflag
  have hacked : history.acknowledged = true := by
    cases hstale : history.stale with
    | false => simpa [hstale] using hflag.symm
    | true => exact hfresh hstale
  exact ⟨hacked, h.latched_loop (h.acknowledged_latched hsession hacked)⟩

/-! ## Loops at rest -/

/-- Before the session runs, the loop neither runs nor is stopped. -/
def AtRest (view : Handshake) : Prop :=
  view.session = .idle ∨ view.session = .armed → view.loop = .reset ∨ view.loop = .awaitStart

/-- Loops stay at rest if no reset is finished on a stale acknowledgement and none is cut short. -/
theorem Agrees.atRest (h : history.Agrees before) (hrest : AtRest before)
    (hmoves : before.Moves own finishes after)
    (honly : before.session = .reset → after.session = .idle → finishes = true)
    (hfresh : finishes = true → history.Fresh) : AtRest after := by
  cases hmoves with
  | stay => exact hrest
  | session next hopen =>
      intro hnext
      apply hrest
      obtain ⟨session, loop, latched, flag⟩ := before
      simp only at hnext honly hopen ⊢
      obtain rfl | rfl := hnext <;> cases session <;>
        simp_all [SessionState.canMoveTo]
  | finish hsession hraised =>
      intro _
      left
      exact (h.acknowledged_of_flag hsession hraised (hfresh rfl)).2
  | step =>
      intro hsession
      rw [Handshake.session_stepped] at hsession
      obtain ⟨session, loop, latched, flag⟩ := before
      right
      obtain hloop | hloop := hrest hsession <;> obtain rfl | rfl := hsession <;>
        simp_all [Handshake.stepped, Handshake.follow]
  | stop hsession hloop =>
      intro hidle
      simp [hsession] at hidle

end AckHistory

end HarvestTestbed
