import HarvestTestbed.Proofs.ControlLaw

/-!
# A controller that starts again

A reset of the sync controller keeps the boundary that was announced last, so it does not lead back
to a new controller.  The boundary is not read before it is set again, though: a controller that is
not anchored takes the boundary before its next request (`prepare_reset`).  From that request on the
controller and a new one are the same, and so are all their answers.

A request too far from the last one resets the controller on its own before it is answered.  Which
requests do so, and which are only reported, is told by the time since the last request in exact
hundredths of a period (`spacing_eq`), although the controller compares a truncated quotient.
-/

namespace HarvestTestbed

/-- A request carries the timer counter; the host adds the time of its trigger. -/
structure SyncRequest where
  counter : UInt32
  time : UInt64
  deriving DecidableEq, Repr

namespace SyncController

variable {cfg : SyncConfig} {controller fresh : SyncController}

/-! ## Answering requests -/

def history (controller : SyncController) :
    List SyncRequest → List (SyncOutcome × SyncController)
  | [] => []
  | request :: requests =>
      let handled := controller.handleRequest request.counter request.time
      handled :: handled.2.history requests

def answers (controller : SyncController) (requests : List SyncRequest) :
    List (SyncReply × SyncController) :=
  (controller.history requests).map fun handled => (handled.1.reply, handled.2)

/-! ## Starting again -/

/-- The boundary that a reset keeps is replaced by the next request. -/
theorem prepare_reset (controller : SyncController) (time : UInt64) :
    controller.reset.prepare time = (start controller.cfg).prepare time :=
  rfl

theorem prepare_of_restarted {time : UInt64} {delta : ℕ}
    (hrestarted : controller.spacing time = .restarted delta) :
    controller.prepare time = (start controller.cfg).prepare time := by
  rw [prepare, hrestarted]
  rfl

theorem handleRequest_reset (controller : SyncController) (counter : UInt32) (time : UInt64) :
    controller.reset.handleRequest counter time =
      (start controller.cfg).handleRequest counter time := by
  rw [handleRequest, handleRequest, prepare_reset]
  rfl

/-- Only the verdict tells a request that restarts the controller from the first request of a new
one. -/
theorem handleRequest_of_restarted {counter : UInt32} {time : UInt64} {delta : ℕ}
    (hrestarted : controller.spacing time = .restarted delta) :
    let anew := (start controller.cfg).handleRequest counter time
    controller.handleRequest counter time = (⟨anew.1.reply, .restarted delta⟩, anew.2) := by
  rw [handleRequest, handleRequest, prepare_of_restarted hrestarted, hrestarted]

/-! ## The verdict on a request -/

theorem spacing_eq (h : controller.cfg.Admitted) {last : UInt64}
    (hlast : controller.lastRequest = some last) (time : UInt64) :
    controller.spacing time =
      (let delta := time.toNat - last.toNat
       let period := controller.cfg.period.toNat
       if time ≤ last ∨ 2 * period < delta then .restarted delta
       else if 95 * period ≤ 100 * delta ∧ 100 * delta < 105 * period then .regular
       else .irregular delta) := by
  have hpos := h.period_pos
  simp only [spacing, hlast]
  by_cases hnotLater : time ≤ last
  · have hzero : time.toNat - last.toNat = 0 :=
      Nat.sub_eq_zero_of_le (UInt64.le_iff_toNat_le.mp hnotLater)
    rw [if_pos hnotLater, if_pos (.inl hnotLater), hzero]
  · have hwithin : (time.toNat - last.toNat) * 100 / controller.cfg.period.toNat < 95 ∨
        105 ≤ (time.toNat - last.toNat) * 100 / controller.cfg.period.toNat ↔
        ¬ (95 * controller.cfg.period.toNat ≤ 100 * (time.toNat - last.toNat) ∧
          100 * (time.toNat - last.toNat) < 105 * controller.cfg.period.toNat) := by
      rw [Nat.div_lt_iff_lt_mul hpos, Nat.le_div_iff_mul_le hpos]
      omega
    simp only [hnotLater, if_false, false_or, hwithin, ite_not]

/-- The boundary is set as long as a request is on record. -/
def Anchored (controller : SyncController) : Prop :=
  controller.lastRequest ≠ none → controller.anchored = true

theorem anchored_prepare (controller : SyncController) (time : UInt64) :
    (controller.prepare time).anchored = true := by
  rw [prepare]
  split
  all_goals
    dsimp only
    split_ifs with hanchored
    · exact hanchored
    · rfl

theorem Anchored.call (h : controller.Anchored) (call : SyncCall) :
    (controller.call call).2.Anchored := by
  cases call with
  | error raw => exact h
  | request counter time => exact fun _ => controller.anchored_prepare time
  | reset => exact fun hrequest => absurd rfl hrequest

theorem Anchored.after (h : controller.Anchored) (calls : List SyncCall) :
    (controller.after calls).Anchored := by
  induction calls generalizing controller with
  | nil => exact h
  | cons call calls ih => exact ih (h.call call)

/-- A request at an irregular time is handled by the controller as it is. -/
theorem Anchored.handleRequest_of_irregular (h : controller.Anchored) {counter : UInt32}
    {time : UInt64} {delta : ℕ} (hirregular : controller.spacing time = .irregular delta) :
    controller.handleRequest counter time =
      (let noted := { controller with lastRequest := some time }
       let answered := noted.applyError (noted.phaseError counter time)
       (⟨answered.1, .irregular delta⟩, answered.2)) := by
  have hrequest : controller.lastRequest ≠ none := by
    intro hnone
    rw [spacing, hnone] at hirregular
    cases hirregular
  have hprepared : controller.prepare time = { controller with lastRequest := some time } := by
    simp only [prepare, hirregular, h hrequest, if_true]
  rw [handleRequest, hprepared, hirregular]

/-! ## Every controller -/

/-- How a controller starts again, next to a new one of the same configuration, and which requests
it does so for. -/
structure StartsAgain (fresh controller : SyncController) : Prop where
  reset : ∀ requests, controller.reset.history requests = fresh.history requests
  restarted : ∀ request requests delta, controller.spacing request.time = .restarted delta →
    controller.answers (request :: requests) = fresh.answers (request :: requests)
  /-- Of the verdicts only that on the restarting request itself differs. -/
  verdicts : ∀ request requests delta, controller.spacing request.time = .restarted delta →
    (controller.history (request :: requests)).tail = (fresh.history (request :: requests)).tail
  judges : ∀ last time, controller.lastRequest = some last →
    let delta := time.toNat - last.toNat
    let period := controller.cfg.period.toNat
    (controller.spacing time = .restarted delta ↔ time ≤ last ∨ 2 * period < delta) ∧
    (controller.spacing time = .regular ↔ ¬ (time ≤ last ∨ 2 * period < delta) ∧
      95 * period ≤ 100 * delta ∧ 100 * delta < 105 * period) ∧
    (controller.spacing time = .irregular delta ↔ ¬ (time ≤ last ∨ 2 * period < delta) ∧
      ¬ (95 * period ≤ 100 * delta ∧ 100 * delta < 105 * period))
  goesOn : ∀ counter time delta, controller.spacing time = .irregular delta →
    controller.handleRequest counter time =
      (let noted := { controller with lastRequest := some time }
       let answered := noted.applyError (noted.phaseError counter time)
       (⟨answered.1, .irregular delta⟩, answered.2))

/-- After whatever calls, a reset and a request that restarts the controller leave nothing of what
was before them: from then on it answers like a new one. -/
theorem startsAgain_after (hnew : new cfg = .ok fresh) (calls : List SyncCall) :
    fresh.StartsAgain (fresh.after calls) := by
  obtain ⟨hvalid, rfl⟩ := validate_of_new hnew
  have hanchored : (start cfg).Anchored := fun hrequest => absurd rfl hrequest
  have hcfg : ((start cfg).after calls).cfg = cfg := (start cfg).cfg_after calls
  have hadmitted := hcfg.symm ▸ SyncConfig.admitted_of_validate hvalid
  generalize hreached : (start cfg).after calls = controller at hcfg hadmitted
  subst hcfg
  constructor
  case reset =>
    intro requests
    cases requests with
    | nil => rfl
    | cons request requests =>
        rw [history, history, handleRequest_reset]
  case restarted =>
    intro request requests delta hrestarted
    simp only [answers, history, handleRequest_of_restarted hrestarted, List.map_cons]
  case verdicts =>
    intro request requests delta hrestarted
    simp only [history, handleRequest_of_restarted hrestarted, List.tail_cons]
  case judges =>
    intro last time hlast
    have hverdict := spacing_eq hadmitted hlast time
    dsimp only at hverdict ⊢
    rw [hverdict]
    split_ifs with hfar hnear
    · simp [hfar]
    · simp [hfar, hnear]
    · simp [hfar, hnear]
  case goesOn =>
    intro counter time delta hirregular
    exact (hreached ▸ hanchored.after calls).handleRequest_of_irregular hirregular

/-- An error of four tenths of a period, an irregular request 1.1 periods after the first one, and
then a request nearly eight periods later, which restarts the controller, and one more. -/
theorem startsAgain_after_gap :
    let fresh := start {}
    let controller := fresh.after [.request 0 100000000, .error 40000000, .request 7 210000000]
    let requests : List SyncRequest := [⟨200, 1000001000⟩, ⟨20, 1100000000⟩]
    new {} = .ok fresh ∧ fresh.StartsAgain controller ∧
      controller.spacing 1000001000 = .restarted 790001000 ∧
      controller.state ≠ fresh.state ∧ controller.reset ≠ fresh ∧
      controller.answers requests = fresh.answers requests ∧
      (controller.history requests).tail = (fresh.history requests).tail ∧
      controller.spacing 305000000 = .regular ∧
      controller.spacing 304999999 = .irregular 94999999 := by
  intro fresh controller requests
  have hnew : new {} = .ok fresh := rfl
  have hagain := startsAgain_after hnew
    [.request 0 100000000, .error 40000000, .request 7 210000000]
  have hrestarted : controller.spacing 1000001000 = .restarted 790001000 := by decide +kernel
  exact ⟨hnew, hagain, hrestarted, by decide +kernel, by decide +kernel,
    hagain.restarted ⟨200, 1000001000⟩ [⟨20, 1100000000⟩] 790001000 hrestarted,
    hagain.verdicts ⟨200, 1000001000⟩ [⟨20, 1100000000⟩] 790001000 hrestarted,
    by decide +kernel, by decide +kernel⟩

end SyncController

end HarvestTestbed
