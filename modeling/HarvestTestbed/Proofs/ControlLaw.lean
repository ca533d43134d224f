import Mathlib
import HarvestTestbed.Sync.Controller

/-!
# The bounds of the control law

Whatever errors the sync controller is told and whatever requests it answers, each of its replies
stays near the nominal period: the correction is limited, the period is divided among its samples
without a rest, and the error on record is the raw one up to a whole period.  The boundaries that
the replies announce count the announced ticks from the last request that set the timeline anew.
-/

namespace HarvestTestbed

/-! ## Validated configurations -/

/-- What a validated configuration promises about its numbers. -/
structure SyncConfig.Admitted (cfg : SyncConfig) : Prop where
  tick_pos : 0 < cfg.tick.toNat
  /-- A nominal period is a whole number of ticks. -/
  nominal_mul_tick : cfg.nominalTicks.toNat * cfg.tick.toNat = cfg.period.toNat
  nominal_le : cfg.nominalTicks.toNat ≤ 2147483647
  samples_pos : 0 < cfg.samplesPerPeriod.toNat
  samples_le : cfg.samplesPerPeriod.toNat ≤ cfg.nominalTicks.toNat

namespace SyncConfig

theorem admitted_of_validate {cfg : SyncConfig} (hvalid : cfg.validate = .ok ()) :
    cfg.Admitted := by
  rw [validate] at hvalid
  split at hvalid
  · cases hvalid
  rename_i hpositive
  split at hvalid
  · cases hvalid
  rename_i hticks
  split at hvalid
  · cases hvalid
  rename_i hsamples
  obtain ⟨htick, -⟩ := not_or.mp hpositive
  obtain ⟨hdivides, hfew⟩ := not_or.mp hticks
  obtain ⟨hsome, hfit⟩ := not_or.mp hsamples
  have htick : 0 < cfg.tick.toNat := by
    rw [← UInt64.toNat_inj, UInt64.toNat_zero] at htick
    omega
  have hdivides : cfg.period.toNat % cfg.tick.toNat = 0 := by
    have hmod := UInt64.toNat_inj.mpr (not_not.mp hdivides)
    rwa [UInt64.toNat_mod, UInt64.toNat_zero] at hmod
  have hfew : cfg.period.toNat / cfg.tick.toNat ≤ 2147483647 := by
    have hle := UInt64.le_iff_toNat_le.mp (UInt64.not_lt.mp hfew)
    rwa [UInt64.toNat_div] at hle
  have hnominal : cfg.nominalTicks.toNat = cfg.period.toNat / cfg.tick.toNat := by
    rw [nominalTicks, toNat_clampWord32, max_eq_left htick]
    exact min_eq_left (hfew.trans (by decide))
  exact
    { tick_pos := htick
      nominal_mul_tick := by
        rw [hnominal]
        exact Nat.div_mul_cancel (Nat.dvd_of_mod_eq_zero hdivides)
      nominal_le := hnominal ▸ hfew
      samples_pos := by
        rw [← UInt32.toNat_inj, UInt32.toNat_zero] at hsome
        omega
      samples_le := UInt32.le_iff_toNat_le.mp (UInt32.not_lt.mp hfit) }

/-- A nominal period has at least one tick. -/
theorem Admitted.nominal_pos {cfg : SyncConfig} (h : cfg.Admitted) :
    0 < cfg.nominalTicks.toNat :=
  h.samples_pos.trans_le h.samples_le

/-- A nominal period has a length. -/
theorem Admitted.period_pos {cfg : SyncConfig} (h : cfg.Admitted) : 0 < cfg.period.toNat := by
  rw [← h.nominal_mul_tick]
  exact Nat.mul_pos h.nominal_pos h.tick_pos

end SyncConfig

theorem wrapInt64_natCast {value : ℕ} (hvalue : value < 0x8000000000000000) :
    wrapInt64 value = value :=
  wrapInt64_eq_self (by omega) (by omega)

theorem wrapInt64_natCast_sub {left right : ℕ} (hleft : left < 0x8000000000000000)
    (hright : right < 0x8000000000000000) : wrapInt64 (left - right) = left - right :=
  wrapInt64_eq_self (by omega) (by omega)

/-! ## Folding an error -/

theorem foldError_eq {period : ℤ} (hpositive : 0 ≤ period) (error : ℤ) :
    foldError error period =
      if error < -(period / 2) then error + period
      else if period / 2 < error then error - period
      else error := by
  rw [foldError, Int.neg_tdiv, Int.tdiv_eq_ediv_of_nonneg hpositive]

/-- Folding moves an error by whole periods only. -/
theorem foldError_modEq (error period : ℤ) : foldError error period ≡ error [ZMOD period] := by
  rw [foldError]
  split
  · exact Int.add_modEq_right
  · split
    · exact (Int.modEq_sub_modulus_iff.mpr rfl).symm
    · rfl

/-- An error of at most one and a half periods is folded into half a period, and no other one. -/
theorem abs_foldError_le_iff {period : ℤ} (hpositive : 0 < period) (error : ℤ) :
    2 * |foldError error period| ≤ period ↔ 2 * |error| ≤ 3 * period := by
  rw [foldError_eq hpositive.le]
  grind

/-! ## One reply -/

/-- What a reply keeps to, whatever the raw error that it answers, with the state that the
controller is left in. -/
structure SyncReply.Bounded (reply : SyncReply) (cfg : SyncConfig) (raw : ℤ) (state : SyncState) :
    Prop where
  correction : |state.correction| ≤ (cfg.nominalTicks.toNat / 250 : ℕ)
  interval : (reply.syncInterval.toNat : ℤ) = cfg.nominalTicks.toNat + state.correction
  interval_pos : 1 ≤ reply.syncInterval.toNat
  /-- The samples of the period and the ticks spread over them make up the period. -/
  samples : reply.sampleInterval.toNat * cfg.samplesPerPeriod.toNat + reply.compensation.toNat =
    reply.syncInterval.toNat
  compensation : reply.compensation.toNat < cfg.samplesPerPeriod.toNat
  congruent : state.errorNow ≡ raw [ZMOD cfg.period.toNat]
  folded : 2 * |state.errorNow| ≤ cfg.period.toNat ↔ 2 * |raw| ≤ 3 * cfg.period.toNat

namespace SyncController

variable {cfg : SyncConfig} {controller : SyncController}

/-- Only a validated configuration makes a controller. -/
theorem validate_of_new (hnew : new cfg = .ok controller) :
    cfg.validate = .ok () ∧ start cfg = controller := by
  rw [new] at hnew
  cases hvalid : cfg.validate with
  | error fault => simp [hvalid, bind, Except.bind] at hnew
  | ok => simpa [hvalid, bind, Except.bind, pure, Except.pure] using hnew

theorem abs_correctionFor_le (controller : SyncController) (error sum : ℤ) :
    |controller.correctionFor error sum| ≤ (controller.nominalTicks.toNat / 250 : ℕ) := by
  have hlimit : controller.correctionLimit = (controller.nominalTicks.toNat / 250 : ℕ) :=
    Int.tdiv_eq_ediv_of_nonneg (Int.natCast_nonneg _)
  have hnonneg : (0 : ℤ) ≤ (controller.nominalTicks.toNat / 250 : ℕ) := Int.natCast_nonneg _
  rw [correctionFor, hlimit, abs_le]
  exact ⟨le_max_left _ _, max_le (by omega) (min_le_right _ _)⟩

theorem abs_correction_applyError (controller : SyncController) (raw : ℤ) :
    |(controller.applyError raw).2.state.correction| ≤
      (controller.cfg.nominalTicks.toNat / 250 : ℕ) :=
  controller.abs_correctionFor_le _ _

/-- The corrected period is a positive number of ticks that fits its word. -/
theorem toNat_syncInterval_applyError (h : controller.cfg.Admitted) (raw : ℤ) :
    ((controller.applyError raw).1.syncInterval.toNat : ℤ) =
        controller.cfg.nominalTicks.toNat + (controller.applyError raw).2.state.correction ∧
      1 ≤ (controller.applyError raw).1.syncInterval.toNat := by
  have hinterval : (controller.applyError raw).1.syncInterval =
      UInt32.ofNat (controller.cfg.nominalTicks.toNat +
        (controller.applyError raw).2.state.correction).toNat := rfl
  have hpos := h.nominal_pos
  have hle := h.nominal_le
  obtain ⟨hlower, hupper⟩ := abs_le.mp (controller.abs_correction_applyError raw)
  rw [hinterval, UInt32.toNat_ofNat_of_lt' (by rw [UInt32.size]; omega)]
  omega

theorem errorNow_applyError (controller : SyncController) (raw : ℤ) :
    (controller.applyError raw).2.state.errorNow =
      foldError raw (wrapInt64 controller.cfg.period.toNat) := by
  simp only [applyError]

theorem bounded_applyError (controller : SyncController) (h : controller.cfg.Admitted)
    (hperiod : controller.cfg.period.toNat < 0x8000000000000000) (raw : ℤ) :
    (controller.applyError raw).1.Bounded controller.cfg raw
      (controller.applyError raw).2.state := by
  obtain ⟨hinterval, hpos⟩ := toNat_syncInterval_applyError h raw
  have hfolded : (controller.applyError raw).2.state.errorNow =
      foldError raw controller.cfg.period.toNat := by
    rw [errorNow_applyError, wrapInt64_natCast hperiod]
  have hperiod_pos : (0 : ℤ) < controller.cfg.period.toNat := by exact_mod_cast h.period_pos
  have hsample : (controller.applyError raw).1.sampleInterval.toNat =
      (controller.applyError raw).1.syncInterval.toNat /
        controller.cfg.samplesPerPeriod.toNat := UInt32.toNat_div _ _
  have hrest : (controller.applyError raw).1.compensation.toNat =
      (controller.applyError raw).1.syncInterval.toNat %
        controller.cfg.samplesPerPeriod.toNat := UInt32.toNat_mod _ _
  exact
    { correction := controller.abs_correction_applyError raw
      interval := hinterval
      interval_pos := hpos
      samples := by rw [hsample, hrest, Nat.div_add_mod']
      compensation := by
        rw [hrest]
        exact Nat.mod_lt _ h.samples_pos
      congruent := by
        rw [hfolded]
        exact foldError_modEq raw _
      folded := by
        rw [hfolded]
        exact abs_foldError_le_iff hperiod_pos raw }

/-- The raw error of a request is the exact distance between the two phases, as long as that of the
timer has a signed reading. -/
theorem phaseError_eq (controller : SyncController) (hperiod_pos : 0 < controller.cfg.period.toNat)
    (hperiod : controller.cfg.period.toNat < 0x8000000000000000) (counter : UInt32) (time : UInt64)
    (hphase : counter.toNat * controller.cfg.period.toNat /
      max controller.state.previousPeriod.toNat 1 < 0x8000000000000000) :
    controller.phaseError counter time =
      ((counter.toNat * controller.cfg.period.toNat /
        max controller.state.previousPeriod.toNat 1 : ℕ) : ℤ) -
          (time.toNat % controller.cfg.period.toNat : ℕ) := by
  have hhost : time.toNat % controller.cfg.period.toNat < 0x8000000000000000 :=
    (Nat.mod_lt _ hperiod_pos).trans hperiod
  simp only [phaseError, timerPhase, UInt64.toNat_mod]
  rw [wrapInt64_natCast hphase, wrapInt64_natCast hhost, wrapInt64_natCast_sub hphase hhost]

/-- Beyond that the difference of the two readings comes back from the other end of the range. -/
example : (start { period := 2 ^ 62, tick := 2 ^ 32, samplesPerPeriod := 1 }).phaseError
    (2 ^ 31) 1 = 2 ^ 63 - 1 := by
  decide +kernel

/-- A reply announces the boundary that lies its interval after the last one. -/
theorem toNat_nextTimestamp_applyError (controller : SyncController) (raw : ℤ)
    (hfits : controller.boundary.toNat + controller.cfg.tick.toNat *
      (controller.applyError raw).1.syncInterval.toNat < UInt64.size) :
    (controller.applyError raw).1.nextTimestamp.toNat = controller.boundary.toNat +
      controller.cfg.tick.toNat * (controller.applyError raw).1.syncInterval.toNat := by
  have hnext : (controller.applyError raw).1.nextTimestamp = controller.boundary +
      (controller.applyError raw).1.syncInterval.toUInt64 * controller.cfg.tick := rfl
  rw [UInt64.size] at hfits
  rw [hnext, UInt64.toNat_add, UInt64.toNat_mul, UInt32.toNat_toUInt64, Nat.mul_comm,
    Nat.mod_eq_of_lt (by omega : controller.cfg.tick.toNat * _ < _), Nat.mod_eq_of_lt hfits]

end SyncController

/-! ## Whole histories -/

inductive SyncCall
  | error (raw : ℤ)
  | request (counter : UInt32) (time : UInt64)
  | reset
  deriving DecidableEq, Repr

namespace SyncController

def call (controller : SyncController) : SyncCall → Option SyncReply × SyncController
  | .error raw => (some (controller.applyError raw).1, (controller.applyError raw).2)
  | .request counter time =>
      let handled := controller.handleRequest counter time
      (some handled.1.reply, handled.2)
  | .reset => (none, controller.reset)

def after (controller : SyncController) (calls : List SyncCall) : SyncController :=
  calls.foldl (fun controller call => (controller.call call).2) controller

def replies (controller : SyncController) : List SyncCall → List SyncReply
  | [] => []
  | call :: calls => (controller.call call).1.toList ++ (controller.call call).2.replies calls

/-- The raw error that a call is about. -/
def rawError (controller : SyncController) : SyncCall → ℤ
  | .error raw => raw
  | .request counter time => (controller.prepare time).phaseError counter time
  | .reset => 0

/-- Whether a call sets the timeline anew: a request does if it is the first one, or if it restarts
the controller. -/
def anchors (controller : SyncController) : SyncCall → Bool
  | .request _ time =>
      match controller.spacing time with
      | .restarted _ => true
      | _ => !controller.anchored
  | _ => false

def continues (controller : SyncController) : List SyncCall → Bool
  | [] => true
  | call :: calls => !controller.anchors call && (controller.call call).2.continues calls

variable {cfg : SyncConfig} {controller : SyncController}

@[simp]
theorem cfg_prepare (controller : SyncController) (time : UInt64) :
    (controller.prepare time).cfg = controller.cfg := by
  rw [prepare]
  split <;> simp only <;> split <;> rfl

/-- A request that does not set the timeline anew leaves the boundary alone. -/
theorem boundary_prepare (controller : SyncController) (counter : UInt32) (time : UInt64) :
    (controller.prepare time).boundary =
      if controller.anchors (.request counter time) then time - time % controller.cfg.period
      else controller.boundary := by
  rw [prepare, anchors]
  cases controller.spacing time with
  | restarted delta => rfl
  | regular | irregular delta =>
      cases controller.anchored <;> simp

/-- A request that sets the timeline anew puts it on the period boundary before it. -/
theorem toNat_boundary_prepare (controller : SyncController) {counter : UInt32} {time : UInt64}
    (hanchors : controller.anchors (.request counter time) = true) :
    (controller.prepare time).boundary.toNat =
      time.toNat - time.toNat % controller.cfg.period.toNat := by
  have hle : time % controller.cfg.period ≤ time := by
    rw [UInt64.le_iff_toNat_le, UInt64.toNat_mod]
    exact Nat.mod_le _ _
  rw [controller.boundary_prepare counter time, if_pos hanchors, UInt64.toNat_sub_of_le _ _ hle,
    UInt64.toNat_mod]

@[simp]
theorem cfg_call (controller : SyncController) (call : SyncCall) :
    (controller.call call).2.cfg = controller.cfg := by
  cases call with
  | error raw => rfl
  | request counter time => exact controller.cfg_prepare time
  | reset => rfl

theorem cfg_after (controller : SyncController) (calls : List SyncCall) :
    (controller.after calls).cfg = controller.cfg := by
  induction calls generalizing controller with
  | nil => rfl
  | cons call calls ih => exact (ih _).trans (controller.cfg_call call)

theorem bounded_call (h : controller.cfg.Admitted)
    (hperiod : controller.cfg.period.toNat < 0x8000000000000000) {call : SyncCall}
    {reply : SyncReply} (hreply : (controller.call call).1 = some reply) :
    reply.Bounded controller.cfg (controller.rawError call) (controller.call call).2.state := by
  cases call with
  | error raw =>
      obtain rfl := Option.some.inj hreply
      exact controller.bounded_applyError h hperiod raw
  | request counter time =>
      obtain rfl := Option.some.inj hreply
      have hkept := controller.cfg_prepare time
      have hbounded := (controller.prepare time).bounded_applyError (hkept ▸ h) (hkept ▸ hperiod)
        (controller.rawError (.request counter time))
      rwa [hkept] at hbounded
  | reset => cases hreply

/-- The boundary of the controller is the one announced last. -/
theorem boundary_call (controller : SyncController) (call : SyncCall) :
    (controller.call call).2.boundary =
      ((controller.call call).1.map SyncReply.nextTimestamp).getD controller.boundary := by
  cases call <;> rfl

theorem toNat_nextTimestamp_call {call : SyncCall} {reply : SyncReply}
    (hgoes : controller.anchors call = false) (hreply : (controller.call call).1 = some reply)
    (hfits : controller.boundary.toNat + controller.cfg.tick.toNat * reply.syncInterval.toNat <
      UInt64.size) :
    reply.nextTimestamp.toNat =
      controller.boundary.toNat + controller.cfg.tick.toNat * reply.syncInterval.toNat := by
  cases call with
  | error raw =>
      obtain rfl := Option.some.inj hreply
      exact controller.toNat_nextTimestamp_applyError raw hfits
  | request counter time =>
      obtain rfl := Option.some.inj hreply
      have hkept := controller.cfg_prepare time
      have hboundary := controller.boundary_prepare counter time
      rw [hgoes, if_neg Bool.false_ne_true] at hboundary
      have hnext := (controller.prepare time).toNat_nextTimestamp_applyError
        (controller.rawError (.request counter time))
      rw [hkept, hboundary] at hnext
      exact hnext hfits
  | reset => cases hreply

end SyncController

/-! ## Timelines -/

/-- The ticks that some replies announce together. -/
def SyncReply.ticksOf (replies : List SyncReply) : ℕ :=
  (replies.map fun reply => reply.syncInterval.toNat).sum

/-- The timestamps of some replies count the ticks announced since a boundary, in nanoseconds, and
so they increase. -/
structure SyncReply.Timeline (boundary tick : ℕ) (replies : List SyncReply) : Prop where
  counted : ∀ earlier reply later, replies = earlier ++ reply :: later →
    reply.nextTimestamp.toNat = boundary + tick * SyncReply.ticksOf (earlier ++ [reply])
  increasing :
    (boundary :: replies.map fun reply => reply.nextTimestamp.toNat).Pairwise (· < ·)

namespace SyncReply.Timeline

variable {boundary tick : ℕ} {reply : SyncReply} {replies : List SyncReply}

theorem nil : Timeline boundary tick [] where
  counted _ _ _ hsplit := by simp at hsplit
  increasing := List.pairwise_singleton _ _

/-- A timeline goes on from the boundary that its first reply announces. -/
theorem cons (h : Timeline reply.nextTimestamp.toNat tick replies)
    (hnext : reply.nextTimestamp.toNat = boundary + tick * reply.syncInterval.toNat)
    (hlater : boundary < reply.nextTimestamp.toNat) :
    Timeline boundary tick (reply :: replies) where
  counted earlier other later hsplit := by
    cases earlier with
    | nil =>
        obtain ⟨rfl, -⟩ := List.cons.inj hsplit
        simpa [SyncReply.ticksOf] using hnext
    | cons first earlier =>
        obtain ⟨rfl, hrest⟩ := List.cons.inj hsplit
        rw [h.counted earlier other later hrest, hnext]
        simp [SyncReply.ticksOf, Nat.mul_add, Nat.add_assoc]
  increasing := by
    rw [List.map_cons, List.pairwise_cons]
    refine ⟨fun time htime => ?_, h.increasing⟩
    obtain rfl | hmem := List.mem_cons.mp htime
    · exact hlater
    · exact hlater.trans ((List.pairwise_cons.mp h.increasing).1 time hmem)

end SyncReply.Timeline

namespace SyncController

variable {cfg : SyncConfig} {controller : SyncController}

/-- As long as no request sets the timeline anew, the replies count on from the boundary announced
before. -/
theorem timeline_replies (controller : SyncController) (calls : List SyncCall)
    (h : controller.cfg.Admitted) (hperiod : controller.cfg.period.toNat < 0x8000000000000000)
    (hgoes : controller.continues calls = true)
    (hfits : controller.boundary.toNat +
      controller.cfg.tick.toNat * SyncReply.ticksOf (controller.replies calls) < UInt64.size) :
    SyncReply.Timeline controller.boundary.toNat controller.cfg.tick.toNat
      (controller.replies calls) := by
  induction calls generalizing controller with
  | nil => exact .nil
  | cons call calls ih =>
      simp only [continues, Bool.and_eq_true, Bool.not_eq_true'] at hgoes
      obtain ⟨hcall, hcalls⟩ := hgoes
      have hkept := controller.cfg_call call
      have hboundary := controller.boundary_call call
      have ih := ih (controller.call call).2
      rw [hkept] at ih
      have ih := ih h hperiod hcalls
      rw [replies] at hfits ⊢
      cases hreply : (controller.call call).1 with
      | none =>
          rw [hreply] at hboundary hfits
          rw [show (controller.call call).2.boundary = controller.boundary from hboundary] at ih
          exact ih hfits
      | some reply =>
          rw [hreply] at hboundary hfits
          rw [show (controller.call call).2.boundary = reply.nextTimestamp from hboundary] at ih
          have hsum : SyncReply.ticksOf
              ((some reply).toList ++ (controller.call call).2.replies calls) =
                reply.syncInterval.toNat +
                  SyncReply.ticksOf ((controller.call call).2.replies calls) := by
            simp [SyncReply.ticksOf]
          rw [hsum, Nat.mul_add] at hfits
          have hnext := toNat_nextTimestamp_call hcall hreply (by omega)
          have hinterval := (bounded_call h hperiod hreply).interval_pos
          have hpos := Nat.mul_pos h.tick_pos hinterval
          exact (ih (by omega)).cons hnext (by omega)

/-- Every reply of a validated controller keeps to its bounds, after whatever calls.  The raw error
of a request is the distance between the phases of the timer and of the clock, unless the counter is
so large that the phase of the timer has no signed reading.  From a request on that sets the
timeline anew, the replies count the announced ticks from the period boundary before the request,
until another request does so, for as long as the count fits a word. -/
theorem replies_bounded (hnew : new cfg = .ok controller)
    (hperiod : cfg.period.toNat < 0x8000000000000000) (calls : List SyncCall) :
    let reached := controller.after calls
    (∀ call reply, (reached.call call).1 = some reply →
      reply.Bounded cfg (reached.rawError call) (reached.call call).2.state) ∧
    (∀ counter time,
      let previous := (reached.prepare time).state.previousPeriod.toNat
      let timerPhase := counter.toNat * cfg.period.toNat / max previous 1
      let hostPhase := time.toNat % cfg.period.toNat
      timerPhase < 0x8000000000000000 →
        reached.rawError (.request counter time) = (timerPhase : ℤ) - hostPhase) ∧
    ∀ counter time more, reached.anchors (.request counter time) = true →
      (reached.call (.request counter time)).2.continues more = true →
      let replies := reached.replies (.request counter time :: more)
      let boundary := time.toNat - time.toNat % cfg.period.toNat
      boundary + cfg.tick.toNat * SyncReply.ticksOf replies < UInt64.size →
        SyncReply.Timeline boundary cfg.tick.toNat replies := by
  obtain ⟨hvalid, rfl⟩ := validate_of_new hnew
  intro reached
  have hcfg : reached.cfg = cfg := (start cfg).cfg_after calls
  have hadmitted := SyncConfig.admitted_of_validate hvalid
  have hkept : ∀ time, (reached.prepare time).cfg = cfg := fun time =>
    (reached.cfg_prepare time).trans hcfg
  refine ⟨fun call reply hreply => ?_, fun counter time => ?_,
    fun counter time more hanchors hgoes => ?_⟩
  · have hbounded := bounded_call (hcfg ▸ hadmitted) (hcfg ▸ hperiod) hreply
    rwa [hcfg] at hbounded
  · have hkept := hkept time
    have hexact := (reached.prepare time).phaseError_eq (hkept ▸ hadmitted.period_pos)
      (hkept ▸ hperiod) counter time
    rwa [hkept] at hexact
  · intro replies boundary hfits
    have hkept := hkept time
    have hboundary : (reached.prepare time).boundary.toNat = boundary := by
      rw [reached.toNat_boundary_prepare hanchors, hcfg]
    have htimeline := (reached.prepare time).timeline_replies
      (.error (reached.rawError (.request counter time)) :: more) (hkept ▸ hadmitted)
      (hkept ▸ hperiod) hgoes
    rw [hkept, hboundary] at htimeline
    exact htimeline hfits

/-- An error of six tenths of a period, a reset, a request that sets the timeline anew, and two
errors, the second of them after another reset.  For a trigger seven nanoseconds later the timer is
behind by as much. -/
theorem replies_bounded_default :
    let controller := start {}
    let calls := [.error (-60000000), .reset]
    let more := [.error 12345, .reset, .error 40000000]
    new {} = .ok controller ∧ (SyncConfig.period {}).toNat < 0x8000000000000000 ∧
      (controller.applyError (-60000000)).1.Bounded {} (-60000000)
        (controller.applyError (-60000000)).2.state ∧
      (controller.after calls).rawError (.request 200 500001007) = -7 ∧
      SyncReply.Timeline 500000000 5
        ((controller.after calls).replies (.request 200 500001000 :: more)) ∧
      (controller.after calls).replies (.request 200 500001000 :: more) =
        [⟨20000000, 2000, 0, 600000000⟩, ⟨20000028, 2000, 28, 700000140⟩,
          ⟨20080000, 2008, 0, 800400140⟩] := by
  intro controller calls more
  have hnew : new {} = .ok controller := rfl
  have hperiod : (SyncConfig.period {}).toNat < 0x8000000000000000 := by decide
  exact ⟨hnew, hperiod,
    (replies_bounded hnew hperiod []).1 (.error (-60000000)) _ rfl,
    ((replies_bounded hnew hperiod calls).2.1 200 500001007 (by decide +kernel)).trans
      (by decide +kernel),
    (replies_bounded hnew hperiod calls).2.2 200 500001000 more (by decide +kernel)
      (by decide +kernel) (by decide +kernel), by decide +kernel⟩

end SyncController

end HarvestTestbed
