import Mathlib.Data.List.Induction
import HarvestTestbed.Harvester
import HarvestTestbed.Proofs.RoundCounter

/-!
# The envelope of the harvester

Whatever is measured, the setpoint of the harvester stays within the configured range, and what a
tick hands on is what was measured, except that no current is harvested while the open-circuit
voltage is measured.  The measurement windows are told by the number of the tick: every tracking
algorithm but the constant voltage counts its ticks by the position within the interval, which is
the number of ticks since the last reset modulo the length of the interval (`numbered_observe`).

A reset leads back to the state at the start of a session, so a run of calls is the run of the ticks
since its last reset (`run_eq_observe`), and every invariant needs to be shown for ticks only.
-/

namespace HarvestTestbed

/-! ## Accepted parameters -/

namespace HarvesterConfig

variable {cfg : HarvesterConfig}

/-- What a validated configuration promises about its numbers. -/
structure Admitted (cfg : HarvesterConfig) : Prop where
  min_le_max : cfg.voltageMin ≤ cfg.voltageMax
  interval_pos : 0 < cfg.interval.toNat
  /-- A measurement of the open-circuit voltage leaves a tick of the interval to harvest in. -/
  duration_lt : cfg.algorithm = .fractionalOpenCircuit → cfg.duration.toNat < cfg.interval.toNat
  ratio_le : cfg.openCircuitRatio.toNat ≤ 256

theorem admitted_of_validate (hvalid : cfg.validate = .ok ()) : cfg.Admitted := by
  cases hcanary : checkCanary cfg.canary with
  | error fault =>
      simp only [validate, hcanary] at hvalid
      cases hvalid
  | ok =>
      simp only [validate, hcanary] at hvalid
      change (if _ then _ else _) = _ at hvalid
      split_ifs at hvalid with hrange hinterval hmeasurement hratio
      exact
        { min_le_max := UInt32.not_lt.mp hrange
          interval_pos := Nat.pos_of_ne_zero fun hzero => hinterval (UInt32.toNat_inj.mp hzero)
          duration_lt := fun halgorithm => UInt32.lt_iff_toNat_lt.mp
            (UInt32.not_le.mp fun hlong => hmeasurement ⟨halgorithm, hlong⟩)
          ratio_le := UInt32.le_iff_toNat_le.mp (UInt32.not_lt.mp hratio) }

/-- The lower bound of the voltage wins if the bounds should cross. -/
theorem toNat_clamp (cfg : HarvesterConfig) (voltage : UInt32) :
    (cfg.clamp voltage).toNat =
      max cfg.voltageMin.toNat (min voltage.toNat cfg.voltageMax.toNat) := by
  rw [clamp, UInt32.toNat_max, UInt32.toNat_min]

structure InRange (cfg : HarvesterConfig) (voltage : UInt32) : Prop where
  low : cfg.voltageMin ≤ voltage
  high : voltage ≤ cfg.voltageMax

theorem Admitted.inRange_clamp (h : cfg.Admitted) (voltage : UInt32) :
    cfg.InRange (cfg.clamp voltage) := by
  have hrange := UInt32.le_iff_toNat_le.mp h.min_le_max
  constructor <;> rw [UInt32.le_iff_toNat_le, toNat_clamp] <;> omega

theorem Admitted.inRange_max (h : cfg.Admitted) : cfg.InRange cfg.voltageMax :=
  ⟨h.min_le_max, UInt32.le_iff_toNat_le.mpr le_rfl⟩

end HarvesterConfig

/-! ## One tick -/

namespace Harvester

variable {cfg : HarvesterConfig} {harvester : Harvester} {number : ℕ}

/-- Only a validated configuration makes a harvester. -/
theorem validate_of_new (hnew : new cfg = .ok harvester) :
    cfg.validate = .ok () ∧ start cfg = harvester := by
  rw [new] at hnew
  cases hvalid : cfg.validate with
  | error fault => simp [hvalid, bind, Except.bind] at hnew
  | ok => simpa [hvalid, bind, Except.bind, pure, Except.pure] using hnew

theorem cfg_step (harvester : Harvester) (voltage current : UInt32) :
    (harvester.step voltage current).2.cfg = harvester.cfg := by
  rw [step]
  split
  case h_1 => rfl
  case h_2 =>
    simp only [stepOpenCircuit]
    split_ifs <;> rfl
  case h_3 =>
    simp only [stepPerturbObserve]
    split <;> rfl

/-- Tracking counts its ticks whatever it measures. -/
theorem position_step (htracks : harvester.cfg.algorithm ≠ .constantVoltage)
    (voltage current : UInt32) :
    (harvester.step voltage current).2.position = harvester.advance.position := by
  rw [step]
  split
  case h_1 hconstant => exact absurd hconstant htracks
  case h_2 =>
    simp only [stepOpenCircuit]
    split_ifs <;> rfl
  case h_3 =>
    simp only [stepPerturbObserve]
    split <;> rfl

/-- One tick keeps the setpoint within the voltages of the transducer. -/
theorem inRange_step (h : harvester.cfg.Admitted) (hrange : harvester.cfg.InRange harvester.setpoint)
    (voltage current : UInt32) :
    harvester.cfg.InRange (harvester.step voltage current).2.setpoint := by
  rw [step]
  split
  case h_1 => exact hrange
  case h_2 =>
    simp only [stepOpenCircuit]
    split_ifs
    · exact h.inRange_clamp _
    · exact h.inRange_max
    · exact h.inRange_max
    · exact hrange
  case h_3 =>
    simp only [stepPerturbObserve]
    split
    · exact h.inRange_clamp _
    · exact hrange

/-- Nothing is harvested during a measurement of the open-circuit voltage. -/
theorem point_step (harvester : Harvester) (voltage current : UInt32) :
    (harvester.step voltage current).1 =
      ⟨voltage, if harvester.cfg.algorithm = .fractionalOpenCircuit ∧
        harvester.position < harvester.cfg.duration then 0 else current⟩ := by
  rw [step]
  split
  case h_1 halgorithm => simp [halgorithm]
  case h_2 halgorithm =>
    simp only [stepOpenCircuit, halgorithm, true_and]
    split_ifs <;> rfl
  case h_3 halgorithm =>
    simp only [stepPerturbObserve, halgorithm]
    split <;> rfl

/-! ## The number of a tick -/

/-- What is known of a harvester of a configuration that has run so many ticks since its last
reset. -/
structure Numbered (cfg : HarvesterConfig) (number : ℕ) (harvester : Harvester) : Prop where
  cfg_eq : harvester.cfg = cfg
  position : cfg.algorithm ≠ .constantVoltage →
    harvester.position.toNat = number % cfg.interval.toNat

theorem numbered_start (cfg : HarvesterConfig) : (start cfg).Numbered cfg 0 :=
  ⟨rfl, fun _ => (Nat.zero_mod _).symm⟩

/-- The position follows the number of the tick modulo the interval. -/
theorem Numbered.step (h : harvester.Numbered cfg number) (hcfg : cfg.Admitted)
    (voltage current : UInt32) :
    (harvester.step voltage current).2.Numbered cfg (number + 1) := by
  obtain ⟨rfl, hposition⟩ := h
  refine ⟨harvester.cfg_step voltage current, fun htracks => ?_⟩
  rw [position_step htracks, advance]
  exact RoundCounter.toNat_next hcfg.interval_pos (hposition htracks)

/-! ## Runs -/

def observe (harvester : Harvester) (ticks : List HarvestPoint) : Harvester :=
  ticks.foldl (fun harvester measured => (harvester.step measured.voltage measured.current).2)
    harvester

theorem observe_concat (harvester : Harvester) (ticks : List HarvestPoint)
    (measured : HarvestPoint) :
    harvester.observe (ticks ++ [measured]) =
      ((harvester.observe ticks).step measured.voltage measured.current).2 := by
  rw [observe, List.foldl_append]
  rfl

theorem numbered_observe (hcfg : cfg.Admitted) (ticks : List HarvestPoint) :
    ((start cfg).observe ticks).Numbered cfg ticks.length := by
  induction ticks using List.reverseRecOn with
  | nil => exact numbered_start cfg
  | append_singleton ticks measured ih =>
      rw [observe_concat, List.length_append]
      exact ih.step hcfg measured.voltage measured.current

/-- By induction on the ticks since the start. -/
theorem inRange_observe (hcfg : cfg.Admitted) (ticks : List HarvestPoint) :
    cfg.InRange ((start cfg).observe ticks).setpoint := by
  induction ticks using List.reverseRecOn with
  | nil => exact hcfg.inRange_clamp _
  | append_singleton ticks measured ih =>
      have hkept : ((start cfg).observe ticks).cfg = cfg := (numbered_observe hcfg ticks).cfg_eq
      rw [observe_concat]
      have hstep := inRange_step (hkept.symm ▸ hcfg) (hkept.symm ▸ ih) measured.voltage
        measured.current
      rwa [hkept] at hstep

end Harvester

inductive HarvesterCall
  | step (measured : HarvestPoint)
  | reset
  deriving DecidableEq, Repr

namespace HarvesterCall

/-- What was measured since the last reset, once a further call is made. -/
def extend (ticks : List HarvestPoint) : HarvesterCall → List HarvestPoint
  | step measured => ticks ++ [measured]
  | reset => []

/-- What was measured since the last reset, or since the start. -/
def sinceReset (calls : List HarvesterCall) : List HarvestPoint :=
  calls.foldl extend []

end HarvesterCall

namespace Harvester

variable {cfg : HarvesterConfig} {harvester : Harvester} {number : ℕ}

def call (harvester : Harvester) : HarvesterCall → Harvester
  | .step measured => (harvester.step measured.voltage measured.current).2
  | .reset => harvester.reset

def run (harvester : Harvester) (calls : List HarvesterCall) : Harvester :=
  calls.foldl call harvester

/-- A reset leaves nothing of what was measured before it. -/
theorem run_eq_observe (hcfg : cfg.Admitted) (calls : List HarvesterCall) :
    (start cfg).run calls = (start cfg).observe (HarvesterCall.sinceReset calls) := by
  induction calls using List.reverseRecOn with
  | nil => rfl
  | append_singleton calls last ih =>
      rw [run, List.foldl_append, HarvesterCall.sinceReset, List.foldl_append]
      rw [run, HarvesterCall.sinceReset] at ih
      rw [ih]
      cases last with
      | step measured => exact (observe_concat _ _ _).symm
      | reset =>
          have hkept := (numbered_observe hcfg (calls.foldl HarvesterCall.extend [])).cfg_eq
          exact congrArg start hkept

/-- What holds of a harvester that has run so many ticks since its last reset: where its setpoint
is, and what its next tick hands on. -/
structure Envelope (cfg : HarvesterConfig) (number : ℕ) (harvester : Harvester) : Prop where
  setpoint : cfg.InRange harvester.setpoint
  point : ∀ voltage current, (harvester.step voltage current).1 =
    ⟨voltage, if cfg.algorithm = .fractionalOpenCircuit ∧
      number % cfg.interval.toNat < cfg.duration.toNat then 0 else current⟩

/-- Whatever is measured, and whenever the harvester is reset, its setpoint stays in the range.
Each tick hands on what was measured, but for the current in the first ticks of every interval of
an open-circuit tracking, the intervals being counted from the last reset. -/
theorem keepsEnvelope_run (hnew : new cfg = .ok harvester) (calls : List HarvesterCall) :
    (harvester.run calls).Envelope cfg (HarvesterCall.sinceReset calls).length := by
  obtain ⟨hvalid, rfl⟩ := validate_of_new hnew
  have hcfg := HarvesterConfig.admitted_of_validate hvalid
  rw [run_eq_observe hcfg]
  have hnumbered := numbered_observe hcfg (HarvesterCall.sinceReset calls)
  refine ⟨inRange_observe hcfg _, fun voltage current => ?_⟩
  rw [point_step, hnumbered.cfg_eq]
  congr 1
  refine if_congr (and_congr_right fun halgorithm => ?_) rfl rfl
  rw [UInt32.lt_iff_toNat_lt, hnumbered.position (by rw [halgorithm]; decide)]

/-- An open-circuit tracking over intervals of three ticks, the first two of which measure: after a
reset and four ticks the next one is the second of an interval. -/
theorem keepsEnvelope_run_second :
    let cfg : HarvesterConfig :=
      { algorithm := .fractionalOpenCircuit, voltageMin := 1000, interval := 3, duration := 2 }
    let calls : List HarvesterCall :=
      [.step ⟨4000000, 7⟩, .reset, .step ⟨0, 5⟩, .step ⟨1000, 6⟩, .step ⟨0xffffffff, 8⟩,
        .step ⟨4000000, 0xffffffff⟩]
    let harvester := (start cfg).run calls
    new cfg = .ok (start cfg) ∧ harvester.Envelope cfg 4 ∧ harvester.setpoint = 5000000 ∧
      (harvester.step 4900000 9).1 = ⟨4900000, 0⟩ ∧
      (harvester.step 4900000 9).2.openCircuit = 4900000 := by
  intro cfg calls harvester
  have hnew : new cfg = .ok (start cfg) := rfl
  exact ⟨hnew, keepsEnvelope_run hnew calls, by decide, by decide, by decide⟩

end Harvester

end HarvestTestbed
