import Mathlib
import HarvestTestbed.Proofs.HarvestEnvelope

/-!
# Climbing to the maximum of the power

A transducer whose current depends on the voltage alone is held at the setpoint in every tick.  Once
an interval the tracker perturbs the setpoint by a step, and it turns when the power has dropped
since the last perturbation.  If the power rises up to one voltage, its peak, and does not rise
beyond it, a harvester that starts below the peak climbs until it is there (`heading_climb`).  One
that starts above it climbs away from the peak first, turns where the power has dropped, and comes
back (`Heading.descend`), so it takes the longer the longer the power stays equal above its start.

A harvester that starts at the upper end of the range, or whose power stays equal up to there, sees
no drop: it stays at the upper end, which is the case that `nearsPeak_track` leaves out.
-/

namespace HarvestTestbed

/-- The power that a transducer delivers at a voltage. -/
def deliveredPower (response : UInt32 → UInt32) (voltage : ℕ) : ℕ :=
  voltage * (response (.ofNat voltage)).toNat

namespace HarvesterConfig

variable {cfg : HarvesterConfig} {response : UInt32 → UInt32} {peak : ℕ}

/-- The power of a transducer rises up to a voltage of the range and does not rise beyond it. -/
structure Peaks (cfg : HarvesterConfig) (response : UInt32 → UInt32) (peak : ℕ) : Prop where
  low : cfg.voltageMin.toNat ≤ peak
  high : peak ≤ cfg.voltageMax.toNat
  rises : StrictMonoOn (deliveredPower response) (Set.Icc cfg.voltageMin.toNat peak)
  falls : AntitoneOn (deliveredPower response) (Set.Icc peak cfg.voltageMax.toNat)

/-- It is enough to compare the powers at neighbouring voltages. -/
theorem peaks_of_neighbours (hlow : cfg.voltageMin.toNat ≤ peak)
    (hhigh : peak ≤ cfg.voltageMax.toNat)
    (hrises : ∀ voltage < peak, cfg.voltageMin.toNat ≤ voltage →
      deliveredPower response voltage < deliveredPower response (voltage + 1))
    (hfalls : ∀ voltage < cfg.voltageMax.toNat, peak ≤ voltage →
      deliveredPower response (voltage + 1) ≤ deliveredPower response voltage) :
    cfg.Peaks response peak where
  low := hlow
  high := hhigh
  rises := strictMonoOn_of_lt_succ Set.ordConnected_Icc fun voltage _ hhere hnext =>
    hrises voltage (Nat.lt_of_succ_le hnext.2) hhere.1
  falls := antitoneOn_of_succ_le Set.ordConnected_Icc fun voltage _ hhere hnext =>
    hfalls voltage (Nat.lt_of_succ_le hnext.2) hhere.1

/-- The voltage that so many perturbations upwards lead to from the starting point. -/
def climbed (cfg : HarvesterConfig) (perturbations : ℕ) : ℕ :=
  min ((cfg.clamp cfg.voltage).toNat + perturbations * cfg.step.toNat) cfg.voltageMax.toNat

theorem Admitted.climbed_zero (h : cfg.Admitted) :
    cfg.climbed 0 = (cfg.clamp cfg.voltage).toNat := by
  have hhigh := UInt32.le_iff_toNat_le.mp (h.inRange_clamp cfg.voltage).high
  rw [climbed, Nat.zero_mul, Nat.add_zero, min_eq_left hhigh]

theorem climbed_succ (cfg : HarvesterConfig) (perturbations : ℕ) :
    cfg.climbed (perturbations + 1) =
      min (cfg.climbed perturbations + cfg.step.toNat) cfg.voltageMax.toNat := by
  rw [climbed, climbed, Nat.succ_mul]
  omega

theorem climbed_mono (cfg : HarvesterConfig) : Monotone cfg.climbed :=
  fun _ _ hle => min_le_min_right _ (Nat.add_le_add_left (Nat.mul_le_mul_right _ hle) _)

theorem climbed_le_max (cfg : HarvesterConfig) (perturbations : ℕ) :
    cfg.climbed perturbations ≤ cfg.voltageMax.toNat :=
  min_le_right _ _

theorem climbed_of_le {perturbations : ℕ}
    (hfits : cfg.climbed 0 + perturbations * cfg.step.toNat ≤ cfg.voltageMax.toNat) :
    cfg.climbed perturbations = cfg.climbed 0 + perturbations * cfg.step.toNat := by
  rw [climbed, Nat.zero_mul] at hfits
  rw [climbed, climbed, Nat.zero_mul]
  omega

/-- The voltage that a perturbation leads to. -/
def moved (cfg : HarvesterConfig) (rising : Bool) (voltage : ℕ) : ℕ :=
  if rising then min (voltage + cfg.step.toNat) cfg.voltageMax.toNat
  else max (voltage - cfg.step.toNat) cfg.voltageMin.toNat

/-- A voltage that is at most a step away from the peak. -/
structure Near (cfg : HarvesterConfig) (peak voltage : ℕ) : Prop where
  below : peak ≤ voltage + cfg.step.toNat
  above : voltage ≤ peak + cfg.step.toNat

instance (cfg : HarvesterConfig) (peak voltage : ℕ) : Decidable (cfg.Near peak voltage) :=
  decidable_of_iff (peak ≤ voltage + cfg.step.toNat ∧ voltage ≤ peak + cfg.step.toNat)
    ⟨fun h => ⟨h.1, h.2⟩, fun h => ⟨h.below, h.above⟩⟩

end HarvesterConfig

namespace Harvester

variable {cfg : HarvesterConfig} {harvester : Harvester} {response : UInt32 → UInt32}
variable {peak voltage : ℕ}

/-! ## One interval -/

/-- A tick on a transducer that is held at the setpoint. -/
def track (response : UInt32 → UInt32) (harvester : Harvester) : Harvester :=
  (harvester.step harvester.setpoint (response harvester.setpoint)).2

/-- What an interval amounts to: the power at the setpoint is compared with the last one, and the
setpoint moves a step. -/
def perturb (response : UInt32 → UInt32) (harvester : Harvester) : Harvester :=
  let power := deliveredPower response harvester.setpoint.toNat
  let turned :=
    { harvester with
      rising := if power < harvester.lastPower then !harvester.rising else harvester.rising
      lastPower := power }
  { turned with setpoint := turned.perturbed }

/-- A harvester of a configuration at the first tick of an interval. -/
structure AtInterval (cfg : HarvesterConfig) (harvester : Harvester) : Prop where
  cfg_eq : harvester.cfg = cfg
  position : harvester.position = 0

/-- Up to the last tick of an interval only the position moves. -/
theorem AtInterval.track_iterate_of_lt (h : harvester.AtInterval cfg)
    (halgorithm : cfg.algorithm = .perturbObserve) (response : UInt32 → UInt32) {ticks : ℕ}
    (hticks : ticks < cfg.interval.toNat) :
    (track response)^[ticks] harvester = { harvester with position := .ofNat ticks } := by
  obtain ⟨rfl, hposition⟩ := h
  induction ticks with
  | zero =>
      have hzero : UInt32.ofNat 0 = harvester.position := hposition.symm
      rw [Function.iterate_zero_apply, hzero]
  | succ ticks ih =>
      have hnext : UInt32.ofNat ticks + 1 = .ofNat (ticks + 1) := (UInt32.ofNat_add _ _).symm
      have hword : (UInt32.ofNat (ticks + 1)).toNat = ticks + 1 :=
        UInt32.toNat_ofNat_of_lt' (hticks.trans harvester.cfg.interval.toNat_lt)
      have hearly : ¬ harvester.cfg.interval ≤ .ofNat (ticks + 1) := by
        rw [UInt32.le_iff_toNat_le, hword]
        omega
      have hgoes : UInt32.ofNat (ticks + 1) ≠ harvester.cfg.interval := by
        rw [← UInt32.toNat_inj.ne, hword]
        omega
      rw [Function.iterate_succ_apply', ih (by omega)]
      simp only [track, step, halgorithm, stepPerturbObserve, hnext, if_neg hgoes, advance,
        if_neg hearly]

/-- An interval of ticks is one perturbation. -/
theorem AtInterval.track_iterate_interval (h : harvester.AtInterval cfg)
    (halgorithm : cfg.algorithm = .perturbObserve) (hpos : 0 < cfg.interval.toNat)
    (response : UInt32 → UInt32) :
    (track response)^[cfg.interval.toNat] harvester = harvester.perturb response := by
  have hbefore := h.track_iterate_of_lt halgorithm response (Nat.pred_lt hpos.ne')
  obtain ⟨rfl, hposition⟩ := h
  have hlast : UInt32.ofNat harvester.cfg.interval.toNat.pred + 1 = harvester.cfg.interval := by
    have hnext := (UInt32.ofNat_add harvester.cfg.interval.toNat.pred 1).symm
    rwa [← Nat.succ_eq_add_one, Nat.succ_pred hpos.ne', UInt32.ofNat_toNat] at hnext
  have hround : harvester.cfg.interval ≤ harvester.cfg.interval := UInt32.le_refl _
  rw [← Nat.succ_pred hpos.ne', Function.iterate_succ_apply', hbefore]
  simp only [track, step, halgorithm, stepPerturbObserve, hlast, if_true, advance, if_pos hround,
    perturb, deliveredPower, perturbed, UInt32.ofNat_toNat, ← hposition]

theorem AtInterval.perturb (h : harvester.AtInterval cfg) (response : UInt32 → UInt32) :
    (harvester.perturb response).AtInterval cfg :=
  ⟨h.cfg_eq, h.position⟩

theorem AtInterval.track_iterate_mul (h : harvester.AtInterval cfg)
    (halgorithm : cfg.algorithm = .perturbObserve) (hpos : 0 < cfg.interval.toNat)
    (response : UInt32 → UInt32) (perturbations : ℕ) :
    (track response)^[cfg.interval.toNat * perturbations] harvester =
      (Harvester.perturb response)^[perturbations] harvester := by
  induction perturbations generalizing harvester with
  | zero => rfl
  | succ perturbations ih =>
      rw [Nat.mul_succ, Function.iterate_add_apply, h.track_iterate_interval halgorithm hpos,
        ih (h.perturb response), Function.iterate_succ_apply]

/-! ## One perturbation -/

theorem toNat_perturbed (hrange : harvester.cfg.InRange harvester.setpoint) :
    harvester.perturbed.toNat =
      harvester.cfg.moved harvester.rising harvester.setpoint.toNat := by
  have hlow := UInt32.le_iff_toNat_le.mp hrange.low
  have hhigh := UInt32.le_iff_toNat_le.mp hrange.high
  have hword : harvester.cfg.voltageMax.toNat < UInt32.size := harvester.cfg.voltageMax.toNat_lt
  rw [perturbed, HarvesterConfig.toNat_clamp, HarvesterConfig.moved]
  cases harvester.rising
  case false =>
    simp only [Bool.false_eq_true, if_false, Saturating.toNat_sub32]
    omega
  case true =>
    simp only [if_true, Saturating.toNat_add32]
    omega

/-- A harvester that goes in one direction at a voltage, with the power of its last perturbation. -/
structure Heading (cfg : HarvesterConfig) (rising : Bool) (voltage power : ℕ)
    (harvester : Harvester) : Prop where
  cfg_eq : harvester.cfg = cfg
  inRange : cfg.InRange harvester.setpoint
  setpoint : harvester.setpoint.toNat = voltage
  rising_eq : harvester.rising = rising
  lastPower : harvester.lastPower = power

namespace Heading

variable {rising : Bool} {power : ℕ}

theorem perturb_of_eq (h : harvester.Heading cfg rising voltage power) (hcfg : cfg.Admitted)
    {direction : Bool}
    (hdirection : (if deliveredPower response voltage < power then !rising else rising) =
      direction) :
    (harvester.perturb response).Heading cfg direction (cfg.moved direction voltage)
      (deliveredPower response voltage) := by
  obtain ⟨rfl, hrange, rfl, rfl, rfl⟩ := h
  subst hdirection
  exact
    { cfg_eq := rfl
      inRange := hcfg.inRange_clamp _
      setpoint := toNat_perturbed hrange
      rising_eq := rfl
      lastPower := rfl }

/-- Without a drop of the power the direction stays. -/
theorem goes (h : harvester.Heading cfg rising voltage power) (hcfg : cfg.Admitted)
    (hkeeps : power ≤ deliveredPower response voltage) :
    (harvester.perturb response).Heading cfg rising (cfg.moved rising voltage)
      (deliveredPower response voltage) :=
  h.perturb_of_eq hcfg (if_neg (Nat.not_lt.mpr hkeeps))

theorem turns (h : harvester.Heading cfg rising voltage power) (hcfg : cfg.Admitted)
    (hdrops : deliveredPower response voltage < power) :
    (harvester.perturb response).Heading cfg (!rising) (cfg.moved (!rising) voltage)
      (deliveredPower response voltage) :=
  h.perturb_of_eq hcfg (if_pos hdrops)

end Heading

/-! ## Climbing and descending -/

theorem heading_start (hcfg : cfg.Admitted) : (start cfg).Heading cfg true (cfg.climbed 0) 0 where
  cfg_eq := rfl
  inRange := hcfg.inRange_clamp _
  setpoint := hcfg.climbed_zero.symm
  rising_eq := rfl
  lastPower := rfl

/-- As long as the power does not drop, the perturbations go upwards. -/
theorem heading_climb (hcfg : cfg.Admitted) {perturbations : ℕ}
    (hkeeps : ∀ earlier < perturbations, deliveredPower response (cfg.climbed earlier) ≤
      deliveredPower response (cfg.climbed (earlier + 1))) :
    ((perturb response)^[perturbations + 1] (start cfg)).Heading cfg true
      (cfg.climbed (perturbations + 1)) (deliveredPower response (cfg.climbed perturbations)) := by
  induction perturbations with
  | zero =>
      rw [cfg.climbed_succ]
      exact (heading_start hcfg).goes hcfg (Nat.zero_le _)
  | succ perturbations ih =>
      have hbefore := ih fun earlier hearlier => hkeeps earlier (by omega)
      rw [Function.iterate_succ_apply', cfg.climbed_succ (perturbations + 1)]
      exact hbefore.goes hcfg (hkeeps perturbations (Nat.lt_succ_self _))

/-- Downwards the power does not drop before the peak. -/
theorem Heading.descend {power : ℕ} (h : harvester.Heading cfg false voltage power)
    (hcfg : cfg.Admitted) (hpeaks : cfg.Peaks response peak)
    (hkeeps : power ≤ deliveredPower response voltage) (perturbations : ℕ)
    (habove : peak + perturbations * cfg.step.toNat ≤ voltage) :
    ∃ last, last ≤ deliveredPower response (voltage - perturbations * cfg.step.toNat) ∧
      ((perturb response)^[perturbations] harvester).Heading cfg false
        (voltage - perturbations * cfg.step.toNat) last := by
  induction perturbations with
  | zero =>
      rw [Nat.zero_mul, Nat.sub_zero]
      exact ⟨power, hkeeps, h⟩
  | succ perturbations ih =>
      rw [Nat.succ_mul] at habove ⊢
      obtain ⟨last, hlast, hbefore⟩ := ih (by omega)
      have hhigh : voltage ≤ cfg.voltageMax.toNat := by
        rw [← h.setpoint]
        exact UInt32.le_iff_toNat_le.mp h.inRange.high
      have hlow := hpeaks.low
      have hmoved : cfg.moved false (voltage - perturbations * cfg.step.toNat) =
          voltage - (perturbations * cfg.step.toNat + cfg.step.toNat) := by
        rw [HarvesterConfig.moved, if_neg Bool.false_ne_true]
        omega
      have hafter := hbefore.goes hcfg hlast
      rw [hmoved, ← Function.iterate_succ_apply' (perturb response)] at hafter
      exact ⟨_, hpeaks.falls ⟨by omega, by omega⟩ ⟨by omega, by omega⟩ (by omega), hafter⟩

/-! ## Reaching the peak -/

/-- The steps that fit into a gap leave less than a step of it. -/
theorem exists_fitting_steps (hstep : 0 < cfg.step.toNat) (gap : ℕ) :
    ∃ steps ≤ gap / cfg.step.toNat,
      steps * cfg.step.toNat ≤ gap ∧ gap < steps * cfg.step.toNat + cfg.step.toNat :=
  ⟨_, le_rfl, Nat.div_mul_le_self _ _, Nat.lt_div_mul_add hstep⟩

/-- A harvester that starts below the peak climbs to it. -/
theorem near_of_start_le (hcfg : cfg.Admitted) (hpeaks : cfg.Peaks response peak)
    (hstep : 0 < cfg.step.toNat) (hstart : cfg.climbed 0 ≤ peak) :
    ∃ perturbations ≤ (cfg.voltageMax.toNat - cfg.voltageMin.toNat) / cfg.step.toNat,
      cfg.Near peak ((perturb response)^[perturbations] (start cfg)).setpoint.toNat := by
  have hfirst := heading_start hcfg
  have hlow := UInt32.le_iff_toNat_le.mp hfirst.inRange.low
  have hhigh := hpeaks.high
  rw [hfirst.setpoint] at hlow
  obtain ⟨perturbations, hcount, hfits, hclose⟩ :=
    exists_fitting_steps hstep (peak - cfg.climbed 0)
  refine ⟨perturbations, hcount.trans (Nat.div_le_div_right (by omega)), ?_⟩
  cases perturbations with
  | zero =>
      rw [Function.iterate_zero_apply, hfirst.setpoint]
      exact ⟨by omega, by omega⟩
  | succ perturbations =>
      have hclimbs : ∀ earlier ≤ perturbations + 1,
          cfg.climbed earlier = cfg.climbed 0 + earlier * cfg.step.toNat := by
        intro earlier hearlier
        have hless := Nat.mul_le_mul_right cfg.step.toNat hearlier
        exact HarvesterConfig.climbed_of_le (by omega)
      have hkeeps : ∀ earlier < perturbations, deliveredPower response (cfg.climbed earlier) ≤
          deliveredPower response (cfg.climbed (earlier + 1)) := by
        intro earlier hearlier
        have hless := Nat.mul_le_mul_right cfg.step.toNat (Nat.succ_le_of_lt hearlier)
        rw [Nat.succ_mul] at hless hfits
        rw [hclimbs earlier (by omega), hclimbs (earlier + 1) (by omega), Nat.succ_mul]
        exact (hpeaks.rises ⟨by omega, by omega⟩ ⟨by omega, by omega⟩ (by omega)).le
      rw [(heading_climb hcfg hkeeps).setpoint, hclimbs _ le_rfl]
      exact ⟨by omega, by omega⟩

/-- The perturbation upwards that lowers the power is the first one to do so. -/
structure FirstDrop (cfg : HarvesterConfig) (response : UInt32 → UInt32) (first : ℕ) : Prop where
  lowers : deliveredPower response (cfg.climbed (first + 1)) <
    deliveredPower response (cfg.climbed 0)
  before : ∀ earlier ≤ first, deliveredPower response (cfg.climbed 0) ≤
    deliveredPower response (cfg.climbed earlier)

theorem exists_firstDrop {upwards : ℕ} (hdrop : deliveredPower response (cfg.climbed upwards) <
      deliveredPower response (cfg.climbed 0)) :
    ∃ first, first + 1 ≤ upwards ∧ FirstDrop cfg response first := by
  have hdrops : ∃ upwards, deliveredPower response (cfg.climbed upwards) <
      deliveredPower response (cfg.climbed 0) := ⟨upwards, hdrop⟩
  have hlowers := Nat.find_spec hdrops
  cases hfind : Nat.find hdrops with
  | zero =>
      rw [hfind] at hlowers
      exact absurd hlowers (lt_irrefl _)
  | succ first =>
      rw [hfind] at hlowers
      refine ⟨first, hfind ▸ Nat.find_min' hdrops hdrop, hlowers, fun earlier hearlier => ?_⟩
      exact Nat.le_of_not_lt (Nat.find_min hdrops (by omega))

/-- The harvester turns one perturbation after the power has dropped. -/
theorem FirstDrop.heading {first : ℕ} (h : FirstDrop cfg response first) (hcfg : cfg.Admitted)
    (hpeaks : cfg.Peaks response peak) (hstart : peak + cfg.step.toNat < cfg.climbed 0) :
    ((perturb response)^[first + 2] (start cfg)).Heading cfg false
      (cfg.climbed (first + 1) - cfg.step.toNat)
      (deliveredPower response (cfg.climbed (first + 1))) := by
  have hkeeps : ∀ earlier < first, deliveredPower response (cfg.climbed earlier) ≤
      deliveredPower response (cfg.climbed (earlier + 1)) := by
    intro earlier hearlier
    have habove := cfg.climbed_mono (Nat.zero_le earlier)
    have hhigh := cfg.climbed_le_max earlier
    have hfalls := hpeaks.falls ⟨by omega, by omega⟩ ⟨by omega, by omega⟩ habove
    exact hfalls.trans (h.before (earlier + 1) hearlier)
  have hturned :=
    (heading_climb hcfg hkeeps).turns hcfg (h.lowers.trans_le (h.before first le_rfl))
  have hmoved : cfg.moved (!true) (cfg.climbed (first + 1)) =
      cfg.climbed (first + 1) - cfg.step.toNat := by
    have habove := cfg.climbed_mono (Nat.zero_le (first + 1))
    have hlow := hpeaks.low
    rw [HarvesterConfig.moved, if_neg (by decide)]
    omega
  rwa [hmoved, ← Function.iterate_succ_apply' (perturb response)] at hturned

/-- A harvester that starts above the peak comes back to it once the power has dropped. -/
theorem near_of_drop (hcfg : cfg.Admitted) (hpeaks : cfg.Peaks response peak)
    (hstep : 0 < cfg.step.toNat) (hstart : peak + cfg.step.toNat < cfg.climbed 0) {upwards : ℕ}
    (hdrop : deliveredPower response (cfg.climbed upwards) <
      deliveredPower response (cfg.climbed 0)) :
    ∃ perturbations < upwards + (cfg.climbed upwards - peak) ⌈/⌉ cfg.step.toNat,
      cfg.Near peak ((perturb response)^[perturbations] (start cfg)).setpoint.toNat := by
  obtain ⟨first, hfirst, hturns⟩ := exists_firstDrop hdrop
  have hturned := hturns.heading hcfg hpeaks hstart
  have habove := cfg.climbed_mono (Nat.zero_le (first + 1))
  have hhigh := cfg.climbed_le_max (first + 1)
  have hlow := hpeaks.low
  have hkeeps : deliveredPower response (cfg.climbed (first + 1)) ≤
      deliveredPower response (cfg.climbed (first + 1) - cfg.step.toNat) :=
    hpeaks.falls ⟨by omega, by omega⟩ ⟨by omega, by omega⟩ (by omega)
  -- A voltage exactly a step above the peak is near it already, hence the one less in the gap.
  obtain ⟨down, -, hfits, hclose⟩ :=
    exists_fitting_steps hstep (cfg.climbed (first + 1) - cfg.step.toNat - peak - 1)
  obtain ⟨last, -, hreached⟩ := hturned.descend hcfg hpeaks hkeeps down (by omega)
  rw [← Function.iterate_add_apply] at hreached
  refine ⟨down + (first + 2), ?_, ?_⟩
  · have htop : cfg.climbed (first + 1) ≤ cfg.climbed upwards := cfg.climbed_mono hfirst
    have hdown : down + 1 < (cfg.climbed upwards - peak) ⌈/⌉ cfg.step.toNat := by
      rw [← Nat.not_le, ceilDiv_le_iff_le_mul hstep, Nat.mul_comm, Nat.succ_mul]
      omega
    omega
  · rw [hreached.setpoint]
    exact ⟨by omega, by omega⟩

/-- A harvester that starts at most a step above the peak of the power, or that finds the power
lowered after some perturbations upwards, is held near the peak in one of its first ticks.  The
steps of the range bound their number, or the perturbations that it takes to find the power lowered
and the steps from there down to the peak. -/
theorem nearsPeak_track (hnew : new cfg = .ok harvester)
    (halgorithm : cfg.algorithm = .perturbObserve) (hstep : 0 < cfg.step.toNat)
    (hpeaks : cfg.Peaks response peak) (upwards : ℕ)
    (hturns : (cfg.clamp cfg.voltage).toNat ≤ peak + cfg.step.toNat ∨
      deliveredPower response (cfg.climbed upwards) <
        deliveredPower response (cfg.clamp cfg.voltage).toNat) :
    ∃ ticks < cfg.interval.toNat *
        max ((cfg.voltageMax.toNat - cfg.voltageMin.toNat) / cfg.step.toNat + 3)
          (upwards + (cfg.climbed upwards - peak) ⌈/⌉ cfg.step.toNat),
      cfg.Near peak ((track response)^[ticks] harvester).setpoint.toNat := by
  obtain ⟨hvalid, rfl⟩ := validate_of_new hnew
  have hcfg := HarvesterConfig.admitted_of_validate hvalid
  rw [← hcfg.climbed_zero] at hturns
  obtain ⟨perturbations, hcount, hnear⟩ : ∃ perturbations <
      max ((cfg.voltageMax.toNat - cfg.voltageMin.toNat) / cfg.step.toNat + 3)
        (upwards + (cfg.climbed upwards - peak) ⌈/⌉ cfg.step.toNat),
      cfg.Near peak ((perturb response)^[perturbations] (start cfg)).setpoint.toNat := by
    obtain hbelow | habove := Nat.le_total (cfg.climbed 0) peak
    · obtain ⟨perturbations, hcount, hnear⟩ := near_of_start_le hcfg hpeaks hstep hbelow
      exact ⟨perturbations, lt_max_of_lt_left (by omega), hnear⟩
    · obtain hfar | hclose := Nat.lt_or_ge (peak + cfg.step.toNat) (cfg.climbed 0)
      · obtain ⟨perturbations, hcount, hnear⟩ :=
          near_of_drop hcfg hpeaks hstep hfar (hturns.resolve_left (by omega))
        exact ⟨perturbations, lt_max_of_lt_right hcount, hnear⟩
      · refine ⟨0, lt_max_of_lt_left (Nat.succ_pos _), ?_⟩
        rw [Function.iterate_zero_apply, (heading_start hcfg).setpoint]
        exact ⟨by omega, hclose⟩
  have hbegin : (start cfg).AtInterval cfg := ⟨rfl, rfl⟩
  refine ⟨cfg.interval.toNat * perturbations, ?_, ?_⟩
  · exact Nat.mul_lt_mul_of_pos_left hcount hcfg.interval_pos
  · rwa [hbegin.track_iterate_mul halgorithm hcfg.interval_pos]

/-- A transducer whose power, the highest at eight microvolts, is the same from ten to fifteen. -/
def plateau (voltage : UInt32) : UInt32 :=
  if voltage = 7 then 8000 else if voltage = 8 then 7509 else if voltage = 9 then 6674
  else 60060 / voltage

/-- A harvester that starts on the plateau finds the power lowered at its end, six perturbations
upwards and eight steps above the peak. -/
theorem nearsPeak_track_plateau :
    let cfg : HarvesterConfig :=
      { algorithm := .perturbObserve, voltage := 10, voltageMin := 7, voltageMax := 16,
        interval := 1, step := 1 }
    new cfg = .ok (start cfg) ∧ 0 < cfg.step.toNat ∧ cfg.Peaks plateau 8 ∧
      deliveredPower plateau (cfg.climbed 6) <
        deliveredPower plateau (cfg.clamp cfg.voltage).toNat ∧
      ∃ ticks < 14, cfg.Near 8 ((track plateau)^[ticks] (start cfg)).setpoint.toNat := by
  intro cfg
  have hnew : new cfg = .ok (start cfg) := rfl
  have hpeaks : cfg.Peaks plateau 8 :=
    HarvesterConfig.peaks_of_neighbours (by decide) (by decide) (by decide) (by decide)
  have hdrops : deliveredPower plateau (cfg.climbed 6) <
      deliveredPower plateau (cfg.clamp cfg.voltage).toNat := by decide
  have hbound : cfg.interval.toNat *
      max ((cfg.voltageMax.toNat - cfg.voltageMin.toNat) / cfg.step.toNat + 3)
        (6 + (cfg.climbed 6 - 8) ⌈/⌉ cfg.step.toNat) = 14 := by decide
  obtain ⟨ticks, hticks, hnear⟩ :=
    nearsPeak_track hnew rfl (by decide) hpeaks 6 (.inr hdrops)
  exact ⟨hnew, by decide, hpeaks, hdrops, ticks, hbound ▸ hticks, hnear⟩

/-- Where the power stays equal for some steps above the start, the tracker turns later and takes
more than three intervals beyond the steps of the range, and from the upper end of the range it does
not turn at all. -/
theorem far_from_peak :
    (let cfg : HarvesterConfig :=
      { algorithm := .perturbObserve, voltage := 10, voltageMin := 7, voltageMax := 16,
        interval := 1, step := 1 }
     let bound := cfg.interval.toNat *
      ((cfg.voltageMax.toNat - cfg.voltageMin.toNat) / cfg.step.toNat + 3)
     new cfg = .ok (start cfg) ∧ cfg.Peaks plateau 8 ∧
      ∀ ticks ≤ bound, ¬ cfg.Near 8 ((track plateau)^[ticks] (start cfg)).setpoint.toNat) ∧
    (let cfg : HarvesterConfig :=
      { algorithm := .perturbObserve, voltage := 8, voltageMax := 8, interval := 1, step := 1 }
     let cell : UInt32 → UInt32 := fun voltage => 8 - voltage
     let bound := cfg.interval.toNat *
      ((cfg.voltageMax.toNat - cfg.voltageMin.toNat) / cfg.step.toNat + 3)
     new cfg = .ok (start cfg) ∧ cfg.Peaks cell 4 ∧
      ∀ ticks ≤ bound, ¬ cfg.Near 4 ((track cell)^[ticks] (start cfg)).setpoint.toNat) := by
  refine ⟨⟨rfl, ?_, by decide⟩, ⟨rfl, ?_, by decide⟩⟩
  all_goals
    exact HarvesterConfig.peaks_of_neighbours (by decide) (by decide) (by decide) (by decide)

end Harvester

end HarvestTestbed
