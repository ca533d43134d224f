import HarvestTestbed.Proofs.HarvestEnvelope

/-!
# Tracking a fraction of the open-circuit voltage

The setpoint that is in force in a tick was decided in the tick before, across the end of the
interval, so what holds in a tick depends on the whole schedule.  Here the schedule is written down
as a function of the number of the tick and of the voltages measured so far (`scheduled`), and every
run keeps to it (`setpoint_observe`).

From that, `tracksOpenCircuit_run` says of every tick when it stores an open-circuit voltage, whether
the transducer was held at the highest voltage then, and whether the setpoint in force follows the
last measurement.  Both hold but for two kinds of configurations: a window of one tick measures the
first time at the starting point, because nothing has raised the setpoint before the first tick, and
without a window the setpoint is raised at the end of the first interval and never lowered again.
-/

namespace HarvestTestbed

namespace HarvesterConfig

variable {cfg : HarvesterConfig}

/-- A measurement is stored in the last tick of its window. -/
def Measures (cfg : HarvesterConfig) (number : ℕ) : Prop :=
  number % cfg.interval.toNat + 1 = cfg.duration.toNat

instance (cfg : HarvesterConfig) (number : ℕ) : Decidable (cfg.Measures number) :=
  inferInstanceAs (Decidable (_ = _))

theorem Measures.lt_duration {number : ℕ} (h : cfg.Measures number) :
    number % cfg.interval.toNat < cfg.duration.toNat :=
  Nat.lt_of_succ_le (Nat.le_of_eq h)

/-- The open-circuit voltages among what was measured. -/
def openCircuits (cfg : HarvesterConfig) (ticks : List HarvestPoint) : List UInt32 :=
  (ticks.zipIdx.filter fun tick => cfg.Measures tick.2).map fun tick => tick.1.voltage

theorem openCircuits_concat (cfg : HarvesterConfig) (ticks : List HarvestPoint)
    (measured : HarvestPoint) :
    cfg.openCircuits (ticks ++ [measured]) = cfg.openCircuits ticks ++
      if cfg.Measures ticks.length then [measured.voltage] else [] := by
  rw [openCircuits, List.zipIdx_append, List.filter_append, List.map_append, openCircuits]
  congr 1
  by_cases hmeasures : cfg.Measures ticks.length <;> simp [hmeasures]

/-- Without a window nothing is measured. -/
theorem openCircuits_eq_nil (hnone : cfg.duration.toNat = 0) (ticks : List HarvestPoint) :
    cfg.openCircuits ticks = [] := by
  rw [openCircuits, List.filter_eq_nil_iff.mpr, List.map_nil]
  intro tick _
  simp [Measures, hnone]

/-- Where a harvester operates that has last measured an open-circuit voltage, or none yet. -/
def operatingPoint (cfg : HarvesterConfig) (openCircuit : Option UInt32) : ℕ :=
  let target := match openCircuit with
    | none => cfg.voltage.toNat
    | some voltage => voltage.toNat * cfg.openCircuitRatio.toNat / 256
  max cfg.voltageMin.toNat (min target cfg.voltageMax.toNat)

theorem toNat_clamp_voltage (cfg : HarvesterConfig) :
    (cfg.clamp cfg.voltage).toNat = cfg.operatingPoint none :=
  cfg.toNat_clamp cfg.voltage

/-- The ratio is at most one, so its product with a word fits one again. -/
theorem Admitted.toNat_clamp_fraction (h : cfg.Admitted) (voltage : UInt32) :
    (cfg.clamp (.ofNat ((voltage.toNat * cfg.openCircuitRatio.toNat) >>> 8))).toNat =
      cfg.operatingPoint (some voltage) := by
  have hword : voltage.toNat < UInt32.size := voltage.toNat_lt
  have hproduct : voltage.toNat * cfg.openCircuitRatio.toNat ≤ voltage.toNat * 256 :=
    Nat.mul_le_mul_left _ h.ratio_le
  have hfraction : voltage.toNat * cfg.openCircuitRatio.toNat / 256 ≤ voltage.toNat := by omega
  rw [Nat.shiftRight_eq_div_pow, toNat_clamp,
    UInt32.toNat_ofNat_of_lt' (hfraction.trans_lt hword)]
  rfl

/-- The setpoint that is in force in the next tick, once some ticks were measured. -/
def scheduled (cfg : HarvesterConfig) (ticks : List HarvestPoint) : ℕ :=
  if ticks.length % cfg.interval.toNat < cfg.duration.toNat then
    if ticks = [] then cfg.operatingPoint none else cfg.voltageMax.toNat
  else if cfg.duration.toNat = 0 ∧ cfg.interval.toNat ≤ ticks.length then cfg.voltageMax.toNat
  else cfg.operatingPoint (cfg.openCircuits ticks).getLast?

end HarvesterConfig

namespace Harvester

variable {cfg : HarvesterConfig} {harvester : Harvester} {number : ℕ}

/-! ## One tick -/

/-- The words of a tick say where in its interval it is. -/
theorem Numbered.position_lt_iff (h : harvester.Numbered cfg number)
    (halgorithm : cfg.algorithm = .fractionalOpenCircuit) :
    harvester.position < cfg.duration ↔
      number % cfg.interval.toNat < cfg.duration.toNat := by
  rw [UInt32.lt_iff_toNat_lt, h.position (by rw [halgorithm]; decide)]

theorem Numbered.position_add_one_eq_iff (h : harvester.Numbered cfg number) (hcfg : cfg.Admitted)
    (htracks : cfg.algorithm ≠ .constantVoltage) (word : UInt32) :
    harvester.position + 1 = word ↔ number % cfg.interval.toNat + 1 = word.toNat := by
  have hposition := h.position htracks
  have hless : harvester.position.toNat < cfg.interval.toNat :=
    hposition ▸ Nat.mod_lt _ hcfg.interval_pos
  rw [← UInt32.toNat_inj, RoundCounter.toNat_add_one hless, hposition]

theorem Numbered.openCircuit_step (h : harvester.Numbered cfg number) (hcfg : cfg.Admitted)
    (halgorithm : cfg.algorithm = .fractionalOpenCircuit) (voltage current : UInt32) :
    (harvester.step voltage current).2.openCircuit =
      if cfg.Measures number then voltage else harvester.openCircuit := by
  have hinside := h.position_lt_iff halgorithm
  have hends : harvester.position + 1 = cfg.duration ↔ cfg.Measures number :=
    h.position_add_one_eq_iff hcfg (by rw [halgorithm]; decide) cfg.duration
  obtain ⟨rfl, -⟩ := h
  simp only [Harvester.step, halgorithm, stepOpenCircuit, hinside, hends]
  split_ifs with hinside hmeasures hlast hmeasures hmeasures
  · rfl
  · rfl
  · exact absurd hmeasures.lt_duration hinside
  · rfl
  · exact absurd hmeasures.lt_duration hinside
  · rfl

theorem Numbered.toNat_setpoint_step (h : harvester.Numbered cfg number) (hcfg : cfg.Admitted)
    (halgorithm : cfg.algorithm = .fractionalOpenCircuit) (voltage current : UInt32) :
    (harvester.step voltage current).2.setpoint.toNat =
      if number % cfg.interval.toNat < cfg.duration.toNat then
        if cfg.Measures number then cfg.operatingPoint (some voltage) else cfg.voltageMax.toNat
      else if number % cfg.interval.toNat + 1 = cfg.interval.toNat then cfg.voltageMax.toNat
      else harvester.setpoint.toNat := by
  have htracks : cfg.algorithm ≠ .constantVoltage := by rw [halgorithm]; decide
  have hinside := h.position_lt_iff halgorithm
  have hends : harvester.position + 1 = cfg.duration ↔ cfg.Measures number :=
    h.position_add_one_eq_iff hcfg htracks cfg.duration
  have hlast := h.position_add_one_eq_iff hcfg htracks cfg.interval
  obtain ⟨rfl, -⟩ := h
  simp only [Harvester.step, halgorithm, stepOpenCircuit, hinside, hends, hlast]
  split_ifs
  · exact hcfg.toNat_clamp_fraction voltage
  · rfl
  · rfl
  · rfl

/-! ## Runs -/

variable {ticks : List HarvestPoint}

theorem openCircuit_observe (hcfg : cfg.Admitted)
    (halgorithm : cfg.algorithm = .fractionalOpenCircuit) (ticks : List HarvestPoint) :
    ((start cfg).observe ticks).openCircuit = (cfg.openCircuits ticks).getLast?.getD 0 := by
  induction ticks using List.reverseRecOn with
  | nil => rfl
  | append_singleton ticks measured ih =>
      rw [observe_concat, (numbered_observe hcfg ticks).openCircuit_step hcfg halgorithm, ih,
        HarvesterConfig.openCircuits_concat]
      split <;> simp

/-- Every run keeps to the schedule. -/
theorem setpoint_observe (hcfg : cfg.Admitted)
    (halgorithm : cfg.algorithm = .fractionalOpenCircuit) (ticks : List HarvestPoint) :
    ((start cfg).observe ticks).setpoint.toNat = cfg.scheduled ticks := by
  have hduration := hcfg.duration_lt halgorithm
  have hinterval := hcfg.interval_pos
  induction ticks using List.reverseRecOn with
  | nil =>
      have hstart : ((start cfg).observe []).setpoint.toNat = cfg.operatingPoint none :=
        cfg.toNat_clamp_voltage
      rw [hstart, HarvesterConfig.scheduled, if_pos rfl, List.length_nil, Nat.zero_mod]
      split
      · rfl
      · rw [if_neg (by omega)]
        rfl
  | append_singleton ticks measured ih =>
      have hless := Nat.mod_lt ticks.length hinterval
      have hle := Nat.mod_le ticks.length cfg.interval.toNat
      rw [observe_concat, (numbered_observe hcfg ticks).toNat_setpoint_step hcfg halgorithm, ih,
        HarvesterConfig.scheduled, HarvesterConfig.scheduled, HarvesterConfig.openCircuits_concat,
        List.length_append, List.length_singleton, RoundCounter.mod_next hinterval]
      have hgrown : ticks ++ [measured] ≠ [] := by simp
      by_cases hinside : ticks.length % cfg.interval.toNat < cfg.duration.toNat
      · rw [if_pos hinside, if_neg (by omega : ¬ _ % _ + 1 = _)]
        by_cases hmeasures : cfg.Measures ticks.length
        · have hends : ticks.length % cfg.interval.toNat + 1 = cfg.duration.toNat := hmeasures
          rw [if_pos hmeasures, if_neg (by omega), if_neg (by omega), if_pos hmeasures,
            List.getLast?_concat]
        · have hgoes : ticks.length % cfg.interval.toNat + 1 ≠ cfg.duration.toNat := hmeasures
          rw [if_neg hmeasures, if_pos (by omega), if_neg hgrown]
      · have hmeasures : ¬ cfg.Measures ticks.length := fun h => hinside h.lt_duration
        rw [if_neg hinside, if_neg hinside, if_neg hmeasures, List.append_nil, if_neg hgrown]
        by_cases hlast : ticks.length % cfg.interval.toNat + 1 = cfg.interval.toNat
        · rw [if_pos hlast, if_pos hlast]
          split
          · rfl
          · rw [if_pos (by omega)]
        · have hafter : ¬ ticks.length % cfg.interval.toNat + 1 < cfg.duration.toNat := by omega
          -- The first interval has not ended in between.
          have hsame : cfg.interval.toNat ≤ ticks.length + 1 ↔ cfg.interval.toNat ≤ ticks.length := by
            refine ⟨fun hround => Nat.le_of_not_lt fun hearly => ?_, Nat.le_succ_of_le⟩
            rw [Nat.mod_eq_of_lt hearly] at hlast
            omega
          simp only [if_neg hlast, if_neg hafter, hsame]

/-- What a tick of an open-circuit tracking does, once some ticks were measured since the last
reset.  It leads from the harvester `before` to the harvester `after`. -/
structure TracksOpenCircuit (cfg : HarvesterConfig) (ticks : List HarvestPoint)
    (before : Harvester) (measured : HarvestPoint) (after : Harvester) : Prop where
  remembers : before.openCircuit = (cfg.openCircuits ticks).getLast?.getD 0
  stored : cfg.Measures ticks.length → after.openCircuit = measured.voltage
  kept : ¬ cfg.Measures ticks.length → after.openCircuit = before.openCircuit
  /-- The transducer is unloaded when its voltage is stored, but for a window of one tick at the
  very start. -/
  stored_at_max : cfg.Measures ticks.length → (before.setpoint = cfg.voltageMax ↔
    cfg.duration ≠ 1 ∨ ticks ≠ [] ∨ cfg.clamp cfg.voltage = cfg.voltageMax)
  /-- Between the windows the harvester operates at the fraction of the last measurement, but for a
  schedule without windows after its first interval. -/
  operates : cfg.duration.toNat ≤ ticks.length % cfg.interval.toNat →
    (before.setpoint.toNat = cfg.operatingPoint (cfg.openCircuits ticks).getLast? ↔
      cfg.duration ≠ 0 ∨ ticks.length < cfg.interval.toNat ∨
        cfg.clamp cfg.voltage = cfg.voltageMax)

/-- In every run, whatever is measured and whenever the harvester is reset, each tick keeps to the
schedule of the open-circuit tracking. -/
theorem tracksOpenCircuit_run (hnew : new cfg = .ok harvester)
    (halgorithm : cfg.algorithm = .fractionalOpenCircuit) (calls : List HarvesterCall)
    (measured : HarvestPoint) :
    TracksOpenCircuit cfg (HarvesterCall.sinceReset calls) (harvester.run calls) measured
      ((harvester.run calls).step measured.voltage measured.current).2 := by
  obtain ⟨hvalid, rfl⟩ := validate_of_new hnew
  have hcfg := HarvesterConfig.admitted_of_validate hvalid
  rw [run_eq_observe hcfg]
  generalize HarvesterCall.sinceReset calls = ticks
  have hstep := (numbered_observe hcfg ticks).openCircuit_step hcfg halgorithm measured.voltage
    measured.current
  have hsetpoint := setpoint_observe hcfg halgorithm ticks
  rw [HarvesterConfig.scheduled] at hsetpoint
  have hstart : cfg.clamp cfg.voltage = cfg.voltageMax ↔
      cfg.operatingPoint none = cfg.voltageMax.toNat := by
    rw [← UInt32.toNat_inj, cfg.toNat_clamp_voltage]
  constructor
  case remembers => exact openCircuit_observe hcfg halgorithm ticks
  case stored =>
    intro hmeasures
    rw [hstep, if_pos hmeasures]
  case kept =>
    intro hmeasures
    rw [hstep, if_neg hmeasures]
  case stored_at_max =>
    intro hmeasures
    rw [if_pos hmeasures.lt_duration] at hsetpoint
    rw [← UInt32.toNat_inj, hsetpoint, hstart]
    obtain rfl | hsome := eq_or_ne ticks []
    · have hone : cfg.duration = 1 := by
        rw [← UInt32.toNat_inj, ← hmeasures, List.length_nil, Nat.zero_mod]
        rfl
      simp [hone]
    · simp [hsome]
  case operates =>
    intro houtside
    rw [if_neg (by omega)] at hsetpoint
    rw [hsetpoint, hstart]
    by_cases hraised : cfg.duration.toNat = 0 ∧ cfg.interval.toNat ≤ ticks.length
    · have hzero : cfg.duration = 0 := UInt32.toNat_inj.mp hraised.1
      rw [if_pos hraised, HarvesterConfig.openCircuits_eq_nil hraised.1, List.getLast?_nil, eq_comm]
      simp [hzero, Nat.not_lt.mpr hraised.2]
    · have hwindow : cfg.duration ≠ 0 ∨ ticks.length < cfg.interval.toNat := by
        rw [not_and_or, Nat.not_le] at hraised
        exact hraised.imp_left (mt fun hzero => UInt32.toNat_inj.mpr hzero)
      rw [if_neg hraised, ← or_assoc]
      exact iff_of_true rfl (.inl hwindow)

/-- Windows of two ticks in intervals of four, after a reset: the third tick and the fifth are
outside of the windows and in them, and the sixth stores the voltage of an unloaded transducer. -/
theorem tracksOpenCircuit_run_second :
    let cfg : HarvesterConfig :=
      { algorithm := .fractionalOpenCircuit, openCircuitRatio := 128, interval := 4, duration := 2 }
    let ticks : List HarvestPoint :=
      [⟨2500000, 0⟩, ⟨4000000, 0⟩, ⟨2000000, 6⟩, ⟨2000000, 7⟩, ⟨4800000, 0⟩]
    let calls := .step ⟨3, 4⟩ :: .reset :: ticks.map .step
    let before := (start cfg).run calls
    let after := (before.step 4800000 0).2
    new cfg = .ok (start cfg) ∧ cfg.Measures ticks.length ∧
      TracksOpenCircuit cfg ticks before ⟨4800000, 0⟩ after ∧ before.setpoint = 5000000 ∧
      (before.openCircuit, after.openCircuit) = (4000000, 4800000) ∧ after.setpoint = 2400000 := by
  intro cfg ticks calls before after
  have hnew : new cfg = .ok (start cfg) := rfl
  exact ⟨hnew, by decide, tracksOpenCircuit_run hnew rfl calls ⟨4800000, 0⟩, by decide, by decide,
    by decide⟩

/-- A window of one tick stores the voltage of a transducer that is held at the starting point, and
without windows the setpoint leaves the starting point at the end of the first interval, although
nothing is measured. -/
theorem measures_loaded :
    (let cfg : HarvesterConfig :=
      { algorithm := .fractionalOpenCircuit, interval := 2, duration := 1 }
     new cfg = .ok (start cfg) ∧ cfg.Measures 0 ∧
      ((start cfg).step 4000000 500).2.openCircuit = 4000000 ∧
      (start cfg).setpoint = 2500000 ∧ cfg.voltageMax = 5000000) ∧
    (let cfg : HarvesterConfig :=
      { algorithm := .fractionalOpenCircuit, interval := 2, duration := 0 }
     let ticks : List HarvestPoint := [⟨2500000, 500⟩, ⟨2500000, 500⟩]
     new cfg = .ok (start cfg) ∧ cfg.duration.toNat ≤ ticks.length % cfg.interval.toNat ∧
      cfg.openCircuits ticks = [] ∧ cfg.operatingPoint none = 2500000 ∧
      ((start cfg).observe ticks).setpoint = 5000000) := by
  decide

end Harvester

end HarvestTestbed
