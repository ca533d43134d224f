import HarvestTestbed.Proofs.ControlLaw
import HarvestTestbed.Proofs.TimelySamples

/-!
# Samples fill their period

If the timer moves by one tick from step to step, a sample is raised at its position.
-/

namespace HarvestTestbed

/-! ## Computed replies -/

/-- A controller of a configuration answers the reply, after whatever calls. -/
def SyncReply.Computed (cfg : SyncConfig) (reply : SyncReply) : Prop :=
  ∃ controller calls call, SyncController.new cfg = .ok controller ∧
    ((controller.after calls).call call).1 = some reply

/-- A call that is answered runs the control law, on a controller of the same configuration. -/
theorem SyncController.exists_applyError_of_call {controller : SyncController} {call : SyncCall}
    {reply : SyncReply} (hreply : (controller.call call).1 = some reply) :
    ∃ prepared : SyncController, ∃ raw, prepared.cfg = controller.cfg ∧
      (prepared.applyError raw).1 = reply := by
  cases call with
  | error raw => exact ⟨controller, raw, rfl, Option.some.inj hreply⟩
  | request counter time =>
      exact ⟨controller.prepare time, controller.rawError (.request counter time),
        controller.cfg_prepare time, Option.some.inj hreply⟩
  | reset => cases hreply

/-- A computed reply divides a period of at least one tick, which is little shorter than nominal. -/
theorem SyncReply.Computed.divides {cfg : SyncConfig} {reply : SyncReply}
    (h : reply.Computed cfg) :
    0 < reply.syncInterval.toNat ∧
      cfg.nominalTicks.toNat ≤ reply.syncInterval.toNat + cfg.nominalTicks.toNat / 250 ∧
      reply.sampleInterval = reply.syncInterval / cfg.samplesPerPeriod ∧
      reply.compensation = reply.syncInterval % cfg.samplesPerPeriod := by
  obtain ⟨controller, calls, call, hnew, hreply⟩ := h
  obtain ⟨hvalid, rfl⟩ := SyncController.validate_of_new hnew
  obtain ⟨prepared, raw, hcfg, rfl⟩ := SyncController.exists_applyError_of_call hreply
  rw [SyncController.cfg_after] at hcfg
  obtain rfl : prepared.cfg = cfg := hcfg
  have hadmitted := SyncConfig.admitted_of_validate hvalid
  obtain ⟨hinterval, hpos⟩ := SyncController.toNat_syncInterval_applyError hadmitted raw
  have hlimit := (abs_le.mp (prepared.abs_correction_applyError raw)).1
  exact ⟨hpos, by omega, rfl, rfl⟩

namespace Pacer

variable {opened pacer : Pacer} {number ticks : ℕ}

/-! ## Positions in a period that is divided among its samples -/

/-- The period is divided into as many intervals as it has samples, and what is left over. -/
structure Divided (pacer : Pacer) : Prop where
  samples_pos : 0 < pacer.samples.toNat
  ticks_pos : 0 < pacer.ticks.toNat
  interval : pacer.interval.toNat = pacer.ticks.toNat / pacer.samples.toNat
  compensation : pacer.compensation.toNat = pacer.ticks.toNat % pacer.samples.toNat

theorem SameDivision.divided (hsame : SameDivision opened pacer) (h : opened.Divided) :
    pacer.Divided where
  samples_pos := by rw [hsame.samples]; exact h.samples_pos
  ticks_pos := by rw [hsame.ticks]; exact h.ticks_pos
  interval := by rw [hsame.interval, hsame.ticks, hsame.samples]; exact h.interval
  compensation := by rw [hsame.compensation, hsame.ticks, hsame.samples]; exact h.compensation

theorem position_mono (pacer : Pacer) {number other : ℕ} (hle : number ≤ other) :
    pacer.position number ≤ pacer.position other := by
  rw [position, position]
  exact Nat.add_le_add (Nat.mul_le_mul_right _ hle) (min_le_min_right _ hle)

namespace Divided

/-- The intervals and what is left over make up the period. -/
theorem total (h : pacer.Divided) :
    pacer.samples.toNat * pacer.interval.toNat + pacer.compensation.toNat = pacer.ticks.toNat := by
  rw [h.interval, h.compensation]
  exact Nat.div_add_mod _ _

theorem position_samples (h : pacer.Divided) :
    pacer.position pacer.samples.toNat = pacer.ticks.toNat := by
  have hleft : pacer.compensation.toNat < pacer.samples.toNat := by
    rw [h.compensation]
    exact Nat.mod_lt _ h.samples_pos
  rw [position, Nat.min_eq_right hleft.le, h.total]

theorem position_le (h : pacer.Divided) (hnumber : number ≤ pacer.samples.toNat) :
    pacer.position number ≤ pacer.ticks.toNat := by
  rw [← h.position_samples]
  exact pacer.position_mono hnumber

/-- A position of the period fits its word. -/
theorem position_mod (h : pacer.Divided) (hnumber : number ≤ pacer.samples.toNat) :
    pacer.position number % UInt32.size = pacer.position number :=
  Nat.mod_eq_of_lt ((h.position_le hnumber).trans_lt pacer.ticks.toNat_lt)

/-- With fewer ticks than samples there is a sample at every tick, and the others are at the end. -/
theorem position_of_few (h : pacer.Divided) (hfew : pacer.ticks.toNat < pacer.samples.toNat)
    (number : ℕ) : pacer.position number = min number pacer.ticks.toNat := by
  rw [position, h.interval, h.compensation, Nat.div_eq_of_lt hfew, Nat.mod_eq_of_lt hfew,
    Nat.mul_zero, Nat.zero_add]

theorem interval_pos (h : pacer.Divided) (hfits : pacer.samples.toNat ≤ pacer.ticks.toNat) :
    0 < pacer.interval.toNat := by
  rw [h.interval]
  exact Nat.div_pos hfits h.samples_pos

/-- Positions increase as long as they are within the period. -/
theorem position_lt_succ (h : pacer.Divided) (hshort : pacer.position number < pacer.ticks.toNat) :
    pacer.position number < pacer.position (number + 1) := by
  obtain hfew | hfits := Nat.lt_or_ge pacer.ticks.toNat pacer.samples.toNat
  · rw [h.position_of_few hfew] at hshort ⊢
    rw [h.position_of_few hfew]
    omega
  · have hpos := h.interval_pos hfits
    rw [position_succ]
    omega

/-- With at least as many ticks as samples every sample is within the period. -/
theorem position_lt (h : pacer.Divided) (hfits : pacer.samples.toNat ≤ pacer.ticks.toNat)
    (hnumber : number < pacer.samples.toNat) : pacer.position number < pacer.ticks.toNat := by
  have hpos := h.interval_pos hfits
  have hnext := h.position_le (Nat.succ_le_of_lt hnumber)
  rw [position_succ] at hnext
  omega

theorem position_strict (h : pacer.Divided) (hfits : pacer.samples.toNat ≤ pacer.ticks.toNat)
    {number other : ℕ} (hlt : number < other) (hother : other < pacer.samples.toNat) :
    pacer.position number < pacer.position other :=
  (h.position_lt_succ (h.position_lt hfits (hlt.trans hother))).trans_le
    (pacer.position_mono hlt)

/-- The second sample is at the first tick, unless there are more ticks than samples. -/
theorem position_one (h : pacer.Divided) :
    pacer.position 1 = 1 ↔ pacer.ticks.toNat ≤ pacer.samples.toNat := by
  have hpos := h.samples_pos
  have hticks := h.ticks_pos
  have htotal := h.total
  have hleft : pacer.compensation.toNat < pacer.samples.toNat := by
    rw [h.compensation]
    exact Nat.mod_lt _ h.samples_pos
  obtain hfits | hfew := Nat.lt_or_ge pacer.samples.toNat pacer.ticks.toNat
  · have hinterval := h.interval_pos hfits.le
    refine iff_of_false (fun hone => ?_) (Nat.not_le.mpr hfits)
    rw [position, Nat.one_mul] at hone
    have hsingle : pacer.interval.toNat = 1 := by omega
    rw [hsingle, Nat.mul_one] at htotal
    omega
  · refine iff_of_true ?_ hfew
    obtain hequal | hless := hfew.eq_or_lt
    · rw [position, h.interval, h.compensation, hequal, Nat.div_self hpos, Nat.mod_self]
      rfl
    · rw [h.position_of_few hless]
      omega

end Divided


/-! ## Periods of a configuration -/

/-- A pacer that goes by a configuration: its period is divided, and the timer keeps to it. -/
structure GoesBy (cfg : SyncConfig) (pacer : Pacer) : Prop where
  samples : pacer.samples = cfg.samplesPerPeriod
  nominal : pacer.nominal = cfg.nominalTicks
  divided : pacer.Divided
  /-- A period is shortened by a fraction of the nominal one at most. -/
  corrected : cfg.nominalTicks.toNat ≤ pacer.ticks.toNat + cfg.nominalTicks.toNat / 250
  period : pacer.timer.period = pacer.ticks.toNat

variable {cfg : SyncConfig} {reply? : Option SyncReply}

namespace GoesBy

theorem advance (h : pacer.GoesBy cfg) (ticks : ℕ) : (pacer.advance ticks).GoesBy cfg where
  samples := h.samples
  nominal := h.nominal
  divided := (pacer.sameDivision_advance ticks).divided h.divided
  corrected := h.corrected
  period := (pacer.timer.period_advance ticks).trans h.period

theorem quieted (h : pacer.GoesBy cfg) : pacer.quieted.GoesBy cfg where
  samples := h.samples
  nominal := h.nominal
  divided := pacer.sameDivision_quieted.divided h.divided
  corrected := h.corrected
  period := h.period

theorem sample (h : pacer.GoesBy cfg) : pacer.sample.GoesBy cfg where
  samples := pacer.sameDivision_sample.samples.trans h.samples
  nominal := pacer.nominal_sample.trans h.nominal
  divided := pacer.sameDivision_sample.divided h.divided
  corrected := by
    rw [pacer.sameDivision_sample.ticks]
    exact h.corrected
  period := by
    obtain ⟨compare, htimer⟩ := pacer.timer_sample
    rw [htimer, pacer.sameDivision_sample.ticks]
    exact h.period

/-- A session that is forgotten goes on with nominal periods. -/
theorem of_cleared (hadmitted : cfg.Admitted) (hsamples : pacer.samples = cfg.samplesPerPeriod)
    (hnominal : pacer.nominal = cfg.nominalTicks) : pacer.cleared.GoesBy cfg := by
  have hpos := hadmitted.samples_pos
  have hticks := hadmitted.nominal_pos
  have hsome : (1 : UInt32) ≤ cfg.samplesPerPeriod := UInt32.le_iff_toNat_le.mpr hpos
  have hmax : max cfg.samplesPerPeriod 1 = cfg.samplesPerPeriod :=
    ite_eq_right_iff.mpr fun hfew => UInt32.le_antisymm hsome hfew
  constructor
  case samples => exact hsamples
  case nominal => exact hnominal
  case divided =>
    refine ⟨?_, ?_, ?_, ?_⟩ <;> simp only [cleared, hnominal, hsamples, hmax]
    · exact hpos
    · exact hticks
    · exact UInt32.toNat_div _ _
    · exact UInt32.toNat_mod _ _
  case corrected =>
    simp only [cleared, hnominal]
    exact Nat.le_add_right _ _
  case period =>
    simp only [cleared, hnominal]
    exact max_eq_left hticks

theorem of_opened (h : pacer.GoesBy cfg) (hcomputed : ∀ reply, reply? = some reply →
    reply.Computed cfg) : (pacer.opened reply?).GoesBy cfg := by
  cases reply? with
  | none => exact ⟨h.samples, h.nominal, ⟨h.divided.samples_pos, h.divided.ticks_pos,
      h.divided.interval, h.divided.compensation⟩, h.corrected, h.period⟩
  | some reply =>
    obtain ⟨hpos, hcorrected, hinterval, hrest⟩ := (hcomputed reply rfl).divides
    have hsamples := h.samples
    constructor
    case samples => exact hsamples
    case nominal => exact h.nominal
    case divided =>
      refine ⟨h.divided.samples_pos, hpos, ?_, ?_⟩ <;>
        simp only [Pacer.opened, Pacer.divided, hinterval, hrest, hsamples]
      · exact UInt32.toNat_div _ _
      · exact UInt32.toNat_mod _ _
    case corrected => exact hcorrected
    case period => exact max_eq_left hpos

theorem serve (h : pacer.GoesBy cfg) (hcomputed : pacer.timer.wrapped = true →
    ∀ reply, reply? = some reply → reply.Computed cfg) : (pacer.serve reply?).GoesBy cfg := by
  rw [Pacer.serve]
  split
  case isTrue hwrapped => exact (h.of_opened (hcomputed hwrapped)).sample
  case isFalse =>
    split
    · exact h.quieted.sample
    · exact h

end GoesBy

/-! ## Counting through a period -/

/-- A moment of a period: so many ticks have passed since the wrap that began it. -/
structure Counting (opened pacer : Pacer) (ticks : ℕ) : Prop where
  division : SameDivision opened pacer
  counter : pacer.timer.counter = ticks
  period : pacer.timer.period = opened.ticks.toNat
  within : ticks < opened.ticks.toNat
  wrapped : pacer.timer.wrapped = false

namespace Counting

theorem ticksToWrap (h : Counting opened pacer ticks) :
    pacer.timer.ticksToWrap = opened.ticks.toNat - ticks := by
  have hwithin := h.within
  rw [SimulatedTimer.ticksToWrap, h.counter, h.period]
  omega

/-- The timer wraps with the last tick of the period. -/
theorem wrapped_advance_one (h : Counting opened pacer ticks) :
    (pacer.advance 1).timer.wrapped = true ↔ ticks + 1 = opened.ticks.toNat := by
  have hwithin := h.within
  have hwrapped := pacer.timer.wrapped_advance 1
  rw [h.wrapped, h.ticksToWrap, Bool.false_or] at hwrapped
  rw [Pacer.advance, hwrapped, decide_eq_true_iff]
  omega

theorem timer_advance_one (h : Counting opened pacer ticks)
    (hshort : ticks + 1 < opened.ticks.toNat) :
    (pacer.advance 1).timer = { pacer.timer.latchMatch 1 with counter := ticks + 1 } := by
  have hwrap := h.ticksToWrap
  rw [Pacer.advance, SimulatedTimer.advance_of_lt (by omega), h.counter]

theorem advance_one (h : Counting opened pacer ticks) (hshort : ticks + 1 < opened.ticks.toNat) :
    Counting opened (pacer.advance 1) (ticks + 1) where
  division := h.division.trans (pacer.sameDivision_advance 1)
  counter := by rw [h.timer_advance_one hshort]
  period := (pacer.timer.period_advance 1).trans h.period
  within := hshort
  wrapped := by
    by_contra hwrapped
    have hlast := h.wrapped_advance_one.mp (Bool.eq_true_of_not_eq_false hwrapped)
    omega

theorem quieted (h : Counting opened pacer ticks) : Counting opened pacer.quieted ticks :=
  ⟨h.division.trans pacer.sameDivision_quieted, h.counter, h.period, h.within, rfl⟩

theorem sample (h : Counting opened pacer ticks) : Counting opened pacer.sample ticks := by
  have hdivision := h.division.trans pacer.sameDivision_sample
  obtain ⟨compare, htimer⟩ := pacer.timer_sample
  constructor
  case division => exact hdivision
  case within => exact h.within
  all_goals rw [htimer]
  case counter => exact h.counter
  case period => exact h.period
  case wrapped => exact h.wrapped

end Counting

/-! ## Raising the samples at their positions -/

/-- A moment of a period that was paced exactly so far. -/
structure Punctual (opened pacer : Pacer) (ticks number : ℕ) : Prop
    extends Counting opened pacer ticks where
  tracks : pacer.Tracks number
  le : number ≤ opened.samples.toNat
  past : ∀ earlier < number, opened.position earlier ≤ ticks
  armed : number < opened.samples.toNat →
    pacer.timer.compare = some (opened.position number) ∧ ticks < opened.position number
  unarmed : number = opened.samples.toNat → pacer.timer.compare = none
  /-- A match from before the period is that of the second sample. -/
  matched : pacer.timer.matched = true →
    ticks = 0 ∧ number = 1 ∧ number < opened.samples.toNat ∧ opened.position 1 = 1

/-- A sample is raised at its position. -/
theorem Counting.punctual_sample (h : Counting opened pacer ticks) (hdivided : opened.Divided)
    (htracks : pacer.Tracks number) (hnumber : number < opened.samples.toNat)
    (hposition : opened.position number = ticks)
    (hlast : number + 1 = opened.samples.toNat → pacer.timer.compare = none)
    (hmatched : pacer.timer.matched = true →
      ticks = 0 ∧ number = 0 ∧ 1 < opened.samples.toNat ∧ opened.position 1 = 1) :
    Punctual opened pacer.sample ticks (number + 1) := by
  have hsize := opened.samples.toNat_lt
  have hword : UInt32.size = 2 ^ 32 := rfl
  have hsamples : pacer.samples.toNat = opened.samples.toNat := by rw [h.division.samples]
  have hcounting := h.sample
  have hpast : ∀ earlier < number + 1, opened.position earlier ≤ ticks := fun earlier hearlier =>
    (opened.position_mono (Nat.le_of_lt_succ hearlier)).trans hposition.le
  have hleft : pacer.sample.timer.matched = true → ticks = 0 ∧ number + 1 = 1 ∧
      number + 1 < opened.samples.toNat ∧ opened.position 1 = 1 := by
    rw [matched_sample]
    intro hleft
    obtain ⟨hticks, rfl, hmore, hone⟩ := hmatched hleft
    exact ⟨hticks, rfl, hmore, hone⟩
  obtain hmore | hnone := Nat.lt_or_ge (number + 1) opened.samples.toNat
  · obtain ⟨hnext, htimer⟩ := htracks.sample_of_lt (hsamples ▸ hmore)
    have hreached : opened.position number < opened.ticks.toNat := hposition ▸ h.within
    refine ⟨hcounting, hnext, hmore.le, hpast, fun _ => ⟨?_, ?_⟩, fun hdone => ?_, hleft⟩
    · rw [htimer, h.division.position, hdivided.position_mod hmore.le]
    · rw [← hposition]
      exact hdivided.position_lt_succ hreached
    · omega
  · obtain ⟨hsampled, hnext⟩ := htracks.sample_of_le (hsamples ▸ hnone) (by omega)
    refine ⟨hcounting, hnext, hnumber, hpast, fun hmore => absurd hmore hnone.not_gt,
      fun hdone => ?_, hleft⟩
    rw [hsampled]
    exact hlast hdone

namespace Punctual

/-- With every tick but the last either the next sample is raised, at its position, or nothing
happens. -/
theorem tick (h : Punctual opened pacer ticks number) (hdivided : opened.Divided)
    (hshort : ticks + 1 < opened.ticks.toNat) :
    ((pacer.advance 1).timer.matched = true ∧ opened.position number = ticks + 1 ∧
        Punctual opened (pacer.advance 1).quieted.sample (ticks + 1) (number + 1)) ∨
      ((pacer.advance 1).timer.matched = false ∧
        Punctual opened (pacer.advance 1) (ticks + 1) number) := by
  have hcounting := h.advance_one hshort
  have htimer := h.timer_advance_one hshort
  have hcounter := h.counter
  obtain ⟨value, harmed, hahead, hreached, hlatch⟩ | ⟨hmiss, hlatch⟩ :=
    pacer.timer.latchMatch_cases 1
  · left
    -- What is armed ahead of the counter is the position of the next sample.
    have hnumber : number < opened.samples.toNat := by
      refine h.le.lt_of_ne fun hdone => ?_
      rw [h.unarmed hdone] at harmed
      cases harmed
    have hposition : opened.position number = ticks + 1 := by
      have hvalue := Option.some.inj (harmed.symm.trans (h.armed hnumber).1)
      omega
    have hcompare : (pacer.advance 1).quieted.timer.compare = none := by
      simp only [Pacer.quieted, htimer, hlatch]
    refine ⟨by rw [htimer, hlatch], hposition, ?_⟩
    exact hcounting.quieted.punctual_sample hdivided (h.tracks.advance 1).quieted hnumber
      hposition (fun _ => hcompare) (fun hleft => absurd hleft Bool.false_ne_true)
  · right
    -- A match from before the period would be due with this tick, and its value armed for it.
    have hmatched : pacer.timer.matched = false := by
      by_contra hleft
      obtain ⟨hticks, rfl, hmore, hone⟩ := h.matched (Bool.eq_true_of_not_eq_false hleft)
      have hlater := hmiss _ (h.armed hmore).1
      omega
    have hlow : (pacer.advance 1).timer.matched = false := by
      rw [htimer, hlatch]
      exact hmatched
    have hcompare : (pacer.advance 1).timer.compare = pacer.timer.compare := by
      rw [htimer, hlatch]
    refine ⟨hlow, hcounting, h.tracks.advance 1, h.le, fun earlier hearlier => ?_, fun hmore => ?_,
      fun hdone => ?_, fun hleft => absurd (hlow.symm.trans hleft) Bool.false_ne_true⟩
    · exact (h.past earlier hearlier).trans (Nat.le_succ ticks)
    · obtain ⟨harmed, hahead⟩ := h.armed hmore
      have hlater := hmiss _ harmed
      exact ⟨hcompare.trans harmed, by omega⟩
    · exact hcompare.trans (h.unarmed hdone)

/-- Before the last tick of a period all its samples are raised, or one at every tick. -/
theorem number_eq (h : Punctual opened pacer ticks number) (hdivided : opened.Divided)
    (hlast : ticks + 1 = opened.ticks.toNat) :
    number = min opened.samples.toNat opened.ticks.toNat := by
  have hle := h.le
  obtain hfew | hfits := Nat.lt_or_ge opened.ticks.toNat opened.samples.toNat
  · have hreached : number ≤ opened.ticks.toNat := by
      by_contra hlate
      have hpast := h.past (number - 1) (by omega)
      rw [hdivided.position_of_few hfew] at hpast
      omega
    have hahead := (h.armed (by omega)).2
    rw [hdivided.position_of_few hfew] at hahead
    omega
  · rw [min_eq_left hfits]
    by_contra hmore
    have hmore : number < opened.samples.toNat := by omega
    have hahead := (h.armed hmore).2
    have hwithin := hdivided.position_lt hfits hmore
    omega

/-- The last tick of a period latches a match if there are more samples than ticks. -/
theorem matched_last (h : Punctual opened pacer ticks number) (hdivided : opened.Divided)
    (hlast : ticks + 1 = opened.ticks.toNat) :
    (pacer.advance 1).timer.matched = true ↔ opened.ticks.toNat < opened.samples.toNat := by
  have hwrap : pacer.timer.ticksToWrap = 1 := by
    rw [h.ticksToWrap]
    omega
  have hnumber := h.number_eq hdivided hlast
  have hcounter := h.counter
  have hmatched : (pacer.advance 1).timer.matched = (pacer.timer.latchMatch 1).matched := by
    rw [Pacer.advance, SimulatedTimer.advance_one_of_last hwrap, SimulatedTimer.afterWrap_eq, hwrap]
  rw [hmatched]
  obtain hfew | hfits := Nat.lt_or_ge opened.ticks.toNat opened.samples.toNat
  · rw [min_eq_right hfew.le] at hnumber
    have harmed := (h.armed (hnumber ▸ hfew)).1
    rw [hdivided.position_of_few hfew, hnumber, min_self] at harmed
    rw [SimulatedTimer.latchMatch_of_hit harmed (by omega) (by omega)]
    exact iff_of_true rfl hfew
  · rw [min_eq_left hfits] at hnumber
    have hmiss : pacer.timer.latchMatch 1 = pacer.timer :=
      SimulatedTimer.latchMatch_of_miss fun value harmed => by
        rw [h.unarmed hnumber] at harmed
        cases harmed
    rw [hmiss]
    refine iff_of_false (fun hleft => ?_) hfits.not_gt
    have hmore := (h.matched hleft).2.2.1
    omega

end Punctual

end Pacer

end HarvestTestbed
