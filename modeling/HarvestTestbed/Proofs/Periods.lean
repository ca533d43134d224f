import Mathlib
import HarvestTestbed.Buffer.Sample

/-!
# Periods and their records

The swap triggers that the sampling loop handles divide its samples into periods.  A period is kept
here in full, as the list of everything that was measured in it.  A buffer records a period if it
carries its timestamp, its first samples up to the capacity, and the totals over all of its samples,
whether or not they found room.

The number of samples that a buffer presents is a count of 32 bits.  A capacity that does not fit
such a count is taken modulo the size of the word, so the room of a buffer is the remainder.
-/

namespace HarvestTestbed

/-- What one sample tick came to. -/
structure SampleRecord where
  sample : IvSample
  /-- Input power of the converter, in femtowatts. -/
  power : UInt64
  /-- Processing load in ticks. -/
  ticks : UInt32
  deriving DecidableEq, Repr

/-- A trigger that the sampling loop handled. -/
inductive LoopEvent
  | swap (timestamp : UInt64)
  | sample (record : SampleRecord)
  deriving DecidableEq, Repr

/-- A period, opened by a swap, with what was sampled until the next one. -/
structure Period where
  timestamp : UInt64
  records : List SampleRecord := []
  deriving DecidableEq, Repr

namespace Period

def samples (period : Period) : List IvSample :=
  period.records.map (·.sample)

def add (period : Period) (record : SampleRecord) : Period :=
  { period with records := period.records ++ [record] }

@[simp]
theorem records_add (period : Period) (record : SampleRecord) :
    (period.add record).records = period.records ++ [record] :=
  rfl

@[simp]
theorem length_samples (period : Period) : period.samples.length = period.records.length := by
  simp [samples]

@[simp]
theorem samples_add (period : Period) (record : SampleRecord) :
    (period.add record).samples = period.samples ++ [record.sample] := by
  simp [samples]

end Period

/-- The periods that the triggers handled so far delimit. -/
structure PeriodLog where
  /-- Those that a later swap ended, in order. -/
  ended : List Period := []
  /-- The one that the last swap opened. -/
  lasting : Option Period := none
  deriving DecidableEq, Repr

namespace PeriodLog

def note (log : PeriodLog) : LoopEvent → PeriodLog
  | .swap timestamp =>
      { ended := log.ended ++ log.lasting.toList, lasting := some { timestamp := timestamp } }
  | .sample record => { log with lasting := log.lasting.map (·.add record) }

/-- The periods of a sequence of triggers. -/
def ofEvents (events : List LoopEvent) : PeriodLog :=
  events.foldl note {}

end PeriodLog

/-! ## Saturating totals -/

/-- Adding to a pinned total pins the exact total. -/
theorem min_add_min (total more bound : ℕ) :
    min (min total bound + more) bound = min (total + more) bound := by
  omega

/-! ## Summaries -/

/-- A summary states the timestamp, the number of samples and the totals of a period. -/
structure Summarizes (period : Period) (summary : BufferMeta) : Prop where
  timestamp : summary.timestamp = period.timestamp
  sampleCount : summary.sampleCount.toNat = min period.records.length (UInt32.size - 1)
  ticksMax : summary.util.ticksMax = (period.records.map (·.ticks)).foldl max 0
  ticksSum : summary.util.ticksSum.toNat =
    min (period.records.map (·.ticks.toNat)).sum (UInt64.size - 1)
  inputPower : summary.inputPower.toNat =
    min (period.records.map (·.power.toNat)).sum (UInt64.size - 1)

namespace Summarizes

theorem opened (timestamp : UInt64) :
    Summarizes { timestamp := timestamp } { timestamp := timestamp } where
  timestamp := rfl
  sampleCount := rfl
  ticksMax := rfl
  ticksSum := rfl
  inputPower := rfl

/-- Once a total has reached the largest word, further samples leave it there. -/
theorem add {period : Period} {summary : BufferMeta} (h : Summarizes period summary)
    (record : SampleRecord) :
    Summarizes (period.add record)
      { summary with
        sampleCount := Saturating.add32 summary.sampleCount 1
        util := summary.util.record record.ticks
        inputPower := Saturating.add64 summary.inputPower record.power } where
  timestamp := h.timestamp
  sampleCount := by
    simp only [Saturating.toNat_add32, h.sampleCount, Period.records_add, List.length_append,
      List.length_singleton, UInt32.toNat_one, min_add_min]
  ticksMax := by
    simp [Utilization.record, h.ticksMax]
  ticksSum := by
    simp only [Utilization.record, Saturating.toNat_add64, h.ticksSum, UInt32.toNat_toUInt64,
      min_add_min]
    simp
  inputPower := by
    simp only [Saturating.toNat_add64, h.inputPower, min_add_min]
    simp

end Summarizes

/-! ## Cells -/

/-- The number of samples that a buffer of a given capacity can present. -/
def presentable (capacity : ℕ) : ℕ :=
  capacity % UInt32.size

theorem presentable_lt (capacity : ℕ) : presentable capacity < UInt32.size :=
  Nat.mod_lt _ (by decide)

theorem presentable_le (capacity : ℕ) : presentable capacity ≤ capacity :=
  Nat.mod_le _ _

/-- A sample lands in its own cell, if there is one. -/
theorem cell_put (buffer : SampleBuffer) (index other : ℕ) (sample : IvSample) :
    (buffer.put index sample).2.cell other =
      if other = index ∧ index < buffer.capacity then sample else buffer.cell other := by
  simp only [SampleBuffer.put]
  split
  · rename_i hlt
    simp only [SampleBuffer.cell, SampleBuffer.writeCell, Array.getD_eq_getD_getElem?, hlt,
      and_true]
    split
    · rename_i hwritten
      rw [Array.getElem?_setIfInBounds]
      by_cases hother : other = index
      · simp [hother, hwritten]
      · simp [hother, Ne.symm hother]
    · rename_i hwritten
      have hsize : (buffer.cells ++
          Array.replicate (index - buffer.cells.size) ({} : IvSample)).size = index := by
        rw [Array.size_append, Array.size_replicate]
        omega
      rw [Array.getElem?_push, hsize]
      by_cases hother : other = index
      · simp [hother]
      · rw [if_neg hother, if_neg hother, Array.getElem?_append]
        split
        · rfl
        · rename_i hbeyond
          rw [Array.getElem?_replicate, Array.getElem?_eq_none (by omega)]
          split <;> rfl
  · rename_i hge
    simp [hge]

theorem capacity_put (buffer : SampleBuffer) (index : ℕ) (sample : IvSample) :
    (buffer.put index sample).2.capacity = buffer.capacity := by
  simp only [SampleBuffer.put]
  split <;> rfl

/-- The cells that a buffer will present hold the samples of the period so far. -/
def Holds (capacity : ℕ) (period : Period) (buffer : SampleBuffer) : Prop :=
  ∀ index sample, period.samples[index]? = some sample → index < presentable capacity →
    buffer.cell index = sample

namespace Holds

theorem opened (capacity : ℕ) (timestamp : UInt64) (buffer : SampleBuffer) :
    Holds capacity { timestamp := timestamp } buffer := by
  intro index sample hsample
  simp [Period.samples] at hsample

/-- Storing the next sample of a period.  One beyond the room of the buffer leaves the cells that it
will present as they are. -/
theorem put {capacity : ℕ} {period : Period} {buffer : SampleBuffer} {summary : BufferMeta}
    (h : Holds capacity period buffer) (hcapacity : buffer.capacity = capacity)
    (hsummary : Summarizes period summary) (record : SampleRecord) :
    Holds capacity (period.add record)
      (buffer.put summary.sampleCount.toNat record.sample).2 := by
  intro index sample hsample hroom
  have hcount := hsummary.sampleCount
  have hword := presentable_lt capacity
  have hle := presentable_le capacity
  rw [← Period.length_samples] at hcount
  rw [cell_put, hcapacity, hcount]
  rw [Period.samples_add, List.getElem?_append] at hsample
  split at hsample
  · rename_i hlt
    have hne : ¬ (index = min period.samples.length (UInt32.size - 1) ∧
        min period.samples.length (UInt32.size - 1) < capacity) := by omega
    rw [if_neg hne]
    exact h index sample hsample hroom
  · rename_i hge
    obtain ⟨hzero, rfl⟩ : index - period.samples.length = 0 ∧ record.sample = sample := by
      rw [List.getElem?_singleton] at hsample
      split at hsample
      · rename_i hzero
        exact ⟨hzero, Option.some.inj hsample⟩
      · cases hsample
    have hlast : index = min period.samples.length (UInt32.size - 1) ∧
        min period.samples.length (UInt32.size - 1) < capacity := by omega
    rw [if_pos hlast]

end Holds

/-! ## Records -/

/-- A finished buffer records a period. -/
structure Records (capacity : ℕ) (buffer : SampleBuffer) (period : Period) : Prop where
  timestamp : buffer.timestamp = period.timestamp
  samples : buffer.samples.toList = period.samples.take (presentable capacity)
  ticksMax : buffer.util.ticksMax = (period.records.map (·.ticks)).foldl max 0
  ticksSum : buffer.util.ticksSum.toNat =
    min (period.records.map (·.ticks.toNat)).sum (UInt64.size - 1)
  inputPower : buffer.inputPower.toNat =
    min (period.records.map (·.power.toNat)).sum (UInt64.size - 1)

/-- Once its summary is attached, a buffer that holds the samples of a period records it. -/
theorem Holds.records {capacity : ℕ} {period : Period} {buffer : SampleBuffer}
    {summary : BufferMeta} (h : Holds capacity period buffer)
    (hcapacity : buffer.capacity = capacity) (hsummary : Summarizes period summary) :
    Records capacity (buffer.finish summary) period where
  timestamp := hsummary.timestamp
  samples := by
    have hword := presentable_lt capacity
    have hlength : (buffer.finish summary).length =
        min period.samples.length (presentable capacity) := by
      have hcount := hsummary.sampleCount
      simp only [SampleBuffer.finish, hcapacity, hcount, Period.length_samples]
      simp only [presentable] at hword ⊢
      omega
    apply List.ext_getElem
    · simp [SampleBuffer.samples, hlength, Nat.min_comm]
    · intro index hleft hright
      have hroom : index < presentable capacity := by
        rw [List.length_take] at hright
        omega
      have hsample : period.samples[index]? = some (period.samples.take _)[index] := by
        rw [List.getElem_take, List.getElem?_eq_getElem]
      have hcell : (buffer.finish summary).cell index = buffer.cell index := rfl
      simpa [SampleBuffer.samples, hcell] using h index _ hsample hroom
  ticksMax := hsummary.ticksMax
  ticksSum := hsummary.ticksSum
  inputPower := hsummary.inputPower

/-- A buffer presents as many samples as fit its capacity, unless that many cannot be presented. -/
theorem take_presentable_iff (capacity : ℕ) (period : Period) :
    period.samples.take (presentable capacity) = period.samples.take capacity ↔
      min period.samples.length capacity ≤ presentable capacity := by
  have hle := presentable_le capacity
  rw [List.take_eq_take_iff]
  omega

end HarvestTestbed
