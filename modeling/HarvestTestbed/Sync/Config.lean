import HarvestTestbed.Number.Saturating
import HarvestTestbed.Fault

/-!
# Timing of the synchronization loop

The timer of the timing core counts ticks and wraps once per period; a period holds a fixed number
of samples.
-/

namespace HarvestTestbed

structure SyncConfig where
  /-- Length of a period in nanoseconds. -/
  period : UInt64 := 100000000
  /-- Length of a timer tick in nanoseconds. -/
  tick : UInt64 := 5
  samplesPerPeriod : UInt32 := 10000
  /-- The host trigger spins over this window before a deadline instead of sleeping. -/
  spinWindow : UInt64 := 200000
  deriving DecidableEq, Repr

namespace SyncConfig

instance : Inhabited SyncConfig := ⟨{}⟩

/-- The ticks of a period when no correction is applied. -/
def nominalTicks (cfg : SyncConfig) : UInt32 :=
  clampWord32 (cfg.period.toNat / max cfg.tick.toNat 1)

/-- A period is a whole number of ticks, small enough for a timer, and holds at least one sample
and at most one per tick. -/
def validate (cfg : SyncConfig) : Except Fault Unit :=
  if cfg.tick = 0 ∨ cfg.period = 0 then
    .error (.invalidConfig .syncNotPositive)
  else if cfg.period % cfg.tick ≠ 0 ∨ 2147483647 < cfg.period / cfg.tick then
    .error (.invalidConfig (.syncNotRepresentable cfg.period.toNat))
  else if cfg.samplesPerPeriod = 0 ∨ cfg.nominalTicks < cfg.samplesPerPeriod then
    .error (.invalidConfig (.samplesDoNotFit cfg.samplesPerPeriod.toNat))
  else .ok ()

end SyncConfig

end HarvestTestbed
