/-!
# Timers

A timer counts ticks, wraps at the end of a period and matches an armed compare value.  Wraps and
matches are latched until they are taken.  It also carries the levels of the monitored lines.
-/

namespace HarvestTestbed

/-- The operations of a timer whose state is a `T`. -/
class Timer (T : Type) where
  /-- Ticks since the last wrap. -/
  counter : T → UInt32
  /-- Sets the wrap value of the following periods. -/
  setPeriod : T → UInt32 → T
  /-- Consumes the wrap event. -/
  takeWrap : T → Bool × T
  /-- Arms the sample compare. -/
  setSampleCompare : T → UInt32 → T
  /-- Consumes the sample compare event. -/
  takeSampleMatch : T → Bool × T
  /-- Levels of the monitored lines. -/
  gpio : T → UInt32

end HarvestTestbed
