import HarvestTestbed.Timing.Timer

/-!
# A simulated timer

The simulated timer moves only when it is told to, by any number of ticks at once.  Wraps and
compare matches on the way are latched.  A period may be shortened below the present counter value;
the timer then wraps with the next tick.
-/

namespace HarvestTestbed

structure SimulatedTimer where
  counter : Nat := 0
  period : Nat
  compare : Option Nat := none
  wrapped : Bool := false
  matched : Bool := false
  gpio : UInt32 := 0
  deriving DecidableEq, Repr

namespace SimulatedTimer

def new (period : UInt32) : SimulatedTimer :=
  { period := max period.toNat 1 }

/-- The ticks to the next wrap, at least one. -/
def ticksToWrap (timer : SimulatedTimer) : Nat :=
  max (timer.period - timer.counter) 1

/-- Latches a match if the armed value lies within the next `ticks` ticks. -/
def latchMatch (timer : SimulatedTimer) (ticks : Nat) : SimulatedTimer :=
  match timer.compare with
  | some value =>
      if timer.counter < value ∧ value ≤ timer.counter + ticks then
        { timer with matched := true, compare := none }
      else timer
  | none => timer

/-- Moves the counter by at most the ticks to the next wrap. -/
def stride (timer : SimulatedTimer) (ticks : Nat) : SimulatedTimer :=
  let latched := timer.latchMatch ticks
  if timer.period ≤ timer.counter + ticks then { latched with counter := 0, wrapped := true }
  else { latched with counter := timer.counter + ticks }

/-- Moves the counter forward, latching every wrap and match on the way. -/
def advance (timer : SimulatedTimer) (ticks : Nat) : SimulatedTimer :=
  if ticks = 0 then timer
  else
    let step := min ticks timer.ticksToWrap
    (timer.stride step).advance (ticks - step)
termination_by ticks
decreasing_by
  have hstep : 1 ≤ timer.ticksToWrap := Nat.le_max_right _ _
  omega

def setGpio (timer : SimulatedTimer) (levels : UInt32) : SimulatedTimer :=
  { timer with gpio := levels }

instance : Timer SimulatedTimer where
  counter timer := UInt32.ofNat timer.counter
  setPeriod timer ticks := { timer with period := max ticks.toNat 1 }
  takeWrap timer := (timer.wrapped, { timer with wrapped := false })
  setSampleCompare timer ticks := { timer with compare := some ticks.toNat }
  takeSampleMatch timer := (timer.matched, { timer with matched := false })
  gpio timer := timer.gpio

end SimulatedTimer

end HarvestTestbed
