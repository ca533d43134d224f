/-!
# Flags and guarded values

A flag is a one-bit token between two actors: one raises it, the other takes it.  It takes a byte of
memory, and any byte but zero reads as raised.  A guarded value is changed only inside a critical
section that finds the guard open and leaves it open.
-/

namespace HarvestTestbed

/-- A one-bit token, as it lies in memory. -/
structure Flag where
  byte : UInt8 := 0
  deriving DecidableEq, Repr, Inhabited

namespace Flag

def isRaised (flag : Flag) : Bool :=
  flag.byte != 0

def raised : Flag := ⟨1⟩

def low : Flag := ⟨0⟩

/-- Consumes the token: whether it was raised, and the flag afterwards. -/
def take (flag : Flag) : Bool × Flag :=
  (flag.isRaised, low)

@[simp] theorem isRaised_raised : raised.isRaised = true := rfl

@[simp] theorem isRaised_low : low.isRaised = false := rfl

end Flag

structure Guarded (α : Type) where
  value : α
  deriving DecidableEq, Repr, Inhabited

namespace Guarded

/-- Runs one critical section on the value. -/
def update {α : Type} (cell : Guarded α) (step : α → α) : Guarded α :=
  ⟨step cell.value⟩

end Guarded

end HarvestTestbed
