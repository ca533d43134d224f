import HarvestTestbed.Number.Saturating

/-!
# Unsigned fixed-point values

A `UFixed frac` is a 64-bit word read in units of `2 ^ -frac`.  Products and changes of scale are
computed exactly and rounded down once, then clamped once: apart from the final clamp no bit is
lost on the way.  The scale is part of the type, so two values of different scales cannot be
added by accident.
-/

namespace HarvestTestbed

/-- A non-negative quantity with `frac` fractional bits. -/
structure UFixed (frac : Nat) where
  raw : UInt64
  deriving DecidableEq, Repr, Inhabited

namespace UFixed

variable {frac : Nat}

def zero : UFixed frac := ⟨0⟩

def largest : UFixed frac := ⟨0xffffffffffffffff⟩

instance : LE (UFixed frac) := ⟨fun left right => left.raw ≤ right.raw⟩
instance : LT (UFixed frac) := ⟨fun left right => left.raw < right.raw⟩

instance (left right : UFixed frac) : Decidable (left ≤ right) :=
  inferInstanceAs (Decidable (left.raw ≤ right.raw))

instance (left right : UFixed frac) : Decidable (left < right) :=
  inferInstanceAs (Decidable (left.raw < right.raw))

instance : Min (UFixed frac) := ⟨fun left right => if left ≤ right then left else right⟩
instance : Max (UFixed frac) := ⟨fun left right => if left ≤ right then right else left⟩

/-- Moves the binary point of a wide intermediate result by `shift` places, upwards when it is
positive, and clamps to a word.  A move of 128 places or more upwards is always pinned. -/
def shiftSaturating (value : Nat) (shift : Int) : UInt64 :=
  if 128 ≤ shift then
    0xffffffffffffffff
  else if 0 ≤ shift then
    clampWord64 (value <<< shift.toNat)
  else
    clampWord64 (value >>> (-shift).toNat)

def ofInt (value : UInt64) : UFixed frac :=
  ⟨clampWord64 (value.toNat <<< frac)⟩

def toInt (x : UFixed frac) : UInt64 :=
  UInt64.ofNat (x.raw.toNat >>> frac)

/-- The integer part, at most the largest 32-bit word. -/
def toWord32 (x : UFixed frac) : UInt32 :=
  clampWord32 x.toInt.toNat

def isZero (x : UFixed frac) : Bool :=
  x.raw = 0

/-- The same quantity with `places` fractional bits. -/
def rescale (x : UFixed frac) (places : Nat) : UFixed places :=
  ⟨shiftSaturating x.raw.toNat ((places : Int) - frac)⟩

protected def add (left right : UFixed frac) : UFixed frac :=
  ⟨Saturating.add64 left.raw right.raw⟩

protected def sub (left right : UFixed frac) : UFixed frac :=
  ⟨Saturating.sub64 left.raw right.raw⟩

/-- The product of two scales, delivered in a third one. -/
def mulInto {rhs : Nat} (left : UFixed frac) (right : UFixed rhs) (out : Nat) : UFixed out :=
  ⟨shiftSaturating (left.raw.toNat * right.raw.toNat) ((out : Int) - (frac + rhs))⟩

def mulInt (x : UFixed frac) (factor : UInt64) : UFixed frac :=
  ⟨Saturating.mul64 x.raw factor⟩

instance : Add (UFixed frac) := ⟨UFixed.add⟩
instance : Sub (UFixed frac) := ⟨UFixed.sub⟩
instance : Mul (UFixed frac) := ⟨fun left right => left.mulInto right frac⟩

/-- The value limited to `[low, high]`; the lower bound is looked at first. -/
def clampTo (x low high : UFixed frac) : UFixed frac :=
  if x < low then low else if high < x then high else x

/-- Three-way comparison, `-1`, `0` or `1`. -/
def compare (left right : UFixed frac) : Int :=
  if left < right then -1 else if right < left then 1 else 0

/-- Integer part, fractional part and scale, as in `3+128/2^8`. -/
def describe (x : UFixed frac) : String :=
  toString x.toInt.toNat ++ "+" ++ toString (x.raw.toNat % (1 <<< min frac 63)) ++ "/2^" ++ toString frac

end UFixed

end HarvestTestbed
