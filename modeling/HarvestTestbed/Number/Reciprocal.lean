import HarvestTestbed.Number.UFixed

/-!
# Division by a reciprocal table

The real-time cores have no divider.  A divisor is normalized to `1.m` with eight mantissa bits
and the numerator is multiplied by the tabulated reciprocal of the middle of that mantissa bucket.
The quotient is accurate to about a fifth of a percent.
-/

namespace HarvestTestbed

/-- The number of mantissa bits that select a table entry. -/
def reciprocalBits : Nat := 8

def reciprocalBuckets : Nat := 1 <<< reciprocalBits

/-- Entry `bucket` of the table: `2 ^ 31` divided by the middle of mantissa bucket `bucket`. -/
def reciprocalEntry (bucket : Nat) : Nat :=
  (1 <<< 31) * (2 * reciprocalBuckets) / (2 * reciprocalBuckets + 2 * bucket + 1)

/-- The floor of the binary logarithm; zero maps to zero. -/
def log2Safe (value : UInt32) : Nat :=
  value.toNat.log2

/-- The mantissa bucket of a positive divisor whose highest bit is `exponent`. -/
def mantissaBucket (divisor exponent : Nat) : Nat :=
  let normalized :=
    if reciprocalBits ≤ exponent then divisor >>> (exponent - reciprocalBits)
    else divisor <<< (reciprocalBits - exponent)
  normalized % reciprocalBuckets

/-- Table division; a zero divisor counts as one. -/
def divideByTable (numerator : UInt64) (divisor : UInt32) : UInt64 :=
  let positive := max divisor.toNat 1
  let exponent := positive.log2
  UFixed.shiftSaturating (numerator.toNat * reciprocalEntry (mantissaBucket positive exponent))
    (-(31 + exponent : Int))

namespace UFixed

def divTable {frac : Nat} (x : UFixed frac) (divisor : UInt32) : UFixed frac :=
  ⟨divideByTable x.raw divisor⟩

end UFixed

end HarvestTestbed
