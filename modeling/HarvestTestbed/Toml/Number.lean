import HarvestTestbed.Toml.Reader

/-!
# Numbers

Integers are written to base ten with an optional sign, or to base sixteen, eight or two without
one, and have to fit 64 bits.  A decimal number starts with a zero only if that is all of its
integer part.  Between two digits there may be one underscore.  Real numbers have a fraction, an
exponent or both; one that would round to positive infinity is refused.
-/

namespace HarvestTestbed.Toml

def fitsInt64 (value : Int) : Bool :=
  -0x8000000000000000 ≤ value && value ≤ 0x7fffffffffffffff

/-- From this value on a real number rounds to infinity: half a unit in the last place above the
largest finite one of double precision. -/
def realOverflow : Nat := (1 <<< 1024) - (1 <<< 970)

/-- Whether `significand * 10 ^ exponent` rounds to infinity.  The number of digits decides unless
it is close to the limit. -/
def roundsToInfinity (significand : Nat) (exponent : Int) : Bool :=
  let digits := (Nat.toDigits 10 significand).length
  if significand = 0 ∨ digits + exponent < 300 then false
  else if 320 < digits + exponent then true
  else
    realOverflow * Nat.pow 10 (-exponent).toNat ≤ significand * Nat.pow 10 exponent.toNat

namespace Reader

/-- Digits of a base, with single underscores between them. -/
def digits (accepts : Char → Bool) : Reader (List Char) := do
  let first ← char accepts
  let rest ← many (char accepts <|> (do mark '_'; char accepts))
  return first :: rest

/-- A sign; true if it is a minus. -/
def sign : Reader Bool :=
  (do mark '-'; return true) <|> (do mark '+'; return false) <|> pure false

/-- The digits of a decimal number without needless zeros in front. -/
def leadingDigits : Reader (List Char) :=
  (do mark '0'; return ['0']) <|> digits isDecimalDigit

def decimalInteger : Reader Int := do
  let negative ← sign
  let value := (ofDigits 10 (← leadingDigits) : Int)
  return if negative then -value else value

/-- An integer to another base, after its mark. -/
def markedInteger (letter : Char) (base : Nat) : Reader Int := do
  word ['0', letter]
  return (ofDigits base (← digits fun c => isHexDigit c && digitValue c < base) : Int)

def integer : Reader Int :=
  satisfying (markedInteger 'x' 16 <|> markedInteger 'o' 8 <|> markedInteger 'b' 2 <|>
    decimalInteger) fitsInt64

def fraction : Reader (List Char) := do
  mark '.'
  digits isDecimalDigit

def exponent : Reader Int := do
  let _ ← char fun c => c == 'e' || c == 'E'
  let negative ← sign
  let value := (ofDigits 10 (← digits isDecimalDigit) : Int)
  return if negative then -value else value

def finiteReal : Reader Unit := do
  let negative ← sign
  let whole ← leadingDigits
  let part ← option fraction
  let power ← if part.isSome then option exponent else some <$> exponent
  let places := part.getD []
  if !negative && roundsToInfinity (ofDigits 10 (whole ++ places))
      (power.getD 0 - (places.length : Int)) then
    failure

/-- Infinity, or a value that is no number. -/
def specialReal : Reader Unit := do
  let _ ← sign
  word ['i', 'n', 'f'] <|> word ['n', 'a', 'n']

def real : Reader Unit :=
  finiteReal <|> specialReal

end Reader

end HarvestTestbed.Toml
