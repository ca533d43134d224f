/-!
# Hexadecimal text

Event values and canaries are printed in lower-case hexadecimal with a leading `0x`.
-/

namespace HarvestTestbed

/-- The digits of `value` to base sixteen, in lower case. -/
def hexDigits (value : Nat) : String :=
  String.ofList (Nat.toDigits 16 value)

/-- Two digits for every byte. -/
def hexBytes (bytes : List UInt8) : String :=
  String.ofList (bytes.flatMap fun byte =>
    [Nat.digitChar (byte.toNat / 16), Nat.digitChar (byte.toNat % 16)])

/-- `value` in hexadecimal with its mark, without padding. -/
def hexText (value : Nat) : String :=
  "0x" ++ hexDigits value

/-- A 32-bit word in hexadecimal with its mark, padded to eight digits. -/
def hexWord (value : UInt32) : String :=
  let digits := Nat.toDigits 16 value.toNat
  "0x" ++ String.ofList (List.replicate (8 - digits.length) '0' ++ digits)

end HarvestTestbed
