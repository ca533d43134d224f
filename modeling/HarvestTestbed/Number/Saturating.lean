/-!
# Saturating words

Readings, voltages and currents are 32-bit words, powers and accumulators 64-bit words.  An
operation whose exact result does not fit is pinned at the nearest bound, so that an overflow
shows up as an extreme value and never as a small one.  Every operation here computes exactly on
`Nat` or `Int` first and clamps once at the end.
-/

namespace HarvestTestbed

/-- The 32-bit word nearest to `value`. -/
def clampWord32 (value : Nat) : UInt32 :=
  UInt32.ofNat (min value (UInt32.size - 1))

def clampWord64 (value : Nat) : UInt64 :=
  UInt64.ofNat (min value (UInt64.size - 1))

/-- The 32-bit word nearest to a signed value; negative values become zero. -/
def clampSigned32 (value : Int) : UInt32 :=
  clampWord32 value.toNat

def clampInt64 (value : Int) : Int :=
  max (-0x8000000000000000) (min value 0x7fffffffffffffff)

/-- The signed 64-bit reading of the low 64 bits of `value`. -/
def wrapInt64 (value : Int) : Int :=
  value.bmod UInt64.size

/-- A value that has a signed reading in 64 bits is read as itself. -/
theorem wrapInt64_eq_self {value : Int} (hlow : -0x8000000000000000 ≤ value)
    (hhigh : value < 0x8000000000000000) : wrapInt64 value = value := by
  have hsize : UInt64.size = 0x10000000000000000 := rfl
  rw [wrapInt64, hsize, Int.bmod_eq_of_le]
  · omega
  · omega

theorem toNat_clampWord32 (value : Nat) :
    (clampWord32 value).toNat = min value (UInt32.size - 1) := by
  rw [clampWord32, UInt32.toNat_ofNat_of_lt' (Nat.lt_of_le_of_lt (Nat.min_le_right _ _) (by decide))]

theorem toNat_clampWord64 (value : Nat) :
    (clampWord64 value).toNat = min value (UInt64.size - 1) := by
  rw [clampWord64, UInt64.toNat_ofNat_of_lt' (Nat.lt_of_le_of_lt (Nat.min_le_right _ _) (by decide))]

theorem clampWord32_le {low high : Nat} (h : low ≤ high) : clampWord32 low ≤ clampWord32 high := by
  rw [UInt32.le_iff_toNat_le, toNat_clampWord32, toNat_clampWord32]
  omega

theorem clampWord64_le {low high : Nat} (h : low ≤ high) : clampWord64 low ≤ clampWord64 high := by
  rw [UInt64.le_iff_toNat_le, toNat_clampWord64, toNat_clampWord64]
  omega

namespace Saturating

/-- The sum of two 32-bit words, at most the largest word. -/
def add32 (left right : UInt32) : UInt32 :=
  clampWord32 (left.toNat + right.toNat)

/-- The difference of two 32-bit words, at least zero. -/
def sub32 (left right : UInt32) : UInt32 :=
  clampWord32 (left.toNat - right.toNat)

def add64 (left right : UInt64) : UInt64 :=
  clampWord64 (left.toNat + right.toNat)

def sub64 (left right : UInt64) : UInt64 :=
  clampWord64 (left.toNat - right.toNat)

def mul64 (left right : UInt64) : UInt64 :=
  clampWord64 (left.toNat * right.toNat)

theorem toNat_add32 (left right : UInt32) :
    (add32 left right).toNat = min (left.toNat + right.toNat) (UInt32.size - 1) :=
  toNat_clampWord32 _

theorem toNat_add64 (left right : UInt64) :
    (add64 left right).toNat = min (left.toNat + right.toNat) (UInt64.size - 1) :=
  toNat_clampWord64 _

theorem toNat_mul64 (left right : UInt64) :
    (mul64 left right).toNat = min (left.toNat * right.toNat) (UInt64.size - 1) :=
  toNat_clampWord64 _

/-- A difference is never too large for a word. -/
theorem toNat_sub32 (left right : UInt32) :
    (sub32 left right).toNat = left.toNat - right.toNat := by
  have hleft : left.toNat < UInt32.size := left.toNat_lt
  rw [sub32, toNat_clampWord32]
  omega

theorem toNat_sub64 (left right : UInt64) :
    (sub64 left right).toNat = left.toNat - right.toNat := by
  have hleft : left.toNat < UInt64.size := left.toNat_lt
  rw [sub64, toNat_clampWord64]
  omega

theorem sub32_le (left right : UInt32) : sub32 left right ≤ left := by
  rw [UInt32.le_iff_toNat_le, toNat_sub32]
  exact Nat.sub_le _ _

theorem add64_zero (word : UInt64) : add64 word 0 = word := by
  have hword : word.toNat < UInt64.size := word.toNat_lt
  rw [← UInt64.toNat_inj, toNat_add64, UInt64.toNat_zero]
  omega

end Saturating

end HarvestTestbed
