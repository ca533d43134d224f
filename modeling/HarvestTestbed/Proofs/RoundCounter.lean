import Mathlib.Data.Nat.ModEq

/-!
# Counters that start again

A word that counts up to an interval and starts again at zero is the number of what it has counted,
modulo the interval.  It stays below the interval, so the addition never wraps, and it is at its
last value just before the multiples of the interval.
-/

namespace HarvestTestbed

namespace RoundCounter

variable {counter interval : UInt32} {number : ℕ}

theorem toNat_add_one (hless : counter.toNat < interval.toNat) :
    (counter + 1).toNat = counter.toNat + 1 := by
  have hword : interval.toNat < 2 ^ 32 := interval.toNat_lt
  rw [UInt32.toNat_add, UInt32.toNat_one, Nat.mod_eq_of_lt (by omega)]

theorem interval_le_iff (hpos : 0 < interval.toNat)
    (hcount : counter.toNat = number % interval.toNat) :
    interval ≤ counter + 1 ↔ interval.toNat ∣ number + 1 := by
  have hless : counter.toNat < interval.toNat := hcount ▸ Nat.mod_lt _ hpos
  rw [UInt32.le_iff_toNat_le, toNat_add_one hless, Nat.dvd_iff_mod_eq_zero, ← Nat.mod_add_mod,
    ← hcount]
  obtain hshort | hlast := Nat.lt_or_eq_of_le (Nat.succ_le_of_lt hless)
  · rw [Nat.mod_eq_of_lt hshort]
    omega
  · rw [← Nat.succ_eq_add_one, hlast, Nat.mod_self]
    exact iff_of_true le_rfl rfl

/-- The number of the next tick within its interval. -/
theorem mod_next (hpos : 0 < interval.toNat) (number : ℕ) :
    (number + 1) % interval.toNat =
      if number % interval.toNat + 1 = interval.toNat then 0
      else number % interval.toNat + 1 := by
  have hless := Nat.mod_lt number hpos
  rw [← Nat.mod_add_mod]
  split
  case isTrue hlast => rw [hlast, Nat.mod_self]
  case isFalse hlast => exact Nat.mod_eq_of_lt (by omega)

theorem toNat_next (hpos : 0 < interval.toNat) (hcount : counter.toNat = number % interval.toNat) :
    (if interval ≤ counter + 1 then 0 else counter + 1).toNat =
      (number + 1) % interval.toNat := by
  have hless : counter.toNat < interval.toNat := hcount ▸ Nat.mod_lt _ hpos
  split
  case isTrue hround =>
    rw [interval_le_iff hpos hcount] at hround
    rw [Nat.mod_eq_zero_of_dvd hround]
    rfl
  case isFalse hround =>
    have hshort : counter.toNat + 1 < interval.toNat := by
      rw [UInt32.le_iff_toNat_le, toNat_add_one hless] at hround
      omega
    rw [toNat_add_one hless, ← Nat.mod_add_mod, ← hcount, Nat.mod_eq_of_lt hshort]

end RoundCounter

end HarvestTestbed
