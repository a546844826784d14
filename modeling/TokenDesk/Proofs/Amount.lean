import Mathlib.Data.Rat.Cast.Defs
import Mathlib.Tactic.FieldSimp
import TokenDesk.Amount

/-!
The base units of an amount. An amount is not negative and shows no more digits than its token has,
so its value times the power of ten is a whole number (`Amount.baseUnits_eq`), and this number is
what `Amount.units` gives if it has a place in 64 bits.
-/

namespace TokenDesk

/-- The number that a decimal is. -/
def Decimal.toRat (d : Decimal) : ℚ := (if d.negative then -1 else 1) * d.mantissa / 10 ^ d.scale

namespace Amount

/-- The base units of an amount, however many. -/
def baseUnits (a : Amount) : Nat := a.value.mantissa * 10 ^ (a.decimals.toNat - a.value.scale)

/-- Nothing is rounded. -/
theorem baseUnits_eq (a : Amount) :
    (a.baseUnits : ℚ) = a.value.toRat * 10 ^ a.decimals.toNat := by
  have split : (10 : ℚ) ^ a.decimals.toNat =
      10 ^ a.value.scale * 10 ^ (a.decimals.toNat - a.value.scale) := by
    rw [← pow_add, Nat.add_sub_cancel' a.scale_le]
  rw [Decimal.toRat, a.unsigned, split, baseUnits]
  push_cast
  field_simp

theorem mul_multiplier (a : Amount) :
    a.value.mantissa * 10 ^ a.decimals.toNat / 10 ^ a.value.scale = a.baseUnits := by
  have split : 10 ^ a.decimals.toNat =
      10 ^ (a.decimals.toNat - a.value.scale) * 10 ^ a.value.scale := by
    rw [← Nat.pow_add, Nat.sub_add_cancel a.scale_le]
  rw [split, ← Nat.mul_assoc, Nat.mul_div_cancel _ (Nat.pow_pos (by decide)), baseUnits]

/-- The signed number of base units is the exact one. -/
theorem toInt_of_units {a : Amount} {n : Int64} (counted : a.units = .ok n) :
    n.toInt = a.baseUnits := by
  unfold units at counted
  split at counted
  · cases counted
  · rename_i multiplier known
    have power : multiplier = 10 ^ a.decimals.toNat := by
      unfold multiplier? at known
      dsimp only at known
      split at known
      · exact (Option.some.inj known).symm
      · cases known
    rw [power, mul_multiplier, a.unsigned] at counted
    simp only [Bool.false_eq_true, ↓reduceIte] at counted
    split at counted
    · rename_i range
      cases counted
      have least : Int64.minValue.toInt = -2 ^ 63 := rfl
      have greatest : Int64.maxValue.toInt = 2 ^ 63 - 1 := rfl
      exact Int64.toInt_ofInt_of_le (by omega) (by omega)
    · cases counted

end Amount

end TokenDesk
