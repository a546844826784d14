import Mathlib.Algebra.Order.Field.Basic
import Mathlib.Tactic.Positivity
import TokenDesk.Proofs.Amount

/-!
The gate for amounts. What passes `Amount.ofDecimal` keeps its value, however many zeros are dropped
and added (`toRat_of_ofDecimal`), and passes again as it is (`Accepted.ofDecimal_value`): the zeros
that were added are dropped, and as many are added.
-/

namespace TokenDesk

namespace Decimal

theorem toRat_normalize (d : Decimal) : d.normalize.toRat = d.toRat := by
  have value := stripZeros_value d.mantissa d.scale
  have short := (stripZeros_le d.mantissa d.scale).2
  have split : (10 : ℚ) ^ d.scale = 10 ^ (d.scale - (stripZeros d.mantissa d.scale).2) *
      10 ^ (stripZeros d.mantissa d.scale).2 := by
    rw [← pow_add, Nat.sub_add_cancel short]
  have digits : (d.mantissa : ℚ) = (stripZeros d.mantissa d.scale).1 *
      10 ^ (d.scale - (stripZeros d.mantissa d.scale).2) := by
    exact_mod_cast value.symm
  unfold toRat
  rw [split, digits]
  simp only [normalize]
  field_simp
  exact mul_comm _ _

theorem toRat_addZeros (steps : Nat) (d : Decimal) : (addZeros steps d).toRat = d.toRat := by
  induction steps generalizing d with
  | zero => rfl
  | succ steps ih =>
    unfold addZeros
    split
    · rw [ih]
      simp only [toRat, Nat.cast_mul, pow_succ, Nat.cast_ofNat]
      field_simp
    · rfl

theorem toRat_extendTo (digits : Nat) (d : Decimal) : (extendTo digits d).toRat = d.toRat :=
  toRat_addZeros _ d

theorem stripZeros_mul_ten (mantissa scale : Nat) :
    stripZeros (mantissa * 10) (scale + 1) = stripZeros mantissa scale := by
  rw [stripZeros, if_pos (Nat.mul_mod_left mantissa 10), Nat.mul_div_cancel _ (by decide)]

/-- The zeros that are added are dropped again. -/
theorem normalize_addZeros (steps : Nat) (d : Decimal) :
    (addZeros steps d).normalize = d.normalize := by
  induction steps generalizing d with
  | zero => rfl
  | succ steps ih =>
    unfold addZeros
    split
    · rw [ih]
      simp only [normalize, stripZeros_mul_ten]
    · rfl

theorem stripZeros_stripZeros (mantissa scale : Nat) :
    stripZeros (stripZeros mantissa scale).1 (stripZeros mantissa scale).2 =
      stripZeros mantissa scale := by
  induction scale generalizing mantissa with
  | zero => rfl
  | succ scale ih =>
    rw [stripZeros]
    split
    · exact ih (mantissa / 10)
    · rename_i last
      rw [stripZeros, if_neg last]

theorem normalize_normalize (d : Decimal) : d.normalize.normalize = d.normalize := by
  simp only [normalize, stripZeros_stripZeros]

theorem normalize_extendTo (digits : Nat) (d : Decimal) :
    (extendTo digits d).normalize = d.normalize :=
  normalize_addZeros _ d

end Decimal

namespace Amount

/-- What passes the gate, and as which amount. -/
theorem ofDecimal_ok {value : Decimal} {decimals : UInt8} {a : Amount}
    (accepted : ofDecimal value decimals = .ok a) :
    ¬ maxDecimals < decimals ∧ value.negative = false ∧
      ¬ decimals.toNat < value.normalize.scale ∧
      a.value = value.normalize.extendTo decimals.toNat ∧ a.decimals = decimals := by
  unfold ofDecimal at accepted
  split at accepted
  · cases accepted
  · rename_i supported
    split at accepted
    · cases accepted
    · rename_i unsigned
      dsimp only at accepted
      split at accepted
      · cases accepted
      · rename_i fits
        cases accepted
        exact ⟨supported, by simpa using unsigned, fits, rfl, rfl⟩

/-- The value that passes is the amount's value. -/
theorem toRat_of_ofDecimal {value : Decimal} {decimals : UInt8} {a : Amount}
    (accepted : ofDecimal value decimals = .ok a) : a.value.toRat = value.toRat := by
  obtain ⟨-, -, -, same, -⟩ := ofDecimal_ok accepted
  rw [same, Decimal.toRat_extendTo, Decimal.toRat_normalize]

/-- An amount that came through the gate. -/
def Accepted (a : Amount) : Prop := ∃ value, ofDecimal value a.decimals = .ok a

theorem accepted_of_ofDecimal {value : Decimal} {decimals : UInt8} {a : Amount}
    (accepted : ofDecimal value decimals = .ok a) : a.Accepted := by
  obtain ⟨-, -, -, -, same⟩ := ofDecimal_ok accepted
  exact ⟨value, same ▸ accepted⟩

/-- An amount that came through the gate passes it again. -/
theorem Accepted.ofDecimal_value {a : Amount} (accepted : a.Accepted) :
    ofDecimal a.value a.decimals = .ok a := by
  obtain ⟨value, passed⟩ := accepted
  obtain ⟨supported, unsigned, fits, same, -⟩ := ofDecimal_ok passed
  have plain : a.value.normalize = value.normalize := by
    rw [same, Decimal.normalize_extendTo, Decimal.normalize_normalize]
  obtain ⟨held, decimals, positive, short⟩ := a
  unfold ofDecimal
  simp only [if_neg supported, positive, Bool.false_eq_true, ↓reduceDIte] at *
  simp only [plain, fits, ↓reduceDIte, ← same]

theorem toRat_nonneg (a : Amount) : 0 ≤ a.value.toRat := by
  rw [Decimal.toRat, a.unsigned]
  simp only [Bool.false_eq_true, ↓reduceIte, one_mul]
  positivity

/-- An amount is a whole number of the smallest parts of its token. -/
theorem toRat_eq_units (a : Amount) :
    a.value.toRat = (a.baseUnits : ℚ) / 10 ^ a.decimals.toNat := by
  rw [baseUnits_eq, mul_div_cancel_right₀ _ (by positivity)]

theorem baseUnits_eq_zero_iff (a : Amount) : a.baseUnits = 0 ↔ a.value.toRat = 0 := by
  have power : (10 : ℚ) ^ a.decimals.toNat ≠ 0 := by positivity
  rw [← Nat.cast_eq_zero (R := ℚ), baseUnits_eq, mul_eq_zero, or_iff_left power]

end Amount

end TokenDesk
