import Mathlib.Algebra.Order.Ring.Int
import TokenDesk.Decimal.Product

/-!
Products whose digits behind the point are zeros. Whatever is dropped for want of room is a zero
then, so the whole number of the reduced product is the exact one (`Decimal.toInt64?_times?`).
-/

namespace TokenDesk.Decimal

theorem inRange_natCast_iff (n : Nat) :
    (Int64.minValue.toInt ≤ (n : Int) ∧ (n : Int) ≤ Int64.maxValue.toInt) ↔ n < 2 ^ 63 := by
  have least : Int64.minValue.toInt = -9223372036854775808 := rfl
  have greatest : Int64.maxValue.toInt = 9223372036854775807 := rfl
  omega

theorem toInt64?_of_unsigned {d : Decimal} (unsigned : d.negative = false) :
    d.toInt64? = if d.mantissa / 10 ^ d.scale < 2 ^ 63 then
      some (Int64.ofNat (d.mantissa / 10 ^ d.scale)) else none := by
  unfold toInt64?
  simp only [unsigned, Bool.false_eq_true, ↓reduceIte, inRange_natCast_iff]
  rfl

theorem halfEven_of_dvd {n unit : Nat} (whole : unit ∣ n) (positive : 0 < unit) :
    halfEven n unit = n / unit := by
  unfold halfEven
  simp only [Nat.mod_eq_zero_of_dvd whole]
  rw [if_neg (by omega)]

theorem of_ofParts? {negative : Bool} {mantissa scale : Nat} {d : Decimal}
    (made : ofParts? negative mantissa scale = some d) :
    d.negative = (negative && mantissa != 0) ∧ d.mantissa = mantissa ∧ d.scale = scale := by
  unfold ofParts? at made
  split at made
  · cases made
    exact ⟨rfl, rfl, rfl⟩
  · cases made

/-- If the digits behind the point of a product are zeros, nothing but zeros is dropped from it: it
is the exact number, and there is none only if this number has no room. -/
theorem toInt64?_times? {d : Decimal} {factor : Nat} (unsigned : d.negative = false)
    (whole : 10 ^ d.scale ∣ d.mantissa * factor) :
    (d.times? factor).bind toInt64? = if d.mantissa * factor / 10 ^ d.scale < 2 ^ 63 then
      some (Int64.ofNat (d.mantissa * factor / 10 ^ d.scale)) else none := by
  unfold times?
  generalize d.mantissa * factor = product at whole
  have exact_quotient : ∀ dropped ≤ d.scale, halfEven product (10 ^ dropped) =
      product / 10 ^ dropped := fun dropped short =>
    halfEven_of_dvd (Nat.dvd_trans (Nat.pow_dvd_pow 10 short) whole) (Nat.pow_pos (by decide))
  by_cases zero : product = 0
  · rw [zero, Nat.zero_div]
    rfl
  · simp only [if_neg zero, unsigned]
    cases reduced : (List.range (d.scale + 1)).findSome? fun dropped =>
        ofParts? false (halfEven product (10 ^ dropped)) (d.scale - dropped) with
    | none =>
      have last := List.findSome?_eq_none_iff.mp reduced d.scale
        (List.mem_range.mpr (Nat.lt_succ_self _))
      rw [exact_quotient _ (Nat.le_refl _), Nat.sub_self, ofParts?] at last
      have full : ¬product / 10 ^ d.scale < limit := by
        intro room
        rw [dif_pos ⟨room, Nat.zero_le _⟩] at last
        cases last
      have bound : 2 ^ 63 < limit := by decide
      rw [if_neg (by omega)]
      rfl
    | some r =>
      obtain ⟨dropped, member, made⟩ := List.exists_of_findSome?_eq_some reduced
      have short : dropped ≤ d.scale := Nat.le_of_lt_succ (List.mem_range.mp member)
      obtain ⟨sign, mantissa, scale⟩ := of_ofParts? made
      have value : r.mantissa / 10 ^ r.scale = product / 10 ^ d.scale := by
        rw [mantissa, scale, exact_quotient _ short, Nat.div_div_eq_div_mul, ← Nat.pow_add,
          Nat.add_sub_cancel' short]
      rw [Option.bind_some, toInt64?_of_unsigned sign, value]

end TokenDesk.Decimal
