import Mathlib.Data.Rat.Cast.Order
import TokenDesk.Proofs.Amount.Gate
import TokenDesk.Proofs.Decimal.Products
import TokenDesk.Proofs.Decimal.Written
import TokenDesk.Proofs.Except

/-!
Base units without loss.

The gate admits exactly the values that are not negative and whole numbers of the smallest parts of
a token (`Amount.exists_ofDecimal_iff`). Zeros are added to an admitted value until it shows all the
token's digits, unless 96 bits have no room for so many (`Amount.Accepted.scale_eq_iff`); base units
of 64 bits always have. So what is counted is the exact number, read off the mantissa, and the way
back gives the same amount (`Amount.units_lossless`).
-/

namespace TokenDesk

namespace Decimal

/-- Only a number below zero is marked as negative. -/
theorem toRat_nonneg_iff (d : Decimal) : 0 ≤ d.toRat ↔ d.negative = false := by
  cases negative : d.negative with
  | false =>
    refine iff_of_true ?_ rfl
    rw [toRat, negative]
    simp only [Bool.false_eq_true, ↓reduceIte, one_mul]
    positivity
  | true =>
    have positive : 0 < d.mantissa := by
      refine Nat.pos_of_ne_zero fun zero => ?_
      rw [d.zero_unsigned zero] at negative
      cases negative
    refine iff_of_false ?_ (by decide)
    rw [toRat, negative, not_le, div_neg_iff]
    simp only [↓reduceIte, neg_mul, one_mul, Left.neg_neg_iff, Nat.cast_pos]
    exact .inr ⟨positive, by positivity⟩

/-! ## Digits behind the point -/

/-- After the zeros are dropped, no zero is the last digit behind the point. -/
theorem stripZeros_last (mantissa scale : Nat) :
    (stripZeros mantissa scale).2 = 0 ∨ (stripZeros mantissa scale).1 % 10 ≠ 0 := by
  induction scale generalizing mantissa with
  | zero => exact .inl rfl
  | succ scale ih =>
    rw [stripZeros]
    split
    · exact ih (mantissa / 10)
    · rename_i last
      exact .inr last

/-- A number that is whole without its last digits has zeros for them. -/
theorem mantissa_of_whole {d : Decimal} {digits more : Nat} {k : ℤ}
    (longer : d.scale = digits + more) (whole : d.toRat * 10 ^ digits = k) :
    d.mantissa = k.natAbs * 10 ^ more := by
  rw [toRat, longer, pow_add, div_mul_eq_mul_div, mul_comm (10 ^ digits) _,
    mul_div_mul_right _ _ (by positivity), div_eq_iff (by positivity)] at whole
  have parts : (if d.negative then -1 else 1) * (d.mantissa : ℤ) = k * 10 ^ more := by
    exact_mod_cast whole
  have sizes := congrArg Int.natAbs parts
  have sign : (if d.negative then (-1 : ℤ) else 1).natAbs = 1 := by
    cases d.negative <;> rfl
  rw [Int.natAbs_mul, Int.natAbs_mul, sign, one_mul, Int.natAbs_natCast] at sizes
  rw [sizes, Int.natAbs_pow]
  rfl

/-- A number needs no more than so many digits behind the point exactly if it is a whole number of
the last of them. -/
theorem scale_normalize_le_iff (d : Decimal) (digits : Nat) :
    d.normalize.scale ≤ digits ↔ ∃ k : ℤ, d.toRat * 10 ^ digits = k := by
  rw [← toRat_normalize]
  have last : d.normalize.scale = 0 ∨ d.normalize.mantissa % 10 ≠ 0 :=
    stripZeros_last d.mantissa d.scale
  generalize d.normalize = n at last
  constructor
  · intro short
    refine ⟨(if n.negative then -1 else 1) * n.mantissa * 10 ^ (digits - n.scale), ?_⟩
    have split : (10 : ℚ) ^ digits = 10 ^ n.scale * 10 ^ (digits - n.scale) := by
      rw [← pow_add, Nat.add_sub_cancel' short]
    rw [toRat, split]
    push_cast
    field_simp
  · rintro ⟨k, whole⟩
    by_contra long
    rcases last with none | last
    · omega
    · obtain ⟨more, longer⟩ : ∃ more, n.scale = digits + (more + 1) :=
        ⟨n.scale - digits - 1, by omega⟩
      rw [mantissa_of_whole longer whole, Nat.pow_succ, ← Nat.mul_assoc] at last
      exact last (Nat.mul_mod_left _ 10)

/-- Zeros are added until there are enough or there is no room for one more. -/
theorem addZeros_full {steps : Nat} {d : Decimal}
    (short : (addZeros steps d).scale < d.scale + steps) :
    28 ≤ (addZeros steps d).scale ∨ limit ≤ (addZeros steps d).mantissa * 10 := by
  induction steps generalizing d with
  | zero => exact absurd short (Nat.lt_irrefl _)
  | succ steps ih =>
    unfold addZeros at short ⊢
    split
    · rename_i room
      rw [dif_pos room] at short
      exact ih (by simp only; omega)
    · rename_i full
      omega

end Decimal

namespace Amount

variable {a : Amount} {n : Int64}

/-! ## Scales -/

theorem toNat_le_of_supported {decimals : UInt8} (supported : ¬maxDecimals < decimals) :
    decimals.toNat ≤ 18 := by
  have most : maxDecimals.toNat = 18 := rfl
  rw [UInt8.lt_iff_toNat_lt] at supported
  omega

theorem Accepted.toNat_le (accepted : a.Accepted) : a.decimals.toNat ≤ 18 := by
  obtain ⟨value, passed⟩ := accepted
  exact toNat_le_of_supported (ofDecimal_ok passed).1

/-- An amount that came through the gate shows all the token's digits exactly if its base units have
room in 96 bits. -/
theorem Accepted.scale_eq_iff (accepted : a.Accepted) :
    a.value.scale = a.decimals.toNat ↔ a.baseUnits < Decimal.limit := by
  constructor
  · intro full
    rw [baseUnits, full, Nat.sub_self, Nat.pow_zero, Nat.mul_one]
    exact a.value.mantissa_lt
  · intro room
    have most := accepted.toNat_le
    obtain ⟨value, passed⟩ := accepted
    obtain ⟨-, -, fits, same, -⟩ := ofDecimal_ok passed
    by_contra other
    have short := Nat.lt_of_le_of_ne a.scale_le other
    have grown : a.value.mantissa * 10 ≤ a.baseUnits :=
      Nat.mul_le_mul_left _ (Nat.le_self_pow (Nat.sub_ne_zero_of_lt short) 10)
    have stopped : 28 ≤ a.value.scale ∨ Decimal.limit ≤ a.value.mantissa * 10 := by
      rw [same]
      refine Decimal.addZeros_full ?_
      change (value.normalize.extendTo a.decimals.toNat).scale < _
      rw [← same]
      omega
    omega

/-- Such an amount's mantissa are its base units. -/
theorem mantissa_of_scale (full : a.value.scale = a.decimals.toNat) :
    a.value.mantissa = a.baseUnits := by
  rw [baseUnits, full, Nat.sub_self, Nat.pow_zero, Nat.mul_one]

/-! ## The gate -/

theorem of_negative {value : Decimal} {decimals : UInt8} (supported : ¬maxDecimals < decimals)
    (negative : value.negative = true) :
    ofDecimal value decimals = .error (.negative value) := by
  rw [ofDecimal, if_neg supported, dif_pos negative]

/-- A value passes exactly if it is not negative and a whole number of the smallest parts of a token
with a supported number of decimals. -/
theorem exists_ofDecimal_iff (value : Decimal) (decimals : UInt8) :
    (∃ a, ofDecimal value decimals = .ok a) ↔
      decimals ≤ maxDecimals ∧ 0 ≤ value.toRat ∧
        ∃ k : ℤ, value.toRat * 10 ^ decimals.toNat = k := by
  have within : decimals ≤ maxDecimals ↔ ¬maxDecimals < decimals := UInt8.not_lt.symm
  rw [within, Decimal.toRat_nonneg_iff, ← Decimal.scale_normalize_le_iff, ← Nat.not_lt]
  constructor
  · rintro ⟨a, passed⟩
    obtain ⟨supported, unsigned, fits, -, -⟩ := ofDecimal_ok passed
    exact ⟨supported, unsigned, fits⟩
  · rintro ⟨supported, unsigned, fits⟩
    have signed : ¬value.negative = true := by simp [unsigned]
    rw [ofDecimal, if_neg supported, dif_neg signed]
    exact ⟨_, dif_neg fits⟩

/-! ## Counting -/

/-- Up to the supported scale a token has a power of ten that fits the multiplier. -/
theorem multiplier?_of_le {decimals : UInt8} (supported : ¬maxDecimals < decimals) :
    multiplier? decimals = some (10 ^ decimals.toNat) := by
  have power : 10 ^ decimals.toNat < Decimal.limit :=
    Nat.lt_of_le_of_lt (Nat.pow_le_pow_right (by decide) (toNat_le_of_supported supported))
      (by decide)
  exact if_pos power

theorem Accepted.multiplier? (accepted : a.Accepted) :
    Amount.multiplier? a.decimals = some (10 ^ a.decimals.toNat) := by
  obtain ⟨value, passed⟩ := accepted
  exact multiplier?_of_le (ofDecimal_ok passed).1

theorem eq_ofNat {k : Nat} (same : n.toInt = k) : n = Int64.ofNat k := by
  rw [← Int64.ofInt_toInt n, same]
  rfl

/-- The base units are counted where 64 bits hold them, and otherwise they are too many. -/
theorem Accepted.units_eq (accepted : a.Accepted) :
    a.units = if a.baseUnits < 2 ^ 63 then .ok (Int64.ofNat a.baseUnits)
      else .error (.overflow a.value a.decimals) := by
  unfold units
  simp only [accepted.multiplier?, mul_multiplier, a.unsigned, Bool.false_eq_true, ↓reduceIte,
    Decimal.inRange_natCast_iff]
  rfl

theorem Accepted.units_eq_ok_iff (accepted : a.Accepted) :
    a.units = .ok n ↔ n.toInt = a.baseUnits := by
  refine ⟨toInt_of_units, fun counted => ?_⟩
  have most := n.toInt_le
  have greatest : Int64.maxValue.toInt = 2 ^ 63 - 1 := rfl
  rw [accepted.units_eq, if_pos (by omega), eq_ofNat counted]

/-- The product of the value and the multiplier may be reduced before it is cut to a whole number:
what is counted is the same. -/
theorem Accepted.units_eq_times (accepted : a.Accepted) :
    a.units = match (a.value.times? (10 ^ a.decimals.toNat)).bind Decimal.toInt64? with
      | some n => .ok n
      | none => .error (.overflow a.value a.decimals) := by
  have whole : 10 ^ a.value.scale ∣ a.value.mantissa * 10 ^ a.decimals.toNat :=
    Nat.dvd_mul_left_of_dvd (Nat.pow_dvd_pow 10 a.scale_le) _
  rw [accepted.units_eq, Decimal.toInt64?_times? a.unsigned whole, mul_multiplier]
  split
  · rfl
  · rfl

/-! ## Texts -/

/-- A text shows a number with a point in front of its last `places` digits: without the point it is
the numeral, behind as many zeros as it takes to have a digit in front of the point. -/
def Shows (text : List Char) (number places : Nat) : Prop :=
  ∃ front back, text = front ++ (if places = 0 then [] else '.' :: back) ∧ front ≠ [] ∧
    back.length = places ∧ front ++ back = Text.paddedNumeral (places + 1) number

theorem shows_text (a : Amount) : Shows a.text a.value.mantissa a.value.scale := by
  refine ⟨a.value.front, a.value.back, ?_, Decimal.front_ne_nil _, Decimal.length_back _,
    List.take_append_drop _ _⟩
  rw [text, Decimal.text, a.unsigned]
  rfl

/-! ## Amounts of base units -/

theorem ofUnits_eq {decimals : UInt8} {value : Decimal} (supported : ¬maxDecimals < decimals)
    (parts : Decimal.ofParts? (n.toInt < 0) n.toInt.natAbs decimals.toNat = some value) :
    ofUnits n decimals = ofDecimal value decimals := by
  rw [ofUnits, if_neg supported, parts]

/-- Base units have a value for every supported scale. -/
theorem exists_ofParts? {decimals : UInt8} (supported : ¬maxDecimals < decimals) (n : Int64) :
    ∃ value, Decimal.ofParts? (n.toInt < 0) n.toInt.natAbs decimals.toNat = some value ∧
      value.toRat = n.toInt / 10 ^ decimals.toNat := by
  have most := toNat_le_of_supported supported
  have small : n.toInt.natAbs < Decimal.limit := by
    have low := n.minValue_le_toInt
    have high := n.toInt_le
    have least : Int64.minValue.toInt = -2 ^ 63 := rfl
    have greatest : Int64.maxValue.toInt = 2 ^ 63 - 1 := rfl
    have bound : 2 ^ 63 < Decimal.limit := by decide
    omega
  refine ⟨_, dif_pos ⟨small, by omega⟩, ?_⟩
  rw [Decimal.toRat]
  congr 1
  rcases lt_or_ge n.toInt 0 with below | above
  · have other : n.toInt.natAbs ≠ 0 := by omega
    have size : (n.toInt.natAbs : ℤ) = -n.toInt := Int.ofNat_natAbs_of_nonpos below.le
    simp only [below, decide_true, Bool.true_and, bne_iff_ne, ne_eq, other, not_false_eq_true,
      ↓reduceIte]
    rw [← Int.cast_natCast, size]
    push_cast
    rw [neg_one_mul, neg_neg]
  · have size : (n.toInt.natAbs : ℤ) = n.toInt := Int.natAbs_of_nonneg above
    simp only [not_lt.mpr above, decide_false, Bool.false_and, Bool.false_eq_true, ↓reduceIte,
      one_mul]
    rw [← Int.cast_natCast, size]

/-- An amount whose base units are counted shows all the token's digits. -/
theorem Accepted.parts_of_units (accepted : a.Accepted) (counted : a.units = .ok n) :
    a.value.scale = a.decimals.toNat ∧ a.value.mantissa = n.toInt := by
  have exact_units := toInt_of_units counted
  have room : a.baseUnits < Decimal.limit := by
    have most := n.toInt_le
    have greatest : Int64.maxValue.toInt = 2 ^ 63 - 1 := rfl
    have bound : 2 ^ 63 < Decimal.limit := by decide
    omega
  have full := accepted.scale_eq_iff.mpr room
  exact ⟨full, by rw [mantissa_of_scale full, exact_units]⟩

/-- An amount of counted base units is made of them again. -/
theorem Accepted.ofUnits_units (accepted : a.Accepted) (counted : a.units = .ok n) :
    ofUnits n a.decimals = .ok a := by
  obtain ⟨scale, mantissa⟩ := accepted.parts_of_units counted
  have unsigned : decide (n.toInt < 0) = a.value.negative := by
    rw [a.unsigned, decide_eq_false_iff_not]
    omega
  have parts : Decimal.ofParts? (n.toInt < 0) n.toInt.natAbs a.decimals.toNat = some a.value := by
    rw [unsigned, ← scale, ← mantissa]
    exact Decimal.ofParts?_self a.value
  obtain ⟨value, passed⟩ := id accepted
  rw [ofUnits_eq (ofDecimal_ok passed).1 parts]
  exact accepted.ofDecimal_value

/-! ## Nothing is lost -/

/-- What becomes of a value that passed the gate: how it is counted in base units, and shown. -/
structure Counts (value : Decimal) (decimals : UInt8) (a : Amount) : Prop where
  decimals_eq : a.decimals = decimals
  value_eq : a.value.toRat = value.toRat
  /-- What is counted is the exact number, never a rounded or a cut one. -/
  counted_iff : ∀ n : Int64, a.units = .ok n ↔ (n.toInt : ℚ) = value.toRat * 10 ^ decimals.toNat
  /-- It is counted where 64 bits hold it. -/
  counted : value.toRat * 10 ^ decimals.toNat < 2 ^ 63 → ∃ n, a.units = .ok n
  overflow : 2 ^ 63 ≤ value.toRat * 10 ^ decimals.toNat →
    a.units = .error (.overflow a.value decimals)
  /-- Counting may go by a product that is reduced to 96 bits before it is cut to a whole number. -/
  multiplied : a.units = match (a.value.times? (10 ^ decimals.toNat)).bind Decimal.toInt64? with
    | some n => .ok n
    | none => .error (.overflow a.value decimals)
  /-- As a word the number is the same. -/
  word_iff : ∀ w : ℕ, a.word = .ok w ↔ ∃ n, a.units = .ok n ∧ n.toInt = w
  word_error_iff : ∀ e, a.word = .error e ↔ a.units = .error e
  /-- The counted number is the mantissa, and the text shows it with the point in its place. -/
  shown : ∀ n, a.units = .ok n → a.value.scale = decimals.toNat ∧
    (a.value.mantissa : ℤ) = n.toInt ∧ Shows a.text n.toInt.toNat decimals.toNat
  restored : ∀ n, a.units = .ok n → ofUnits n decimals = .ok a

theorem counts_of_ofDecimal {value : Decimal} {decimals : UInt8}
    (passed : ofDecimal value decimals = .ok a) : Counts value decimals a := by
  have accepted := accepted_of_ofDecimal passed
  obtain ⟨-, -, -, -, rfl⟩ := ofDecimal_ok passed
  have same := toRat_of_ofDecimal passed
  have exact_units : (a.baseUnits : ℚ) = value.toRat * 10 ^ a.decimals.toNat := by
    rw [baseUnits_eq, same]
  refine ⟨rfl, same, fun n => ?_, ?_, ?_, accepted.units_eq_times, fun w => ?_, fun e => ?_,
    fun n counted => ?_, fun n => accepted.ofUnits_units⟩
  · rw [accepted.units_eq_ok_iff, ← exact_units]
    exact_mod_cast Iff.rfl
  · rw [← exact_units]
    intro room
    have small : a.baseUnits < 2 ^ 63 := by exact_mod_cast room
    exact ⟨_, by rw [accepted.units_eq, if_pos small]⟩
  · rw [← exact_units]
    intro full
    have large : 2 ^ 63 ≤ a.baseUnits := by exact_mod_cast full
    rw [accepted.units_eq, if_neg (Nat.not_lt.mpr large)]
  · constructor
    · intro made
      obtain ⟨n, counted, size⟩ := of_map_ok made
      have exact_number := toInt_of_units counted
      exact ⟨n, counted, by omega⟩
    · rintro ⟨n, counted, size⟩
      rw [word, counted, Except.map, size, Int.natAbs_natCast]
  · rw [word]
    cases a.units with
    | ok n => exact iff_of_false nofun nofun
    | error cause => simp only [Except.map, Except.error.injEq]
  · obtain ⟨scale, mantissa⟩ := accepted.parts_of_units counted
    refine ⟨scale, mantissa, ?_⟩
    rw [← mantissa, ← scale]
    exact shows_text a

/-- Base units are counted, and amounts made of them, without loss. -/
structure Lossless (decimals : UInt8) : Prop where
  accepted_iff : ∀ value, (∃ a, ofDecimal value decimals = .ok a) ↔
    decimals ≤ maxDecimals ∧ 0 ≤ value.toRat ∧ ∃ k : ℤ, value.toRat * 10 ^ decimals.toNat = k
  counts : ∀ value a, ofDecimal value decimals = .ok a → Counts value decimals a
  /-- Base units that are not negative are those of an amount, for every supported scale. -/
  ofUnits : decimals ≤ maxDecimals → ∀ n : Int64, 0 ≤ n.toInt →
    ∃ a, Amount.ofUnits n decimals = .ok a ∧ a.units = .ok n
  ofUnits_negative : decimals ≤ maxDecimals → ∀ n : Int64, n.toInt < 0 →
    ∃ value, Amount.ofUnits n decimals = .error (.negative value) ∧
      value.toRat = n.toInt / 10 ^ decimals.toNat

/-- **Lossless units.** -/
theorem units_lossless (decimals : UInt8) : Lossless decimals where
  accepted_iff value := exists_ofDecimal_iff value decimals
  counts value a := counts_of_ofDecimal
  ofUnits within n unsigned := by
    have supported := UInt8.not_lt.mpr within
    obtain ⟨value, parts, same⟩ := exists_ofParts? supported n
    have whole : value.toRat * 10 ^ decimals.toNat = n.toInt := by
      rw [same, div_mul_cancel₀ _ (by positivity)]
    obtain ⟨a, passed⟩ := (exists_ofDecimal_iff value decimals).mpr
      ⟨within, by rw [same]; positivity, n.toInt, whole⟩
    refine ⟨a, (ofUnits_eq supported parts).trans passed, ?_⟩
    rw [(counts_of_ofDecimal passed).counted_iff, whole]
  ofUnits_negative within n below := by
    have supported := UInt8.not_lt.mpr within
    obtain ⟨value, parts, same⟩ := exists_ofParts? supported n
    refine ⟨value, (ofUnits_eq supported parts).trans (of_negative supported ?_), same⟩
    rw [← Bool.not_eq_false, ← Decimal.toRat_nonneg_iff, same, not_le]
    exact div_neg_of_neg_of_pos (by exact_mod_cast below) (by positivity)

/-- The most that 64 bits hold, at the largest scale: its product with the multiplier has no room in
96 bits. -/
theorem units_lossless_greatest :
    let value : Decimal := ⟨false, 9223372036854775807, 18, by decide, by decide, by decide⟩
    Decimal.limit ≤ value.mantissa * 10 ^ (18 : UInt8).toNat ∧
      ∃ a, ofDecimal value 18 = .ok a ∧ a.units = .ok Int64.maxValue ∧
        a.word = .ok 9223372036854775807 ∧ Shows a.text 9223372036854775807 18 ∧
        ofUnits Int64.maxValue 18 = .ok a := by
  intro value
  have number : value.toRat * 10 ^ (18 : UInt8).toNat = (9223372036854775807 : ℤ) := by
    have places : (18 : UInt8).toNat = 18 := rfl
    rw [Decimal.toRat, places]
    norm_num [value]
  obtain ⟨a, passed⟩ := ((units_lossless 18).accepted_iff value).mpr
    ⟨by decide, by rw [Decimal.toRat_nonneg_iff], _, number⟩
  have counts := (units_lossless 18).counts value a passed
  have counted : a.units = .ok Int64.maxValue := (counts.counted_iff _).mpr number.symm
  exact ⟨by decide, a, passed, counted, (counts.word_iff _).mpr ⟨_, counted, rfl⟩,
    (counts.shown _ counted).2.2, counts.restored _ counted⟩

end Amount

end TokenDesk
