import Mathlib.Tactic.NormNum
import TokenDesk.Proofs.Wire.Scalar

/-!
Amounts entered as text. An amount that comes from a text, alone or on the wire, is not negative and
has no more digits than its token. It is the number that was written if and only if a decimal can be
this number at all (`entry_exact_iff`): the gate sees the decimal that was read, and a digit past
the twenty-eighth place or past 96 bits is dropped before. So a text with a digit too many may be
accepted as another amount (`entry_rounds`).
-/

namespace TokenDesk

open Json (toDocument)

/-- The members of an amount on the wire. -/
def Amount.members (text : List Char) (decimals : UInt8) : List (String × Json) :=
  [("value", .text (String.ofList text)), ("decimals", .nat decimals.toNat)]

/-- A text is entered as an amount, alone or on the wire. -/
def Amount.Entered (text : List Char) (decimals : UInt8) (a : Amount) : Prop :=
  Amount.read text decimals = .ok a ∨
    Wire.decodeText Wire.amount (Json.object (Amount.members text decimals)).chars = .ok a

namespace Amount

variable {text : List Char} {decimals : UInt8} {a : Amount}

theorem fits_members (text : List Char) (decimals : UInt8) :
    Json.Fits 1 (.object (members text decimals)) := by
  simp [members, Json.Fits, Json.nat, Wire.inRange_of_uint8]

/-- Either way the decimal that is read passes the gate. -/
theorem Entered.passed (entered : Entered text decimals a) :
    ∃ value, Decimal.read text = .ok value ∧ ofDecimal value decimals = .ok a := by
  rcases entered with alone | wire
  · unfold Amount.read at alone
    split at alone
    · rename_i value read
      exact ⟨value, read, alone⟩
    · cases alone
  · rw [Wire.decodeText_chars (fits_members text decimals)] at wire
    have opened :
        Wire.record ["value", "decimals"] (Json.object (members text decimals)).toDocument =
          .ok (Wire.Record.ofMembers (members text decimals)) :=
      Wire.record_object (by simp [members])
    unfold Wire.amount at wire
    rw [opened] at wire
    obtain ⟨r, known, rest⟩ := of_bind_ok wire
    cases known
    obtain ⟨⟨value, digits⟩, settled, passed⟩ := of_bind_ok rest
    obtain ⟨_, _, front, second, made⟩ := Wire.value_of_seq (Wire.value_of_settle settled)
    obtain ⟨_, first, rfl⟩ := Wire.value_of_map front
    cases made
    have digits_known := Wire.decoded_of_field_ofMembers rfl second
    have value_known := Wire.decoded_of_field_ofMembers rfl first
    rw [Wire.uint8_nat] at digits_known
    cases digits_known
    refine ⟨value, Wire.read_of_decimal value_known, ?_⟩
    dsimp only at passed
    split at passed
    · rename_i b gate
      cases passed
      exact gate
    · cases passed

/-- Of the amounts that a written number is entered as, those are exactly the number, not negative
and with no more digits than the token has, whose number a decimal can be. -/
theorem entry_exact_iff (w : Decimal.Written) {decimals : UInt8} {a : Amount}
    (entered : Entered w.text decimals a) :
    (0 ≤ w.value ∧ (∃ units : ℕ, w.value = units / 10 ^ decimals.toNat) ∧
      a.value.toRat = w.value) ↔ w.Representable := by
  obtain ⟨value, read, passed⟩ := entered.passed
  obtain ⟨-, -, -, -, same⟩ := ofDecimal_ok passed
  constructor
  · rintro ⟨-, -, exact_value⟩
    exact ⟨a.value, exact_value⟩
  · intro representable
    have exact_value : a.value.toRat = w.value := by
      rw [toRat_of_ofDecimal passed, w.toRat_of_read representable read]
    refine ⟨exact_value ▸ toRat_nonneg a, ⟨a.baseUnits, ?_⟩, exact_value⟩
    rw [← exact_value, toRat_eq_units, same]

/-- One and a half, with a zero behind it. -/
def oneAndHalf : Decimal.Written where
  sign := none
  whole := ['1']
  fraction := some ['5', '0']
  sign_mark := by simp
  whole_digits := List.all_eq_true.mp (by decide)
  fraction_digits := by
    rintro _ ⟨⟩
    exact List.all_eq_true.mp (by decide)

theorem entry_exact_iff_oneAndHalf :
    ∃ a, Entered oneAndHalf.text 2 a ∧ 0 ≤ oneAndHalf.value ∧
      (∃ units : ℕ, oneAndHalf.value = units / 10 ^ (2 : UInt8).toNat) ∧
      a.value.toRat = oneAndHalf.value := by
  have entered : Entered oneAndHalf.text 2
      ⟨⟨false, 150, 2, by decide, by decide, by decide⟩, 2, rfl, by decide⟩ := .inl rfl
  refine ⟨_, entered, (entry_exact_iff oneAndHalf entered).mpr ?_⟩
  refine ⟨⟨false, 15, 1, by decide, by decide, by decide⟩, ?_⟩
  have count : oneAndHalf.count = 150 := by decide
  have places : oneAndHalf.places.length = 2 := by decide
  have sign : oneAndHalf.negative = false := rfl
  rw [Decimal.Written.value, count, places, sign, Decimal.toRat]
  norm_num

/-- One, and a four at the twenty-ninth place behind the point. -/
def aboveOne : Decimal.Written where
  sign := none
  whole := ['1']
  fraction := some (List.replicate 28 '0' ++ ['4'])
  sign_mark := by simp
  whole_digits := List.all_eq_true.mp (by decide)
  fraction_digits := by
    rintro _ ⟨⟩
    exact List.all_eq_true.mp (by decide)

/-- Zero, less a one at the twenty-ninth place behind the point. -/
def belowZero : Decimal.Written where
  sign := some '-'
  whole := ['0']
  fraction := some (List.replicate 28 '0' ++ ['1'])
  sign_mark := by simp
  whole_digits := List.all_eq_true.mp (by decide)
  fraction_digits := by
    rintro _ ⟨⟩
    exact List.all_eq_true.mp (by decide)

/-- A digit past the twenty-eighth place is dropped before the gate. So a number that the token does
not have the digits for is entered as another one, and so is a negative number. -/
theorem entry_rounds :
    (aboveOne.text = "1.00000000000000000000000000004".toList ∧
      ∃ a, Entered aboveOne.text 2 a ∧
        (¬ ∃ units : ℕ, aboveOne.value = units / 10 ^ (2 : UInt8).toNat) ∧
        a.value.toRat ≠ aboveOne.value) ∧
    (belowZero.text = "-0.00000000000000000000000000001".toList ∧
      ∃ a, Entered belowZero.text 2 a ∧ belowZero.value < 0) := by
  constructor
  · have value : aboveOne.value = 100000000000000000000000000004 / 10 ^ 29 := by
      have count : aboveOne.count = 100000000000000000000000000004 := by decide +kernel
      have places : aboveOne.places.length = 29 := by decide
      have sign : aboveOne.negative = false := rfl
      rw [Decimal.Written.value, count, places, sign]
      norm_num
    refine ⟨by decide +kernel,
      ⟨⟨false, 100, 2, by decide, by decide, by decide⟩, 2, rfl, by decide⟩, .inl rfl, ?_, ?_⟩
    · rintro ⟨units, same⟩
      have two : (2 : UInt8).toNat = 2 := rfl
      rw [value, two, div_eq_div_iff (by norm_num) (by norm_num)] at same
      have whole : 100000000000000000000000000004 * 10 ^ 2 = units * 10 ^ 29 := by
        exact_mod_cast same
      omega
    · rw [value, Decimal.toRat]
      norm_num
  · refine ⟨by decide +kernel, ⟨⟨false, 0, 2, by decide, by decide, by decide⟩, 2, rfl, by decide⟩,
      .inl rfl, ?_⟩
    have count : belowZero.count = 1 := by decide +kernel
    have sign : belowZero.negative = true := rfl
    rw [Decimal.Written.value, count, sign]
    have positive : (0 : ℚ) < 10 ^ belowZero.places.length := by positivity
    rw [div_neg_iff]
    exact .inr ⟨by norm_num, positive⟩

end Amount

end TokenDesk
