import TokenDesk.Proofs.Amount.Units
import TokenDesk.Proofs.Wire.Request

/-!
The form of an amount.

An amount is made in one of five ways, of which four go through the gate. These give one amount for
each number and scale (`Amount.Accepted.eq_of_same`), which shows all the token's digits unless its
base units have no room in 96 bits. The fifth is `Amount.zero`, which takes the number of decimals
as it is and shows no digits behind the point (`Amount.Bare`). So an amount shows the token's digits
exactly if it is no such zero and not so large (`Amount.form_of_made`), and two equal amounts may
have different texts (`Amount.form_bare`).
-/

namespace TokenDesk

namespace Decimal

/-- Decimals are compared as the numbers that they are. -/
theorem compareValues_eq (a b : Decimal) : a.compareValues b = compare a.toRat b.toRat := by
  have signed (d : Decimal) (n : Nat) : ((if d.negative then -(n : Int) else n : Int) : ℚ) =
      (if d.negative then -1 else 1) * n := by
    cases d.negative <;> simp
  have raised (d : Decimal) (more : Nat) :
      ((if d.negative then -((d.mantissa * 10 ^ more : Nat) : Int) else
        (d.mantissa * 10 ^ more : Nat) : Int) : ℚ) = d.toRat * (10 ^ d.scale * 10 ^ more) := by
    rw [signed, toRat, ← mul_assoc, div_mul_cancel₀ _ (by positivity)]
    push_cast
    rw [mul_assoc]
  rw [compareValues, ← cmp_eq_compare, ← cmp_eq_compare,
    ← (Int.cast_strictMono (R := ℚ)).cmp_map_eq, raised, raised, mul_comm (10 ^ b.scale),
    cmp_mul_pos_right (by positivity)]

/-- Two decimals compare as equal exactly if they are one number. -/
theorem compareValues_eq_iff (a b : Decimal) :
    a.compareValues b = .eq ↔ a.toRat = b.toRat := by
  rw [compareValues_eq, compare_eq_iff_eq]

theorem eq_of_parts {a b : Decimal} (negative : a.negative = b.negative)
    (mantissa : a.mantissa = b.mantissa) (scale : a.scale = b.scale) : a = b := by
  cases a
  cases b
  cases negative
  cases mantissa
  cases scale
  rfl

/-- One number has one form without zeros at the end. -/
theorem normalize_eq_of_toRat {a b : Decimal} (same : a.toRat = b.toRat) :
    a.normalize = b.normalize := by
  have scale : a.normalize.scale = b.normalize.scale := by
    apply Nat.le_antisymm
    · rw [scale_normalize_le_iff, same, ← scale_normalize_le_iff]
    · rw [scale_normalize_le_iff, ← same, ← scale_normalize_le_iff]
  have negative : a.normalize.negative = b.normalize.negative := by
    have signs : a.negative = false ↔ b.negative = false := by
      rw [← toRat_nonneg_iff, same, toRat_nonneg_iff]
    rw [normalize_negative, normalize_negative]
    cases known : b.negative with
    | false => exact signs.mpr known
    | true => exact Bool.of_not_eq_false fun none => by simp [signs.mp none] at known
  have sign : (if b.normalize.negative then (-1 : ℚ) else 1) ≠ 0 := by
    cases b.normalize.negative <;> norm_num
  rw [← toRat_normalize a, ← toRat_normalize b, toRat, toRat, negative, scale,
    div_left_inj' (by positivity), mul_right_inj' sign, Nat.cast_inj] at same
  exact eq_of_parts negative same scale

end Decimal

namespace Amount

variable {a b : Amount}

theorem same_iff :
    a.same b = true ↔ a.value.toRat = b.value.toRat ∧ a.decimals = b.decimals := by
  rw [same, Bool.and_eq_true, beq_iff_eq, beq_iff_eq, Decimal.compareValues_eq_iff]

/-- The value and the scale determine an amount that came through the gate. -/
theorem Accepted.eq_of_same (first : a.Accepted) (second : b.Accepted) (same : a.same b = true) :
    a = b := by
  rcases same_iff.mp same with ⟨number, decimals⟩
  have passed := first.ofDecimal_value
  have passed' := second.ofDecimal_value
  have plain := Decimal.normalize_eq_of_toRat number
  obtain ⟨-, -, -, form, -⟩ := ofDecimal_ok passed
  obtain ⟨-, -, -, form', -⟩ := ofDecimal_ok passed'
  have value : a.value = b.value := by rw [form, form', plain, decimals]
  rw [value, decimals] at passed
  exact Except.ok.inj (passed.symm.trans passed')

/-! ## How amounts are made -/

/-- The ways to make an amount. -/
inductive Made : Amount → Prop
  | ofDecimal {value : Decimal} {decimals : UInt8} {a : Amount}
    (passed : ofDecimal value decimals = .ok a) : Made a
  | read {text : List Char} {decimals : UInt8} {a : Amount}
    (read : Amount.read text decimals = .ok a) : Made a
  | ofUnits {units : Int64} {decimals : UInt8} {a : Amount}
    (made : ofUnits units decimals = .ok a) : Made a
  | zero (decimals : UInt8) : Made (zero decimals)
  | decoded {document : Json.Document} {a : Amount} (decoded : Wire.amount document = .ok a) :
    Made a

/-- A zero that shows no digits behind the point although its token has some. -/
def Bare (a : Amount) : Prop := ∃ decimals, decimals ≠ 0 ∧ a = zero decimals

theorem accepted_of_read {text : List Char} {decimals : UInt8}
    (known : read text decimals = .ok a) : a.Accepted := by
  unfold read at known
  split at known
  · exact accepted_of_ofDecimal known
  · cases known

theorem accepted_of_ofUnits {units : Int64} {decimals : UInt8}
    (made : ofUnits units decimals = .ok a) : a.Accepted := by
  unfold ofUnits at made
  split at made
  · cases made
  split at made
  · exact accepted_of_ofDecimal made
  · cases made

/-- Whatever way an amount is made, it came through the gate or is a bare zero. -/
theorem Made.accepted_or_bare (made : Made a) : a.Accepted ∨ a.Bare := by
  cases made with
  | ofDecimal passed => exact .inl (accepted_of_ofDecimal passed)
  | read known => exact .inl (accepted_of_read known)
  | ofUnits made => exact .inl (accepted_of_ofUnits made)
  | decoded decoded => exact .inl (Wire.accepted_of_amount decoded)
  | zero decimals =>
    by_cases none : decimals = 0
    · cases none
      exact .inl ⟨Decimal.zero, rfl⟩
    · exact .inr ⟨decimals, none, rfl⟩

/-! ## Bare zeros -/

/-- A text shows its number with one number of digits behind the point. -/
theorem Shows.unique {text : List Char} {number number' places places' : Nat}
    (shown : Shows text number places) (shown' : Shows text number' places') :
    places = places' := by
  obtain ⟨front, back, form, -, length, digits⟩ := shown
  obtain ⟨front', back', form', -, length', digits'⟩ := shown'
  have all : ∀ c ∈ front, Text.isDigit c = true := fun c member =>
    Text.isDigit_of_mem_paddedNumeral (digits ▸ List.mem_append_left back member)
  have all' : ∀ c ∈ front', Text.isDigit c = true := fun c member =>
    Text.isDigit_of_mem_paddedNumeral (digits' ▸ List.mem_append_left back' member)
  have ends (places : Nat) (back : List Char) :
      Text.NoDigit (if places = 0 then [] else '.' :: back) := by
    split
    · exact Text.noDigit_nil
    · exact Text.noDigit_cons (by decide)
  obtain ⟨-, rest⟩ := Text.digits_append_inj all all' (ends places back) (ends places' back')
    (form.symm.trans form')
  have lengths := congrArg List.length rest
  split at lengths <;> split at lengths <;> simp only [List.length_nil, List.length_cons] at lengths
    <;> omega

theorem Bare.parts (bare : a.Bare) :
    a.value.mantissa = 0 ∧ a.value.scale = 0 ∧ a.decimals.toNat ≠ 0 := by
  obtain ⟨decimals, some_digits, rfl⟩ := bare
  exact ⟨rfl, rfl, fun none => some_digits (UInt8.toNat_inj.mp none)⟩

theorem Bare.scale_ne (bare : a.Bare) : a.value.scale ≠ a.decimals.toNat := by
  rw [bare.parts.2.1]
  exact bare.parts.2.2.symm

theorem Bare.shows (bare : a.Bare) : Shows a.text 0 0 := by
  have shown := shows_text a
  rwa [bare.parts.1, bare.parts.2.1] at shown

theorem Accepted.not_bare (accepted : a.Accepted) : ¬a.Bare := by
  intro bare
  apply bare.scale_ne
  rw [accepted.scale_eq_iff, baseUnits, bare.parts.1, Nat.zero_mul]
  decide

/-- A bare zero has another text than the zero that the gate gives. -/
theorem Bare.text_ne (bare : a.Bare) (accepted : b.Accepted)
    (number : a.value.toRat = b.value.toRat) (decimals : a.decimals = b.decimals) :
    a.text ≠ b.text := by
  intro texts
  have zero : b.baseUnits = 0 := by
    rw [baseUnits_eq_zero_iff, ← number, Decimal.toRat, bare.parts.1]
    norm_num
  have full : b.value.scale = b.decimals.toNat := by
    rw [accepted.scale_eq_iff, zero]
    decide
  have none : 0 = b.value.scale := bare.shows.unique (texts ▸ shows_text b)
  exact bare.parts.2.2 (by rw [decimals, ← full, ← none])

/-! ## Multipliers and the wire -/

/-- The multiplier exists up to the twenty-eighth power of ten. -/
theorem multiplier?_eq_none_iff (decimals : UInt8) :
    multiplier? decimals = none ↔ 28 < decimals.toNat := by
  unfold multiplier?
  have below : 10 ^ decimals.toNat < Decimal.limit ↔ decimals.toNat ≤ 28 := by
    constructor
    · intro room
      by_contra many
      have large : 10 ^ 29 ≤ 10 ^ decimals.toNat := Nat.pow_le_pow_right (by decide) (by omega)
      have limit : Decimal.limit < 10 ^ 29 := by decide
      omega
    · intro few
      exact Nat.lt_of_le_of_lt (Nat.pow_le_pow_right (by decide) few) (by decide)
  dsimp only
  split
  · rename_i room
    exact iff_of_false nofun (Nat.not_lt.mpr (below.mp room))
  · rename_i full
    exact iff_of_true rfl (Nat.lt_of_not_le (mt below.mpr full))

theorem units_of_multiplier (a : Amount) :
    a.units = .error (.multiplierTooLarge a.decimals) ↔ 28 < a.decimals.toNat := by
  rw [← multiplier?_eq_none_iff, units]
  cases multiplier? a.decimals with
  | none => exact iff_of_true rfl rfl
  | some multiplier =>
    apply iff_of_false
    · intro failed
      simp only [a.unsigned, Bool.false_eq_true, ↓reduceIte] at failed
      split at failed
      · cases failed
      · cases failed
    · intro none
      cases none

/-- On the wire an amount is a text again that can be decoded if its number of decimals is
supported. -/
theorem decodes_iff (a : Amount) :
    (∃ b, Wire.decodeText Wire.amount (Wire.ofAmount a).chars = .ok b) ↔
      a.decimals ≤ maxDecimals := by
  have whole : ∃ k : ℤ, a.value.toRat * 10 ^ a.decimals.toNat = k :=
    ⟨a.baseUnits, by rw [← baseUnits_eq, Int.cast_natCast]⟩
  simp only [Wire.decodeText_chars (Wire.fits_ofAmount 0 a), Wire.amount_toDocument,
    mapError_eq_ok_iff, exists_ofDecimal_iff]
  exact and_iff_left ⟨toRat_nonneg a, whole⟩

/-! ## The form -/

/-- Equal amounts have one text unless one of them is a bare zero and the other is not. -/
theorem Made.alike (made : Made a) (made' : Made b) (same : a.same b = true) :
    (a.text = b.text ∧ (Wire.ofAmount a).chars = (Wire.ofAmount b).chars) ↔ (a.Bare ↔ b.Bare) := by
  rcases same_iff.mp same with ⟨number, decimals⟩
  rcases made.accepted_or_bare with accepted | bare
  · rcases made'.accepted_or_bare with accepted' | bare'
    · rw [accepted.eq_of_same accepted' same]
      exact iff_of_true ⟨rfl, rfl⟩ Iff.rfl
    · apply iff_of_false
      · exact fun texts => bare'.text_ne accepted number.symm decimals.symm texts.1.symm
      · exact fun both => accepted.not_bare (both.mpr bare')
  · rcases made'.accepted_or_bare with accepted' | bare'
    · apply iff_of_false
      · exact fun texts => bare.text_ne accepted' number decimals texts.1
      · exact fun both => accepted'.not_bare (both.mp bare)
    · obtain ⟨digits, -, rfl⟩ := bare
      obtain ⟨digits', -, rfl⟩ := bare'
      cases decimals
      exact iff_of_true ⟨rfl, rfl⟩ Iff.rfl

/-- What can be relied on in an amount, and where. -/
structure Form (a : Amount) : Prop where
  nonneg : 0 ≤ a.value.toRat
  whole : ∃ k : ℕ, a.value.toRat = k / 10 ^ a.decimals.toNat
  supported : ¬a.Bare → a.decimals ≤ maxDecimals
  /-- All the token's digits are there where 96 bits have room for them. -/
  scale_iff : a.value.scale = a.decimals.toNat ↔ a.baseUnits < Decimal.limit ∧ ¬a.Bare
  shown_iff : (∃ number, Shows a.text number a.decimals.toNat) ↔
    a.baseUnits < Decimal.limit ∧ ¬a.Bare
  restored : ¬a.Bare → Wire.decodeText Wire.amount (Wire.ofAmount a).chars = .ok a
  decodes_iff : (∃ b, Wire.decodeText Wire.amount (Wire.ofAmount a).chars = .ok b) ↔
    a.decimals ≤ maxDecimals
  multiplied : ¬a.Bare → multiplier? a.decimals = some (10 ^ a.decimals.toNat)
  unmultiplied_iff : a.units = .error (.multiplierTooLarge a.decimals) ↔ 28 < a.decimals.toNat
  alike : ∀ b, Made b → a.same b = true →
    ((a.text = b.text ∧ (Wire.ofAmount a).chars = (Wire.ofAmount b).chars) ↔ (a.Bare ↔ b.Bare))

/-- **Form of amounts.** However an amount is made, what it shows and whether it can be written,
read back and counted is decided by whether it is a bare zero and whether its base units fit. -/
theorem form_of_made {a : Amount} (made : Made a) : Form a := by
  have scale_iff : a.value.scale = a.decimals.toNat ↔ a.baseUnits < Decimal.limit ∧ ¬a.Bare := by
    rcases made.accepted_or_bare with accepted | bare
    · rw [accepted.scale_eq_iff, and_iff_left accepted.not_bare]
    · exact iff_of_false bare.scale_ne fun ⟨_, other⟩ => other bare
  have accepted : ¬a.Bare → a.Accepted := made.accepted_or_bare.resolve_right
  refine ⟨toRat_nonneg a, ⟨a.baseUnits, toRat_eq_units a⟩, fun other => ?_, scale_iff, ?_,
    fun other => ?_, decodes_iff a, fun other => (accepted other).multiplier?,
    units_of_multiplier a, fun b => made.alike⟩
  · obtain ⟨value, passed⟩ := accepted other
    exact UInt8.not_lt.mp (ofDecimal_ok passed).1
  · rw [← scale_iff]
    constructor
    · intro ⟨number, shown⟩
      exact (shows_text a).unique shown
    · intro full
      exact ⟨_, full ▸ shows_text a⟩
  · rw [Wire.decodeText_chars (Wire.fits_ofAmount 0 a), Wire.amount_ofAmount (accepted other)]

/-- One and a half at two decimals. -/
theorem form_of_made_oneAndHalf :
    let a : Amount := ⟨⟨false, 150, 2, by decide, by decide, by decide⟩, 2, rfl, by decide⟩
    read "1.5".toList 2 = .ok a ∧ a.decimals ≤ maxDecimals ∧
      (∃ number, Shows a.text number (2 : UInt8).toNat) ∧
      Wire.decodeText Wire.amount (Wire.ofAmount a).chars = .ok a ∧
      multiplier? 2 = some (10 ^ (2 : UInt8).toNat) := by
  intro a
  have known : read "1.5".toList 2 = .ok a := by decide +kernel
  have form := form_of_made (.read known)
  have other : ¬a.Bare := (accepted_of_read known).not_bare
  exact ⟨known, form.supported other, form.shown_iff.mpr ⟨by decide, other⟩, form.restored other,
    form.multiplied other⟩

/-- A bare zero shows no digits behind the point, so it has another text than the zero it is equal
to, and its number of decimals may be one that the wire does not take and that no multiplier is made
for; and base units past 96 bits leave digits out as well. -/
theorem form_bare :
    (Made (zero 6) ∧ (zero 6).value.scale ≠ (zero 6).decimals.toNat ∧
      ∃ a, read "0".toList 6 = .ok a ∧ (zero 6).same a = true ∧ (zero 6).text = "0".toList ∧
        a.text = "0.000000".toList) ∧
    (¬(zero 19).decimals ≤ maxDecimals ∧
      ¬∃ b, Wire.decodeText Wire.amount (Wire.ofAmount (zero 19)).chars = .ok b) ∧
    (zero 29).units = .error (.multiplierTooLarge 29) ∧
    ∃ a, read "79228162514264337593543950335".toList 2 = .ok a ∧
      a.value.scale ≠ a.decimals.toNat := by
  refine ⟨⟨.zero 6, by decide, ?_⟩, ⟨by decide, ?_⟩, ?_, ?_⟩
  · exact ⟨⟨⟨false, 0, 6, by decide, by decide, by decide⟩, 6, rfl, by decide⟩, by decide +kernel,
      by decide +kernel, by decide +kernel, by decide +kernel⟩
  · rw [decodes_iff]
    decide
  · exact (units_of_multiplier (zero 29)).mpr (by decide)
  · exact ⟨⟨⟨false, 79228162514264337593543950335, 0, by decide, by decide, by decide⟩, 2, rfl,
      by decide⟩, by decide +kernel, by decide⟩

end Amount

end TokenDesk
