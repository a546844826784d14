import Mathlib.Algebra.Order.Field.Basic
import Mathlib.Tactic.Positivity
import TokenDesk.Proofs.Amount
import TokenDesk.Proofs.Decimal.Digits

/-!
Numbers written out in digits, and what the reader makes of them. A number that a decimal can be
(`Written.Representable`) is read exactly, whatever zeros are written behind it
(`Written.toRat_of_read`); and the text of a decimal is read as this very decimal (`read_text`).
-/

namespace TokenDesk.Decimal

open Text (isDigit digitValue digitsValue)

/-! ## Numbers written out -/

/-- A number written out: a sign or none, digits, and if there is a point the digits behind it. -/
structure Written where
  sign : Option Char
  whole : List Char
  fraction : Option (List Char)
  sign_mark : ∀ c ∈ sign, c = '-' ∨ c = '+'
  whole_digits : ∀ c ∈ whole, isDigit c = true
  fraction_digits : ∀ digits ∈ fraction, ∀ c ∈ digits, isDigit c = true

namespace Written

def negative (w : Written) : Bool := w.sign = some '-'

/-- The digits behind the point. -/
def places (w : Written) : List Char := w.fraction.getD []

/-- The digits with the point in its place. -/
def body (w : Written) : List Char := w.whole ++ w.fraction.elim [] ('.' :: ·)

def text (w : Written) : List Char := w.sign.toList ++ w.body

/-- All digits, as one whole number. -/
def count (w : Written) : Nat := digitsValue (w.whole ++ w.places)

theorem count_eq (w : Written) : w.count = extended (digitsValue w.whole) w.places :=
  Text.digitsValue_append w.whole w.places

/-- The number that is written. -/
def value (w : Written) : ℚ :=
  (if w.negative then -1 else 1) * w.count / 10 ^ w.places.length

/-- Some decimal is the number: it needs neither more than 96 bits nor more than 28 digits behind
the point. -/
def Representable (w : Written) : Prop := ∃ d : Decimal, d.toRat = w.value

/-- The body holds digits and the point only. -/
theorem mem_body {w : Written} {c : Char} (member : c ∈ w.body) : isDigit c = true ∨ c = '.' := by
  unfold body at member
  rcases List.mem_append.mp member with whole | rest
  · exact .inl (w.whole_digits c whole)
  · cases fraction : w.fraction with
    | none => simp [fraction] at rest
    | some digits =>
      rw [fraction] at rest
      rcases List.mem_cons.mp rest with rfl | digit
      · exact .inr rfl
      · exact .inl (w.fraction_digits digits fraction c digit)

/-- No other character stands in the body. -/
theorem ne_of_mem_body {w : Written} {c mark : Char} (member : c ∈ w.body)
    (other : isDigit mark = false) (point : mark ≠ '.') : c ≠ mark := by
  rintro rfl
  rcases mem_body member with digit | same
  · exact Bool.noConfusion (digit.symm.trans other)
  · exact point same

/-! ## Reading -/

/-- The sign is read as such, and nothing else at the front is a sign. -/
theorem readPlain_text {w : Written} (filled : w.text ≠ []) :
    readPlain w.text = readDigits w.negative ⟨0, 0, false, false⟩ w.body := by
  obtain ⟨sign, whole, fraction, marked, wholeDigits, fractionDigits⟩ := w
  cases sign with
  | some c =>
    rcases marked c rfl with rfl | rfl
    · rfl
    · rfl
  | none =>
    set w : Written := ⟨none, whole, fraction, marked, wholeDigits, fractionDigits⟩ with body
    have unsigned : w.text = w.body := rfl
    have positive : w.negative = false := rfl
    rw [unsigned] at filled ⊢
    obtain ⟨c, rest, begins⟩ := List.exists_cons_of_ne_nil filled
    have first : c ∈ w.body := by
      rw [begins]
      exact List.mem_cons_self
    have minus : c ≠ '-' := ne_of_mem_body first (by decide) (by decide)
    have plus : c ≠ '+' := ne_of_mem_body first (by decide) (by decide)
    rw [begins, positive]
    unfold readPlain
    split
    · rename_i empty
      cases empty
    · rename_i same
      exact (minus (List.cons.inj same).1).elim
    · rename_i same
      exact (plus (List.cons.inj same).1).elim
    · rfl

/-- No power of ten is given. -/
theorem read_text {w : Written} : Decimal.read w.text = readPlain w.text := by
  have plain : w.text.any (fun c => c = 'e' || c = 'E') = false := by
    rw [List.any_eq_false]
    intro c member
    have other : c ≠ 'e' ∧ c ≠ 'E' := by
      rcases List.mem_append.mp member with sign | body
      · rcases w.sign_mark c (Option.mem_toList.mp sign) with rfl | rfl
        · decide
        · decide
      · exact ⟨ne_of_mem_body body (by decide) (by decide),
          ne_of_mem_body body (by decide) (by decide)⟩
    simp [other]
  unfold Decimal.read
  rw [plain]
  cases readPlain w.text with
  | ok d => rfl
  | error e => rfl

theorem text_ne_nil_of_read {w : Written} {r : Decimal} (read : readPlain w.text = .ok r) :
    w.text ≠ [] := by
  intro empty
  rw [empty] at read
  cases read

/-- A decimal that is the number gives the number's digits. -/
theorem covers_of_representable {w : Written} (representable : w.Representable) :
    Covers w.count w.places.length := by
  obtain ⟨d, same⟩ := representable
  refine ⟨d.mantissa, d.scale, d.mantissa_lt, d.scale_le, ?_⟩
  have sizes : |d.toRat| = |w.value| := by rw [same]
  have sign : ∀ b : Bool, |(if b then -1 else 1 : ℚ)| = 1 := by
    intro b
    cases b with
    | false => simp
    | true => simp
  rw [Decimal.toRat, value, abs_div, abs_div, abs_mul, abs_mul, sign, sign, one_mul, one_mul,
    Nat.abs_cast, Nat.abs_cast, abs_of_pos (by positivity), abs_of_pos (by positivity),
    div_eq_div_iff (by positivity) (by positivity)] at sizes
  exact_mod_cast sizes

end Written

/-- What is finished is the number of its parts, with the sign. -/
theorem toRat_of_finish {negative : Bool} {p : Progress} {r : Decimal}
    (finished : finish negative p = .ok r) :
    r.toRat = (if negative then -1 else 1) * p.mantissa / 10 ^ p.scale := by
  unfold finish ofParts? at finished
  split at finished
  · split at finished
    · rename_i d known
      cases finished
      split at known
      · cases known
        rcases Nat.eq_zero_or_pos p.mantissa with zero | positive
        · simp [toRat, zero]
        · simp [toRat, positive.ne']
      · cases known
    · cases finished
  · cases finished

/-- If a decimal is the number, what is finished at the end of the text are parts of the number. -/
theorem Written.finish_of_read {w : Written} {r : Decimal}
    (covers : Covers w.count w.places.length) (read : Decimal.read w.text = .ok r) :
    ∃ q, finish w.negative q = .ok r ∧
      q.mantissa * 10 ^ w.places.length = w.count * 10 ^ q.scale := by
  rw [Written.read_text] at read
  rw [Written.readPlain_text (Written.text_ne_nil_of_read read), Written.body,
    readDigits_whole rfl rfl (by decide) w.whole_digits] at read
  simp only [extended_zero, Bool.false_or] at read
  split at read
  · rename_i room
    cases fraction : w.fraction with
    | none =>
      have places : w.places = [] := by rw [Written.places, fraction]; rfl
      rw [fraction, Option.elim_none, readDigits_nil] at read
      refine ⟨_, read, ?_⟩
      rw [Written.count_eq, places, extended_nil, List.length_nil]
    | some digits =>
      have places : w.places = digits := by rw [Written.places, fraction]; rfl
      rw [fraction, Option.elim_some, readDigits_point rfl] at read
      rw [Written.count_eq, places] at covers
      obtain ⟨q, finished, same⟩ : ∃ q,
          readDigits w.negative ⟨digitsValue w.whole, 0, true, !w.whole.isEmpty⟩ digits =
            finish w.negative q ∧
          q.mantissa * 10 ^ (0 + digits.length) =
            extended (digitsValue w.whole) digits * 10 ^ q.scale :=
        readDigits_fraction rfl room (.inl (show 0 < maxScale by decide))
          (w.fraction_digits digits fraction) (by rw [Nat.zero_add]; exact covers)
      rw [Nat.zero_add] at same
      rw [Written.count_eq, places]
      exact ⟨q, finished.symm.trans read, same⟩
  · cases read

/-- A number that a decimal can be is read exactly. -/
theorem Written.toRat_of_read {w : Written} {r : Decimal} (representable : w.Representable)
    (read : Decimal.read w.text = .ok r) : r.toRat = w.value := by
  obtain ⟨q, finished, same⟩ :=
    Written.finish_of_read (Written.covers_of_representable representable) read
  have quotient : (q.mantissa : ℚ) / 10 ^ q.scale = w.count / 10 ^ w.places.length := by
    rw [div_eq_div_iff (by positivity) (by positivity)]
    exact_mod_cast same
  rw [toRat_of_finish finished, Written.value, mul_div_assoc, mul_div_assoc, quotient]

/-- A number is made of its own parts. -/
theorem ofParts?_self (d : Decimal) : ofParts? d.negative d.mantissa d.scale = some d := by
  obtain ⟨negative, mantissa, scale, small, short, unsigned⟩ := d
  have sign : (negative && mantissa != 0) = negative := by
    cases negative with
    | false => rfl
    | true =>
      have other : mantissa ≠ 0 := fun zero => Bool.noConfusion (unsigned zero)
      simp [other]
  unfold ofParts?
  simp [small, short, sign]

/-- The parts of a number in range, as they are finished. -/
theorem finish_parts (d : Decimal) {point : Bool} :
    finish d.negative ⟨d.mantissa, d.scale, point, true⟩ = .ok d := by
  unfold finish
  simp only [↓reduceIte, ofParts?_self]

/-! ## Written decimals -/

/-- The digits of a decimal, with one at least in front of the point. -/
def digits (d : Decimal) : List Char := Text.paddedNumeral (d.scale + 1) d.mantissa

/-- The digits in front of the point, and those behind it. -/
def front (d : Decimal) : List Char := d.digits.take (d.digits.length - d.scale)
def back (d : Decimal) : List Char := d.digits.drop (d.digits.length - d.scale)

theorem length_digits (d : Decimal) : d.scale < d.digits.length := by
  rw [digits, Text.length_paddedNumeral]
  omega

theorem length_back (d : Decimal) : d.back.length = d.scale := by
  have long := length_digits d
  rw [back, List.length_drop]
  omega

theorem front_ne_nil (d : Decimal) : d.front ≠ [] := by
  have long := length_digits d
  rw [← List.length_pos_iff, front, List.length_take]
  omega

theorem isDigit_of_mem_front {d : Decimal} : ∀ c ∈ d.front, isDigit c = true :=
  fun _ member => Text.isDigit_of_mem_paddedNumeral (List.mem_of_mem_take member)

theorem isDigit_of_mem_back {d : Decimal} : ∀ c ∈ d.back, isDigit c = true :=
  fun _ member => Text.isDigit_of_mem_paddedNumeral (List.mem_of_mem_drop member)

/-- Together the digits are those of the mantissa. -/
theorem extended_front_back (d : Decimal) :
    extended (digitsValue d.front) d.back = d.mantissa := by
  have joined := Text.digitsValue_append d.front d.back
  have whole : d.front ++ d.back = d.digits := List.take_append_drop _ _
  rw [whole, digits, Text.digitsValue_paddedNumeral] at joined
  exact joined.symm

/-- The text of a decimal as a number written out. -/
def written (d : Decimal) : Written where
  sign := if d.negative then some '-' else none
  whole := d.front
  fraction := if d.scale = 0 then none else some d.back
  sign_mark := by
    intro c mark
    split at mark
    · exact .inl (Option.mem_some_iff.mp mark).symm
    · cases mark
  whole_digits := isDigit_of_mem_front
  fraction_digits := by
    intro digits some
    split at some
    · cases some
    · cases some
      exact isDigit_of_mem_back

theorem written_negative (d : Decimal) : d.written.negative = d.negative := by
  by_cases negative : d.negative
  · simp [written, Written.negative, negative]
  · simp [written, Written.negative, negative]

theorem text_written (d : Decimal) : d.written.text = d.text := by
  unfold written Written.text Written.body text front back digits
  by_cases negative : d.negative
  · by_cases zero : d.scale = 0
    · simp [negative, zero]
    · simp [negative, zero]
  · by_cases zero : d.scale = 0
    · simp [negative, zero]
    · simp [negative, zero]

/-- A written decimal is read back, with all its digits. -/
theorem read_text (d : Decimal) : Decimal.read d.text = .ok d := by
  have value := extended_front_back d
  have whole : (!d.front.isEmpty) = true := by simp [front_ne_nil d]
  have filled : d.written.text ≠ [] := by
    intro empty
    exact front_ne_nil d (List.append_eq_nil_iff.mp (List.append_eq_nil_iff.mp empty).2).1
  have room : digitsValue d.front < limit :=
    Nat.lt_of_le_of_lt (value ▸ le_extended _ d.back) d.mantissa_lt
  have start : Decimal.read d.text = readDigits d.negative ⟨digitsValue d.front, 0, false, true⟩
      (d.written.fraction.elim [] ('.' :: ·)) := by
    rw [← text_written, Written.read_text, Written.readPlain_text filled, Written.body,
      readDigits_whole rfl rfl (by decide) d.written.whole_digits, written_negative]
    simp only [written, extended_zero, Bool.false_or, if_pos room, whole]
  rw [start, written]
  by_cases zero : d.scale = 0
  · have none : d.back = [] := List.length_eq_zero_iff.mp ((length_back d).trans zero)
    have finished : finish d.negative ⟨d.mantissa, d.scale, false, true⟩ = .ok d := finish_parts d
    rw [none, extended_nil] at value
    rw [zero] at finished
    simp only [zero, ↓reduceIte, Option.elim_none]
    rw [readDigits_nil, value, finished]
  · have fraction : readDigits d.negative ⟨digitsValue d.front, 0, true, true⟩ d.back =
        finish d.negative ⟨extended (digitsValue d.front) d.back, 0 + d.back.length, true,
          true || !d.back.isEmpty⟩ :=
      readDigits_fraction_of_fits rfl isDigit_of_mem_back (by rw [value]; exact d.mantissa_lt)
        (by rw [length_back, Nat.zero_add]; exact d.scale_le)
    simp only [zero, ↓reduceIte, Option.elim_some]
    rw [readDigits_point rfl, fraction, length_back, value, Nat.zero_add, Bool.true_or]
    exact finish_parts d

end TokenDesk.Decimal
