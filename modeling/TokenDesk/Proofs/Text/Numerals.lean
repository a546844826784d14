import Mathlib.Data.List.Basic
import Mathlib.Data.List.Induction
import Mathlib.Tactic.IntervalCases
import TokenDesk.Text.Digits

/-!
Numerals read back. A numeral is a run of digits without a leading zero, and its value is the number
it was written for. Where the text goes on behind a numeral with anything but a digit, the end of
the numeral shows: the digits at the front of the text are the numeral, and what follows them is the
rest.
-/

namespace TokenDesk.Text

/-! ## Digits -/

theorem isDigit_digitChar {n : Nat} (small : n < 10) : isDigit (digitChar n) = true := by
  interval_cases n <;> decide

theorem digitValue_digitChar {n : Nat} (small : n < 10) : digitValue (digitChar n) = n := by
  interval_cases n <;> decide

theorem isDigit_iff {c : Char} : isDigit c = true ↔ 48 ≤ c.toNat ∧ c.toNat ≤ 57 := by
  simp only [isDigit, Bool.and_eq_true, decide_eq_true_eq, Char.le_def, UInt32.le_iff_toNat_le]
  exact Iff.rfl

theorem digitValue_le {c : Char} (digit : isDigit c = true) : digitValue c ≤ 9 := by
  have range := isDigit_iff.mp digit
  have zero : '0'.toNat = 48 := rfl
  unfold digitValue
  omega

/-- A digit is none of the marks outside the range of digits. -/
theorem ne_of_isDigit {c mark : Char} (digit : isDigit c = true) (other : isDigit mark = false) :
    c ≠ mark := by
  rintro rfl
  rw [digit] at other
  cases other

/-! ## The value of a run of digits -/

theorem digitsValue_concat (front : List Char) (c : Char) :
    digitsValue (front ++ [c]) = 10 * digitsValue front + digitValue c := by
  simp [digitsValue, List.foldl_append]

theorem digitsValue_append (front back : List Char) :
    digitsValue (front ++ back) = digitsValue front * 10 ^ back.length + digitsValue back := by
  induction back using List.reverseRecOn with
  | nil => simp [digitsValue]
  | append_singleton back c ih =>
    rw [← List.append_assoc, digitsValue_concat, digitsValue_concat, ih, List.length_append,
      List.length_singleton, Nat.pow_succ, Nat.mul_add, ← Nat.mul_assoc, ← Nat.mul_assoc,
      Nat.mul_comm 10 (digitsValue front), Nat.mul_right_comm, Nat.add_assoc]

theorem digitsValue_cons (c : Char) (digits : List Char) :
    digitsValue (c :: digits) = digitValue c * 10 ^ digits.length + digitsValue digits := by
  have single : digitsValue [c] = digitValue c := by simp [digitsValue]
  rw [← List.singleton_append, digitsValue_append, single]

theorem digitsValue_replicate_zero (count : Nat) :
    digitsValue (List.replicate count '0') = 0 := by
  induction count with
  | zero => rfl
  | succ k ih =>
    rw [List.replicate_succ', digitsValue_concat, ih]
    rfl

theorem digitsValue_lt {digits : List Char} (all : ∀ c ∈ digits, isDigit c = true) :
    digitsValue digits < 10 ^ digits.length := by
  induction digits using List.reverseRecOn with
  | nil => decide
  | append_singleton front c ih =>
    have below := ih fun c member => all c (List.mem_append_left _ member)
    have last := digitValue_le (all c (List.mem_append_right _ (List.mem_singleton_self c)))
    rw [digitsValue_concat, List.length_append, List.length_singleton, Nat.pow_succ]
    omega

/-! ## Numerals -/

theorem numeral_ne_nil (n : Nat) : numeral n ≠ [] := by
  rw [numeral]
  split
  · exact List.cons_ne_nil _ _
  · exact List.append_ne_nil_of_right_ne_nil _ (List.cons_ne_nil _ _)

theorem isDigit_of_mem_numeral {n : Nat} {c : Char} (member : c ∈ numeral n) :
    isDigit c = true := by
  induction n using numeral.induct with
  | case1 n small =>
    rw [numeral, if_pos small] at member
    cases List.mem_singleton.mp member
    exact isDigit_digitChar small
  | case2 n large ih =>
    rw [numeral, if_neg large] at member
    rcases List.mem_append.mp member with front | last
    · exact ih front
    · cases List.mem_singleton.mp last
      exact isDigit_digitChar (Nat.mod_lt _ (by decide))

theorem digitsValue_numeral (n : Nat) : digitsValue (numeral n) = n := by
  induction n using numeral.induct with
  | case1 n small =>
    rw [numeral, if_pos small]
    have value := digitValue_digitChar small
    simpa [digitsValue] using value
  | case2 n large ih =>
    rw [numeral, if_neg large, digitsValue_concat, ih,
      digitValue_digitChar (Nat.mod_lt _ (by decide))]
    omega

/-- A numeral of more than one digit does not begin with a zero. -/
theorem head?_numeral {n : Nat} (positive : 0 < n) : (numeral n).head? ≠ some '0' := by
  induction n using numeral.induct with
  | case1 n small =>
    rw [numeral, if_pos small]
    interval_cases n <;> decide
  | case2 n large ih =>
    rw [numeral, if_neg large, List.head?_append_of_ne_nil _ (numeral_ne_nil _)]
    exact ih (by omega)

theorem length_numeral_le {n width : Nat} (positive : 0 < width) (small : n < 10 ^ width) :
    (numeral n).length ≤ width := by
  induction n using numeral.induct generalizing width with
  | case1 n digit =>
    rw [numeral, if_pos digit]
    exact positive
  | case2 n large ih =>
    rw [numeral, if_neg large, List.length_append, List.length_singleton]
    rcases width with _ | _ | width
    · omega
    · omega
    · have tenth : n / 10 < 10 ^ (width + 1) := by
        rw [Nat.pow_succ] at small
        omega
      have shorter := ih (Nat.succ_pos width) tenth
      omega

/-! ## Padded numerals -/

theorem isDigit_of_mem_paddedNumeral {width n : Nat} {c : Char}
    (member : c ∈ paddedNumeral width n) : isDigit c = true := by
  rcases List.mem_append.mp member with padding | digit
  · cases List.eq_of_mem_replicate padding
    decide
  · exact isDigit_of_mem_numeral digit

theorem digitsValue_paddedNumeral (width n : Nat) : digitsValue (paddedNumeral width n) = n := by
  unfold paddedNumeral
  rw [digitsValue_append, digitsValue_replicate_zero, Nat.zero_mul, Nat.zero_add,
    digitsValue_numeral]

theorem length_paddedNumeral (width n : Nat) :
    (paddedNumeral width n).length = max width (numeral n).length := by
  unfold paddedNumeral
  rw [List.length_append, List.length_replicate]
  omega

theorem length_paddedNumeral_of_lt {width n : Nat} (positive : 0 < width) (small : n < 10 ^ width) :
    (paddedNumeral width n).length = width := by
  rw [length_paddedNumeral, Nat.max_eq_left (length_numeral_le positive small)]

theorem paddedNumeral_ne_nil (width n : Nat) : paddedNumeral width n ≠ [] :=
  List.append_ne_nil_of_right_ne_nil _ (numeral_ne_nil n)

/-! ## Where a run of digits ends -/

/-- Text that does not go on with a digit. -/
def NoDigit (rest : List Char) : Prop := ∀ c ∈ rest.head?, isDigit c = false

theorem noDigit_nil : NoDigit [] := by
  rintro c ⟨⟩

theorem noDigit_cons {c : Char} {rest : List Char} (other : isDigit c = false) :
    NoDigit (c :: rest) := by
  rintro d ⟨⟩
  exact other

theorem takeWhile_digits {digits rest : List Char} (all : ∀ c ∈ digits, isDigit c = true)
    (ends : NoDigit rest) : (digits ++ rest).takeWhile isDigit = digits := by
  rw [List.takeWhile_append_of_pos all]
  cases rest with
  | nil => simp
  | cons c rest => simp [ends c rfl]

theorem dropWhile_digits {digits rest : List Char} (all : ∀ c ∈ digits, isDigit c = true)
    (ends : NoDigit rest) : (digits ++ rest).dropWhile isDigit = rest := by
  rw [List.dropWhile_append_of_pos all]
  cases rest with
  | nil => rfl
  | cons c rest => simp [ends c rfl]

/-- Two texts that begin with runs of digits and are the same have the same runs. -/
theorem digits_append_inj {digits digits' rest rest' : List Char}
    (all : ∀ c ∈ digits, isDigit c = true) (all' : ∀ c ∈ digits', isDigit c = true)
    (ends : NoDigit rest) (ends' : NoDigit rest') (same : digits ++ rest = digits' ++ rest') :
    digits = digits' ∧ rest = rest' := by
  constructor
  · rw [← takeWhile_digits all ends, same, takeWhile_digits all' ends']
  · rw [← dropWhile_digits all ends, same, dropWhile_digits all' ends']

theorem numeral_append_inj {m n : Nat} {rest rest' : List Char} (ends : NoDigit rest)
    (ends' : NoDigit rest') (same : numeral m ++ rest = numeral n ++ rest') :
    m = n ∧ rest = rest' := by
  obtain ⟨digits, rests⟩ := digits_append_inj (fun _ => isDigit_of_mem_numeral)
    (fun _ => isDigit_of_mem_numeral) ends ends' same
  refine ⟨?_, rests⟩
  rw [← digitsValue_numeral m, digits, digitsValue_numeral]

/-- A numeral is no text that begins with a minus sign. -/
theorem numeral_append_ne_minus {n : Nat} {rest rest' : List Char} :
    numeral n ++ rest ≠ '-' :: rest' := by
  intro same
  obtain ⟨c, front, begins⟩ := List.exists_cons_of_ne_nil (numeral_ne_nil n)
  have digit : isDigit c = true := isDigit_of_mem_numeral (n := n) (by rw [begins]; simp)
  rw [begins] at same
  cases same
  cases digit

theorem intNumeral_append_inj {i j : Int} {rest rest' : List Char} (ends : NoDigit rest)
    (ends' : NoDigit rest') (same : intNumeral i ++ rest = intNumeral j ++ rest') :
    i = j ∧ rest = rest' := by
  unfold intNumeral at same
  split at same
  · split at same
    · obtain ⟨sizes, rests⟩ := numeral_append_inj ends ends' (List.cons.inj same).2
      exact ⟨by omega, rests⟩
    · exact (numeral_append_ne_minus same.symm).elim
  · split at same
    · exact (numeral_append_ne_minus same).elim
    · obtain ⟨sizes, rests⟩ := numeral_append_inj ends ends' same
      exact ⟨by omega, rests⟩

/-! ## Reading -/

theorem readNumeral_of_digits {digits : List Char} (filled : digits ≠ [])
    (all : ∀ c ∈ digits, isDigit c = true) : readNumeral digits = some (digitsValue digits) := by
  have every : digits.all isDigit = true := List.all_eq_true.mpr all
  unfold readNumeral
  rw [List.isEmpty_eq_false_iff.mpr filled, every]
  rfl

/-- Only a plus sign in front is dropped. -/
theorem readUnsigned_eq {most : Nat} {cs : List Char} (unsigned : cs.head? ≠ some '+') :
    readUnsigned most cs = match readNumeral cs with
      | some n => if n ≤ most then some n else none
      | none => none := by
  unfold readUnsigned
  split
  · exact (unsigned rfl).elim
  · rfl

theorem readUnsigned_of_digits {most : Nat} {digits : List Char} (filled : digits ≠ [])
    (all : ∀ c ∈ digits, isDigit c = true) (bounded : digitsValue digits ≤ most) :
    readUnsigned most digits = some (digitsValue digits) := by
  have unsigned : digits.head? ≠ some '+' := by
    intro plus
    cases all '+' (List.mem_of_head? plus)
  rw [readUnsigned_eq unsigned, readNumeral_of_digits filled all]
  exact if_pos bounded

theorem readUnsigned_numeral {most n : Nat} (bounded : n ≤ most) :
    readUnsigned most (numeral n) = some n := by
  have value := digitsValue_numeral n
  rw [readUnsigned_of_digits (numeral_ne_nil n) (fun _ => isDigit_of_mem_numeral) (by omega), value]

end TokenDesk.Text
