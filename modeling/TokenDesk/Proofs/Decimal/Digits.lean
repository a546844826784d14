import TokenDesk.Decimal.Read
import TokenDesk.Proofs.Text.Numerals

/-!
Reading the digits of a decimal number. In front of the point all digits have to fit
(`readDigits_whole`). Behind it those that do not fit are dropped; but if some decimal is the number
at all (`Covers`), only zeros are dropped, and what is read is the number (`readDigits_fraction`).
-/

namespace TokenDesk.Decimal

open Text (isDigit digitValue digitsValue)

/-! ## One step of reading -/

theorem readDigits_nil (negative : Bool) (p : Progress) :
    readDigits negative p [] = finish negative p := by
  rw [readDigits.eq_def]

theorem readDigits_point {negative : Bool} {p : Progress} (whole : p.point = false)
    (rest : List Char) :
    readDigits negative p ('.' :: rest) = readDigits negative { p with point := true } rest := by
  have other : isDigit '.' = false := by decide
  rw [readDigits.eq_def]
  simp [other, whole]

/-- A digit in front of the point has to fit. -/
theorem readDigits_whole_cons {negative : Bool} {p : Progress} {c : Char} (whole : p.point = false)
    (digit : isDigit c = true) (rest : List Char) :
    readDigits negative p (c :: rest) =
      if limit ≤ p.mantissa * 10 + digitValue c then .error .tooManyDigits
      else readDigits negative ⟨p.mantissa * 10 + digitValue c, 0, false, true⟩ rest := by
  rw [readDigits.eq_def]
  simp only [digit, whole, ↓reduceIte, Bool.false_eq_true, Bool.false_and]
  split
  · rfl
  · cases rest with
    | nil => rw [readDigits_nil]
    | cons next after => rfl

/-- Behind the point, reading goes on while digits have room. -/
theorem readDigits_fraction_cons {negative : Bool} {p : Progress} {c : Char} {rest : List Char}
    (fraction : p.point = true) (digit : isDigit c = true)
    (room : p.mantissa * 10 + digitValue c < limit) (short : p.scale + 1 < maxScale ∨ rest = []) :
    readDigits negative p (c :: rest) =
      readDigits negative ⟨p.mantissa * 10 + digitValue c, p.scale + 1, true, true⟩ rest := by
  rw [readDigits.eq_def]
  simp only [digit, fraction, ↓reduceIte, Bool.true_and, if_neg (Nat.not_le_of_lt room)]
  cases rest with
  | nil => rw [readDigits_nil]
  | cons next after =>
    have more : ¬ maxScale ≤ p.scale + 1 := by simpa using short
    simp only [decide_eq_true_eq, if_neg more]

/-- Where a digit has no room, it and all that follow it are dropped. -/
theorem readDigits_full {negative : Bool} {p : Progress} {c : Char} (fraction : p.point = true)
    (digit : isDigit c = true) (full : limit ≤ p.mantissa * 10 + digitValue c) (rest : List Char) :
    readDigits negative p (c :: rest) = roundAt negative p.mantissa p.scale c rest := by
  rw [readDigits.eq_def]
  simp only [digit, fraction, ↓reduceIte, if_pos full]

/-- After the last place, what follows is dropped. -/
theorem readDigits_last {negative : Bool} {p : Progress} {c : Char} (fraction : p.point = true)
    (digit : isDigit c = true) (room : p.mantissa * 10 + digitValue c < limit)
    (last : maxScale ≤ p.scale + 1) (next : Char) (after : List Char) :
    readDigits negative p (c :: next :: after) =
      roundAt negative (p.mantissa * 10 + digitValue c) (p.scale + 1) next after := by
  rw [readDigits.eq_def]
  simp only [digit, fraction, ↓reduceIte, Bool.true_and, if_neg (Nat.not_le_of_lt room),
    decide_eq_true_eq, if_pos last]

/-! ## Runs of digits -/

/-- The number whose digits go on with the given ones. -/
def extended (mantissa : Nat) (digits : List Char) : Nat :=
  mantissa * 10 ^ digits.length + digitsValue digits

theorem extended_nil (mantissa : Nat) : extended mantissa [] = mantissa := by
  simp [extended, digitsValue]

theorem extended_cons (mantissa : Nat) (c : Char) (digits : List Char) :
    extended mantissa (c :: digits) = extended (mantissa * 10 + digitValue c) digits := by
  unfold extended
  rw [Text.digitsValue_cons, List.length_cons, Nat.pow_succ, Nat.add_mul,
    Nat.mul_comm (10 ^ digits.length) 10, ← Nat.mul_assoc, Nat.add_assoc]

theorem extended_zero (digits : List Char) : extended 0 digits = digitsValue digits := by
  rw [extended, Nat.zero_mul, Nat.zero_add]

theorem le_extended (mantissa : Nat) (digits : List Char) : mantissa ≤ extended mantissa digits :=
  Nat.le_add_right_of_le (Nat.le_mul_of_pos_right _ (Nat.pow_pos (by decide)))

/-- Digits in front of the point have to fit, all of them. -/
theorem readDigits_whole {negative : Bool} {p : Progress} {digits : List Char}
    (whole : p.point = false) (start : p.scale = 0) (small : p.mantissa < limit)
    (all : ∀ c ∈ digits, isDigit c = true) (rest : List Char) :
    readDigits negative p (digits ++ rest) =
      if extended p.mantissa digits < limit then
        readDigits negative ⟨extended p.mantissa digits, 0, false, p.digit || !digits.isEmpty⟩ rest
      else .error .tooManyDigits := by
  induction digits generalizing p with
  | nil =>
    obtain ⟨mantissa, scale, point, digit⟩ := p
    cases whole
    cases start
    simp [extended_nil, show mantissa < limit from small]
  | cons c digits ih =>
    rw [extended_cons, List.cons_append, readDigits_whole_cons whole (all c List.mem_cons_self)]
    split
    · rename_i full
      have larger := le_extended (p.mantissa * 10 + digitValue c) digits
      rw [if_neg (by omega)]
    · rename_i room
      rw [ih rfl rfl (Nat.lt_of_not_le room) fun d member => all d (List.mem_cons_of_mem _ member)]
      simp

/-- Digits behind the point are all read, if they fit. -/
theorem readDigits_fraction_of_fits {negative : Bool} {p : Progress} {digits : List Char}
    (fraction : p.point = true) (all : ∀ c ∈ digits, isDigit c = true)
    (room : extended p.mantissa digits < limit) (short : p.scale + digits.length ≤ maxScale) :
    readDigits negative p digits =
      finish negative ⟨extended p.mantissa digits, p.scale + digits.length, true,
        p.digit || !digits.isEmpty⟩ := by
  induction digits generalizing p with
  | nil =>
    obtain ⟨mantissa, scale, point, digit⟩ := p
    cases fraction
    simp [readDigits_nil, extended_nil]
  | cons c digits ih =>
    have places : p.scale + (c :: digits).length = p.scale + 1 + digits.length := by
      rw [List.length_cons]
      omega
    have larger := le_extended (p.mantissa * 10 + digitValue c) digits
    rw [extended_cons] at room ⊢
    rw [places] at short ⊢
    have more : p.scale + 1 < maxScale ∨ digits = [] := by
      cases digits with
      | nil => exact .inr rfl
      | cons next after =>
        rw [List.length_cons] at short
        exact .inl (by omega)
    rw [readDigits_fraction_cons fraction (all c List.mem_cons_self) (by omega) more,
      ih rfl (fun d member => all d (List.mem_cons_of_mem _ member)) room short]
    simp

/-! ## Digits that are dropped -/

/-- Some decimal is `n / 10 ^ places`, but for the sign. -/
def Covers (n places : Nat) : Prop :=
  ∃ mantissa scale, mantissa < limit ∧ scale ≤ maxScale ∧ mantissa * 10 ^ places = n * 10 ^ scale

/-- Digits past the last place of a decimal that is the number are zeros. -/
theorem digitsValue_eq_zero_of_short {mantissa scale m k : Nat} {dropped : List Char}
    (all : ∀ c ∈ dropped, isDigit c = true) (short : k ≤ scale)
    (same : m * 10 ^ (scale + dropped.length) = extended mantissa dropped * 10 ^ k) :
    digitsValue dropped = 0 := by
  have split : 10 ^ (scale + dropped.length) =
      10 ^ (scale - k) * 10 ^ dropped.length * 10 ^ k := by
    rw [← Nat.pow_add, ← Nat.pow_add]
    congr 1
    omega
  rw [split, ← Nat.mul_assoc] at same
  have cancelled := Nat.eq_of_mul_eq_mul_right (show 0 < 10 ^ k from Nat.pow_pos (by decide)) same
  rw [← Nat.mul_assoc] at cancelled
  have divides : 10 ^ dropped.length ∣ extended mantissa dropped :=
    ⟨_, cancelled.symm.trans (Nat.mul_comm _ _)⟩
  exact Nat.eq_zero_of_dvd_of_lt ((Nat.dvd_add_right (Nat.dvd_mul_left _ _)).mp divides)
    (Text.digitsValue_lt all)

/-- A decimal with more places than were read has room for one digit more. -/
theorem lt_limit_of_long {mantissa scale m k : Nat} {c : Char} {rest : List Char}
    (fits : m < limit) (long : scale < k)
    (same : m * 10 ^ (scale + (c :: rest).length) = extended mantissa (c :: rest) * 10 ^ k) :
    mantissa * 10 + digitValue c < limit := by
  obtain ⟨j, rfl⟩ : ∃ j, k = scale + 1 + j := ⟨k - (scale + 1), by omega⟩
  have split : 10 ^ (scale + (c :: rest).length) = 10 ^ rest.length * 10 ^ (scale + 1) := by
    rw [← Nat.pow_add, List.length_cons]
    congr 1
    omega
  have split' : 10 ^ (scale + 1 + j) = 10 ^ j * 10 ^ (scale + 1) := by
    rw [← Nat.pow_add]
    congr 1
    omega
  rw [split, split', ← Nat.mul_assoc, ← Nat.mul_assoc, extended_cons] at same
  have cancelled := Nat.eq_of_mul_eq_mul_right
    (show 0 < 10 ^ (scale + 1) from Nat.pow_pos (by decide)) same
  have power : 0 < 10 ^ rest.length := Nat.pow_pos (by decide)
  have grown := Nat.le_mul_of_pos_right (extended (mantissa * 10 + digitValue c) rest)
    (show 0 < 10 ^ j from Nat.pow_pos (by decide))
  have product : (mantissa * 10 + digitValue c) * 10 ^ rest.length ≤ m * 10 ^ rest.length := by
    rw [cancelled]
    exact Nat.le_trans (Nat.le_add_right _ _) grown
  exact Nat.lt_of_le_of_lt (Nat.le_of_mul_le_mul_right product power) fits

/-- If a decimal is the number, the digits that have no room are zeros. -/
theorem digitsValue_eq_zero_of_dropped {mantissa scale : Nat} {c : Char} {rest : List Char}
    (all : ∀ d ∈ c :: rest, isDigit d = true)
    (full : limit ≤ mantissa * 10 + digitValue c ∨ maxScale ≤ scale)
    (covers : Covers (extended mantissa (c :: rest)) (scale + (c :: rest).length)) :
    digitsValue (c :: rest) = 0 := by
  obtain ⟨m, k, fits, bounded, same⟩ := covers
  rcases Nat.lt_or_ge scale k with long | short
  · have room := lt_limit_of_long fits long same
    rcases full with full | last
    · omega
    · omega
  · exact digitsValue_eq_zero_of_short all short same

/-- Zeros are dropped without a trace. -/
theorem roundAt_zero {negative : Bool} {mantissa scale : Nat} {c : Char} {rest : List Char}
    (all : ∀ d ∈ c :: rest, isDigit d = true) (zero : digitsValue (c :: rest) = 0)
    (small : mantissa < limit) :
    roundAt negative mantissa scale c rest = finish negative ⟨mantissa, scale, true, true⟩ := by
  have digit := all c List.mem_cons_self
  have none : rest.find? (fun c => !isDigit c && c != '_') = none := by
    rw [List.find?_eq_none]
    intro d member
    simp [all d (List.mem_cons_of_mem _ member)]
  have first : digitValue c = 0 := by
    rw [Text.digitsValue_cons] at zero
    have product : digitValue c * 10 ^ rest.length = 0 := by omega
    exact (Nat.mul_eq_zero.mp product).resolve_right (Nat.pow_pos (by decide)).ne'
  unfold roundAt
  simp [digit, none, first, small]

/-- Without the zeros that are dropped the number is the same. -/
theorem mul_pow_of_zero {mantissa scale : Nat} {digits : List Char}
    (zero : digitsValue digits = 0) :
    mantissa * 10 ^ (scale + digits.length) = extended mantissa digits * 10 ^ scale := by
  rw [extended, zero, Nat.add_zero, Nat.pow_add, Nat.mul_assoc, Nat.mul_comm (10 ^ scale)]

/-- Of a number that a decimal can be, the fraction is read exactly. -/
theorem readDigits_fraction {negative : Bool} {p : Progress} {digits : List Char}
    (fraction : p.point = true) (small : p.mantissa < limit)
    (short : p.scale < maxScale ∨ digits = [] ∧ p.scale ≤ maxScale)
    (all : ∀ c ∈ digits, isDigit c = true)
    (covers : Covers (extended p.mantissa digits) (p.scale + digits.length)) :
    ∃ q, readDigits negative p digits = finish negative q ∧
      q.mantissa * 10 ^ (p.scale + digits.length) =
        extended p.mantissa digits * 10 ^ q.scale := by
  induction digits generalizing p with
  | nil => exact ⟨p, readDigits_nil negative p, by simp [extended_nil]⟩
  | cons c digits ih =>
    have digit := all c List.mem_cons_self
    have others : ∀ d ∈ digits, isDigit d = true := fun d member =>
      all d (List.mem_cons_of_mem _ member)
    by_cases full : limit ≤ p.mantissa * 10 + digitValue c
    · have zero := digitsValue_eq_zero_of_dropped all (.inl full) covers
      refine ⟨⟨p.mantissa, p.scale, true, true⟩, ?_, mul_pow_of_zero zero⟩
      rw [readDigits_full fraction digit full, roundAt_zero all zero small]
    · have room : p.mantissa * 10 + digitValue c < limit := Nat.lt_of_not_le full
      have places : p.scale + (c :: digits).length = p.scale + 1 + digits.length := by
        rw [List.length_cons]
        omega
      rw [extended_cons, places] at covers ⊢
      rcases Nat.lt_or_ge (p.scale + 1) maxScale with more | last
      · rw [readDigits_fraction_cons fraction digit room (.inl more)]
        exact ih rfl room (.inl more) others covers
      · cases digits with
        | nil =>
          rw [readDigits_fraction_cons fraction digit room (.inr rfl)]
          have within : p.scale + 1 ≤ maxScale := by
            rcases short with short | ⟨⟨⟩, -⟩
            exact short
          exact ih rfl room (.inr ⟨rfl, within⟩) others covers
        | cons next after =>
          have zero := digitsValue_eq_zero_of_dropped others (.inr last) covers
          refine ⟨⟨p.mantissa * 10 + digitValue c, p.scale + 1, true, true⟩, ?_,
            mul_pow_of_zero zero⟩
          rw [readDigits_last fraction digit room last, roundAt_zero others zero room]

end TokenDesk.Decimal
