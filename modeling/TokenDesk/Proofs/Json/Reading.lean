import TokenDesk.Proofs.Json.Unambiguous

/-!
Written values are read back. What is written for a value ends where the reader stops: a numeral in
front of text that does not go on with a number, everything else at its last character. A value fits
(`Fits`) if its integers have 64 bits and its arrays and objects are not nested too deeply; such a
value is read from its text as it stands (`read_chars`), and what is read is a value for the
decoders (`isValue_toDocument`).
-/

namespace TokenDesk.Json

/-! ## Numbers -/

/-- Text that does not go on with a number: with no digit, no point and no mark of a power. -/
def NoNumber (rest : List Char) : Prop :=
  ∀ c ∈ rest.head?, Text.isDigit c = false ∧ c ≠ '.' ∧ c ≠ 'e' ∧ c ≠ 'E'

theorem noNumber_nil : NoNumber [] := by
  rintro c ⟨⟩

theorem noNumber_cons {c : Char} {rest : List Char}
    (other : Text.isDigit c = false ∧ c ≠ '.' ∧ c ≠ 'e' ∧ c ≠ 'E') : NoNumber (c :: rest) := by
  rintro d ⟨⟩
  exact other

theorem NoNumber.noDigit {rest : List Char} (ends : NoNumber rest) : Text.NoDigit rest :=
  fun c member => (ends c member).1

theorem readFraction_of_noNumber {rest : List Char} (ends : NoNumber rest) :
    readFraction rest = some (none, rest) := by
  cases rest with
  | nil => rfl
  | cons c rest => exact if_neg (ends c rfl).2.1

theorem readExponent_of_noNumber {rest : List Char} (ends : NoNumber rest) :
    readExponent rest = some (none, rest) := by
  cases rest with
  | nil => rfl
  | cons c rest =>
    obtain ⟨-, -, small, large⟩ := ends c rfl
    exact if_neg (by simp [small, large])

/-- An integer of 64 bits, signed or unsigned. -/
def InRange (i : Int) : Prop := -0x8000_0000_0000_0000 ≤ i ∧ i < UInt64.size

theorem spanDigits_numeral {n : Nat} {rest : List Char} (ends : NoNumber rest) :
    spanDigits (Text.numeral n ++ rest) = (Text.numeral n, rest) := by
  have all : ∀ c ∈ Text.numeral n, Text.isDigit c = true := fun _ => Text.isDigit_of_mem_numeral
  rw [spanDigits, Text.takeWhile_digits all ends.noDigit, Text.dropWhile_digits all ends.noDigit]

/-- A numeral may stand in a number: it has a digit, and no zero in front of another one. -/
theorem numeral_wellFormed (n : Nat) : ((Text.numeral n).isEmpty ||
    ((Text.numeral n).length != 1 && (Text.numeral n).head? == some '0')) = false := by
  rcases Nat.eq_zero_or_pos n with rfl | positive
  · have zero : Text.numeral 0 = ['0'] := by rw [Text.numeral]; rfl
    rw [zero]
    rfl
  · have filled : (Text.numeral n).isEmpty = false :=
      List.isEmpty_eq_false_iff.mpr (Text.numeral_ne_nil n)
    have leading : ((Text.numeral n).head? == some '0') = false :=
      beq_eq_false_iff_ne.mpr (Text.head?_numeral positive)
    rw [filled, leading, Bool.and_false, Bool.or_false]

/-- The number that a run of digits with a sign stands for, if 64 bits have room for it. -/
theorem numeral_of_inRange {i : Int} (range : InRange i) :
    (NumberToken.mk (i < 0) (Text.numeral i.natAbs) none none).numeral = .integer i := by
  have value := Text.digitsValue_numeral i.natAbs
  have size : UInt64.size = 18446744073709551616 := rfl
  obtain ⟨low, high⟩ := range
  unfold NumberToken.numeral
  simp only [Option.getD_none, List.append_nil, Option.isSome_none, Bool.or_self,
    Bool.false_eq_true, ↓reduceIte, value, decide_eq_true_eq]
  split
  · rename_i negative
    rw [if_neg (by simp; omega)]
    exact congrArg Numeral.integer (by omega)
  · rw [if_neg (by omega)]
    exact congrArg Numeral.integer (by omega)

theorem readNumber_intNumeral {i : Int} {rest : List Char} (range : InRange i)
    (ends : NoNumber rest) : readNumber (Text.intNumeral i ++ rest) = some (.integer i, rest) := by
  have token := numeral_of_inRange range
  have span := spanDigits_numeral (n := i.natAbs) ends
  have formed := numeral_wellFormed i.natAbs
  have fraction := readFraction_of_noNumber ends
  have exponent := readExponent_of_noNumber ends
  unfold Text.intNumeral
  split
  · rename_i negative
    rw [decide_eq_true negative] at token
    simp only [readNumber, List.cons_append, ↓reduceIte, span, formed, Bool.false_eq_true, fraction,
      exponent, bind, Option.bind, pure, token]
  · rename_i unsigned
    rw [decide_eq_false unsigned] at token
    obtain ⟨c, digits, begins⟩ := List.exists_cons_of_ne_nil (Text.numeral_ne_nil i.natAbs)
    have digit : Text.isDigit c = true :=
      Text.isDigit_of_mem_numeral (n := i.natAbs) (by rw [begins]; exact List.mem_cons_self)
    have other : c ≠ '-' := Text.ne_of_isDigit digit (by decide)
    rw [begins] at span formed token ⊢
    rw [List.cons_append] at span
    simp only [readNumber, List.cons_append, if_neg other, span, formed, Bool.false_eq_true,
      ↓reduceIte, fraction, exponent, bind, Option.bind, pure, token]

/-! ## Values -/

/-- A value whose integers have 64 bits, with at most `depth` arrays and objects around each
other. -/
def Fits : Nat → Json → Prop
  | _, .int i => InRange i
  | 0, .array _ => False
  | depth + 1, .array items => ∀ item ∈ items, Fits depth item
  | 0, .object _ => False
  | depth + 1, .object members => ∀ member ∈ members, Fits depth member.2
  | _, .null => True
  | _, .bool _ => True
  | _, .text _ => True

/-- The text of a value is read as the value, whatever follows it. -/
def Reads (j : Json) : Prop :=
  ∀ fuel rest, 2 * (chars j).length ≤ fuel → NoNumber rest →
    readValue fuel (chars j ++ rest) = (toDocument j, rest)

theorem dropSpace_cons {c : Char} (visible : isSpace c = false) (rest : List Char) :
    dropSpace (c :: rest) = c :: rest :=
  List.dropWhile_cons_of_neg (by simp [visible])

theorem length_chars_pos (j : Json) : 0 < (chars j).length := by
  obtain ⟨c, rest, begins, -⟩ := chars_eq_cons j
  rw [begins]
  exact Nat.succ_pos _

theorem toDocument_isBroken (j : Json) : (toDocument j).isBroken = false := by
  cases j <;> rfl

theorem noNumber_itemChars (items : List Json) (r : List Char) :
    NoNumber (itemChars items ++ r) := by
  cases items with
  | nil => exact noNumber_cons (by decide)
  | cons item rest => exact noNumber_cons (by decide)

theorem noNumber_memberChars (members : List (String × Json)) (r : List Char) :
    NoNumber (memberChars members ++ r) := by
  cases members with
  | nil => exact noNumber_cons (by decide)
  | cons member rest => exact noNumber_cons (by decide)

theorem dropSpace_chars (j : Json) (rest : List Char) :
    dropSpace (chars j ++ rest) = chars j ++ rest := by
  obtain ⟨c, tail, begins, -, -, visible⟩ := chars_eq_cons j
  rw [begins, List.cons_append, dropSpace_cons visible]

/-- Items are read up to the closing bracket, if each of them is read. -/
theorem readItems_of_reads {item : Json} {items : List Json} {rest : List Char} {fuel : Nat}
    (all : ∀ j ∈ item :: items, Reads j)
    (enough : 2 * ((chars item).length + (itemChars items).length) ≤ fuel) :
    readItems fuel (chars item ++ (itemChars items ++ rest)) =
      (toDocuments (item :: items), true, rest) := by
  induction items generalizing item fuel with
  | nil =>
    have positive := length_chars_pos item
    obtain ⟨fuel, rfl⟩ : ∃ k, fuel = k + 1 := ⟨fuel - 1, by omega⟩
    have bracket : (itemChars []).length = 1 := rfl
    have first := all item List.mem_cons_self fuel (itemChars [] ++ rest) (by omega)
      (noNumber_itemChars [] rest)
    have visible : isSpace ']' = false := by decide
    simp only [readItems, first, toDocument_isBroken, Bool.false_eq_true, ↓reduceIte]
    simp only [itemChars, List.singleton_append, dropSpace_cons visible, toDocuments]
    rfl
  | cons next items ih =>
    have positive := length_chars_pos item
    have length : (itemChars (next :: items)).length =
        1 + (chars next).length + (itemChars items).length := by
      simp only [itemChars, List.length_append, List.length_cons]
      omega
    obtain ⟨fuel, rfl⟩ : ∃ k, fuel = k + 1 := ⟨fuel - 1, by omega⟩
    have first := all item List.mem_cons_self fuel (itemChars (next :: items) ++ rest) (by omega)
      (noNumber_itemChars (next :: items) rest)
    have others := ih (fun j member => all j (List.mem_cons_of_mem _ member))
      (show 2 * ((chars next).length + (itemChars items).length) ≤ fuel by omega)
    have visible : isSpace ',' = false := by decide
    simp only [readItems, first, toDocument_isBroken, Bool.false_eq_true, ↓reduceIte]
    simp only [itemChars, List.cons_append, List.append_assoc, dropSpace_cons visible, ↓reduceIte,
      others]
    simp only [toDocuments]

/-- Members are read up to the closing bracket, if the value of each of them is read. -/
theorem readMembers_of_reads {key : String} {value : Json} {members : List (String × Json)}
    {rest : List Char} {fuel : Nat} (all : ∀ m ∈ (key, value) :: members, Reads m.2)
    (enough : 2 * ((chars value).length + (memberChars members).length) ≤ fuel) :
    readMembers fuel (quoted key ++ ':' :: (chars value ++ (memberChars members ++ rest))) =
      (toMembers ((key, value) :: members), true, rest) := by
  have quote : isSpace '"' = false := by decide
  have colon : isSpace ':' = false := by decide
  induction members generalizing key value fuel with
  | nil =>
    have positive := length_chars_pos value
    obtain ⟨fuel, rfl⟩ : ∃ k, fuel = k + 1 := ⟨fuel - 1, by omega⟩
    have bracket : (memberChars []).length = 1 := rfl
    have first := all (key, value) List.mem_cons_self fuel (memberChars [] ++ rest)
      (show 2 * (chars value).length ≤ fuel by omega) (noNumber_memberChars [] rest)
    have visible : isSpace '\x7d' = false := by decide
    obtain ⟨units, begins, read, joined⟩ :=
      readUnits_quoted key (':' :: (chars value ++ (memberChars [] ++ rest)))
    rw [begins]
    simp only [readMembers, dropSpace_cons quote, dropSpace_cons colon, ↓reduceIte, read, joined,
      first, toDocument_isBroken, Bool.false_eq_true]
    simp only [memberChars, List.singleton_append, dropSpace_cons visible, toMembers]
    rfl
  | cons next members ih =>
    obtain ⟨nextKey, nextValue⟩ := next
    have positive := length_chars_pos value
    have length : (chars nextValue).length + (memberChars members).length + 1 ≤
        (memberChars ((nextKey, nextValue) :: members)).length := by
      simp only [memberChars, List.length_append, List.length_cons]
      omega
    obtain ⟨fuel, rfl⟩ : ∃ k, fuel = k + 1 := ⟨fuel - 1, by omega⟩
    have first := all (key, value) List.mem_cons_self fuel
      (memberChars ((nextKey, nextValue) :: members) ++ rest)
      (show 2 * (chars value).length ≤ fuel by omega)
      (noNumber_memberChars ((nextKey, nextValue) :: members) rest)
    have others := ih (fun m member => all m (List.mem_cons_of_mem _ member))
      (show 2 * ((chars nextValue).length + (memberChars members).length) ≤ fuel by omega)
    have visible : isSpace ',' = false := by decide
    obtain ⟨units, begins, read, joined⟩ := readUnits_quoted key
      (':' :: (chars value ++ (memberChars ((nextKey, nextValue) :: members) ++ rest)))
    rw [begins]
    simp only [readMembers, dropSpace_cons quote, dropSpace_cons colon, ↓reduceIte, read, joined,
      first, toDocument_isBroken, Bool.false_eq_true]
    simp only [memberChars, List.cons_append, List.append_assoc, dropSpace_cons visible, ↓reduceIte,
      others]
    simp only [toMembers]

theorem reads_null : Reads .null := by
  intro fuel rest enough _
  obtain ⟨fuel, rfl⟩ : ∃ k, fuel = k + 1 := ⟨fuel - 1, by simp [chars] at enough; omega⟩
  rfl

theorem reads_bool (b : Bool) : Reads (.bool b) := by
  intro fuel rest enough _
  cases b with
  | false =>
    obtain ⟨fuel, rfl⟩ : ∃ k, fuel = k + 1 := ⟨fuel - 1, by simp [chars] at enough; omega⟩
    rfl
  | true =>
    obtain ⟨fuel, rfl⟩ : ∃ k, fuel = k + 1 := ⟨fuel - 1, by simp [chars] at enough; omega⟩
    rfl

theorem reads_text (s : String) : Reads (.text s) := by
  intro fuel rest enough _
  obtain ⟨fuel, rfl⟩ : ∃ k, fuel = k + 1 := ⟨fuel - 1, by simp [chars, quoted] at enough; omega⟩
  obtain ⟨units, begins, read, joined⟩ := readUnits_quoted s rest
  have visible : isSpace '"' = false := by decide
  rw [chars, begins, readValue, dropSpace_cons visible]
  simp only [↓reduceIte, read, joined, toDocument]

theorem reads_int {i : Int} (range : InRange i) : Reads (.int i) := by
  intro fuel rest enough ends
  have positive := length_chars_pos (.int i)
  obtain ⟨fuel, rfl⟩ : ∃ k, fuel = k + 1 := ⟨fuel - 1, by omega⟩
  obtain ⟨c, tail, begins, shows, -, visible⟩ := chars_eq_cons (.int i)
  -- no other form begins with the first character
  have other : ∀ mark, formOf mark ≠ .int → c ≠ mark := by
    rintro mark form rfl
    exact form shows
  have number := readNumber_intNumeral range ends
  rw [show Text.intNumeral i = c :: tail from begins, List.cons_append] at number
  rw [begins, List.cons_append, readValue, dropSpace_cons visible]
  simp only [other '"' (by decide), other '[' (by decide), other '\x7b' (by decide),
    other 'n' (by decide), other 't' (by decide), other 'f' (by decide), ↓reduceIte, number,
    toDocument]

theorem reads_array {items : List Json} (all : ∀ item ∈ items, Reads item) :
    Reads (.array items) := by
  intro fuel rest enough _
  have bracket : isSpace '[' = false := by decide
  cases items with
  | nil =>
    obtain ⟨fuel, rfl⟩ : ∃ k, fuel = k + 1 := ⟨fuel - 1, by simp [chars] at enough; omega⟩
    rfl
  | cons item items =>
    obtain ⟨fuel, rfl⟩ : ∃ k, fuel = k + 1 := ⟨fuel - 1, by simp [chars] at enough; omega⟩
    have read : readItems fuel (chars item ++ (itemChars items ++ rest)) =
        (toDocuments (item :: items), true, rest) :=
      readItems_of_reads all (by simp [chars] at enough; omega)
    obtain ⟨c, tail, begins, -, other, visible⟩ := chars_eq_cons item
    simp only [chars, List.cons_append, List.append_assoc, readValue, dropSpace_cons bracket,
      ↓reduceIte, Char.reduceEq, dropSpace_chars, read, toDocument]
    rw [begins, List.cons_append]
    split
    · rename_i same
      exact (other (List.cons.inj same).1).elim
    · rfl

theorem reads_object {members : List (String × Json)} (all : ∀ m ∈ members, Reads m.2) :
    Reads (.object members) := by
  intro fuel rest enough _
  have bracket : isSpace '\x7b' = false := by decide
  have quote : isSpace '"' = false := by decide
  cases members with
  | nil =>
    obtain ⟨fuel, rfl⟩ : ∃ k, fuel = k + 1 := ⟨fuel - 1, by simp [chars] at enough; omega⟩
    rfl
  | cons member members =>
    obtain ⟨key, value⟩ := member
    obtain ⟨fuel, rfl⟩ : ∃ k, fuel = k + 1 := ⟨fuel - 1, by simp [chars] at enough; omega⟩
    have read :
        readMembers fuel (quoted key ++ ':' :: (chars value ++ (memberChars members ++ rest))) =
          (toMembers ((key, value) :: members), true, rest) :=
      readMembers_of_reads all (by simp [chars] at enough; omega)
    simp only [chars, List.cons_append, List.append_assoc, readValue, dropSpace_cons bracket,
      ↓reduceIte, Char.reduceEq, read, toDocument]
    simp only [quoted, List.cons_append, dropSpace_cons quote]
    rfl

/-- A value that fits is read from its text, at every depth. -/
theorem reads_of_fits {depth : Nat} {j : Json} (fits : Fits depth j) : Reads j := by
  induction depth generalizing j with
  | zero =>
    cases j with
    | null => exact reads_null
    | bool b => exact reads_bool b
    | int i => exact reads_int fits
    | text s => exact reads_text s
    | array items => exact fits.elim
    | object members => exact fits.elim
  | succ depth ih =>
    cases j with
    | null => exact reads_null
    | bool b => exact reads_bool b
    | int i => exact reads_int fits
    | text s => exact reads_text s
    | array items => exact reads_array fun item member => ih (fits item member)
    | object members => exact reads_object fun m member => ih (fits m member)

/-- A written value is read as it stands, to the end of its text. -/
theorem read_chars {depth : Nat} {j : Json} (fits : Fits depth j) :
    read (chars j) = (toDocument j, true) := by
  have read := reads_of_fits fits (2 * (chars j).length + 2) [] (by omega) noNumber_nil
  rw [List.append_nil] at read
  simp only [Json.read, read]
  rfl

/-! ## Values for decoders -/

theorem areValues_toDocuments {depth : Nat} {items : List Json}
    (all : ∀ item ∈ items, (toDocument item).isValue depth = true) :
    areValues depth (toDocuments items) = true := by
  induction items with
  | nil => rfl
  | cons item items ih =>
    rw [toDocuments, areValues, all item List.mem_cons_self,
      ih fun j member => all j (List.mem_cons_of_mem _ member)]
    rfl

theorem areMembers_toMembers {depth : Nat} {members : List (String × Json)}
    (all : ∀ m ∈ members, (toDocument m.2).isValue depth = true) :
    areMembers depth (toMembers members) = true := by
  induction members with
  | nil => rfl
  | cons member members ih =>
    obtain ⟨key, value⟩ := member
    rw [toMembers, areMembers, all (key, value) List.mem_cons_self,
      ih fun m member => all m (List.mem_cons_of_mem _ member)]
    rfl

/-- What is read of a value that fits is a value for the decoders. -/
theorem isValue_toDocument {depth : Nat} {j : Json} (fits : Fits depth j) :
    (toDocument j).isValue depth = true := by
  induction depth generalizing j with
  | zero =>
    cases j with
    | array items => exact fits.elim
    | object members => exact fits.elim
    | _ => rfl
  | succ depth ih =>
    cases j with
    | array items => exact areValues_toDocuments fun item member => ih (fits item member)
    | object members => exact areMembers_toMembers fun m member => ih (fits m member)
    | _ => rfl

end TokenDesk.Json
