import TokenDesk.Proofs.Json.Texts
import TokenDesk.Proofs.Text.Numerals

/-!
The compact text of a JSON value determines the value. The first character shows the form of the
value, and from there each form shows where it ends: a numeral before the first character that is no
digit, a text at its closing quote, an array or object at its closing bracket. So no text begins
with two values, and two values with the same text are the same (`chars_injective`).
-/

namespace TokenDesk.Json

/-- The form of a value. -/
inductive Form
  | null
  | bool
  | int
  | text
  | array
  | object
  deriving DecidableEq

def form : Json → Form
  | .null => .null
  | .bool _ => .bool
  | .int _ => .int
  | .text _ => .text
  | .array _ => .array
  | .object _ => .object

/-- The form of the values whose texts begin with a character. -/
def formOf (c : Char) : Form :=
  if c = 'n' then .null
  else if c = 't' ∨ c = 'f' then .bool
  else if c = '"' then .text
  else if c = '[' then .array
  else if c = '\x7b' then .object
  else .int

theorem formOf_digit {c : Char} (digit : Text.isDigit c = true) : formOf c = .int := by
  have other : ∀ mark : Char, Text.isDigit mark = false → c ≠ mark :=
    fun _ => Text.ne_of_isDigit digit
  unfold formOf
  rw [if_neg (other _ (by decide)), if_neg (by rintro (rfl | rfl) <;> cases digit),
    if_neg (other _ (by decide)), if_neg (other _ (by decide)), if_neg (other _ (by decide))]

theorem isSpace_digit {c : Char} (digit : Text.isDigit c = true) : isSpace c = false := by
  unfold isSpace
  have other : ∀ mark : Char, Text.isDigit mark = false → c ≠ mark :=
    fun _ => Text.ne_of_isDigit digit
  simp [other ' ' (by decide), other '\n' (by decide), other '\t' (by decide),
    other '\r' (by decide)]

/-- The first character of a value's text shows its form, and is no closing bracket and no space. -/
theorem chars_eq_cons (j : Json) :
    ∃ c rest, chars j = c :: rest ∧ formOf c = form j ∧ c ≠ ']' ∧ isSpace c = false := by
  cases j with
  | null => exact ⟨_, _, rfl, rfl, by decide, by decide⟩
  | bool b =>
    cases b with
    | true => exact ⟨_, _, rfl, rfl, by decide, by decide⟩
    | false => exact ⟨_, _, rfl, rfl, by decide, by decide⟩
  | int i =>
    rw [chars, Text.intNumeral]
    split
    · exact ⟨_, _, rfl, rfl, by decide, by decide⟩
    · obtain ⟨c, rest, begins⟩ := List.exists_cons_of_ne_nil (Text.numeral_ne_nil i.natAbs)
      have digit : Text.isDigit c = true :=
        Text.isDigit_of_mem_numeral (n := i.natAbs) (by rw [begins]; exact List.mem_cons_self)
      exact ⟨c, rest, begins, formOf_digit digit, Text.ne_of_isDigit digit (by decide),
        isSpace_digit digit⟩
  | text s => exact ⟨_, _, rfl, rfl, by decide, by decide⟩
  | array items =>
    cases items with
    | nil => exact ⟨_, _, rfl, rfl, by decide, by decide⟩
    | cons item rest => exact ⟨_, _, rfl, rfl, by decide, by decide⟩
  | object members =>
    cases members with
    | nil => exact ⟨_, _, rfl, rfl, by decide, by decide⟩
    | cons member rest => exact ⟨_, _, rfl, rfl, by decide, by decide⟩

theorem form_eq_of_append {j j' : Json} {r r' : List Char}
    (same : chars j ++ r = chars j' ++ r') : form j = form j' := by
  obtain ⟨c, rest, begins, shows, -⟩ := chars_eq_cons j
  obtain ⟨c', rest', begins', shows', -⟩ := chars_eq_cons j'
  rw [begins, begins'] at same
  rw [← shows, ← shows', (List.cons.inj same).1]

/-- The text of a value is not what follows an opening bracket in an empty array. -/
theorem chars_append_ne_close {j : Json} {r r' : List Char} : chars j ++ r ≠ ']' :: r' := by
  intro same
  obtain ⟨c, rest, begins, -, other, -⟩ := chars_eq_cons j
  rw [begins] at same
  exact other (List.cons.inj same).1

theorem noDigit_itemChars (items : List Json) (r : List Char) :
    Text.NoDigit (itemChars items ++ r) := by
  cases items with
  | nil => exact Text.noDigit_cons (by decide)
  | cons item rest => exact Text.noDigit_cons (by decide)

theorem noDigit_memberChars (members : List (String × Json)) (r : List Char) :
    Text.NoDigit (memberChars members ++ r) := by
  cases members with
  | nil => exact Text.noDigit_cons (by decide)
  | cons member rest => exact Text.noDigit_cons (by decide)

mutual

/-- No text begins with the texts of two values. -/
theorem chars_append_inj : ∀ (j j' : Json) {r r' : List Char}, Text.NoDigit r → Text.NoDigit r' →
    chars j ++ r = chars j' ++ r' → j = j' ∧ r = r'
  | .null, j', r, r', _, _, same => by
    have forms := form_eq_of_append same
    cases j' with
    | null => exact ⟨rfl, by simpa [chars] using same⟩
    | _ => cases forms
  | .bool b, j', r, r', _, _, same => by
    have forms := form_eq_of_append same
    cases j' with
    | bool b' =>
      cases b <;> cases b' <;> simp [chars] at same ⊢
      · exact same
      · exact same
    | _ => cases forms
  | .int i, j', r, r', ends, ends', same => by
    have forms := form_eq_of_append same
    cases j' with
    | int i' =>
      obtain ⟨rfl, rests⟩ := Text.intNumeral_append_inj ends ends' same
      exact ⟨rfl, rests⟩
    | _ => cases forms
  | .text s, j', r, r', _, _, same => by
    have forms := form_eq_of_append same
    cases j' with
    | text s' =>
      obtain ⟨rfl, rests⟩ := quoted_append_inj same
      exact ⟨rfl, rests⟩
    | _ => cases forms
  | .array [], j', r, r', _, _, same => by
    have forms := form_eq_of_append same
    cases j' with
    | array items' =>
      cases items' with
      | nil => exact ⟨rfl, by simpa [chars] using same⟩
      | cons item' rest' =>
        simp only [chars, List.cons_append, List.append_assoc, List.nil_append] at same
        exact (chars_append_ne_close (List.cons.inj same).2.symm).elim
    | _ => cases forms
  | .array (item :: rest), j', r, r', _, _, same => by
    have forms := form_eq_of_append same
    cases j' with
    | array items' =>
      cases items' with
      | nil =>
        simp only [chars, List.cons_append, List.append_assoc, List.nil_append] at same
        exact (chars_append_ne_close (List.cons.inj same).2).elim
      | cons item' rest' =>
        simp only [chars, List.cons_append, List.append_assoc] at same
        obtain ⟨rfl, others⟩ := chars_append_inj item item' (noDigit_itemChars rest r)
          (noDigit_itemChars rest' r') (List.cons.inj same).2
        obtain ⟨rfl, rests⟩ := itemChars_append_inj rest rest' others
        exact ⟨rfl, rests⟩
    | _ => cases forms
  | .object [], j', r, r', _, _, same => by
    have forms := form_eq_of_append same
    cases j' with
    | object members' =>
      cases members' with
      | nil => exact ⟨rfl, by simpa [chars] using same⟩
      | cons member' rest' => simp [chars, quoted] at same
    | _ => cases forms
  | .object ((key, value) :: rest), j', r, r', _, _, same => by
    have forms := form_eq_of_append same
    cases j' with
    | object members' =>
      cases members' with
      | nil => simp [chars, quoted] at same
      | cons member' rest' =>
        obtain ⟨key', value'⟩ := member'
        simp only [chars, List.cons_append, List.append_assoc] at same
        obtain ⟨rfl, after⟩ := quoted_append_inj (List.cons.inj same).2
        obtain ⟨rfl, others⟩ := chars_append_inj value value' (noDigit_memberChars rest r)
          (noDigit_memberChars rest' r') (List.cons.inj after).2
        obtain ⟨rfl, rests⟩ := memberChars_append_inj rest rest' others
        exact ⟨rfl, rests⟩
    | _ => cases forms

theorem itemChars_append_inj : ∀ (items items' : List Json) {r r' : List Char},
    itemChars items ++ r = itemChars items' ++ r' → items = items' ∧ r = r'
  | [], [], r, r', same => ⟨rfl, by simpa [itemChars] using same⟩
  | [], item' :: rest', r, r', same => by simp [itemChars] at same
  | item :: rest, [], r, r', same => by simp [itemChars] at same
  | item :: rest, item' :: rest', r, r', same => by
    simp only [itemChars, List.cons_append, List.append_assoc] at same
    obtain ⟨rfl, others⟩ := chars_append_inj item item' (noDigit_itemChars rest r)
      (noDigit_itemChars rest' r') (List.cons.inj same).2
    obtain ⟨rfl, rests⟩ := itemChars_append_inj rest rest' others
    exact ⟨rfl, rests⟩

theorem memberChars_append_inj : ∀ (members members' : List (String × Json)) {r r' : List Char},
    memberChars members ++ r = memberChars members' ++ r' → members = members' ∧ r = r'
  | [], [], r, r', same => ⟨rfl, by simpa [memberChars] using same⟩
  | [], (key', value') :: rest', r, r', same => by simp [memberChars] at same
  | (key, value) :: rest, [], r, r', same => by simp [memberChars] at same
  | (key, value) :: rest, (key', value') :: rest', r, r', same => by
    simp only [memberChars, List.cons_append, List.append_assoc] at same
    obtain ⟨rfl, after⟩ := quoted_append_inj (List.cons.inj same).2
    obtain ⟨rfl, others⟩ := chars_append_inj value value' (noDigit_memberChars rest r)
      (noDigit_memberChars rest' r') (List.cons.inj after).2
    obtain ⟨rfl, rests⟩ := memberChars_append_inj rest rest' others
    exact ⟨rfl, rests⟩

end

/-- Two values with the same text are the same. -/
theorem chars_injective : Function.Injective chars := by
  intro j j' same
  have appended : chars j ++ [] = chars j' ++ [] := by rw [same]
  exact (chars_append_inj j j' Text.noDigit_nil Text.noDigit_nil appended).1

end TokenDesk.Json
