import TokenDesk.Json.Document
import TokenDesk.Proofs.Text.Hex

/-!
Texts in JSON. Every character is written in one of three ways: as itself, behind a backslash, or as
the number of its UTF-16 unit. Reading a written text gives back its units, joining them gives back
its characters, and the closing quote shows where it ends (`readUnits_quoted`).
-/

namespace TokenDesk.Json

/-! ## One step of reading -/

theorem readUnits_quote (rest : List Char) : readUnits ('"' :: rest) = some ([], rest) := by
  rw [readUnits.eq_def]
  cases rest with
  | nil => rfl
  | cons e rest => rfl

theorem readUnits_short {e x : Char} (known : shortEscape e = some x) (rest : List Char) :
    readUnits ('\\' :: e :: rest) =
      (readUnits rest).map fun (units, after) => (.char x :: units, after) := by
  have other : e ≠ 'u' := by
    rintro rfl
    cases known
  rw [readUnits.eq_def]
  simp [other, known]

theorem readUnits_code {h1 h2 h3 h4 : Char} {n : Nat} (number : fourDigits h1 h2 h3 h4 = some n)
    (rest : List Char) :
    readUnits ('\\' :: 'u' :: h1 :: h2 :: h3 :: h4 :: rest) =
      (readUnits rest).map fun (units, after) => (.code n :: units, after) := by
  rw [readUnits.eq_def]
  simp [number]

theorem readUnits_char {c : Char} (quote : c ≠ '"') (backslash : c ≠ '\\')
    (visible : ¬ c.toNat < 0x20) (rest : List Char) :
    readUnits (c :: rest) =
      (readUnits rest).map fun (units, after) => (.char c :: units, after) := by
  rw [readUnits.eq_def]
  cases rest with
  | nil => simp [quote, readUnits.eq_def []]
  | cons e rest => simp [quote, backslash, visible]

theorem joinUnits_code {n : Nat} (below : n < 0xD800) (units : List TextUnit) :
    joinUnits (.code n :: units) = (joinUnits units).map (Char.ofNat n :: ·) := by
  rw [joinUnits.eq_def]
  simp [below]

/-! ## Written texts -/

/-- How a written character is read back: as itself, or as the number of a control character. -/
inductive ReadsAs (c : Char) : TextUnit → Prop
  | char : ReadsAs c (.char c)
  | code : c.toNat < 0x20 → ReadsAs c (.code c.toNat)

/-- A written character gives one unit, and the text after it the others. -/
theorem readUnits_escape (c : Char) (rest : List Char) :
    ∃ unit, ReadsAs c unit ∧ readUnits (escape c ++ rest) =
      (readUnits rest).map fun (units, after) => (unit :: units, after) := by
  unfold escape
  split
  · subst_vars
    exact ⟨_, .char, readUnits_short rfl rest⟩
  split
  · subst_vars
    exact ⟨_, .char, readUnits_short rfl rest⟩
  split
  · subst_vars
    exact ⟨_, .char, readUnits_short rfl rest⟩
  split
  · subst_vars
    exact ⟨_, .char, readUnits_short rfl rest⟩
  split
  · subst_vars
    exact ⟨_, .char, readUnits_short rfl rest⟩
  split
  · subst_vars
    exact ⟨_, .char, readUnits_short rfl rest⟩
  split
  · subst_vars
    exact ⟨_, .char, readUnits_short rfl rest⟩
  split
  · rename_i control
    have number : fourDigits '0' '0' (Text.hexDigit (c.toNat / 16))
        (Text.hexDigit (c.toNat % 16)) = some c.toNat := by
      have zero : Text.hexValue? '0' = some 0 := by decide
      simp only [fourDigits, zero, Text.hexValue?_hexDigit (show c.toNat / 16 < 16 by omega),
        Text.hexValue?_hexDigit (Nat.mod_lt c.toNat (show 0 < 16 by decide)), bind, Option.bind,
        pure, Option.some.injEq]
      omega
    exact ⟨_, .code control, readUnits_code number rest⟩
  · rename_i quote backslash _ _ _ _ _ visible
    exact ⟨_, .char, readUnits_char quote backslash visible rest⟩

theorem readUnits_flatMap (cs rest : List Char) :
    ∃ units, readUnits (cs.flatMap escape ++ '"' :: rest) = some (units, rest) ∧
      joinUnits units = some cs := by
  induction cs with
  | nil => exact ⟨[], readUnits_quote rest, rfl⟩
  | cons c cs ih =>
    obtain ⟨units, read, joined⟩ := ih
    obtain ⟨unit, as, first⟩ := readUnits_escape c (cs.flatMap escape ++ '"' :: rest)
    refine ⟨unit :: units, ?_, ?_⟩
    · rw [List.flatMap_cons, List.append_assoc, first, read]
      rfl
    · cases as with
      | char =>
        rw [joinUnits, joined]
        rfl
      | code control =>
        rw [joinUnits_code (by omega), joined, Char.ofNat_toNat]
        rfl

/-- A written text is read up to its closing quote. -/
theorem readUnits_quoted (s : String) (rest : List Char) :
    ∃ units, quoted s ++ rest = '"' :: (s.toList.flatMap escape ++ '"' :: rest) ∧
      readUnits (s.toList.flatMap escape ++ '"' :: rest) = some (units, rest) ∧
      joinUnits units = some s.toList := by
  obtain ⟨units, read, joined⟩ := readUnits_flatMap s.toList rest
  refine ⟨units, ?_, read, joined⟩
  rw [quoted, List.append_assoc, List.cons_append, List.singleton_append]

/-- Two texts that begin with written texts and are the same begin with the same. -/
theorem quoted_append_inj {s s' : String} {rest rest' : List Char}
    (same : quoted s ++ rest = quoted s' ++ rest') : s = s' ∧ rest = rest' := by
  obtain ⟨units, begins, read, joined⟩ := readUnits_quoted s rest
  obtain ⟨units', begins', read', joined'⟩ := readUnits_quoted s' rest'
  rw [begins, begins'] at same
  rw [(List.cons.inj same).2] at read
  cases read.symm.trans read'
  exact ⟨String.toList_injective (Option.some.inj (joined.symm.trans joined')), rfl⟩

end TokenDesk.Json
