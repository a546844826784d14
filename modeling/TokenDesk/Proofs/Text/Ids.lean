import Mathlib.Data.List.Basic
import Mathlib.Tactic.IntervalCases
import TokenDesk.Transaction

/-!
The characters of written ids. A numeral is made of digits, an id of digits with a few marks between
them, and none of these characters is escaped in JSON: an id stands in a JSON text as it is.
-/

namespace TokenDesk

namespace Text

/-- A character from the minus sign to the at sign: the digits are among them, and neither the
quote nor the backslash is. -/
def IsIdChar (c : Char) : Prop := 45 ≤ c.toNat ∧ c.toNat ≤ 64

theorem isIdChar_digitChar {n : Nat} (small : n < 10) : IsIdChar (digitChar n) := by
  unfold IsIdChar
  interval_cases n <;> decide

theorem isIdChar_of_mem_numeral {n : Nat} {c : Char} (member : c ∈ numeral n) : IsIdChar c := by
  induction n using numeral.induct with
  | case1 n small =>
    rw [numeral, if_pos small] at member
    cases List.mem_singleton.mp member
    exact isIdChar_digitChar small
  | case2 n large ih =>
    rw [numeral, if_neg large] at member
    rcases List.mem_append.mp member with front | last
    · exact ih front
    · cases List.mem_singleton.mp last
      exact isIdChar_digitChar (Nat.mod_lt _ (by decide))

theorem isIdChar_of_mem_intNumeral {i : Int} {c : Char} (member : c ∈ intNumeral i) :
    IsIdChar c := by
  unfold intNumeral at member
  split at member
  · rcases List.mem_cons.mp member with rfl | digit
    · exact ⟨by decide, by decide⟩
    · exact isIdChar_of_mem_numeral digit
  · exact isIdChar_of_mem_numeral member

theorem isIdChar_of_mem_paddedNumeral {width n : Nat} {c : Char}
    (member : c ∈ paddedNumeral width n) : IsIdChar c := by
  rcases List.mem_append.mp member with padding | digit
  · cases List.eq_of_mem_replicate padding
    exact ⟨by decide, by decide⟩
  · exact isIdChar_of_mem_numeral digit

end Text

theorem EntityId.isIdChar_of_mem_text {id : EntityId} {c : Char} (member : c ∈ id.text) :
    Text.IsIdChar c := by
  unfold EntityId.text at member
  simp only [List.mem_append, List.mem_cons] at member
  rcases member with (shard | rfl | realm) | rfl | num
  · exact Text.isIdChar_of_mem_numeral shard
  · exact ⟨by decide, by decide⟩
  · exact Text.isIdChar_of_mem_numeral realm
  · exact ⟨by decide, by decide⟩
  · exact Text.isIdChar_of_mem_numeral num

theorem TransactionId.isIdChar_of_mem_text {id : TransactionId} {c : Char}
    (member : c ∈ id.text) : Text.IsIdChar c := by
  unfold TransactionId.text at member
  simp only [List.mem_append, List.mem_cons] at member
  rcases member with (payer | rfl | seconds) | rfl | nanos
  · exact EntityId.isIdChar_of_mem_text payer
  · exact ⟨by decide, by decide⟩
  · exact Text.isIdChar_of_mem_intNumeral seconds
  · exact ⟨by decide, by decide⟩
  · exact Text.isIdChar_of_mem_paddedNumeral nanos

/-- None of these characters is escaped. -/
theorem Json.escape_of_isIdChar {c : Char} (plain : Text.IsIdChar c) : escape c = [c] := by
  obtain ⟨low, high⟩ := plain
  have other : ∀ mark : Char, mark.toNat < 45 ∨ 64 < mark.toNat → c ≠ mark := by
    rintro mark outside rfl
    omega
  unfold escape
  rw [if_neg (other _ (by decide)), if_neg (other _ (by decide)), if_neg (other _ (by decide)),
    if_neg (other _ (by decide)), if_neg (other _ (by decide)), if_neg (other _ (by decide)),
    if_neg (other _ (by decide)), if_neg (by omega)]

theorem Json.quoted_transactionId (id : TransactionId) :
    quoted id.toString = '"' :: id.text ++ ['"'] := by
  have plain : id.text.flatMap escape = id.text.flatMap fun c => [c] :=
    List.flatMap_congr fun c member =>
      escape_of_isIdChar (TransactionId.isIdChar_of_mem_text member)
  rw [quoted, TransactionId.toString, String.toList_ofList, plain, List.flatMap_singleton']

/-- The bytes that get signed begin with the id of the transaction. -/
theorem Unsigned.bytes_eq (u : Unsigned) :
    ∃ rest, u.bytes =
      Text.utf8 ("\x7b\"transaction_id\":\"".toList ++ u.id.text ++ '"' :: rest) := by
  refine ⟨Json.memberChars [("max_fee_tinybars", .nat u.maxFee.toNat),
    ("body", Transaction.ofBody u.body)], ?_⟩
  have key : Json.quoted "transaction_id" = "\"transaction_id\"".toList := by decide
  unfold Unsigned.bytes Unsigned.toJson Json.chars
  rw [Json.chars, Json.quoted_transactionId, key]
  simp

end TokenDesk
