import TokenDesk.Proofs.Text.Numerals
import TokenDesk.Text.Split
import TokenDesk.TransactionId

/-!
Written ids are read back. A part of a text that does not hold the mark is cut off at the mark as it
is, and no numeral holds a mark, so the parts of an id are found again: an entity id is the one its
text is read as, and a transaction id is determined by its text, whatever its nanoseconds.
-/

namespace TokenDesk

namespace Text

theorem splitAt_of_not_mem {mark : Char} {part : List Char} (plain : mark ∉ part) :
    splitAt mark part = [part] := by
  induction part with
  | nil => rfl
  | cons c part ih =>
    have other : c ≠ mark := fun same => plain (same ▸ List.mem_cons_self)
    rw [splitAt, if_neg other, ih fun member => plain (List.mem_cons_of_mem _ member)]

theorem splitAt_append {mark : Char} {part : List Char} (plain : mark ∉ part) (rest : List Char) :
    splitAt mark (part ++ mark :: rest) = part :: splitAt mark rest := by
  induction part with
  | nil => rw [List.nil_append, splitAt, if_pos rfl]
  | cons c part ih =>
    have other : c ≠ mark := fun same => plain (same ▸ List.mem_cons_self)
    rw [List.cons_append, splitAt, if_neg other,
      ih fun member => plain (List.mem_cons_of_mem _ member)]

theorem splitOnce_append {mark : Char} {part : List Char} (plain : mark ∉ part)
    (rest : List Char) : splitOnce mark (part ++ mark :: rest) = some (part, rest) := by
  induction part with
  | nil => rw [List.nil_append, splitOnce, if_pos rfl]
  | cons c part ih =>
    have other : c ≠ mark := fun same => plain (same ▸ List.mem_cons_self)
    rw [List.cons_append, splitOnce, if_neg other,
      ih fun member => plain (List.mem_cons_of_mem _ member)]
    rfl

theorem not_mem_numeral {mark : Char} (other : isDigit mark = false) (n : Nat) :
    mark ∉ numeral n :=
  fun member => ne_of_isDigit (isDigit_of_mem_numeral member) other rfl

end Text

namespace EntityId

/-- A written id is read back. -/
theorem ofText?_text (id : EntityId) : ofText? id.text = some id := by
  have dot : Text.isDigit '.' = false := by decide
  have parts : Text.splitAt '.' id.text = [Text.numeral id.shard.toNat,
      Text.numeral id.realm.toNat, Text.numeral id.num.toNat] := by
    unfold text
    rw [List.append_assoc, List.cons_append, Text.splitAt_append (Text.not_mem_numeral dot _),
      Text.splitAt_append (Text.not_mem_numeral dot _),
      Text.splitAt_of_not_mem (Text.not_mem_numeral dot _)]
  have shard : Text.readUnsigned (UInt32.size - 1) (Text.numeral id.shard.toNat) =
      some id.shard.toNat := Text.readUnsigned_numeral (Nat.le_pred_of_lt id.shard.toNat_lt)
  have realm : Text.readUnsigned (UInt64.size - 1) (Text.numeral id.realm.toNat) =
      some id.realm.toNat := Text.readUnsigned_numeral (Nat.le_pred_of_lt id.realm.toNat_lt)
  have num : Text.readUnsigned (UInt64.size - 1) (Text.numeral id.num.toNat) =
      some id.num.toNat := Text.readUnsigned_numeral (Nat.le_pred_of_lt id.num.toNat_lt)
  unfold ofText?
  rw [parts]
  simp only [shard, realm, num, bind, Option.bind, pure, UInt32.ofNat_toNat, UInt64.ofNat_toNat]

theorem text_injective : Function.Injective text := by
  intro id id' same
  have read := ofText?_text id
  rw [same, ofText?_text] at read
  exact (Option.some.inj read).symm

theorem toString_injective : Function.Injective toString := fun _ _ same =>
  text_injective (String.ofList_injective same)

/-- A written id holds digits and dots only. -/
theorem not_mem_text {mark : Char} (other : Text.isDigit mark = false) (dotless : mark ≠ '.')
    (id : EntityId) : mark ∉ id.text := by
  intro member
  unfold text at member
  simp only [List.mem_append, List.mem_cons] at member
  rcases member with (shard | dot | realm) | dot | num
  · exact Text.not_mem_numeral other _ shard
  · exact dotless dot
  · exact Text.not_mem_numeral other _ realm
  · exact dotless dot
  · exact Text.not_mem_numeral other _ num

end EntityId

namespace TransactionId

/-- Whatever marks stand between the payer, the seconds and the nanoseconds, the three are found
again: the first mark is in no payer, and no mark goes on with digits. -/
theorem eq_of_parts {first second : Char} (digitless : Text.isDigit first = false)
    (dotless : first ≠ '.') (digitless' : Text.isDigit second = false) {id id' : TransactionId}
    (same : id.payer.text ++ first :: Text.intNumeral id.seconds.toInt ++
        second :: Text.paddedNumeral 9 id.nanos.toNat =
      id'.payer.text ++ first :: Text.intNumeral id'.seconds.toInt ++
        second :: Text.paddedNumeral 9 id'.nanos.toNat) : id = id' := by
  have cut : ∀ id : TransactionId, Text.splitOnce first (id.payer.text ++
      first :: Text.intNumeral id.seconds.toInt ++ second :: Text.paddedNumeral 9 id.nanos.toNat) =
      some (id.payer.text,
        Text.intNumeral id.seconds.toInt ++ second :: Text.paddedNumeral 9 id.nanos.toNat) := by
    intro id
    rw [List.append_assoc, List.cons_append,
      Text.splitOnce_append (EntityId.not_mem_text digitless dotless id.payer)]
  have halves := (cut id).symm.trans ((congrArg (Text.splitOnce first) same).trans (cut id'))
  rcases id with ⟨payer, seconds, nanos⟩
  rcases id' with ⟨payer', seconds', nanos'⟩
  simp only [Option.some.injEq, Prod.mk.injEq] at halves
  obtain ⟨payers, starts⟩ := halves
  have mark {rest : List Char} : Text.NoDigit (second :: rest) := Text.noDigit_cons digitless'
  obtain ⟨instants, fractions⟩ := Text.intNumeral_append_inj mark mark starts
  have counts : nanos.toNat = nanos'.toNat := by
    have read := congrArg Text.digitsValue (List.cons.inj fractions).2
    rwa [Text.digitsValue_paddedNumeral, Text.digitsValue_paddedNumeral] at read
  rw [EntityId.text_injective payers, Int64.toInt_inj.mp instants, UInt32.toNat_inj.mp counts]

theorem text_injective : Function.Injective text := fun _ _ same =>
  eq_of_parts (by decide) (by decide) (by decide) same

theorem toString_injective : Function.Injective toString := fun _ _ same =>
  text_injective (String.ofList_injective same)

/-- The seconds may begin with the dash that stands in front of them. -/
theorem pathSegment_injective : Function.Injective pathSegment := fun _ _ same =>
  eq_of_parts (by decide) (by decide) (by decide) same

end TransactionId

end TokenDesk
