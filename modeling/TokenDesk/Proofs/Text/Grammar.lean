import TokenDesk.Proofs.Text.WrittenIds

/-!
What the readers of numbers and the cuts of a text accept.

`Digits`, `Unsigned` and `Signed` are the grammar of numbers: one or more digits, leading zeros
among them, behind an optional sign. Each reader takes exactly the texts of its grammar whose number
is within its bound, and gives that number (`readNumeral_eq_some_iff`, `readUnsigned_eq_some_iff`,
`readInt64_eq_some_iff`). A text is its parts with the mark between them
(`intercalate_splitAt`), and it is cut in two at the first mark (`splitOnce_eq_some_iff`).
-/

namespace TokenDesk

namespace Text

/-! ## The grammar of numbers -/

/-- One or more digits, and the number that they write in base ten. -/
inductive Digits : List Char → Nat → Prop
  | one {c : Char} : '0' ≤ c ∧ c ≤ '9' → Digits [c] (c.toNat - '0'.toNat)
  | more {front : List Char} {n : Nat} {c : Char} : Digits front n → '0' ≤ c ∧ c ≤ '9' →
    Digits (front ++ [c]) (10 * n + (c.toNat - '0'.toNat))

/-- Digits behind an optional plus sign. -/
inductive Unsigned : List Char → Nat → Prop
  | bare {cs : List Char} {n : Nat} : Digits cs n → Unsigned cs n
  | plus {cs : List Char} {n : Nat} : Digits cs n → Unsigned ('+' :: cs) n

/-- Digits behind an optional sign. -/
inductive Signed : List Char → Int → Prop
  | unsigned {cs : List Char} {n : Nat} : Unsigned cs n → Signed cs n
  | minus {cs : List Char} {n : Nat} : Digits cs n → Signed ('-' :: cs) (-n)

variable {cs : List Char} {most n : Nat} {i : Int}

theorem isDigit_iff_range {c : Char} : isDigit c = true ↔ '0' ≤ c ∧ c ≤ '9' := by
  simp only [isDigit, Bool.and_eq_true, decide_eq_true_eq]

theorem digitsValue_singleton (c : Char) : digitsValue [c] = digitValue c := by
  rw [← List.nil_append [c], digitsValue_concat]
  exact Nat.zero_add _

/-- The digits of a number are characters that are digits, and it is their value. -/
theorem digits_iff : Digits cs n ↔
    cs ≠ [] ∧ (∀ c ∈ cs, isDigit c = true) ∧ digitsValue cs = n := by
  constructor
  · intro digits
    induction digits with
    | @one c range =>
      refine ⟨List.cons_ne_nil _ _, fun d member => ?_, digitsValue_singleton c⟩
      rw [List.mem_singleton.mp member]
      exact isDigit_iff_range.mpr range
    | @more front n c _ range ih =>
      obtain ⟨-, all, value⟩ := ih
      refine ⟨List.append_ne_nil_of_right_ne_nil _ (List.cons_ne_nil _ _), fun d member => ?_, ?_⟩
      · rcases List.mem_append.mp member with before | last
        · exact all d before
        · rw [List.mem_singleton.mp last]
          exact isDigit_iff_range.mpr range
      · rw [digitsValue_concat, value]
        rfl
  · rintro ⟨filled, all, rfl⟩
    induction cs using List.reverseRecOn with
    | nil => exact (filled rfl).elim
    | append_singleton front c ih =>
      have last := isDigit_iff_range.mp (all c (by simp))
      by_cases empty : front = []
      · rw [empty, List.nil_append, digitsValue_singleton]
        exact Digits.one last
      · rw [digitsValue_concat]
        exact Digits.more (ih empty fun d member => all d (List.mem_append_left _ member)) last

theorem Digits.not_mem {mark : Char} (other : isDigit mark = false) (digits : Digits cs n) :
    mark ∉ cs :=
  fun member => ne_of_isDigit ((digits_iff.mp digits).2.1 mark member) other rfl

/-- Neither digits nor a sign can be a mark. -/
theorem Unsigned.not_mem {mark : Char} (other : isDigit mark = false) (unlike : mark ≠ '+')
    (unsigned : Unsigned cs n) : mark ∉ cs := by
  cases unsigned with
  | bare digits => exact digits.not_mem other
  | plus digits => exact List.not_mem_cons_of_ne_of_not_mem unlike (digits.not_mem other)

theorem Signed.not_mem {mark : Char} (other : isDigit mark = false) (unlike : mark ≠ '+')
    (unlike' : mark ≠ '-') (signed : Signed cs i) : mark ∉ cs := by
  cases signed with
  | unsigned unsigned => exact unsigned.not_mem other unlike
  | minus digits => exact List.not_mem_cons_of_ne_of_not_mem unlike' (digits.not_mem other)

/-! ## Readers of numbers -/

theorem readNumeral_eq_some_iff : readNumeral cs = some n ↔ Digits cs n := by
  rw [digits_iff]
  constructor
  · intro read
    unfold readNumeral at read
    split at read
    · cases read
    · rename_i accepted
      simp only [Bool.or_eq_true, Bool.not_eq_true', not_or, Bool.not_eq_true,
        Bool.not_eq_false] at accepted
      exact ⟨List.isEmpty_eq_false_iff.mp accepted.1, List.all_eq_true.mp accepted.2,
        Option.some.inj read⟩
  · rintro ⟨filled, all, rfl⟩
    exact readNumeral_of_digits filled all

/-- The unsigned reader takes the unsigned numbers up to its bound, and no other text. -/
theorem readUnsigned_eq_some_iff : readUnsigned most cs = some n ↔ Unsigned cs n ∧ n ≤ most := by
  constructor
  · intro read
    have kept : ∀ {digits : List Char} {m : Nat}, readNumeral digits = some m →
        (if m ≤ most then some m else none) = some n → Digits digits n ∧ n ≤ most := by
      intro digits m numeral small
      rw [Option.ite_none_right_eq_some] at small
      obtain ⟨small, same⟩ := small
      cases same
      exact ⟨readNumeral_eq_some_iff.mp numeral, small⟩
    unfold readUnsigned at read
    split at read
    · dsimp only at read
      split at read
      · rename_i numeral
        obtain ⟨digits, small⟩ := kept numeral read
        exact ⟨Unsigned.plus digits, small⟩
      · cases read
    · dsimp only at read
      split at read
      · rename_i numeral
        obtain ⟨digits, small⟩ := kept numeral read
        exact ⟨Unsigned.bare digits, small⟩
      · cases read
  · rintro ⟨unsigned, small⟩
    cases unsigned with
    | bare digits =>
      have plain : cs.head? ≠ some '+' :=
        fun plus => digits.not_mem (by decide) (List.mem_of_head? plus)
      rw [readUnsigned_eq plain, readNumeral_eq_some_iff.mpr digits]
      exact if_pos small
    | plus digits =>
      simp only [readUnsigned, readNumeral_eq_some_iff.mpr digits, small, ↓reduceIte]

/-- The signed reader takes the signed numbers of 64 bits, and no other text. -/
theorem readInt64_eq_some_iff :
    readInt64 cs = some i ↔ Signed cs i ∧ -2 ^ 63 ≤ i ∧ i ≤ 2 ^ 63 - 1 := by
  unfold readInt64
  split
  · rename_i rest
    have negative : (∃ n, Digits rest n ∧ n ≤ 0x8000_0000_0000_0000 ∧ -(n : Int) = i) ↔
        Signed ('-' :: rest) i ∧ -2 ^ 63 ≤ i ∧ i ≤ 2 ^ 63 - 1 := by
      constructor
      · rintro ⟨n, digits, small, rfl⟩
        exact ⟨Signed.minus digits, by omega, by omega⟩
      · rintro ⟨signed, low, -⟩
        cases signed with
        | unsigned unsigned =>
          exact (unsigned.not_mem (by decide) (by decide) List.mem_cons_self).elim
        | @minus _ n digits => exact ⟨n, digits, by omega, rfl⟩
    rw [← negative]
    simp only [← readNumeral_eq_some_iff]
    cases readNumeral rest with
    | none => simp
    | some m => simp
  · rename_i bare
    have counted : ((readUnsigned 0x7FFF_FFFF_FFFF_FFFF cs).map fun n => (n : Int)) = some i ↔
        ∃ n, (Unsigned cs n ∧ n ≤ 0x7FFF_FFFF_FFFF_FFFF) ∧ (n : Int) = i := by
      simp only [← readUnsigned_eq_some_iff]
      cases readUnsigned 0x7FFF_FFFF_FFFF_FFFF cs with
      | none => simp
      | some m => simp
    rw [counted]
    constructor
    · rintro ⟨n, ⟨unsigned, small⟩, rfl⟩
      exact ⟨Signed.unsigned unsigned, by omega, by omega⟩
    · rintro ⟨signed, -, high⟩
      cases signed with
      | @unsigned _ n unsigned => exact ⟨n, ⟨unsigned, by omega⟩, rfl⟩
      | minus digits => exact (bare _ rfl).elim

/-! ## Written numbers -/

theorem digits_numeral (n : Nat) : Digits (numeral n) n :=
  digits_iff.mpr ⟨numeral_ne_nil n, fun _ => isDigit_of_mem_numeral, digitsValue_numeral n⟩

theorem signed_intNumeral (i : Int) : Signed (intNumeral i) i := by
  unfold intNumeral
  split
  · rename_i negative
    have size : -(i.natAbs : Int) = i := by omega
    have signed := Signed.minus (digits_numeral i.natAbs)
    rwa [size] at signed
  · rename_i nonnegative
    have size : (i.natAbs : Int) = i := by omega
    have signed := Signed.unsigned (Unsigned.bare (digits_numeral i.natAbs))
    rwa [size] at signed

/-- A padded numeral is read up to the reader's bound. -/
theorem readUnsigned_paddedNumeral (most width n : Nat) :
    readUnsigned most (paddedNumeral width n) = if n ≤ most then some n else none := by
  have unsigned : (paddedNumeral width n).head? ≠ some '+' := by
    intro plus
    cases isDigit_of_mem_paddedNumeral (List.mem_of_head? plus)
  rw [readUnsigned_eq unsigned, readNumeral_of_digits (paddedNumeral_ne_nil width n)
    fun _ => isDigit_of_mem_paddedNumeral, digitsValue_paddedNumeral]

/-! ## Cutting a text -/

/-- The parts of a text with the mark between them are the text. -/
theorem intercalate_splitAt (mark : Char) (text : List Char) :
    [mark].intercalate (splitAt mark text) = text := by
  have same : splitAt mark text = text.splitOn mark := by
    induction text with
    | nil => rfl
    | cons c rest ih =>
      obtain ⟨part, parts, cut⟩ := List.exists_cons_of_ne_nil (List.splitOn_ne_nil mark rest)
      have step : (c :: rest).splitOn mark = if c == mark then [] :: rest.splitOn mark
          else (rest.splitOn mark).modifyHead (List.cons c) := by
        simp only [List.splitOn_eq_splitOnP, List.splitOnP_cons_eq_if_modifyHead]
      rw [splitAt, ih, step, cut]
      simp only [beq_iff_eq, List.modifyHead_cons]
  rw [same, List.intercalate_splitOn]

/-- A text is cut at the first mark in it. -/
theorem splitOnce_eq_some_iff {mark : Char} {text before after : List Char} :
    splitOnce mark text = some (before, after) ↔ text = before ++ mark :: after ∧ mark ∉ before := by
  constructor
  · intro cut
    induction text generalizing before with
    | nil => cases cut
    | cons c rest ih =>
      rw [splitOnce] at cut
      split at cut
      · rename_i here
        cases cut
        exact ⟨by rw [here]; rfl, List.not_mem_nil⟩
      · rename_i later
        obtain ⟨⟨front, back⟩, inner, made⟩ := Option.map_eq_some_iff.mp cut
        cases made
        obtain ⟨rfl, clear⟩ := ih inner
        exact ⟨rfl, List.not_mem_cons_of_ne_of_not_mem (Ne.symm later) clear⟩
  · rintro ⟨rfl, clear⟩
    exact splitOnce_append clear after

end Text

/-! ## Ids -/

/-- The texts of an account, a token or a contract: three numbers of 32, 64 and 64 bits with two
dots between them. -/
inductive EntityId.Spelled : List Char → EntityId → Prop
  | parts {x y z : List Char} {shard realm num : Nat} :
    Text.Unsigned x shard → shard < 2 ^ 32 → Text.Unsigned y realm → realm < 2 ^ 64 →
    Text.Unsigned z num → num < 2 ^ 64 →
    Spelled (x ++ '.' :: (y ++ '.' :: z))
      ⟨UInt32.ofNat shard, UInt64.ofNat realm, UInt64.ofNat num⟩

/-- The texts of a transaction id: a payer, an at sign, a second of 64 bits, a dot and a number of
nanoseconds within a second. -/
inductive TransactionId.Spelled : List Char → TransactionId → Prop
  | parts {p t n : List Char} {payer : EntityId} {seconds : Int} {nanos : Nat} :
    EntityId.Spelled p payer → Text.Signed t seconds → -2 ^ 63 ≤ seconds → seconds ≤ 2 ^ 63 - 1 →
    Text.Unsigned n nanos → nanos < 1_000_000_000 →
    Spelled (p ++ '@' :: (t ++ '.' :: n)) ⟨payer, Int64.ofInt seconds, UInt32.ofNat nanos⟩

theorem EntityId.ofText?_eq_some_iff {text : List Char} {id : EntityId} :
    ofText? text = some id ↔ Spelled text id := by
  constructor
  · intro read
    unfold ofText? at read
    split at read
    · rename_i x y z cut
      simp only [bind, Option.bind_eq_some_iff, Text.readUnsigned_eq_some_iff] at read
      obtain ⟨shard, ⟨first, small⟩, realm, ⟨second, small'⟩, num, ⟨third, small''⟩, made⟩ := read
      cases made
      have joined : text = x ++ '.' :: (y ++ '.' :: z) := by
        rw [← Text.intercalate_splitAt '.' text, cut]
        simp [List.intercalate]
      rw [joined]
      exact Spelled.parts first (Nat.lt_of_le_pred (by decide) small) second
        (Nat.lt_of_le_pred (by decide) small') third (Nat.lt_of_le_pred (by decide) small'')
    · cases read
  · rintro @⟨x, y, z, a, b, c, first, small, second, small', third, small''⟩
    have plain : ∀ {part : List Char} {n : Nat}, Text.Unsigned part n → '.' ∉ part :=
      fun unsigned => unsigned.not_mem (by decide) (by decide)
    have shard : Text.readUnsigned (UInt32.size - 1) x = some a :=
      Text.readUnsigned_eq_some_iff.mpr ⟨first, Nat.le_pred_of_lt small⟩
    have realm : Text.readUnsigned (UInt64.size - 1) y = some b :=
      Text.readUnsigned_eq_some_iff.mpr ⟨second, Nat.le_pred_of_lt small'⟩
    have num : Text.readUnsigned (UInt64.size - 1) z = some c :=
      Text.readUnsigned_eq_some_iff.mpr ⟨third, Nat.le_pred_of_lt small''⟩
    unfold ofText?
    rw [Text.splitAt_append (plain first), Text.splitAt_append (plain second),
      Text.splitAt_of_not_mem (plain third)]
    dsimp only
    rw [shard, realm, num]
    rfl

/-- A payer's text ends before the at sign, since it has digits, signs and dots only. -/
theorem EntityId.Spelled.not_mem {text : List Char} {id : EntityId} {mark : Char}
    (other : Text.isDigit mark = false) (unlike : mark ≠ '+') (dotless : mark ≠ '.')
    (spelled : Spelled text id) : mark ∉ text := by
  obtain ⟨first, -, second, -, third, -⟩ := spelled
  simp only [List.mem_append, List.mem_cons, not_or]
  exact ⟨first.not_mem other unlike, dotless, second.not_mem other unlike, dotless,
    third.not_mem other unlike⟩

theorem TransactionId.ofText?_eq_some_iff {text : List Char} {id : TransactionId} :
    ofText? text = some id ↔ Spelled text id := by
  constructor
  · intro read
    unfold ofText? at read
    simp only [bind, Option.bind_eq_some_iff, Prod.exists, Text.splitOnce_eq_some_iff,
      Text.readUnsigned_eq_some_iff, EntityId.ofText?_eq_some_iff, Text.readInt64_eq_some_iff]
      at read
    obtain ⟨p, start, ⟨rfl, -⟩, t, n, ⟨rfl, -⟩, nanos, ⟨third, small⟩, payer, first, seconds,
      ⟨second, low, high⟩, made⟩ := read
    cases made
    exact Spelled.parts first second low high third (Nat.lt_succ_of_le small)
  · rintro ⟨first, second, low, high, third, small⟩
    have payer := EntityId.ofText?_eq_some_iff.mpr first
    have seconds := Text.readInt64_eq_some_iff.mpr ⟨second, low, high⟩
    have nanos := Text.readUnsigned_eq_some_iff.mpr ⟨third, Nat.le_of_lt_succ small⟩
    unfold ofText?
    rw [Text.splitOnce_append (first.not_mem (by decide) (by decide) (by decide))]
    dsimp only [bind, Option.bind]
    rw [Text.splitOnce_append (second.not_mem (by decide) (by decide) (by decide))]
    dsimp only
    rw [nanos, payer, seconds]
    rfl

/-! ## Readers of ids -/

/-- A reader that takes the texts of a grammar, gives what they spell, and refuses every other text
with an error that names it. -/
structure ReadsExactly (read : String → Except IdError α) (Spelled : List Char → α → Prop)
    (refusal : String → IdError) : Prop where
  accepts : ∀ s a, read s = .ok a ↔ Spelled s.toList a
  refuses : ∀ s e, read s = .error e ↔ (∀ a, ¬Spelled s.toList a) ∧ e = refusal s

theorem ReadsExactly.of_ofText? {read : String → Except IdError α}
    {ofText? : List Char → Option α} {Spelled : List Char → α → Prop} {refusal : String → IdError}
    (spells : ∀ text a, ofText? text = some a ↔ Spelled text a)
    (reads : ∀ s, read s = (ofText? s.toList).elim (.error (refusal s)) .ok) :
    ReadsExactly read Spelled refusal where
  accepts s a := by
    rw [← spells, reads]
    cases ofText? s.toList with
    | none => simp
    | some b => simp
  refuses s e := by
    simp only [← spells, reads]
    cases ofText? s.toList with
    | none => simp [eq_comm]
    | some b => simp

theorem TransactionId.Spelled.nanos_lt {text : List Char} {id : TransactionId}
    (spelled : Spelled text id) : id.nanos.toNat < 1_000_000_000 := by
  obtain ⟨-, -, -, -, -, small⟩ := spelled
  rw [UInt32.toNat_ofNat_of_lt' (Nat.lt_trans small (by decide))]
  exact small

/-- A written transaction id is read back exactly if its nanoseconds are less than a second. -/
theorem TransactionId.ofText?_text (id : TransactionId) :
    ofText? id.text = if id.nanos.toNat < 1_000_000_000 then some id else none := by
  have payer := EntityId.ofText?_text id.payer
  have at_sign : '@' ∉ id.payer.text := EntityId.not_mem_text (by decide) (by decide) id.payer
  have seconds : Text.readInt64 (Text.intNumeral id.seconds.toInt) = some id.seconds.toInt :=
    Text.readInt64_eq_some_iff.mpr ⟨Text.signed_intNumeral _, id.seconds.le_toInt,
      Int.le_sub_one_of_lt id.seconds.toInt_lt⟩
  have dot : '.' ∉ Text.intNumeral id.seconds.toInt :=
    (Text.signed_intNumeral _).not_mem (by decide) (by decide) (by decide)
  have nanos := Text.readUnsigned_paddedNumeral 999_999_999 9 id.nanos.toNat
  unfold ofText? text
  rw [List.append_assoc, List.cons_append, Text.splitOnce_append at_sign]
  dsimp only [bind, Option.bind]
  rw [Text.splitOnce_append dot]
  dsimp only
  rw [nanos, payer, seconds]
  by_cases small : id.nanos.toNat < 1_000_000_000
  · rw [if_pos small, if_pos (Nat.le_of_lt_succ small)]
    simp
  · rw [if_neg small, if_neg (by omega)]

/-- **Grammar of ids.** An entity id is read from the texts of its grammar and no others, and so is a
transaction id; the error of every other text holds it as it is, whatever part of it is at fault.
Every entity id, and every transaction id that was read, is read back from its own text. -/
theorem ids_readExactly :
    ReadsExactly EntityId.read EntityId.Spelled .entity ∧
    ReadsExactly TransactionId.read TransactionId.Spelled .transaction ∧
    (∀ id : EntityId, EntityId.read id.toString = .ok id) ∧
    ∀ s id, TransactionId.read s = .ok id → TransactionId.read id.toString = .ok id := by
  have entity : ReadsExactly EntityId.read EntityId.Spelled .entity := by
    refine ReadsExactly.of_ofText? (fun _ _ => EntityId.ofText?_eq_some_iff) fun s => ?_
    unfold EntityId.read
    cases EntityId.ofText? s.toList with
    | none => rfl
    | some id => rfl
  have transaction : ReadsExactly TransactionId.read TransactionId.Spelled .transaction := by
    refine ReadsExactly.of_ofText? (fun _ _ => TransactionId.ofText?_eq_some_iff) fun s => ?_
    unfold TransactionId.read
    cases TransactionId.ofText? s.toList with
    | none => rfl
    | some id => rfl
  refine ⟨entity, transaction, fun id => ?_, fun s id read => ?_⟩
  · unfold EntityId.read EntityId.toString
    rw [String.toList_ofList, EntityId.ofText?_text]
  · have small := ((transaction.accepts s id).mp read).nanos_lt
    unfold TransactionId.read TransactionId.toString
    rw [String.toList_ofList, TransactionId.ofText?_text, if_pos small]

/-- Signs and zeros in front are read, and the fraction counts nanoseconds as it stands. -/
example : TransactionId.ofText? "+0.007.1@-5.+1".toList = some ⟨⟨0, 7, 1⟩, -5, 1⟩ := by
  decide +kernel

end TokenDesk
