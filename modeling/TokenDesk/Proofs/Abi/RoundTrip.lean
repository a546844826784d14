import TokenDesk.Abi.Decode
import TokenDesk.Proofs.Abi.Layout

/-!
What was encoded decodes to what it was.

`Value.Fits` says which values a type has: numbers that a word holds, byte strings of the right size
and sequences part by part. `decodeAt_held` reads such a value back from wherever its part is held,
by induction over the value; the layout of parts has done the offsets. `decodeAll_encodeAll` is the
result for the arguments of a call.
-/

namespace TokenDesk.Abi

variable {data w : Bytes} {place : Nat}

/-! ## Words -/

theorem wordAt_of_at (found : w.At data place) (size : w.length = 32) :
    wordAt data place = .ok (w, place + 32) := by
  have same : (data.drop place).take 32 = w := by
    rw [← size]
    exact found.take
  simp only [wordAt, same, size, ↓reduceIte]

theorem toNat_word {n : Nat} (small : n < Bytes.span 32) : Bytes.toNat (word n) = n := by
  rw [word, Bytes.toNat_ofNat, Nat.mod_eq_of_lt small]

theorem offsetAt_of_at {n : Nat} (found : (word n).At data place) (small : n < UInt64.size) :
    offsetAt data place = .ok (n, place + 32) := by
  have value : Bytes.toNat (word n) = n :=
    toNat_word (Nat.lt_trans small (by decide +kernel))
  simp only [offsetAt, wordAt_of_at found (length_word n), bind, Except.bind, value, small,
    ↓reduceIte]

theorem follow_of_at {offset : Nat} (found : (word offset).At data place)
    (small : offset < UInt64.size) (inside : offset ≤ data.length) :
    follow data place = .ok (data.drop offset, place + 32) := by
  simp only [follow, offsetAt_of_at found small, bind, Except.bind, inside, ↓reduceIte]

theorem countedBytes_of_at {bytes : Bytes} (found : (lengthPrefixed bytes).At data 0)
    (small : bytes.length < UInt64.size) : countedBytes data = .ok bytes := by
  have behind : bytes.At data 32 := by
    have right := found.right
    rw [length_word, Nat.zero_add, Bytes.padToMultiple] at right
    exact right.left
  simp only [countedBytes, offsetAt_of_at found.left small, bind, Except.bind, Nat.zero_add,
    behind.take, ↓reduceIte]

/-- An integer of 256 bits is read back from its word with its sign. -/
theorem signedWord_intWord {i : Int} (low : -(Bytes.span 32 : Int) ≤ 2 * i)
    (high : 2 * i < Bytes.span 32) : signedWord (intWord i) = i := by
  have positive : (0 : Int) < Bytes.span 32 := by decide +kernel
  generalize modulus : Bytes.span 32 = m at low high positive
  have below : (i % (m : Int)).toNat < Bytes.span 32 := by
    have := Int.emod_lt_of_pos i positive
    have := Int.emod_nonneg i (Int.ne_of_gt positive)
    omega
  simp only [signedWord, intWord, modulus] at below ⊢
  rw [toNat_word (by omega)]
  rcases Int.lt_or_le i 0 with negative | nonnegative
  · have reduced : i % (m : Int) = i + m := by
      rw [← Int.add_emod_right, Int.emod_eq_of_lt (by omega) (by omega)]
    rw [reduced, if_neg (by omega)]
    omega
  · rw [Int.emod_eq_of_lt nonnegative (by omega), if_pos (by omega)]
    omega

theorem dvd_padToMultiple (bytes : Bytes) : 32 ∣ (Bytes.padToMultiple 32 bytes).length := by
  rw [Bytes.padToMultiple, List.length_append, List.length_replicate]
  omega

theorem length_padToMultiple {bytes : Bytes} (some_byte : 0 < bytes.length)
    (short : bytes.length ≤ 32) : (Bytes.padToMultiple 32 bytes).length = 32 := by
  rw [Bytes.padToMultiple, List.length_append, List.length_replicate]
  omega

theorem dvd_lengthPrefixed (bytes : Bytes) : 32 ∣ (lengthPrefixed bytes).length := by
  rw [lengthPrefixed, List.length_append, length_word]
  exact Nat.dvd_add (Nat.dvd_refl 32) (dvd_padToMultiple bytes)

/-! ## Values of a type -/

mutual

/-- A value is one of a type, and all of it shows in its bytes. Texts are left out. -/
def Value.Fits : Value → Ty → Prop
  | .bool _, .bool => True
  | .uint width n, .uint bits => width = bits ∧ n < Bytes.span 32
  | .int width i, .int bits =>
    width = bits ∧ -(Bytes.span 32 : Int) ≤ 2 * i ∧ 2 * i < Bytes.span 32
  | .address bytes, .address => bytes.length = 20
  | .fixedBytes bytes, .fixedBytes size => bytes.length = size ∧ 0 < size ∧ size ≤ 32
  | .function bytes, .function => bytes.length = 24
  | .bytes _, .bytes => True
  | .array items, .array item =>
    items.length < UInt64.size ∧ AllFit items (List.replicate items.length item)
  | .fixedArray items, .fixedArray item size =>
    items.length = size ∧ 0 < size ∧ AllFit items (List.replicate size item)
  | .tuple parts, .tuple types => AllFit parts types
  | _, _ => False

/-- The values are of the types, one by one. -/
def AllFit : List Value → List Ty → Prop
  | [], [] => True
  | v :: vs, t :: ts => v.Fits t ∧ AllFit vs ts
  | _, _ => False

end

theorem anyDynamic_replicate {size : Nat} (some_item : 0 < size) (t : Ty) :
    anyDynamic (List.replicate size t) = t.isDynamic := by
  induction size with
  | zero => cases some_item
  | succ n ih =>
    rw [List.replicate_succ, anyDynamic]
    cases n with
    | zero => simp [anyDynamic]
    | succ n => rw [ih (Nat.succ_pos n), Bool.or_self]

mutual

/-- A value is reached through an offset exactly if its type says so. -/
theorem Value.Fits.isDynamic_eq : ∀ {v : Value} {t : Ty}, v.Fits t → v.isDynamic = t.isDynamic
  | .bool _, .bool, _ => rfl
  | .uint _ _, .uint _, _ => rfl
  | .int _ _, .int _, _ => rfl
  | .address _, .address, _ => rfl
  | .fixedBytes _, .fixedBytes _, _ => rfl
  | .function _, .function, _ => rfl
  | .bytes _, .bytes, _ => rfl
  | .array _, .array _, _ => rfl
  | .fixedArray items, .fixedArray item size, fits => by
    obtain ⟨-, some_item, all⟩ := fits
    rw [Value.isDynamic, AllFit.anyDynamic_eq all, anyDynamic_replicate some_item, Ty.isDynamic]
  | .tuple parts, .tuple types, fits => by
    rw [Value.isDynamic, AllFit.anyDynamic_eq fits, Ty.isDynamic]

theorem AllFit.anyDynamic_eq : ∀ {vs : List Value} {ts : List Ty}, AllFit vs ts →
    anyDynamicValue vs = anyDynamic ts
  | [], [], _ => rfl
  | v :: vs, t :: ts, fits => by
    rw [anyDynamicValue, anyDynamic, fits.1.isDynamic_eq, AllFit.anyDynamic_eq fits.2]

end

mutual

/-- The bytes of a value are whole words. -/
theorem Value.Fits.dvd_length : ∀ {v : Value} {t : Ty}, v.Fits t → 32 ∣ v.encode.length
  | .bool _, .bool, _ => (length_word _).symm ▸ Nat.dvd_refl 32
  | .uint _ _, .uint _, _ => (length_word _).symm ▸ Nat.dvd_refl 32
  | .int _ _, .int _, _ => (length_word _).symm ▸ Nat.dvd_refl 32
  | .address bytes, .address, fits => by
    have size : bytes.length = 20 := fits
    have whole : (Bytes.padLeft 32 bytes).length = 32 := Bytes.length_padLeft (by omega)
    exact whole.symm ▸ Nat.dvd_refl 32
  | .fixedBytes bytes, .fixedBytes _, _ => by rw [Value.encode]; exact dvd_padToMultiple bytes
  | .function bytes, .function, _ => by rw [Value.encode]; exact dvd_padToMultiple bytes
  | .bytes bytes, .bytes, _ => by rw [Value.encode]; exact dvd_lengthPrefixed bytes
  | .array items, .array _, fits => by
    rw [Value.encode, List.length_append, length_word]
    exact Nat.dvd_add (Nat.dvd_refl 32) (dvd_assemble (AllFit.dvd_length fits.2))
  | .fixedArray items, .fixedArray _ _, fits => by
    rw [Value.encode]
    exact dvd_assemble (AllFit.dvd_length fits.2.2)
  | .tuple parts, .tuple _, fits => by
    rw [Value.encode]
    exact dvd_assemble (AllFit.dvd_length fits)

theorem AllFit.dvd_length : ∀ {vs : List Value} {ts : List Ty}, AllFit vs ts →
    ∀ p ∈ valueParts vs, 32 ∣ p.bytes.length
  | [], [], _, _, member => by cases member
  | v :: vs, t :: ts, fits, p, member => by
    rw [valueParts] at member
    rcases List.mem_cons.mp member with rfl | member
    · exact fits.1.dvd_length
    · exact AllFit.dvd_length fits.2 p member

end

/-! ## Reading values back -/

/-- A value as a part of a sequence. -/
def Value.part (v : Value) : Part := ⟨v.isDynamic, v.encode⟩

theorem valueParts_cons (v : Value) (vs : List Value) :
    valueParts (v :: vs) = v.part :: valueParts vs := by
  rw [valueParts, Value.part]

theorem dynamic_of_anyDynamicValue {vs : List Value} (static : anyDynamicValue vs = false) :
    ∀ p ∈ valueParts vs, p.dynamic = false := by
  induction vs with
  | nil =>
    intro p member
    rw [valueParts] at member
    cases member
  | cons v vs ih =>
    rw [anyDynamicValue, Bool.or_eq_false_iff] at static
    intro p member
    rw [valueParts] at member
    rcases List.mem_cons.mp member with rfl | member
    · exact static.1
    · exact ih static.2 p member

/-- Decoding items of one type is decoding parts of as many types. -/
theorem decodeMany_eq_decodeParts (t : Ty) (data : Bytes) (count place : Nat) :
    decodeMany (decodeAt t data) count place =
      decodeParts (List.replicate count t) data place := by
  induction count generalizing place with
  | zero => rfl
  | succ n ih =>
    rw [decodeMany, List.replicate_succ, decodeParts]
    simp only [ih]

/-- A value of one word is read from its place. -/
theorem held_word {v : Value} (static : v.isDynamic = false) (size : v.encode.length = 32)
    (held : v.part.Held data place) :
    wordAt data place = .ok (v.encode, place + 32) ∧ v.part.headLength = 32 := by
  simp only [Part.Held, Value.part, static, Bool.false_eq_true, ↓reduceIte] at held
  refine ⟨wordAt_of_at held size, ?_⟩
  simp only [Part.headLength, Value.part, static, Bool.false_eq_true, ↓reduceIte, size]

/-- A dynamic value is found where the offset in its place leads. -/
theorem held_follow {v : Value} (dynamic : v.isDynamic = true) (held : v.part.Held data place) :
    ∃ inner, follow data place = .ok (inner, place + 32) ∧ v.encode.At inner 0 ∧
      v.encode.length < UInt64.size ∧ v.part.headLength = 32 := by
  simp only [Part.Held, Value.part, dynamic, ↓reduceIte] at held
  obtain ⟨offset, small, inside, found, behind⟩ := held
  refine ⟨data.drop offset, follow_of_at found (by omega) inside, behind, by omega, ?_⟩
  simp only [Part.headLength, Value.part, dynamic, ↓reduceIte]

/-- A static sequence is found in its place. -/
theorem held_static {v : Value} {vs : List Value} (same : v.encode = assemble (valueParts vs))
    (static : v.isDynamic = false) (parts : ∀ p ∈ valueParts vs, p.dynamic = false)
    (held : v.part.Held data place) :
    AllHeld data place (valueParts vs) ∧ v.part.headLength = headLength (valueParts vs) := by
  simp only [Part.Held, Value.part, static, Bool.false_eq_true, ↓reduceIte, same] at held
  refine ⟨allHeld_of_static held parts, ?_⟩
  simp only [Part.headLength, Value.part, static, Bool.false_eq_true, ↓reduceIte, same, assemble,
    tails_of_static parts, List.append_nil, length_heads]

/-! ### Values of one word -/

/-- A type that is read from one word gives back the value of that word. -/
theorem decodeAt_word {t : Ty} {v : Value} (f : Bytes → Value)
    (reads : decodeAt t data place = do
      let (w, next) ← wordAt data place
      return (f w, next))
    (static : v.isDynamic = false) (whole : v.encode.length = 32) (value : f v.encode = v)
    (held : v.part.Held data place) :
    decodeAt t data place = .ok (v, place + v.part.headLength) := by
  obtain ⟨read, size⟩ := held_word static whole held
  rw [reads, read, size]
  simp only [bind, Except.bind, pure, Except.pure, value]

theorem decodeAt_bool {b : Bool} (held : (Value.bool b).part.Held data place) :
    decodeAt .bool data place = .ok (.bool b, place + (Value.bool b).part.headLength) := by
  have whole : (Value.bool b).encode.length = 32 := by rw [Value.encode, length_word]
  have value : Bytes.toNat (Value.bool b).encode = if b then 1 else 0 := by
    rw [Value.encode, toNat_word]
    cases b <;> decide +kernel
  refine decodeAt_word (fun w => .bool (Bytes.toNat w != 0)) (by rw [decodeAt]) rfl whole ?_ held
  rw [value]
  cases b <;> rfl

theorem decodeAt_uint {bits n : Nat} (small : n < Bytes.span 32)
    (held : (Value.uint bits n).part.Held data place) :
    decodeAt (.uint bits) data place =
      .ok (.uint bits n, place + (Value.uint bits n).part.headLength) := by
  have whole : (Value.uint bits n).encode.length = 32 := by rw [Value.encode, length_word]
  refine decodeAt_word (fun w => .uint bits (Bytes.toNat w)) (by rw [decodeAt]) rfl whole ?_ held
  rw [Value.encode, toNat_word small]

theorem decodeAt_int {bits : Nat} {i : Int} (low : -(Bytes.span 32 : Int) ≤ 2 * i)
    (high : 2 * i < Bytes.span 32) (held : (Value.int bits i).part.Held data place) :
    decodeAt (.int bits) data place =
      .ok (.int bits i, place + (Value.int bits i).part.headLength) := by
  have whole : (Value.int bits i).encode.length = 32 := by
    rw [Value.encode, intWord, length_word]
  refine decodeAt_word (fun w => .int bits (signedWord w)) (by rw [decodeAt]) rfl whole ?_ held
  rw [Value.encode, signedWord_intWord low high]

theorem decodeAt_address {bytes : Bytes} (length : bytes.length = 20)
    (held : (Value.address bytes).part.Held data place) :
    decodeAt .address data place =
      .ok (.address bytes, place + (Value.address bytes).part.headLength) := by
  have whole : (Value.address bytes).encode.length = 32 := by
    rw [Value.encode, Bytes.length_padLeft (by omega)]
  refine decodeAt_word (fun w => .address (w.drop 12)) (by rw [decodeAt]) rfl whole ?_ held
  rw [Value.encode, Bytes.padLeft, length, List.drop_left' List.length_replicate]

theorem decodeAt_fixedBytes {bytes : Bytes} (some_byte : 0 < bytes.length)
    (short : bytes.length ≤ 32) (held : (Value.fixedBytes bytes).part.Held data place) :
    decodeAt (.fixedBytes bytes.length) data place =
      .ok (.fixedBytes bytes, place + (Value.fixedBytes bytes).part.headLength) := by
  have whole : (Value.fixedBytes bytes).encode.length = 32 := by
    rw [Value.encode, length_padToMultiple some_byte short]
  refine decodeAt_word (fun w => .fixedBytes (w.take bytes.length)) (by rw [decodeAt]) rfl whole ?_
    held
  rw [Value.encode, Bytes.padToMultiple, List.take_left]

theorem decodeAt_function {bytes : Bytes} (length : bytes.length = 24)
    (held : (Value.function bytes).part.Held data place) :
    decodeAt .function data place =
      .ok (.function bytes, place + (Value.function bytes).part.headLength) := by
  have whole : (Value.function bytes).encode.length = 32 := by
    rw [Value.encode, length_padToMultiple (by omega) (by omega)]
  refine decodeAt_word (fun w => .function (w.take 24)) (by rw [decodeAt]) rfl whole ?_ held
  rw [Value.encode, Bytes.padToMultiple, List.take_left' length]

/-! ### Sequences -/

theorem decodeAt_bytes {bytes : Bytes} (held : (Value.bytes bytes).part.Held data place) :
    decodeAt .bytes data place =
      .ok (.bytes bytes, place + (Value.bytes bytes).part.headLength) := by
  obtain ⟨inner, followed, found, small, size⟩ := held_follow rfl held
  rw [Value.encode] at found small
  have short : bytes.length < UInt64.size := by
    rw [lengthPrefixed, Bytes.padToMultiple, List.length_append, List.length_append] at small
    omega
  have counted : countedBytes inner = .ok bytes := countedBytes_of_at found short
  rw [decodeAt, followed, size]
  simp only [bind, Except.bind, pure, Except.pure, counted]

/-- An array's count and its items are read from behind its offset. -/
theorem offsetAt_array {items : List Value} {inner : Bytes} (few : items.length < UInt64.size)
    (found : (Value.array items).encode.At inner 0)
    (small : (Value.array items).encode.length < UInt64.size) :
    offsetAt inner 0 = .ok (items.length, 32) ∧ AllHeld (inner.drop 32) 0 (valueParts items) := by
  rw [Value.encode] at found small
  rw [List.length_append, length_word] at small
  have behind : (assemble (valueParts items)).At (inner.drop 32) 0 := by
    have right := found.right
    rw [length_word] at right
    exact right
  exact ⟨offsetAt_of_at found.left few, allHeld_of_assemble behind fun _ _ _ => by omega⟩

mutual

/-- **Round trip.** A value is read back from wherever its part is held. -/
theorem Value.Fits.decodeAt_held : ∀ {v : Value} {t : Ty}, v.Fits t →
    ∀ {data : Bytes} {place : Nat}, v.part.Held data place →
      decodeAt t data place = .ok (v, place + v.part.headLength)
  | .bool _, .bool, _, _, _, held => decodeAt_bool held
  | .uint _ _, .uint _, ⟨rfl, small⟩, _, _, held => decodeAt_uint small held
  | .int _ _, .int _, ⟨rfl, low, high⟩, _, _, held => decodeAt_int low high held
  | .address _, .address, fits, _, _, held => decodeAt_address fits held
  | .fixedBytes _, .fixedBytes _, ⟨rfl, some_byte, short⟩, _, _, held =>
    decodeAt_fixedBytes some_byte short held
  | .function _, .function, fits, _, _, held => decodeAt_function fits held
  | .bytes _, .bytes, _, _, _, held => decodeAt_bytes held
  -- The items' offsets count from behind the word of their number.
  | .array items, .array item, ⟨few, all⟩, data, place, held => by
    obtain ⟨inner, followed, found, small, size⟩ := held_follow rfl held
    obtain ⟨count, parts⟩ := offsetAt_array few found small
    have decoded := AllFit.decodeParts_held all parts
    rw [decodeAt, followed, size]
    simp only [bind, Except.bind, pure, Except.pure, count, decodeMany_eq_decodeParts, decoded]
  | .fixedArray items, .fixedArray item count, ⟨_, some_item, all⟩, data, place, held => by
    have kind : (Value.fixedArray items).isDynamic = item.isDynamic := by
      rw [Value.isDynamic, all.anyDynamic_eq, anyDynamic_replicate some_item]
    cases dynamic : item.isDynamic with
    | false =>
      have static := kind.trans dynamic
      obtain ⟨parts, size⟩ := held_static (by rw [Value.encode]) static
        (dynamic_of_anyDynamicValue (by rwa [Value.isDynamic] at static)) held
      have decoded := AllFit.decodeParts_held all parts
      rw [decodeAt, size, decodeMany_eq_decodeParts, decoded]
      simp only [bind, Except.bind, pure, Except.pure, dynamic]
      rfl
    | true =>
      obtain ⟨inner, followed, found, small, size⟩ := held_follow (kind.trans dynamic) held
      rw [Value.encode] at found small
      have parts := allHeld_of_assemble found fun _ _ _ => small
      have decoded := AllFit.decodeParts_held all parts
      rw [decodeAt, size, followed]
      simp only [bind, Except.bind, pure, Except.pure, decodeMany_eq_decodeParts, decoded, dynamic]
      rfl
  | .tuple values, .tuple types, fits, data, place, held => by
    have kind : (Value.tuple values).isDynamic = anyDynamic types := by
      rw [Value.isDynamic, AllFit.anyDynamic_eq fits]
    cases dynamic : anyDynamic types with
    | false =>
      have static := kind.trans dynamic
      obtain ⟨parts, size⟩ := held_static (by rw [Value.encode]) static
        (dynamic_of_anyDynamicValue (by rwa [Value.isDynamic] at static)) held
      have decoded := AllFit.decodeParts_held fits parts
      rw [decodeAt, size, decoded]
      simp only [bind, Except.bind, pure, Except.pure, dynamic]
      rfl
    | true =>
      obtain ⟨inner, followed, found, small, size⟩ := held_follow (kind.trans dynamic) held
      rw [Value.encode] at found small
      have parts := allHeld_of_assemble found fun _ _ _ => small
      have decoded := AllFit.decodeParts_held fits parts
      rw [decodeAt, size, followed]
      simp only [bind, Except.bind, pure, Except.pure, decoded, dynamic]
      rfl

/-- Values are read back from wherever all their parts are held. -/
theorem AllFit.decodeParts_held : ∀ {vs : List Value} {ts : List Ty}, AllFit vs ts →
    ∀ {data : Bytes} {place : Nat}, AllHeld data place (valueParts vs) →
      decodeParts ts data place = .ok (vs, place + headLength (valueParts vs))
  | [], [], _, _, _, _ => rfl
  | v :: vs, t :: ts, ⟨fit, all⟩, data, place, held => by
    rw [valueParts_cons] at held ⊢
    obtain ⟨first, others⟩ := held
    have decoded := fit.decodeAt_held first
    have rest := AllFit.decodeParts_held all others
    rw [decodeParts, decoded]
    simp only [bind, Except.bind, pure, Except.pure, rest, headLength, Nat.add_assoc]

end

/-- Decoding the encoded arguments of a call gives the arguments. -/
theorem decodeAll_encodeAll {vs : List Value} {ts : List Ty} (fit : AllFit vs ts)
    (small : anyDynamicValue vs = true → (encodeAll vs).length < UInt64.size) :
    decodeAll ts (encodeAll vs) = .ok vs := by
  have held : AllHeld (encodeAll vs) 0 (valueParts vs) := by
    cases dynamic : anyDynamicValue vs with
    | false =>
      exact allHeld_of_static (List.prefix_refl _) (dynamic_of_anyDynamicValue dynamic)
    | true => exact allHeld_of_assemble (List.prefix_refl _) fun _ _ _ => small dynamic
  rw [decodeAll, fit.decodeParts_held held]
  rfl

end TokenDesk.Abi
