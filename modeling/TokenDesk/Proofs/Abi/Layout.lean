import TokenDesk.Abi.Encode

/-!
The layout of a sequence of parts. In an assembled sequence every part is `Held`: a static part's
bytes stand in its place, and for a dynamic one stands there the offset at which they are found.
`allHeld_of_assemble` is all that decoding needs to know about offsets.
-/

namespace TokenDesk

/-! ## Bytes at a place -/

/-- The bytes stand in the data from a place on. -/
def Bytes.At (bytes data : Bytes) (place : Nat) : Prop := bytes <+: data.drop place

namespace Bytes

variable {a b data : Bytes} {place : Nat}

theorem At.left (both : (a ++ b).At data place) : a.At data place :=
  (List.prefix_append a b).trans both

theorem At.right (both : (a ++ b).At data place) : b.At data (place + a.length) := by
  obtain ⟨rest, split⟩ := both
  have behind : data.drop (place + a.length) = b ++ rest := by
    rw [← List.drop_drop, ← split, List.append_assoc, List.drop_left]
  exact ⟨rest, behind.symm⟩

/-- Data that leads to bytes is long enough for them. -/
theorem At.length_le (found : a.At data place) (inside : place ≤ data.length) :
    place + a.length ≤ data.length := by
  have short := List.IsPrefix.length_le found
  rw [List.length_drop] at short
  omega

/-- The bytes that stand at a place are what is read there. -/
theorem At.take (found : a.At data place) : (data.drop place).take a.length = a :=
  (List.prefix_iff_eq_take.mp found).symm

end Bytes

namespace Abi

/-! ## Lengths -/

@[simp] theorem length_word (n : Nat) : (word n).length = 32 := Bytes.length_ofNat 32 n

@[simp] theorem length_heads (offset : Nat) (parts : List Part) :
    (heads offset parts).length = headLength parts := by
  induction parts generalizing offset with
  | nil => rfl
  | cons p rest ih =>
    unfold heads headLength Part.headLength
    split
    · rw [List.length_append, length_word, ih]
    · rw [List.length_append, ih]

/-- Without a dynamic part nothing follows behind the parts. -/
theorem tails_of_static {parts : List Part} (static : ∀ p ∈ parts, p.dynamic = false) :
    tails parts = [] := by
  induction parts with
  | nil => rfl
  | cons p rest ih =>
    rw [tails, static p List.mem_cons_self]
    exact ih fun q member => static q (List.mem_cons_of_mem p member)

theorem dvd_headLength {parts : List Part} (whole : ∀ p ∈ parts, 32 ∣ p.bytes.length) :
    32 ∣ headLength parts := by
  induction parts with
  | nil => exact Nat.dvd_zero 32
  | cons p rest ih =>
    have first : 32 ∣ p.headLength := by
      unfold Part.headLength
      split
      · exact Nat.dvd_refl 32
      · exact whole p List.mem_cons_self
    exact Nat.dvd_add first (ih fun q member => whole q (List.mem_cons_of_mem p member))

theorem dvd_tails {parts : List Part} (whole : ∀ p ∈ parts, 32 ∣ p.bytes.length) :
    32 ∣ (tails parts).length := by
  induction parts with
  | nil => exact Nat.dvd_zero 32
  | cons p rest ih =>
    have others := ih fun q member => whole q (List.mem_cons_of_mem p member)
    unfold tails
    split
    · rw [List.length_append]
      exact Nat.dvd_add (whole p List.mem_cons_self) others
    · exact others

/-- Parts of whole words make up whole words. -/
theorem dvd_assemble {parts : List Part} (whole : ∀ p ∈ parts, 32 ∣ p.bytes.length) :
    32 ∣ (assemble parts).length := by
  rw [assemble, List.length_append, length_heads]
  exact Nat.dvd_add (dvd_headLength whole) (dvd_tails whole)

/-! ## Parts in their places -/

/-- A part can be read at a place of the data: directly, or through an offset that stays within the
data. Offset and length have 64 bits. -/
def Part.Held (p : Part) (data : Bytes) (place : Nat) : Prop :=
  if p.dynamic then
    ∃ offset, offset + p.bytes.length < UInt64.size ∧ offset ≤ data.length ∧
      (word offset).At data place ∧ p.bytes.At data offset
  else p.bytes.At data place

/-- All parts can be read, one after the other. -/
def AllHeld (data : Bytes) : Nat → List Part → Prop
  | _, [] => True
  | place, p :: rest => p.Held data place ∧ AllHeld data (place + p.headLength) rest

variable {data : Bytes} {place offset : Nat} {parts : List Part}

/-- Parts whose places and whose bytes behind them stand in the data can be read. -/
theorem allHeld_of_layout (front : (heads offset parts).At data place)
    (back : (tails parts).At data offset)
    (room : ∀ p ∈ parts, p.dynamic = true → offset + (tails parts).length ≤ data.length ∧
      offset + (tails parts).length < UInt64.size) :
    AllHeld data place parts := by
  induction parts generalizing place offset with
  | nil => trivial
  | cons p rest ih =>
    cases kind : p.dynamic with
    | false =>
      simp only [heads, tails, kind, Bool.false_eq_true, ↓reduceIte] at front back room
      refine ⟨?_, ?_⟩
      · simp only [Part.Held, kind, Bool.false_eq_true, ↓reduceIte]
        exact front.left
      · simp only [Part.headLength, kind, Bool.false_eq_true, ↓reduceIte]
        exact ih front.right back fun q member => room q (List.mem_cons_of_mem p member)
    | true =>
      obtain ⟨inside, small⟩ := room p List.mem_cons_self kind
      simp only [heads, tails, kind, ↓reduceIte, List.length_append] at front back inside small
      refine ⟨?_, ?_⟩
      · simp only [Part.Held, kind, ↓reduceIte]
        exact ⟨offset, by omega, by omega, front.left, back.left⟩
      · have next := front.right
        rw [length_word] at next
        simp only [Part.headLength, kind, ↓reduceIte]
        exact ih next back.right fun q member dynamic => ⟨by omega, by omega⟩

/-- An assembled sequence at the start of the data can be read from there. Only for dynamic parts
does its length matter. -/
theorem allHeld_of_assemble (found : (assemble parts).At data 0)
    (small : ∀ p ∈ parts, p.dynamic = true → (assemble parts).length < UInt64.size) :
    AllHeld data 0 parts := by
  have whole := found.length_le (Nat.zero_le _)
  simp only [assemble, List.length_append, length_heads, Nat.zero_add] at whole small
  refine allHeld_of_layout found.left ?_ fun p member dynamic => ⟨whole, small p member dynamic⟩
  simpa using found.right

/-- Static parts can be read wherever they stand. -/
theorem allHeld_of_static (found : (assemble parts).At data place)
    (static : ∀ p ∈ parts, p.dynamic = false) : AllHeld data place parts := by
  refine allHeld_of_layout found.left ?_ ?_
  · rw [tails_of_static static]
    exact List.nil_prefix
  · intro p member dynamic
    rw [static p member] at dynamic
    cases dynamic

end Abi

end TokenDesk
