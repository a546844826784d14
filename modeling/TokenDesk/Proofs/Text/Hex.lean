import Mathlib.Tactic.IntervalCases
import TokenDesk.Text.Hex

/-!
Bytes are written with two digits each, and read from the same digits in either case
(`bytesOfDigits_eq_some_iff`). Such digits are ASCII characters, so the reader finds no fault with
them (`readHexDigits_eq_ok_iff`), and they write the same number as the bytes. So a byte string is
determined by its hexadecimal text, and a text by its UTF-8 form.
-/

namespace TokenDesk.Text

/-! ## Digits -/

theorem hexValue?_hexDigit {n : Nat} (small : n < 16) : hexValue? (hexDigit n) = some n := by
  interval_cases n <;> decide

theorem toNat_toLower (c : Char) :
    c.toLower.toNat = if 65 ≤ c.toNat ∧ c.toNat ≤ 90 then c.toNat + 32 else c.toNat := by
  unfold Char.toLower
  split
  · rename_i upper
    have upper : 65 ≤ c.toNat ∧ c.toNat ≤ 90 := upper
    have small : c.toNat + 32 < 2 ^ 32 := by omega
    rw [if_pos upper]
    change (c.val + 32).toNat = _
    rw [UInt32.toNat_add]
    exact Nat.mod_eq_of_lt small
  · rename_i other
    have other : ¬(65 ≤ c.toNat ∧ c.toNat ≤ 90) := other
    rw [if_neg other]

/-- Digits are decimal digits and six letters of either case. -/
theorem hexValue?_eq_some_iff {c : Char} {n : Nat} : hexValue? c = some n ↔
    n < 16 ∧ (c.toNat = (if n < 10 then 48 + n else 87 + n) ∨ (10 ≤ n ∧ c.toNat = 55 + n)) := by
  unfold hexValue?
  simp only [Bool.and_eq_true, decide_eq_true_eq]
  split
  · rw [Option.some.injEq]
    split <;> omega
  · split
    · rw [Option.some.injEq]
      split <;> omega
    · split
      · rw [Option.some.injEq]
        split <;> omega
      · refine iff_of_false nofun ?_
        split <;> omega

/-- A digit has the same value in either case. -/
theorem hexValue?_toLower (c : Char) : hexValue? c.toLower = hexValue? c := by
  ext n
  rw [hexValue?_eq_some_iff, hexValue?_eq_some_iff, toNat_toLower]
  split <;> split <;> omega

theorem toNat_hexDigit {n : Nat} (small : n < 16) :
    (hexDigit n).toNat = if n < 10 then 48 + n else 87 + n := by
  interval_cases n <;> rfl

theorem toLower_of_hexValue? {c : Char} {n : Nat} (value : hexValue? c = some n) :
    n < 16 ∧ c.toLower = hexDigit n := by
  obtain ⟨small, code⟩ := hexValue?_eq_some_iff.mp value
  refine ⟨small, Char.toNat_inj.mp ?_⟩
  rw [toNat_hexDigit small, toNat_toLower]
  split at code <;> split <;> omega

theorem length_utf8EncodeChar_of_hexValue? {c : Char} {n : Nat} (value : hexValue? c = some n) :
    (String.utf8EncodeChar c).length = 1 := by
  obtain ⟨small, code⟩ := hexValue?_eq_some_iff.mp value
  have ascii : c.toNat ≤ 127 := by
    split at code <;> omega
  rw [String.length_utf8EncodeChar, Char.utf8Size_eq_one_iff]
  exact ascii

/-! ## Bytes -/

/-- The two digits of a byte. -/
theorem halves_lt (b : UInt8) : b.toNat / 16 < 16 ∧ b.toNat % 16 < 16 := by
  have := b.toNat_lt
  omega

theorem bytesOfDigits_hexOfBytes (bytes : Bytes) :
    bytesOfDigits (hexOfBytes bytes) = some bytes := by
  induction bytes with
  | nil => rfl
  | cons b rest ih =>
    obtain ⟨high, low⟩ := halves_lt b
    have value : UInt8.ofNat (16 * (b.toNat / 16) + b.toNat % 16) = b := by
      rw [Nat.div_add_mod, UInt8.ofNat_toNat]
    change bytesOfDigits (hexDigit (b.toNat / 16) :: hexDigit (b.toNat % 16) :: hexOfBytes rest) = _
    simp only [bytesOfDigits, hexValue?_hexDigit high, hexValue?_hexDigit low, ih, value, bind,
      Option.bind, pure]

theorem bytesOfDigits_toLower (digits : List Char) :
    bytesOfDigits (digits.map Char.toLower) = bytesOfDigits digits := by
  induction digits using bytesOfDigits.induct with
  | case1 => rfl
  | case2 high low rest ih =>
    simp only [List.map_cons, bytesOfDigits, hexValue?_toLower, ih]
  | case3 c => rfl

/-- The first two digits are read as a byte, and the others go on behind it. -/
theorem of_bytesOfDigits_cons {high low : Char} {rest : List Char} {bytes : Bytes}
    (read : bytesOfDigits (high :: low :: rest) = some bytes) :
    ∃ h l b others, hexValue? high = some h ∧ hexValue? low = some l ∧ b.toNat = 16 * h + l ∧
      bytesOfDigits rest = some others ∧ bytes = b :: others := by
  simp only [bytesOfDigits, bind, Option.bind_eq_some_iff, pure] at read
  obtain ⟨h, first, l, second, others, remaining, made⟩ := read
  cases made
  have small := (toLower_of_hexValue? first).1
  have small' := (toLower_of_hexValue? second).1
  refine ⟨h, l, _, others, first, second, ?_, remaining, rfl⟩
  rw [UInt8.toNat_ofNat']
  omega

/-- Digits are read as some bytes exactly if, but for the case of letters, they are how the bytes
are written. -/
theorem bytesOfDigits_eq_some_iff {digits : List Char} {bytes : Bytes} :
    bytesOfDigits digits = some bytes ↔ digits.map Char.toLower = hexOfBytes bytes := by
  constructor
  · intro read
    induction digits using bytesOfDigits.induct generalizing bytes with
    | case1 =>
      cases read
      rfl
    | case2 high low rest ih =>
      obtain ⟨h, l, b, others, first, second, value, remaining, rfl⟩ := of_bytesOfDigits_cons read
      obtain ⟨small, highDigit⟩ := toLower_of_hexValue? first
      obtain ⟨small', lowDigit⟩ := toLower_of_hexValue? second
      have halves : b.toNat / 16 = h ∧ b.toNat % 16 = l := by omega
      change high.toLower :: low.toLower :: rest.map Char.toLower =
        hexDigit (b.toNat / 16) :: hexDigit (b.toNat % 16) :: hexOfBytes others
      rw [ih remaining, highDigit, lowDigit, halves.1, halves.2]
    | case3 c => cases read
  · intro written
    rw [← bytesOfDigits_toLower, written, bytesOfDigits_hexOfBytes]

/-- Digits that are read as bytes are two for each byte, and each is a digit. -/
theorem isDigits_of_bytesOfDigits {digits : List Char} {bytes : Bytes}
    (read : bytesOfDigits digits = some bytes) (position : Nat) :
    (utf8 digits).length = 2 * bytes.length ∧ firstBadDigit position digits = none := by
  induction digits using bytesOfDigits.induct generalizing bytes position with
  | case1 =>
    cases read
    exact ⟨rfl, rfl⟩
  | case2 high low rest ih =>
    obtain ⟨h, l, b, others, first, second, -, remaining, rfl⟩ := of_bytesOfDigits_cons read
    obtain ⟨size, good⟩ := ih remaining (position + 1 + 1)
    have cut : utf8 (high :: low :: rest) =
        String.utf8EncodeChar high ++ (String.utf8EncodeChar low ++ utf8 rest) := rfl
    constructor
    · rw [cut, List.length_append, List.length_append, length_utf8EncodeChar_of_hexValue? first,
        length_utf8EncodeChar_of_hexValue? second, size, List.length_cons]
      omega
    · simp only [firstBadDigit, first, second, Option.isSome_some, if_true, good]
  | case3 c => cases read

/-- Text is read as bytes exactly if its digits are. -/
theorem readHexDigits_eq_ok_iff {digits : List Char} {bytes : Bytes} :
    readHexDigits digits = .ok bytes ↔ bytesOfDigits digits = some bytes := by
  constructor
  · intro read
    unfold readHexDigits at read
    split at read
    · cases read
    · split at read
      · cases read
      · split at read
        · rename_i found
          cases read
          exact found
        · cases read
  · intro read
    obtain ⟨size, good⟩ := isDigits_of_bytesOfDigits read 0
    have even : ¬ 2 * bytes.length % 2 = 1 := by omega
    simp only [readHexDigits, size, if_neg even, good, read]

/-- A written byte string is read back. -/
theorem readHex_hexString (bytes : Bytes) : readHex (hexString bytes).toList = .ok bytes := by
  rw [hexString, String.toList_ofList]
  exact readHexDigits_eq_ok_iff.mpr (bytesOfDigits_hexOfBytes bytes)

theorem hexString_injective : Function.Injective hexString := by
  intro bytes bytes' same
  have read := readHex_hexString bytes
  rw [same, readHex_hexString] at read
  exact (Except.ok.inj read).symm

/-- The number that digits write, the most significant first, if all are digits. -/
def hexNumber? (digits : List Char) : Option Nat :=
  digits.foldlM (fun n c => (hexValue? c).map fun value => 16 * n + value) 0

/-- Read bytes keep the number that the digits write. -/
theorem hexNumber?_of_bytesOfDigits {digits : List Char} {bytes : Bytes}
    (read : bytesOfDigits digits = some bytes) : hexNumber? digits = some (Bytes.toNat bytes) := by
  -- The induction needs any number to start from: what stands in front of the digits.
  suffices general : ∀ n, digits.foldlM (fun n c => (hexValue? c).map fun value => 16 * n + value)
      n = some (bytes.foldl (fun n b => 256 * n + b.toNat) n) from general 0
  induction digits using bytesOfDigits.induct generalizing bytes with
  | case1 =>
    cases read
    exact fun n => rfl
  | case2 high low rest ih =>
    intro n
    obtain ⟨h, l, b, others, first, second, value, remaining, rfl⟩ := of_bytesOfDigits_cons read
    have joined : 16 * (16 * n + h) + l = 256 * n + (16 * h + l) := by omega
    simp only [List.foldlM_cons, first, second, Option.map_some, bind, Option.bind,
      List.foldl_cons, value, joined, ih remaining]
  | case3 c => cases read

/-! ## UTF-8 -/

theorem utf8_injective : Function.Injective utf8 := by
  intro cs cs' same
  have encoded : cs.utf8Encode = cs'.utf8Encode := congrArg List.toByteArray same
  exact String.ofList_injective (String.toByteArray_inj.mp encoded)

end TokenDesk.Text
