import TokenDesk.Text.Hex

/-!
UTF-8. `utf8` writes a text; `readUtf8Lossy` reads any byte string and puts the replacement
character in the place of each longest piece that begins no valid sequence; `readUtf8?` accepts
valid sequences only.
-/

namespace TokenDesk.Text

def replacement : Char := '\uFFFD'

/-- What may follow a first byte: how many continuation bytes, and the range of the next one. -/
def continuation (lead : UInt8) : Option (Nat × Nat × Nat) :=
  let n := lead.toNat
  if 0xC2 ≤ n && n ≤ 0xDF then some (1, 0x80, 0xBF)
  else if n == 0xE0 then some (2, 0xA0, 0xBF)
  else if n == 0xED then some (2, 0x80, 0x9F)
  else if 0xE1 ≤ n && n ≤ 0xEF then some (2, 0x80, 0xBF)
  else if n == 0xF0 then some (3, 0x90, 0xBF)
  else if 0xF1 ≤ n && n ≤ 0xF3 then some (3, 0x80, 0xBF)
  else if n == 0xF4 then some (3, 0x80, 0x8F)
  else none

/-- Collects `count` continuation bytes, the first within the given range, into `point`. The
answer is the finished code point, if there were enough bytes, and the bytes after those taken. -/
def takeContinuation : Nat → Nat → Nat → Nat → Bytes → Option Nat × Bytes
  | 0, _, _, point, rest => (some point, rest)
  | _ + 1, _, _, _, [] => (none, [])
  | count + 1, low, high, point, b :: rest =>
    if low ≤ b.toNat && b.toNat ≤ high then
      takeContinuation count 0x80 0xBF (point * 64 + b.toNat % 64) rest
    else (none, b :: rest)

theorem length_takeContinuation_le (count low high point : Nat) (bytes : Bytes) :
    (takeContinuation count low high point bytes).2.length ≤ bytes.length := by
  induction bytes generalizing count low high point with
  | nil => cases count <;> simp [takeContinuation]
  | cons b rest ih =>
    cases count with
    | zero => simp [takeContinuation]
    | succ k =>
      simp only [takeContinuation]
      split
      · exact Nat.le_trans (ih ..) (by simp)
      · simp

/-- The character that begins with a lead byte, if the sequence is valid, and the bytes after. -/
def takeChar (lead : UInt8) (rest : Bytes) : Option Char × Bytes :=
  if lead.toNat < 0x80 then (some (Char.ofNat lead.toNat), rest)
  else match continuation lead with
    | none => (none, rest)
    | some (count, low, high) =>
      let seed := lead.toNat % (2 ^ (6 - count))
      let (point, rest) := takeContinuation count low high seed rest
      (point.map Char.ofNat, rest)

theorem length_takeChar_le (lead : UInt8) (rest : Bytes) :
    (takeChar lead rest).2.length ≤ rest.length := by
  unfold takeChar
  split
  · simp
  · split
    · simp
    · exact length_takeContinuation_le ..

/-- The pieces of a byte string: characters, and `none` for each piece that is no character. -/
def utf8Pieces : Bytes → List (Option Char)
  | [] => []
  | lead :: rest => (takeChar lead rest).1 :: utf8Pieces (takeChar lead rest).2
termination_by bytes => bytes.length
decreasing_by
  have := length_takeChar_le lead rest
  simp only [List.length_cons]
  omega

/-- Reads bytes as text, with a replacement character for each piece that is no character. -/
def readUtf8Lossy (bytes : Bytes) : List Char :=
  (utf8Pieces bytes).map fun piece => piece.getD replacement

def readUtf8? (bytes : Bytes) : Option (List Char) :=
  (utf8Pieces bytes).mapM id

end TokenDesk.Text
