import TokenDesk.Bytes

/-!
Hexadecimal text. Bytes are written with two lower-case digits each and read in either case. The
reader reports an odd number of digits first, then a wrong length, then the first character that
is no digit; positions count the bytes of the text.
-/

namespace TokenDesk.Text

/-- Why a text is not the hexadecimal form of a byte string. -/
inductive HexError
  | oddLength
  | wrongLength
  /-- The byte at a position is no digit. -/
  | badDigit (byte : UInt8) (position : Nat)
  deriving DecidableEq, Repr

def hexDigit (n : Nat) : Char :=
  if n < 10 then Char.ofNat (48 + n) else Char.ofNat (87 + n)

def upperHexDigit (n : Nat) : Char :=
  if n < 10 then Char.ofNat (48 + n) else Char.ofNat (55 + n)

def hexValue? (c : Char) : Option Nat :=
  let n := c.toNat
  if 48 ≤ n && n ≤ 57 then some (n - 48)
  else if 97 ≤ n && n ≤ 102 then some (n - 87)
  else if 65 ≤ n && n ≤ 70 then some (n - 55)
  else none

def hexOfBytes (bytes : Bytes) : List Char :=
  bytes.flatMap fun b => [hexDigit (b.toNat / 16), hexDigit (b.toNat % 16)]

/-- The hexadecimal text of a byte string behind the mark that names the base. -/
def hexString (bytes : Bytes) : String := String.ofList ('0' :: 'x' :: hexOfBytes bytes)

def hexNumeral (n : Nat) : List Char :=
  if n < 16 then [hexDigit n] else hexNumeral (n / 16) ++ [hexDigit (n % 16)]

/-- The text without one mark of the base, in either case, at its start. -/
def dropHexMark : List Char → List Char
  | '0' :: 'x' :: rest => rest
  | '0' :: 'X' :: rest => rest
  | text => text

def utf8 (cs : List Char) : Bytes := cs.flatMap String.utf8EncodeChar

/-- The first character that is no digit, as the byte that stands there and its position. -/
def firstBadDigit (position : Nat) : List Char → Option (UInt8 × Nat)
  | [] => none
  | c :: rest =>
    if (hexValue? c).isSome then firstBadDigit (position + 1) rest
    else some ((String.utf8EncodeChar c).headD 0, position)

def bytesOfDigits : List Char → Option Bytes
  | [] => some []
  | high :: low :: rest => do
    let h ← hexValue? high
    let l ← hexValue? low
    let bytes ← bytesOfDigits rest
    return UInt8.ofNat (16 * h + l) :: bytes
  | [_] => none

def readHexDigits (digits : List Char) : Except HexError Bytes :=
  if (utf8 digits).length % 2 = 1 then .error .oddLength
  else match firstBadDigit 0 digits with
    | some (byte, position) => .error (.badDigit byte position)
    | none => match bytesOfDigits digits with
      | some bytes => .ok bytes
      | none => .error .oddLength

/-- Reads hexadecimal text of any length, with or without one mark of the base. -/
def readHex (text : List Char) : Except HexError Bytes :=
  readHexDigits (dropHexMark text)

/-- Reads hexadecimal text of exactly `width` bytes, with or without one mark of the base. -/
def readHexOf (width : Nat) (text : List Char) : Except HexError Bytes :=
  let digits := dropHexMark text
  let size := (utf8 digits).length
  if size % 2 = 1 then .error .oddLength
  else if size ≠ 2 * width then .error .wrongLength
  else readHexDigits digits

end TokenDesk.Text
