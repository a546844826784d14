import TokenDesk.Text.Hex

/-!
Percent-encoding. Each part of an address has its own set of characters that are written by the
bytes of their UTF-8 form, two upper-case hexadecimal digits behind a percent sign.
-/

namespace TokenDesk.Url

def percentByte (b : UInt8) : List Char :=
  ['%', Text.upperHexDigit (b.toNat / 16), Text.upperHexDigit (b.toNat % 16)]

def isControl (c : Char) : Bool := c.toNat < 0x20 || 0x7E < c.toNat

/-- A text with the control characters and those of a set encoded. -/
def percentEncode (marks : String) (text : List Char) : List Char :=
  text.flatMap fun c =>
    if isControl c || marks.toList.contains c then (Text.utf8 [c]).flatMap percentByte else [c]

def fragmentMarks : String := " \"<>`"

def pathMarks : String := fragmentMarks ++ "#?^\x7b\x7d"

def userMarks : String := pathMarks ++ "/:;=@[\\]|"

def queryMarks : String := " \"#<>"

/-- What is encoded in a query where the rules of the web hold. -/
def specialQueryMarks : String := queryMarks ++ "'"

/-- The bytes of a text whose percent signs stand for encoded bytes. -/
def percentDecode : Bytes → Bytes
  | [] => []
  | b :: h :: l :: rest =>
    if b = 0x25 then
      match Text.hexValue? (Char.ofNat h.toNat), Text.hexValue? (Char.ofNat l.toNat) with
      | some high, some low => UInt8.ofNat (16 * high + low) :: percentDecode rest
      | _, _ => b :: percentDecode (h :: l :: rest)
    else b :: percentDecode (h :: l :: rest)
  | b :: rest => b :: percentDecode rest

end TokenDesk.Url
