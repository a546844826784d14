import TokenDesk.Text.Hex
import TokenDesk.Text.Unprintable
import TokenDesk.Text.Extending

/-!
Quoted text for messages. Line breaks, tabs and the null character have short escapes, characters
without a printed form and characters that join the one before them are written by their number,
and everything else stands for itself.
-/

namespace TokenDesk.Text

def inRanges (ranges : List (Nat × Nat)) (n : Nat) : Bool :=
  ranges.any fun (low, high) => low ≤ n && n ≤ high

def isPrintable (c : Char) : Bool :=
  (0x20 ≤ c.toNat && c.toNat ≤ 0x7E) ||
    (!inRanges unprintableRanges c.toNat && !inRanges extendingRanges c.toNat)

def escapeWithin (mark : Char) (c : Char) : List Char :=
  if c = '\x00' then ['\\', '0']
  else if c = '\t' then ['\\', 't']
  else if c = '\r' then ['\\', 'r']
  else if c = '\n' then ['\\', 'n']
  else if c = '\\' then ['\\', '\\']
  else if c = mark then ['\\', mark]
  else if isPrintable c then [c]
  else ['\\', 'u', '\x7b'] ++ hexNumeral c.toNat ++ ['\x7d']

def quote (cs : List Char) : List Char :=
  '"' :: cs.flatMap (escapeWithin '"') ++ ['"']

def quoteString (s : String) : String := String.ofList (quote s.toList)

def quoteChar (c : Char) : String := String.ofList ('\'' :: escapeWithin '\'' c ++ ['\''])

/-- The wording of a fault in hexadecimal text; the offending byte is shown as the character with
its number. -/
def HexError.message : HexError → String
  | .oddLength => "odd number of digits"
  | .wrongLength => "invalid string length"
  | .badDigit byte position =>
    "invalid character " ++ quoteChar (Char.ofNat byte.toNat) ++ " at position " ++
      toString position

end TokenDesk.Text
