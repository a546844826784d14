import TokenDesk.Power

/-!
Decimal numerals. `numeral` writes a natural number without leading zeros, `readNumeral` reads any
non-empty run of digits, and the two bounded readers accept an optional sign in front.
-/

namespace TokenDesk.Text

def isDigit (c : Char) : Bool := '0' ≤ c && c ≤ '9'

def digitValue (c : Char) : Nat := c.toNat - '0'.toNat

def digitChar (n : Nat) : Char := Char.ofNat ('0'.toNat + n)

/-- The decimal numeral of a number, without leading zeros. -/
def numeral (n : Nat) : List Char :=
  if n < 10 then [digitChar n] else numeral (n / 10) ++ [digitChar (n % 10)]

/-- The decimal numeral of an integer, with a minus sign in front of a negative one. -/
def intNumeral (i : Int) : List Char :=
  if i < 0 then '-' :: numeral i.natAbs else numeral i.natAbs

/-- A numeral with zeros in front, up to a width. -/
def paddedNumeral (width n : Nat) : List Char :=
  let digits := numeral n
  List.replicate (width - digits.length) '0' ++ digits

def digitsValue (cs : List Char) : Nat :=
  cs.foldl (fun n c => 10 * n + digitValue c) 0

def readNumeral (cs : List Char) : Option Nat :=
  if cs.isEmpty || !cs.all isDigit then none else some (digitsValue cs)

/-- Reads an unsigned number of at most `most`: digits after an optional plus sign. -/
def readUnsigned (most : Nat) (cs : List Char) : Option Nat :=
  let digits := match cs with
    | '+' :: rest => rest
    | _ => cs
  match readNumeral digits with
  | some n => if n ≤ most then some n else none
  | none => none

/-- Reads a signed 64-bit number: digits after an optional sign. -/
def readInt64 (cs : List Char) : Option Int :=
  match cs with
  | '-' :: rest =>
    match readNumeral rest with
    | some n => if n ≤ 0x8000_0000_0000_0000 then some (-(n : Int)) else none
    | none => none
  | _ => (readUnsigned 0x7FFF_FFFF_FFFF_FFFF cs).map fun n => (n : Int)

def numeralString (n : Nat) : String := String.ofList (numeral n)

def intString (i : Int) : String := String.ofList (intNumeral i)

end TokenDesk.Text
