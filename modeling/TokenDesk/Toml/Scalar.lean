import TokenDesk.Json.Document
import TokenDesk.Toml.Value

/-!
Texts, numbers and moments of a configuration document. Each reader takes what the grammar allows
from the front of a text and gives it with what follows.
-/

namespace TokenDesk.Toml

def isSpace (c : Char) : Bool := c = ' ' || c = '\t'

/-- The characters of comments and of quoted texts: all but control characters, and the tab. -/
def isPlain (c : Char) : Bool := c = '\t' || (0x20 ≤ c.toNat && c.toNat ≠ 0x7F)

def dropSpace (cs : List Char) : List Char := cs.dropWhile isSpace

/-- The text after the end of a line, if the line ends here. -/
def dropLineEnd? : List Char → Option (List Char)
  | '\n' :: rest => some rest
  | '\r' :: '\n' :: rest => some rest
  | _ => none

/-- How many characters at the start of a text are spaces, tabs or ends of lines. -/
def blankSize : List Char → Nat
  | [] => 0
  | [c] => if isSpace c || c = '\n' then 1 else 0
  | c :: d :: rest =>
    if isSpace c || c = '\n' || (c = '\r' && d = '\n') then blankSize (d :: rest) + 1 else 0

/-- How many characters a backslash at the end of a line takes with it. -/
def joinSize? (cs : List Char) : Option Nat :=
  (dropLineEnd? (dropSpace cs)).map fun _ => blankSize cs

def codeChar? (digits : List Char) (size : Nat) : Option Char :=
  match digits.mapM Text.hexValue? with
  | some values =>
    let code := values.foldl (fun n d => 16 * n + d) 0
    if values.length = size ∧ (code < 0xD800 ∨ (0xDFFF < code ∧ code ≤ 0x10FFFF)) then
      some (Char.ofNat code)
    else none
  | none => none

/-- The character that an escape gives, and the size of what follows the backslash. -/
def escape? : List Char → Option (Char × Nat)
  | [] => none
  | c :: rest =>
    if c = '"' || c = '\\' then some (c, 1)
    else if c = 'b' then some ('\x08', 1)
    else if c = 'f' then some ('\x0c', 1)
    else if c = 'n' then some ('\n', 1)
    else if c = 'r' then some ('\r', 1)
    else if c = 't' then some ('\t', 1)
    else if c = 'u' then (codeChar? (rest.take 4) 4).map fun x => (x, 5)
    else if c = 'U' then (codeChar? (rest.take 8) 8).map fun x => (x, 9)
    else none

def pushChar (c : Char) (reading : Option (List Char × List Char)) :
    Option (List Char × List Char) :=
  reading.map fun (text, rest) => (c :: text, rest)

/-- A text on one line up to its closing quote; `skip` characters belong to an escape. -/
def readLineText (quote : Char) (escapes : Bool) : Nat → List Char → Option (List Char × List Char)
  | _, [] => none
  | skip + 1, _ :: rest => readLineText quote escapes skip rest
  | 0, c :: rest =>
    if c = quote then some ([], rest)
    else if escapes && c = '\\' then
      match escape? rest with
      | some (x, size) => pushChar x (readLineText quote escapes size rest)
      | none => none
    else if isPlain c then pushChar c (readLineText quote escapes 0 rest)
    else none

/-- A text on any number of lines up to its three closing quotes, of which the last three of at
most five count; `skip` characters belong to an escape. Lines end in a line feed alone. -/
def readBlockText (quote : Char) (escapes : Bool) : Nat → List Char → Option (List Char × List Char)
  | _, [] => none
  | skip + 1, _ :: rest => readBlockText quote escapes skip rest
  | 0, c :: rest =>
    if c = quote then
      let run := ((c :: rest).takeWhile (· = quote)).length
      if 3 ≤ run then
        let taken := min run 5
        some (List.replicate (taken - 3) quote, (c :: rest).drop taken)
      else pushChar c (readBlockText quote escapes 0 rest)
    else if escapes && c = '\\' then
      match joinSize? rest with
      | some size => readBlockText quote escapes size rest
      | none =>
        match escape? rest with
        | some (x, size) => pushChar x (readBlockText quote escapes size rest)
        | none => none
    else if c = '\n' then pushChar c (readBlockText quote escapes 0 rest)
    else if c = '\r' then
      if rest.head? = some '\n' then readBlockText quote escapes 0 rest else none
    else if isPlain c then pushChar c (readBlockText quote escapes 0 rest)
    else none

/-- A text after its first quote. Double quotes allow escapes, single ones do not. -/
def readText (quote : Char) (cs : List Char) : Option (List Char × List Char) :=
  let escapes := quote = '"'
  match cs with
  | a :: b :: rest =>
    if a = quote ∧ b = quote then readBlockText quote escapes 0 ((dropLineEnd? rest).getD rest)
    else readLineText quote escapes 0 cs
  | _ => readLineText quote escapes 0 cs

/-- The digits after a first one. Single underscores may stand between digits. -/
def moreDigits (isDigit : Char → Bool) : List Char → Option (List Char × List Char)
  | [] => some ([], [])
  | [c] => if isDigit c then some ([c], []) else if c = '_' then none else some ([], [c])
  | c :: d :: rest =>
    if isDigit c then pushChar c (moreDigits isDigit (d :: rest))
    else if c = '_' then if isDigit d then moreDigits isDigit (d :: rest) else none
    else some ([], c :: d :: rest)

def someDigits (isDigit : Char → Bool) : List Char → Option (List Char × List Char)
  | [] => none
  | c :: rest => if isDigit c then pushChar c (moreDigits isDigit rest) else none

def wholeDigits : List Char → Option (List Char × List Char)
  | [] => none
  | c :: rest => if c = '0' then some ([c], rest) else someDigits Text.isDigit (c :: rest)

/-- A number of a given base, behind the mark of the base. -/
def readBased (base : Nat) (cs : List Char) : Option (Value × List Char) :=
  match someDigits (fun c => (Text.hexValue? c).elim false (· < base)) cs with
  | some (digits, rest) =>
    let value := digits.foldl (fun n c => base * n + (Text.hexValue? c).getD 0) 0
    if value < 0x8000_0000_0000_0000 then some (.int value, rest) else none
  | none => none

def readPower (cs : List Char) : Option (Int × List Char) :=
  let (negative, cs) := match cs with
    | '-' :: rest => (true, rest)
    | '+' :: rest => (false, rest)
    | _ => (false, cs)
  (someDigits Text.isDigit cs).map fun (digits, rest) =>
    let power : Int := Text.digitsValue digits
    (if negative then -power else power, rest)

/-- What follows the whole part of a number: a fraction, a power of ten, both or neither. -/
def readFraction (cs : List Char) : Option (List Char × Option Int × List Char) := do
  let (fraction, rest) ← match cs with
    | '.' :: rest => someDigits Text.isDigit rest
    | _ => some ([], cs)
  match rest with
  | c :: after =>
    if c = 'e' ∨ c = 'E' then
      let (power, rest) ← readPower after
      some (fraction, some power, rest)
    else some (fraction, none, rest)
  | [] => some (fraction, none, rest)

/-- A decimal number after its sign. A whole number has to fit 64 bits, and another one that is
positive has to have a finite nearest double-precision number. -/
def readDecimal (negative : Bool) (cs : List Char) : Option (Value × List Char) := do
  let (whole, rest) ← wholeDigits cs
  let (fraction, power, rest) ← readFraction rest
  let digits := Text.digitsValue (whole ++ fraction)
  if fraction.isEmpty && power.isNone then
    let most := if negative then 0x8000_0000_0000_0000 else 0x7FFF_FFFF_FFFF_FFFF
    if digits ≤ most then some (.int (if negative then -(digits : Int) else digits), rest) else none
  else if negative || Json.isFinite digits (power.getD 0 - fraction.length) then some (.real, rest)
  else none

/-- A number after its sign: infinity, no number at all, or a decimal number. -/
def readSigned (negative : Bool) : List Char → Option (Value × List Char)
  | 'i' :: 'n' :: 'f' :: rest => some (.real, rest)
  | 'n' :: 'a' :: 'n' :: rest => some (.real, rest)
  | cs => readDecimal negative cs

def readNumber : List Char → Option (Value × List Char)
  | '0' :: 'x' :: rest => readBased 16 rest
  | '0' :: 'o' :: rest => readBased 8 rest
  | '0' :: 'b' :: rest => readBased 2 rest
  | '+' :: rest => readSigned false rest
  | '-' :: rest => readSigned true rest
  | cs => readSigned false cs

/-- A number of exactly `size` digits between two bounds. -/
def readFixed (size low high : Nat) (cs : List Char) : Option (Nat × List Char) :=
  let digits := cs.take size
  let n := Text.digitsValue digits
  if digits.length = size ∧ digits.all Text.isDigit ∧ low ≤ n ∧ n ≤ high then
    some (n, cs.drop size)
  else none

def dropMark? (mark : Char) : List Char → Option (List Char)
  | [] => none
  | c :: rest => if c = mark then some rest else none

def monthLength (year month : Nat) : Nat :=
  if month = 2 then
    if year % 4 = 0 ∧ (year % 100 ≠ 0 ∨ year % 400 = 0) then 29 else 28
  else if month = 4 ∨ month = 6 ∨ month = 9 ∨ month = 11 then 30
  else 31

/-- A date: year, month and day. -/
def dropDate? (cs : List Char) : Option (List Char) := do
  let (year, cs) ← readFixed 4 0 9999 cs
  let (month, cs) ← readFixed 2 1 12 (← dropMark? '-' cs)
  let (_, cs) ← readFixed 2 1 (monthLength year month) (← dropMark? '-' cs)
  return cs

/-- A time of day, with or without a fraction of a second. -/
def dropTime? (cs : List Char) : Option (List Char) := do
  let (_, cs) ← readFixed 2 0 23 cs
  let (_, cs) ← readFixed 2 0 59 (← dropMark? ':' cs)
  let (_, cs) ← readFixed 2 0 60 (← dropMark? ':' cs)
  match cs with
  | '.' :: d :: rest =>
    return if Text.isDigit d then rest.dropWhile Text.isDigit else cs
  | _ => return cs

/-- The distance from universal time, if one is given. -/
def dropOffset? : List Char → Option (List Char)
  | 'Z' :: rest => some rest
  | 'z' :: rest => some rest
  | c :: rest =>
    if c = '+' ∨ c = '-' then do
      let (_, rest) ← readFixed 2 0 23 rest
      let (_, rest) ← readFixed 2 0 59 (← dropMark? ':' rest)
      return rest
    else some (c :: rest)
  | [] => some []

/-- A moment: a date, a time of day, or both with or without the distance from universal time. -/
def dropMoment? (cs : List Char) : Option (List Char) :=
  match dropDate? cs with
  | none => dropTime? cs
  | some rest =>
    match rest with
    | c :: after =>
      if c = 'T' ∨ c = 't' ∨ c = ' ' then
        match dropTime? after with
        | some rest => dropOffset? rest
        | none => some rest
      else some rest
    | [] => some []

def readQuantity (cs : List Char) : Option (Value × List Char) :=
  match dropMoment? cs with
  | some rest => some (.moment, rest)
  | none => readNumber cs

end TokenDesk.Toml
