import TokenDesk.Json.Value

/-!
Reading JSON text. A `Document` shows as much of the text as is JSON: where it stops being so, a
value is `broken` or an array or object stays open. A decoder can thus work through a text from
the front and report the first thing it cannot accept, be it the syntax or the meaning.
-/

namespace TokenDesk.Json

/-- A number as far as decoders look at it: an integer of 64 bits, signed or unsigned, or any
other number, which may be too large for a floating-point one. -/
inductive Numeral
  | integer (value : Int)
  | other (finite : Bool)
  deriving DecidableEq, Repr

/-- A JSON text, as far as it is one. A text that holds half of a surrogate pair has no
characters. -/
inductive Document
  | broken
  | null
  | bool (value : Bool)
  | number (value : Numeral)
  | text (characters : Option (List Char))
  | array (items : List Document) (closed : Bool)
  | object (members : List (Option (List Char) × Document)) (closed : Bool)

def isSpace (c : Char) : Bool := c = ' ' || c = '\n' || c = '\t' || c = '\r'

def dropSpace (cs : List Char) : List Char := cs.dropWhile isSpace

/-- A unit of a text: a character, or a UTF-16 unit given by its number. -/
inductive TextUnit
  | char (c : Char)
  | code (n : Nat)

def fourDigits (a b c d : Char) : Option Nat := do
  let a ← Text.hexValue? a
  let b ← Text.hexValue? b
  let c ← Text.hexValue? c
  let d ← Text.hexValue? d
  return ((a * 16 + b) * 16 + c) * 16 + d

def shortEscape (c : Char) : Option Char :=
  if c = '"' then some '"'
  else if c = '\\' then some '\\'
  else if c = '/' then some '/'
  else if c = 'b' then some '\x08'
  else if c = 'f' then some '\x0c'
  else if c = 'n' then some '\n'
  else if c = 'r' then some '\r'
  else if c = 't' then some '\t'
  else none

/-- The units of a text up to its closing quote, and what follows. -/
def readUnits : List Char → Option (List TextUnit × List Char)
  | [] => none
  | [c] => if c = '"' then some ([], []) else none
  | c :: e :: rest =>
    if c = '"' then some ([], e :: rest)
    else if c = '\\' then
      if e = 'u' then
        match rest with
        | h1 :: h2 :: h3 :: h4 :: rest =>
          match fourDigits h1 h2 h3 h4 with
          | some n => (readUnits rest).map fun (units, after) => (.code n :: units, after)
          | none => none
        | _ => none
      else match shortEscape e with
        | some x => (readUnits rest).map fun (units, after) => (.char x :: units, after)
        | none => none
    else if c.toNat < 0x20 then none
    else (readUnits (e :: rest)).map fun (units, after) => (.char c :: units, after)

/-- The characters of the units, if every surrogate stands in a pair. -/
def joinUnits : List TextUnit → Option (List Char)
  | [] => some []
  | .char c :: rest => (joinUnits rest).map (c :: ·)
  | .code n :: rest =>
    if n < 0xD800 || 0xDFFF < n then (joinUnits rest).map (Char.ofNat n :: ·)
    else match rest with
      | .code m :: rest =>
        if n < 0xDC00 && 0xDC00 ≤ m && m ≤ 0xDFFF then
          (joinUnits rest).map (Char.ofNat (0x10000 + (n - 0xD800) * 0x400 + (m - 0xDC00)) :: ·)
        else none
      | _ => none

/-- A number token in parts. -/
structure NumberToken where
  negative : Bool
  whole : List Char
  /-- The digits behind a point, if there is one. -/
  fraction : Option (List Char)
  /-- The power of ten, if one is given. -/
  exponent : Option Int

/-- Whether `digits * 10 ^ power` has a finite nearest double-precision number. -/
def isFinite (digits : Nat) (power : Int) : Bool :=
  if digits = 0 then true
  else
    let magnitude : Int := (Text.numeral digits).length + power
    if magnitude < 300 then true
    else if 320 < magnitude then false
    else
      let bound := Nat.pow 2 1024 - Nat.pow 2 970
      if 0 ≤ power then digits * 10 ^ power.toNat < bound
      else digits < bound * 10 ^ power.natAbs

def NumberToken.numeral (t : NumberToken) : Numeral :=
  let fraction := t.fraction.getD []
  let digits := Text.digitsValue (t.whole ++ fraction)
  let finite := isFinite digits (t.exponent.getD 0 - fraction.length)
  if t.fraction.isSome || t.exponent.isSome then .other finite
  else if t.negative then
    if digits = 0 || 0x8000_0000_0000_0000 < digits then .other finite
    else .integer (-(digits : Int))
  else if UInt64.size ≤ digits then .other finite
  else .integer digits

/-- The digits at the start of a text and what follows. -/
def spanDigits (cs : List Char) : List Char × List Char :=
  (cs.takeWhile Text.isDigit, cs.dropWhile Text.isDigit)

/-- The fraction after the whole part: none without a point, and at least one digit after one. -/
def readFraction (cs : List Char) : Option (Option (List Char) × List Char) :=
  match cs with
  | c :: rest =>
    if c = '.' then
      let (digits, after) := spanDigits rest
      if digits.isEmpty then none else some (some digits, after)
    else some (none, cs)
  | [] => some (none, [])

def readExponent (cs : List Char) : Option (Option Int × List Char) :=
  match cs with
  | c :: rest =>
    if c = 'e' ∨ c = 'E' then
      let (negative, rest) := match rest with
        | s :: after =>
          if s = '-' then (true, after) else if s = '+' then (false, after) else (false, rest)
        | [] => (false, rest)
      let (digits, after) := spanDigits rest
      if digits.isEmpty then none
      else
        let n : Int := Text.digitsValue digits
        some (some (if negative then -n else n), after)
    else some (none, cs)
  | [] => some (none, [])

/-- A number without a leading zero, and what follows. -/
def readNumber (cs : List Char) : Option (Numeral × List Char) := do
  let (negative, cs) := match cs with
    | c :: rest => if c = '-' then (true, rest) else (false, cs)
    | [] => (false, cs)
  let (whole, rest) := spanDigits cs
  if whole.isEmpty || (whole.length != 1 && whole.head? == some '0') then none
  else
    let (fraction, rest) ← readFraction rest
    let (exponent, rest) ← readExponent rest
    return ((NumberToken.mk negative whole fraction exponent).numeral, rest)

def Document.isBroken : Document → Bool
  | .broken => true
  | _ => false

mutual

/-- Reads a value; `fuel` bounds the number of nested and later values. After a fault nothing is
left of the text. -/
def readValue : Nat → List Char → Document × List Char
  | 0, _ => (.broken, [])
  | fuel + 1, cs =>
    match dropSpace cs with
    | [] => (.broken, [])
    | c :: rest =>
      if c = '"' then
        match readUnits rest with
        | some (units, after) => (.text (joinUnits units), after)
        | none => (.broken, [])
      else if c = '[' then
        match dropSpace rest with
        | ']' :: after => (.array [] true, after)
        | _ =>
          let (items, closed, after) := readItems fuel rest
          (.array items closed, after)
      else if c = '\x7b' then
        match dropSpace rest with
        | '\x7d' :: after => (.object [] true, after)
        | _ =>
          let (members, closed, after) := readMembers fuel rest
          (.object members closed, after)
      else if c = 'n' then
        match rest with
        | 'u' :: 'l' :: 'l' :: after => (.null, after)
        | _ => (.broken, [])
      else if c = 't' then
        match rest with
        | 'r' :: 'u' :: 'e' :: after => (.bool true, after)
        | _ => (.broken, [])
      else if c = 'f' then
        match rest with
        | 'a' :: 'l' :: 's' :: 'e' :: after => (.bool false, after)
        | _ => (.broken, [])
      else match readNumber (c :: rest) with
        | some (n, after) => (.number n, after)
        | none => (.broken, [])

/-- Reads the items of an array from the first one to the closing bracket. -/
def readItems : Nat → List Char → List Document × Bool × List Char
  | 0, _ => ([], false, [])
  | fuel + 1, cs =>
    let (item, rest) := readValue fuel cs
    if item.isBroken then ([item], false, [])
    else match dropSpace rest with
      | [] => ([item], false, [])
      | c :: rest =>
        if c = ',' then
          let (items, closed, after) := readItems fuel rest
          (item :: items, closed, after)
        else if c = ']' then ([item], true, rest)
        else ([item], false, [])

/-- Reads the members of an object from the first one to the closing bracket. -/
def readMembers : Nat → List Char → List (Option (List Char) × Document) × Bool × List Char
  | 0, _ => ([], false, [])
  | fuel + 1, cs =>
    match dropSpace cs with
    | [] => ([], false, [])
    | q :: rest =>
      if q = '"' then
        match readUnits rest with
        | none => ([], false, [])
        | some (units, rest) =>
          let key := joinUnits units
          match dropSpace rest with
          | [] => ([(key, .broken)], false, [])
          | colon :: rest =>
            if colon = ':' then
              let (value, rest) := readValue fuel rest
              if value.isBroken then ([(key, value)], false, [])
              else match dropSpace rest with
                | [] => ([(key, value)], false, [])
                | c :: rest =>
                  if c = ',' then
                    let (members, closed, after) := readMembers fuel rest
                    ((key, value) :: members, closed, after)
                  else if c = '\x7d' then ([(key, value)], true, rest)
                  else ([(key, value)], false, [])
            else ([(key, .broken)], false, [])
      else ([], false, [])

end

mutual

/-- Whether the text of a document is JSON up to its end. -/
def Document.complete : Document → Bool
  | .broken => false
  | .array items closed => closed && completeItems items
  | .object members closed => closed && completeMembers members
  | _ => true

def completeItems : List Document → Bool
  | [] => true
  | item :: rest => item.complete && completeItems rest

def completeMembers : List (Option (List Char) × Document) → Bool
  | [] => true
  | (_, value) :: rest => value.complete && completeMembers rest

end

mutual

/-- Whether a document is a value: complete, with whole texts and finite numbers, and with at most
`depth` arrays and objects around anything in it. -/
def Document.isValue : Nat → Document → Bool
  | _, .broken => false
  | _, .null => true
  | _, .bool _ => true
  | _, .number (.integer _) => true
  | _, .number (.other finite) => finite
  | _, .text characters => characters.isSome
  | 0, .array _ _ => false
  | depth + 1, .array items closed => closed && areValues depth items
  | 0, .object _ _ => false
  | depth + 1, .object members closed => closed && areMembers depth members

def areValues : Nat → List Document → Bool
  | _, [] => true
  | depth, item :: rest => item.isValue depth && areValues depth rest

def areMembers : Nat → List (Option (List Char) × Document) → Bool
  | _, [] => true
  | depth, (key, value) :: rest => key.isSome && value.isValue depth && areMembers depth rest

end

/-- Reads a text. The second part tells whether nothing but space follows the value. -/
def read (cs : List Char) : Document × Bool :=
  let (document, rest) := readValue (2 * cs.length + 2) cs
  (document, (dropSpace rest).isEmpty)

mutual

def toDocument : Json → Document
  | .null => .null
  | .bool b => .bool b
  | .int i => .number (.integer i)
  | .text s => .text (some s.toList)
  | .array items => .array (toDocuments items) true
  | .object members => .object (toMembers members) true

def toDocuments : List Json → List Document
  | [] => []
  | item :: rest => item.toDocument :: toDocuments rest

def toMembers : List (String × Json) → List (Option (List Char) × Document)
  | [] => []
  | (key, value) :: rest => (some key.toList, value.toDocument) :: toMembers rest

end

end TokenDesk.Json
