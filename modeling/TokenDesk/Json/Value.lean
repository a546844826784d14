import TokenDesk.Text.Digits
import TokenDesk.Text.Hex

/-!
JSON values and their compact text. Members of an object keep their order, and every character
stands for itself except quotes, backslashes and control characters.
-/

namespace TokenDesk

/-- A JSON value whose numbers are integers. -/
inductive Json
  | null
  | bool (value : Bool)
  | int (value : Int)
  | text (value : String)
  | array (items : List Json)
  | object (members : List (String × Json))

namespace Json

def nat (n : Nat) : Json := .int n

/-- A text, or null. -/
def ofText? (s : Option String) : Json := s.elim .null .text

def escape (c : Char) : List Char :=
  if c = '"' then ['\\', '"']
  else if c = '\\' then ['\\', '\\']
  else if c = '\n' then ['\\', 'n']
  else if c = '\r' then ['\\', 'r']
  else if c = '\t' then ['\\', 't']
  else if c = '\x08' then ['\\', 'b']
  else if c = '\x0c' then ['\\', 'f']
  else if c.toNat < 0x20 then
    ['\\', 'u', '0', '0', Text.hexDigit (c.toNat / 16), Text.hexDigit (c.toNat % 16)]
  else [c]

def quoted (s : String) : List Char := '"' :: s.toList.flatMap escape ++ ['"']

mutual

def chars : Json → List Char
  | .null => ['n', 'u', 'l', 'l']
  | .bool true => ['t', 'r', 'u', 'e']
  | .bool false => ['f', 'a', 'l', 's', 'e']
  | .int i => Text.intNumeral i
  | .text s => quoted s
  | .array [] => ['[', ']']
  | .array (item :: rest) => '[' :: chars item ++ itemChars rest
  | .object [] => ['\x7b', '\x7d']
  | .object ((key, value) :: rest) =>
    '\x7b' :: quoted key ++ ':' :: chars value ++ memberChars rest

def itemChars : List Json → List Char
  | [] => [']']
  | item :: rest => ',' :: chars item ++ itemChars rest

def memberChars : List (String × Json) → List Char
  | [] => ['\x7d']
  | (key, value) :: rest => ',' :: quoted key ++ ':' :: chars value ++ memberChars rest

end

def unitEscape (n : Nat) : List Char :=
  ['\\', 'u', Text.hexDigit (n / 4096), Text.hexDigit (n / 256 % 16),
    Text.hexDigit (n / 16 % 16), Text.hexDigit (n % 16)]

/-- A character of a value's text, in ASCII. -/
def asciiEscape (c : Char) : List Char :=
  let n := c.toNat
  if n < 0x7F then [c]
  else if n < 0x10000 then unitEscape n
  else unitEscape (0xD800 + (n - 0x10000) / 0x400) ++ unitEscape (0xDC00 + (n - 0x10000) % 0x400)

/-- The compact text of a value with escapes for all that is not ASCII. -/
def asciiChars (j : Json) : List Char := j.chars.flatMap asciiEscape

mutual

def mapTexts (f : String → String) : Json → Json
  | .text s => .text (f s)
  | .array items => .array (mapItems f items)
  | .object members => .object (mapMembers f members)
  | j => j

def mapItems (f : String → String) : List Json → List Json
  | [] => []
  | j :: rest => mapTexts f j :: mapItems f rest

def mapMembers (f : String → String) : List (String × Json) → List (String × Json)
  | [] => []
  | (key, j) :: rest => (key, mapTexts f j) :: mapMembers f rest

end

def render (j : Json) : String := String.ofList j.chars

end Json

end TokenDesk
