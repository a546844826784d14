import TokenDesk.Text.Blank
import TokenDesk.Text.Split
import TokenDesk.Text.Utf8

/-!
Bytes in textual armor: a first and a last line with a label between dashes, and between them the
bytes in base 64, perhaps after headers and an empty line.
-/

namespace TokenDesk.KeyFile

def sextet? (c : Char) : Option Nat :=
  let n := c.toNat
  if 'A' ≤ c && c ≤ 'Z' then some (n - 65)
  else if 'a' ≤ c && c ≤ 'z' then some (n - 71)
  else if '0' ≤ c && c ≤ '9' then some (n + 4)
  else if c = '+' then some 62
  else if c = '/' then some 63
  else none

/-- Reads base 64 in groups of four digits. Only the last group is padded, and its unused bits are
zero. -/
def readBase64 : List Char → Option Bytes
  | [] => some []
  | a :: b :: c :: d :: rest => do
    let a ← sextet? a
    let b ← sextet? b
    if rest.isEmpty && d = '=' then
      if c = '=' then
        if b % 16 = 0 then some (Bytes.ofNat 1 ((a * 64 + b) / 16)) else none
      else
        let c ← sextet? c
        if c % 4 = 0 then some (Bytes.ofNat 2 (((a * 64 + b) * 64 + c) / 4)) else none
    else
      let c ← sextet? c
      let d ← sextet? d
      let later ← readBase64 rest
      return Bytes.ofNat 3 (((a * 64 + b) * 64 + c) * 64 + d) ++ later
  | _ => none

/-- The bytes before and after the first place where a part occurs. -/
def cutAt? (part : Bytes) : Bytes → Option (Bytes × Bytes)
  | [] => if part.isEmpty then some ([], []) else none
  | b :: rest =>
    if part.isPrefixOf (b :: rest) then some ([], (b :: rest).drop part.length)
    else (cutAt? part rest).map fun (before, after) => (b :: before, after)

def ascii (text : String) : Bytes := Text.utf8 text.toList

/-- The bytes after leading spaces, tabs and ends of lines. -/
def dropBlankBytes (bytes : Bytes) : Bytes :=
  bytes.dropWhile fun b => b = 9 || b = 10 || b = 13 || b = 32

/-- The headers and the data between the first and the last line. -/
def cutHeaders (body : Bytes) : Bytes × Bytes :=
  ((cutAt? (ascii "\n\n") body).or (cutAt? (ascii "\r\n\r\n") body)).getD ([], body)

/-- Whether every line of the headers names something before a colon. -/
def areHeaders (text : List Char) : Bool :=
  let lines := Text.splitAt '\n' text
  let lines := if lines.getLast? = some [] then lines.dropLast else lines
  lines.all fun line => line.contains ':'

/-- Bytes with a label. -/
structure Armored where
  label : String
  content : Bytes
  deriving DecidableEq, Repr

/-- The first armored bytes of a file. The labels of the first and the last line agree. -/
def readArmor (file : Bytes) : Option Armored := do
  let (_, rest) ← cutAt? (ascii "-----BEGIN ") file
  let (opening, rest) ← cutAt? (ascii "-----") rest
  let (body, rest) ← cutAt? (ascii "-----END ") (dropBlankBytes rest)
  let (closing, _) ← cutAt? (ascii "-----") rest
  let opening ← Text.readUtf8? opening
  let closing ← Text.readUtf8? closing
  let (headers, data) := cutHeaders body
  let headers ← Text.readUtf8? headers
  let data ← Text.readUtf8? data
  if opening.isEmpty || opening != closing || !areHeaders headers then none
  else
    let content ← readBase64 (data.filter fun c => !Text.isBlank c)
    return ⟨String.ofList opening, content⟩

end TokenDesk.KeyFile
