import TokenDesk.Text.Split
import TokenDesk.Text.Utf8
import TokenDesk.Url.Basic
import TokenDesk.Url.Encoding
import TokenDesk.Url.Punycode

/-!
Hosts of addresses: domain names in their ASCII form, addresses of four bytes, and addresses of
eight 16-bit groups in square brackets.

A domain name of ASCII letters comes to its normal form as the standard has it, unless a label of it
is in Punycode. Of the mapping of other characters only a part is here: the lower case of the
letters named at `lowerLetter`, full-width forms, ideographic full stops and four characters that
vanish. Left out are all other lower-case and compatibility forms, the composition of letters with
their accents, the characters and sequences that the standard forbids, and the check of labels that
already begin with `xn--`, which stay as they are.
-/

namespace TokenDesk.Url

/-- The lower-case letter of a letter of the Latin alphabet (with accents up to U+017E, but for
U+0130 and U+0178), of the Greek alphabet without accents, or of the Cyrillic alphabet. Other
characters stay as they are, also those that have a lower case. -/
def lowerLetter (c : Char) : Char :=
  let n := c.toNat
  if (0x41 ≤ n && n ≤ 0x5A) || (0xC0 ≤ n && n ≤ 0xDE && n ≠ 0xD7) ||
      (0x391 ≤ n && n ≤ 0x3A9 && n ≠ 0x3A2) || (0x410 ≤ n && n ≤ 0x42F) then Char.ofNat (n + 32)
  else if 0x400 ≤ n && n ≤ 0x40F then Char.ofNat (n + 80)
  else if (0x100 ≤ n && n ≤ 0x137 && n ≠ 0x130) || (0x14A ≤ n && n ≤ 0x177) ||
      (0x460 ≤ n && n ≤ 0x481) || (0x48A ≤ n && n ≤ 0x4BF) || (0x4D0 ≤ n && n ≤ 0x52F) then
    Char.ofNat (n + 1 - n % 2)
  else if (0x139 ≤ n && n ≤ 0x148) || (0x179 ≤ n && n ≤ 0x17E) || (0x4C1 ≤ n && n ≤ 0x4CE) then
    Char.ofNat (n + n % 2)
  else c

/-- A character of a domain name in its normal form, as far as it is here; soft hyphens and marks of
no width vanish, full-width forms become plain, and every kind of full stop is a point. -/
def domainCharacter (c : Char) : List Char :=
  let n := c.toNat
  if n = 0xAD || n = 0x200B || n = 0x2060 || n = 0xFEFF then []
  else if n = 0x3002 || n = 0xFF0E || n = 0xFF61 then ['.']
  else if 0xFF01 ≤ n && n ≤ 0xFF5E then [lowerLetter (Char.ofNat (n - 0xFEE0))]
  else [lowerLetter c]

def isForbiddenInDomain (c : Char) : Bool :=
  c.toNat ≤ 0x20 || c.toNat = 0x7F || "%#/:<>?@[\\]^|".toList.contains c

def labelText (label : List Char) : List Char :=
  if label.all fun c => c.toNat < 128 then label else "xn--".toList ++ Punycode.encode label

/-- A domain name in its ASCII form. Labels that hold other characters are written in Punycode, one
that begins with `xn--` is taken as it is. -/
def domainText (domain : List Char) : Except ReadError (List Char) :=
  let normal := domain.flatMap domainCharacter
  if normal.any isForbiddenInDomain then .error .badDomain
  else
    let labels := (Text.splitAt '.' normal).map labelText
    .ok (['.'].intercalate labels)

/-- Reads a number in a four-byte address: decimal, octal behind a zero, or hexadecimal. -/
def readIpv4Number (text : List Char) : Option Nat :=
  match text with
  | [] => none
  | '0' :: 'x' :: rest => hexadecimal rest
  | '0' :: 'X' :: rest => hexadecimal rest
  | '0' :: d :: rest =>
    if (d :: rest).all fun c => '0' ≤ c && c ≤ '7' then
      some ((d :: rest).foldl (fun n c => 8 * n + Text.digitValue c) 0)
    else none
  | _ => Text.readNumeral text
where
  /-- The value of hexadecimal digits; none at all are zero. -/
  hexadecimal (digits : List Char) : Option Nat :=
    digits.foldlM (fun n c => (Text.hexValue? c).map (16 * n + ·)) 0

/-- The parts of a domain name, without an empty one at the end. -/
def domainParts (domain : List Char) : List (List Char) :=
  let parts := Text.splitAt '.' domain
  if 1 < parts.length && parts.getLast? = some [] then parts.dropLast else parts

/-- Whether a domain name has to be an address, because its last part is a number. -/
def endsInNumber (domain : List Char) : Bool :=
  match (domainParts domain).getLast? with
  | some last => (!last.isEmpty && last.all Text.isDigit) || (readIpv4Number last).isSome
  | none => false

/-- Reads a four-byte address; the last number fills all bytes that are left. -/
def readIpv4 (domain : List Char) : Except ReadError (List Char) :=
  match (domainParts domain).mapM readIpv4Number with
  | none => .error .badIpv4
  | some numbers =>
    match numbers.getLast? with
    | none => .error .badIpv4
    | some last =>
      let front := numbers.dropLast
      if 3 < front.length || front.any (255 < ·) || 256 ^ (4 - front.length) ≤ last then
        .error .badIpv4
      else
        let bytes := front.map UInt8.ofNat ++ Bytes.ofNat (4 - front.length) last
        .ok (['.'].intercalate (bytes.map fun b => Text.numeral b.toNat))

def readGroup (text : List Char) : Option Nat :=
  if text.isEmpty || 4 < text.length then none
  else text.foldlM (fun n c => (Text.hexValue? c).map (16 * n + ·)) 0

/-- Reads a byte in decimal, without a leading zero. -/
def readByte (text : List Char) : Option Nat :=
  match text, Text.readNumeral text with
  | '0' :: _ :: _, _ => none
  | _, some n => if n < 256 then some n else none
  | _, none => none

/-- Reads groups between colons. A four-byte address may stand for the last two if nothing
follows. -/
def readGroups (atEnd : Bool) (text : List Char) : Option (List Nat) :=
  if text.isEmpty then some []
  else
    let parts := Text.splitAt ':' text
    match parts.getLast? with
    | none => some []
    | some last =>
      if atEnd && last.contains '.' then do
        let front ← parts.dropLast.mapM readGroup
        let bytes ← (Text.splitAt '.' last).mapM readByte
        match bytes with
        | [a, b, c, d] => return front ++ [256 * a + b, 256 * c + d]
        | _ => none
      else parts.mapM readGroup

def splitGap : List Char → Option (List Char × List Char)
  | ':' :: ':' :: rest => some ([], rest)
  | c :: rest => (splitGap rest).map fun (before, after) => (c :: before, after)
  | [] => none

/-- Reads eight groups; a pair of colons stands for groups of zero. -/
def readIpv6Groups (text : List Char) : Option (List Nat) :=
  match splitGap text with
  | none => do
    let groups ← readGroups true text
    if groups.length = 8 then some groups else none
  | some (before, after) => do
    let front ← readGroups false before
    let back ← readGroups true after
    if front.length + back.length ≤ 7 then
      some (front ++ List.replicate (8 - front.length - back.length) 0 ++ back)
    else none

def leadingZeros (groups : List Nat) : Nat := (groups.takeWhile (· = 0)).length

/-- Where the first longest run of zeros begins, and its length. -/
def longestZeros (place : Nat) : List Nat → Nat × Nat
  | [] => (place, 0)
  | group :: rest =>
    let here := leadingZeros (group :: rest)
    let (later, length) := longestZeros (place + 1) rest
    if length ≤ here then (place, here) else (later, length)

def groupText (groups : List Nat) : List Char :=
  [':'].intercalate (groups.map Text.hexNumeral)

/-- Eight groups as text; the first longest run of two or more zeros is left out. -/
def ipv6Text (groups : List Nat) : List Char :=
  let (start, length) := longestZeros 0 groups
  if length < 2 then groupText groups
  else groupText (groups.take start) ++ [':', ':'] ++ groupText (groups.drop (start + length))

def readBracketed (text : List Char) : Except ReadError (List Char) :=
  if text.getLast? = some ']' then
    match readIpv6Groups text.dropLast with
    | some groups => .ok ('[' :: ipv6Text groups ++ [']'])
    | none => .error .badIpv6
  else .error .badIpv6

def readSpecialHost (text : List Char) : Except ReadError (List Char) :=
  match text with
  | '[' :: rest => readBracketed rest
  | _ =>
    match Text.readUtf8? (percentDecode (Text.utf8 text)) with
    | none => .error .badDomain
    | some domain => do
      let domain ← domainText domain
      if domain.isEmpty then throw .emptyHost
      else if endsInNumber domain then readIpv4 domain
      else return domain

def readPlainHost (text : List Char) : Except ReadError (List Char) :=
  match text with
  | '[' :: rest => readBracketed rest
  | _ =>
    if text.any fun c => c.toNat = 0 || " #/:<>?@[\\]^|\t\n\r".toList.contains c then
      .error .badDomainCharacter
    else .ok (percentEncode "" text)

end TokenDesk.Url
