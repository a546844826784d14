import TokenDesk.Url.Host

/-!
Reading addresses on the web. Space and control characters at the ends and tabs and line breaks
anywhere are dropped. Where the rules of the web hold, a backslash is a slash; dot segments are
resolved; and a port that the scheme implies is left out.
-/

namespace TokenDesk.Url

/-- The text without tabs and line breaks, which count nowhere. -/
def withoutBreaks (text : List Char) : List Char :=
  text.filter fun c => c ≠ '\t' && c ≠ '\n' && c ≠ '\r'

/-- The text that is read: without control characters and space at the ends, and without tabs and
line breaks. -/
def cleaned (text : List Char) : List Char :=
  let trim (cs : List Char) := cs.dropWhile fun c => c.toNat ≤ 0x20
  withoutBreaks (trim (trim text).reverse).reverse

def lowerAscii (c : Char) : Char := if 'A' ≤ c && c ≤ 'Z' then Char.ofNat (c.toNat + 32) else c

def splitScheme (text : List Char) : Option (List Char × List Char) :=
  match Text.splitOnce ':' text with
  | some (scheme, rest) =>
    match scheme with
    | first :: more =>
      if first.isAlpha && more.all fun c => c.isAlphanum || c = '+' || c = '-' || c = '.' then
        some (scheme.map lowerAscii, rest)
      else none
    | [] => none
  | none => none

def isSlash (special : Bool) (c : Char) : Bool := c = '/' || (special && c = '\\')

/-- Whether a character ends the part of an address that names the host. -/
def endsAuthority (special : Bool) (c : Char) : Bool := isSlash special c || c = '?' || c = '#'

def plainDots : List Char → List Char
  | '%' :: '2' :: 'e' :: rest => '.' :: plainDots rest
  | '%' :: '2' :: 'E' :: rest => '.' :: plainDots rest
  | c :: rest => c :: plainDots rest
  | [] => []

/-- Adds a finished segment to a path. A double point takes the last segment away, a single one
adds nothing; at the end of the path both leave an empty segment. -/
def addSegment (parts : List (List Char)) (segment : List Char) (last : Bool) :
    List (List Char) :=
  if plainDots segment = ['.', '.'] then
    if last then parts.dropLast ++ [[]] else parts.dropLast
  else if plainDots segment = ['.'] then
    if last then parts ++ [[]] else parts
  else parts ++ [segment]

/-- The segments of a path; `segment` is the reverse of what has been read of the current one. -/
def readSegments (special : Bool) (parts : List (List Char)) (segment : List Char) :
    List Char → List (List Char)
  | [] => addSegment parts (percentEncode pathMarks segment.reverse) true
  | c :: rest =>
    if isSlash special c then
      let parts := addSegment parts (percentEncode pathMarks segment.reverse) false
      readSegments special parts [] rest
    else readSegments special parts (c :: segment) rest

def readPath (special : Bool) (text : List Char) : List (List Char) :=
  match text with
  | [] => if special then [[]] else []
  | c :: rest =>
    if isSlash special c then readSegments special [] [] rest else readSegments special [] [] text

/-- The text up to the first of some marks, and the rest from the mark on. -/
def splitBefore (isMark : Char → Bool) (text : List Char) : List Char × List Char :=
  (text.takeWhile fun c => !isMark c, text.dropWhile fun c => !isMark c)

/-- Splits the query and the fragment off; both are encoded. -/
def readEnding (special : Bool) (text : List Char) :
    List Char × Option (List Char) × Option (List Char) :=
  let (front, fragment) := splitBefore (· = '#') text
  let (path, query) := splitBefore (· = '?') front
  let marks := if special then specialQueryMarks else queryMarks
  (path, query.tail?.map (percentEncode marks), fragment.tail?.map (percentEncode fragmentMarks))

/-- Splits user and password off in front of the last at sign. -/
def readUser (text : List Char) : Option (List Char × List Char) × List Char :=
  match Text.splitOnce '@' text.reverse with
  | none => (none, text)
  | some (host, user) =>
    let (name, password) := splitBefore (· = ':') user.reverse
    (some (percentEncode userMarks name, percentEncode userMarks (password.drop 1)), host.reverse)

/-- The host and what stands behind its colon; a colon in brackets belongs to the host. -/
def splitPort (inBrackets : Bool) : List Char → List Char × Option (List Char)
  | [] => ([], none)
  | c :: rest =>
    if c = ':' && !inBrackets then ([], some rest)
    else
      let inBrackets := if c = '[' then true else if c = ']' then false else inBrackets
      let (host, port) := splitPort inBrackets rest
      (c :: host, port)

/-- Reads a port; none at all and the one that the scheme implies are left out. -/
def readPort (scheme : List Char) : Option (List Char) → Except ReadError (Option Nat)
  | none => .ok none
  | some [] => .ok none
  | some digits =>
    match Text.readNumeral digits with
    | some n =>
      if 65535 < n then .error .badPort
      else .ok (if defaultPort? scheme = some n then none else some n)
    | none => .error .badPort

/-- Reads who is addressed: user, password, host and port. A user without a host may stand there
only if nothing follows. -/
def readAuthority (scheme text : List Char) (followed : Bool) :
    Except ReadError (List Char × List Char × List Char × Option Nat) := do
  let (user, site) := readUser text
  if user.isSome && site.isEmpty && followed then throw .emptyHost
  let (name, port) := splitPort false site
  let host ←
    if isSpecial scheme then (if name.isEmpty then .error .emptyHost else readSpecialHost name)
    else readPlainHost name
  if host.isEmpty && port.isSome then throw .emptyHost
  let port ← readPort scheme port
  let (user, password) := user.getD ([], [])
  if host.isEmpty && !(user.isEmpty && password.isEmpty) then throw .emptyHost
  return (user, password, host, port)

/-- Reads what follows two slashes, where a host has to stand or may. -/
def readAfterSlashes (scheme text : List Char) : Except ReadError Url := do
  let special := isSpecial scheme
  let (authority, rest) := splitBefore (endsAuthority special) text
  let (user, password, host, port) ← readAuthority scheme authority (!rest.isEmpty)
  let (path, query, fragment) := readEnding special rest
  return ⟨scheme, user, password, some host, port, .segments (readPath special path), query,
    fragment⟩

def isDrive : List Char → Bool
  | [letter, mark] => letter.isAlpha && (mark = ':' || mark = '|')
  | _ => false

def readFile (text : List Char) : Except ReadError Url := do
  let scheme := "file".toList
  let (front, query, fragment) := readEnding true text
  let ofPath (host path : List Char) : Url :=
    ⟨scheme, [], [], some host, none, .segments (readPath true path), query, fragment⟩
  match front with
  | a :: b :: rest =>
    if isSlash true a && isSlash true b then
      let (name, path) := splitBefore (isSlash true) rest
      if isDrive name then return ofPath [] rest
      else if name.isEmpty then return ofPath [] path
      else
        let host ← readSpecialHost name
        return ofPath (if host = "localhost".toList then [] else host) path
    else return ofPath [] front
  | _ => return ofPath [] front

def readAfterScheme (scheme text : List Char) : Except ReadError Url :=
  if isFile scheme then readFile text
  else if isSpecial scheme then readAfterSlashes scheme (text.dropWhile (isSlash true))
  else match text with
    | '/' :: '/' :: rest => readAfterSlashes scheme rest
    | _ =>
      let (front, query, fragment) := readEnding false text
      let path := match front with
        | '/' :: rest => Path.segments (readSegments false [] [] rest)
        | _ => Path.plain (percentEncode "" front)
      .ok ⟨scheme, [], [], none, none, path, query, fragment⟩

def read (text : List Char) : Except ReadError Url :=
  match splitScheme (cleaned text) with
  | some (scheme, rest) => readAfterScheme scheme rest
  | none => .error .noBase

end TokenDesk.Url
