import TokenDesk.Toml.Scalar
import TokenDesk.Toml.Tree

/-!
Reading a configuration document. The text is a sequence of lines; a line assigns a value to a key,
or is the header of a table or of an item of an array of tables. Arrays may stretch over lines.
-/

namespace TokenDesk.Toml

/-- How many parts a dotted key may have, and how deeply values may lie in one another. -/
def maxDepth : Nat := 79

def isKeyChar (c : Char) : Bool :=
  ('a' ≤ c && c ≤ 'z') || ('A' ≤ c && c ≤ 'Z') || Text.isDigit c || c = '-' || c = '_'

def readKeyPart : List Char → Option (Key × List Char)
  | [] => none
  | c :: rest =>
    if c = '"' ∨ c = '\'' then readLineText c (c = '"') 0 rest
    else if isKeyChar c then
      some ((c :: rest).takeWhile isKeyChar, (c :: rest).dropWhile isKeyChar)
    else none

/-- A dotted key of at most as many parts as given, with the space around it. -/
def readKey : Nat → List Char → Option (List Key × List Char)
  | 0, _ => none
  | left + 1, cs => do
    let (part, rest) ← readKeyPart (dropSpace cs)
    match dropSpace rest with
    | '.' :: rest => (readKey left rest).map fun (parts, rest) => (part :: parts, rest)
    | rest => some ([part], rest)

def dropComment (cs : List Char) : List Char := cs.dropWhile isPlain

/-- The text after space, comments and ends of lines; none if a comment does not end. -/
def dropFiller : Nat → List Char → Option (List Char)
  | 0, _ => none
  | fuel + 1, cs =>
    match cs.drop (blankSize cs) with
    | '#' :: rest => do
      let after ← dropLineEnd? (dropComment rest)
      dropFiller fuel after
    | rest => some rest

/-- A table within a value, from the keys and values of its pairs. -/
def tableOfPairs (pairs : List (List Key × Value)) : Option Value :=
  let members := pairs.foldlM (fun (members : Members) (path, value) =>
    match path.getLast? with
    | some key => assign [] path.dropLast key value members
    | none => none) []
  members.map fun members => .table true (membersToValues true members)

mutual

/-- Reads a value; `depth` more values may lie in one another, and `fuel` bounds the steps. -/
def readValue : Nat → Nat → List Char → Option (Value × List Char)
  | 0, _, _ => none
  | _, _, [] => none
  | fuel + 1, depth, c :: rest =>
    if c = '"' ∨ c = '\'' then (readText c rest).map fun (text, rest) => (.text text, rest)
    else if c = '[' then
      match depth with
      | 0 => none
      | depth + 1 => (readItems fuel depth rest).map fun (items, rest) => (.array items, rest)
    else if c = '\x7b' then
      match depth, dropSpace rest with
      | 0, _ => none
      | _ + 1, '\x7d' :: rest => some (.table true [], rest)
      | depth + 1, _ => do
        let (pairs, rest) ← readPairs fuel depth rest
        let table ← tableOfPairs pairs
        return (table, rest)
    else if c = 't' then
      match rest with
      | 'r' :: 'u' :: 'e' :: rest => some (.bool true, rest)
      | _ => none
    else if c = 'f' then
      match rest with
      | 'a' :: 'l' :: 's' :: 'e' :: rest => some (.bool false, rest)
      | _ => none
    else readQuantity (c :: rest)

/-- Reads the items of an array up to the closing bracket. A comma may stand before it. -/
def readItems : Nat → Nat → List Char → Option (List Value × List Char)
  | 0, _, _ => none
  | fuel + 1, depth, cs => do
    match ← dropFiller (cs.length + 1) cs with
    | ']' :: rest => return ([], rest)
    | start =>
      let (item, rest) ← readValue fuel depth start
      match ← dropFiller (rest.length + 1) rest with
      | ',' :: rest => (readItems fuel depth rest).map fun (items, rest) => (item :: items, rest)
      | ']' :: rest => return ([item], rest)
      | _ => none

/-- Reads the pairs of a table within a value up to the closing bracket. -/
def readPairs : Nat → Nat → List Char → Option (List (List Key × Value) × List Char)
  | 0, _, _ => none
  | fuel + 1, depth, cs => do
    let (key, rest) ← readKey maxDepth cs
    let rest ← dropMark? '=' rest
    let (value, rest) ← readValue fuel depth (dropSpace rest)
    match dropSpace rest with
    | ',' :: rest =>
      (readPairs fuel depth rest).map fun (pairs, rest) => ((key, value) :: pairs, rest)
    | '\x7d' :: rest => return ([(key, value)], rest)
    | _ => none

end

/-- The text after the rest of a line: space, and a comment if there is one. -/
def endLine? (cs : List Char) : Option (List Char) :=
  let rest := match dropSpace cs with
    | '#' :: rest => dropComment rest
    | rest => rest
  if rest.isEmpty then some [] else dropLineEnd? rest

/-- What a line says. -/
inductive Statement
  | table (path : List Key)
  | item (path : List Key)
  | pair (path : List Key) (value : Value)

def readStatement : List Char → Option (Statement × List Char)
  | '[' :: '[' :: rest => do
    let (path, rest) ← readKey maxDepth rest
    let rest ← dropMark? ']' rest
    let rest ← dropMark? ']' rest
    return (.item path, ← endLine? rest)
  | '[' :: rest => do
    let (path, rest) ← readKey maxDepth rest
    let rest ← dropMark? ']' rest
    return (.table path, ← endLine? rest)
  | cs => do
    let (path, rest) ← readKey maxDepth cs
    let rest ← dropMark? '=' rest
    let (value, rest) ← readValue (rest.length + 1) maxDepth (dropSpace rest)
    return (.pair path value, ← endLine? rest)

/-- Reads the lines of a text; `fuel` bounds their number. -/
def readLines : Nat → List Char → Option (List Statement)
  | 0, _ => none
  | fuel + 1, cs =>
    match dropSpace cs with
    | [] => some []
    | c :: rest =>
      if c = '#' ∨ c = '\n' ∨ c = '\r' then do
        readLines fuel (← endLine? (c :: rest))
      else do
        let (statement, rest) ← readStatement (c :: rest)
        let later ← readLines fuel rest
        return statement :: later

/-- Adds what a line says to a document, whose last header is given with it. -/
def Statement.apply (s : Statement) (header : List Key) (document : Members) :
    Option (List Key × Members) :=
  match s with
  | .table path => do
    let document ← openTable path.dropLast (← path.getLast?) document
    return (path, document)
  | .item path => do
    let document ← openItem path.dropLast (← path.getLast?) document
    return (path, document)
  | .pair path value => do
    let document ← assign header path.dropLast (← path.getLast?) value document
    return (header, document)

/-- The members of a document, if the text is one. A byte order mark may stand in front. -/
def read (cs : List Char) : Option (List (Key × Value)) := do
  let cs := match cs with
    | '\uFEFF' :: rest => rest
    | _ => cs
  let statements ← readLines (cs.length + 1) cs
  let (_, document) ← statements.foldlM (fun (header, document) s => s.apply header document)
    (([] : List Key), ([] : Members))
  return membersToValues false document

end TokenDesk.Toml
