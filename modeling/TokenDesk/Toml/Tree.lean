import TokenDesk.Toml.Value

/-!
Putting together the tables of a document from headers and assignments. A table is made once: by its
header, by the header of a table inside it, or by dotted keys. Which of these it was decides what
may still be added to it.
-/

namespace TokenDesk.Toml

/-- How a table came to be. -/
inductive Origin
  /-- It is the document, or an item of an array of tables, or its header stands in the text. -/
  | header
  /-- Only the header of a table inside it stands in the text. -/
  | implied
  /-- A dotted key leads through it. -/
  | dotted
  deriving DecidableEq, Repr

/-- A part of a document while it is put together. -/
inductive Node
  | value (v : Value)
  | table (origin : Origin) (members : List (Key × Node))
  /-- An array of tables, the members of each in order. -/
  | tables (items : List (List (Key × Node)))

abbrev Members := List (Key × Node)

def findPart? (key : Key) (members : Members) : Option Node :=
  (members.find? fun m => m.1 = key).map Prod.snd

def replacePart (key : Key) (node : Node) (members : Members) : Members :=
  members.map fun m => if m.1 = key then (key, node) else m

/-- The members with a part under a new key, or under a key whose part is moved to the end. -/
def putPart (key : Key) (node : Node) (members : Members) : Members :=
  members.filter (fun m => m.1 ≠ key) ++ [(key, node)]

/-- Changes the table that a path leads to. Tables that are missing on the way get the origin
`making`; an array of tables leads on through its last item. Dotted keys do not lead through a table
with a header. -/
def descend (making : Origin) (change : Origin → Members → Option Members) :
    List Key → Origin → Members → Option Members
  | [], origin, members => change origin members
  | key :: path, _, members =>
    match findPart? key members with
    | none =>
      (descend making change path making []).map fun inner =>
        putPart key (.table making inner) members
    | some (.value _) => none
    | some (.table origin inner) =>
      if making = .dotted ∧ origin = .header then none
      else (descend making change path origin inner).map fun inner =>
        replacePart key (.table origin inner) members
    | some (.tables items) =>
      match items.getLast? with
      | none => none
      | some last => (descend making change path .header last).map fun last =>
        replacePart key (.tables (items.dropLast ++ [last])) members

/-- Adds a value to the table of a header, through the tables of a dotted key. These have to be
tables of dotted keys. -/
def assign (header path : List Key) (key : Key) (value : Value) (document : Members) :
    Option Members :=
  let insert (origin : Origin) (members : Members) : Option Members :=
    if (origin = .dotted) = path.isEmpty then none
    else match findPart? key members with
      | some _ => none
      | none => some (putPart key (.value value) members)
  descend .implied (descend .dotted insert path) header .header document

/-- Makes the table of a header, which may be implied by then, but not more. -/
def openTable (path : List Key) (key : Key) (document : Members) : Option Members :=
  let define (_ : Origin) (members : Members) : Option Members :=
    match findPart? key members with
    | none => some (putPart key (.table .header []) members)
    | some (.table .implied inner) => some (putPart key (.table .header inner) members)
    | some _ => none
  descend .implied define path .header document

def openItem (path : List Key) (key : Key) (document : Members) : Option Members :=
  let extend (_ : Origin) (members : Members) : Option Members :=
    match findPart? key members with
    | none => some (putPart key (.tables [[]]) members)
    | some (.tables items) => some (replacePart key (.tables (items ++ [[]])) members)
    | some _ => none
  descend .implied extend path .header document

mutual

/-- The value of a part; `within` tells whether it is all part of one value. -/
def Node.toValue (within : Bool) : Node → Value
  | .value v => v
  | .table _ members => .table within (membersToValues within members)
  | .tables items => .array (itemsToValues within items)

def membersToValues (within : Bool) : List (Key × Node) → List (Key × Value)
  | [] => []
  | (key, node) :: rest => (key, node.toValue within) :: membersToValues within rest

def itemsToValues (within : Bool) : List (List (Key × Node)) → List Value
  | [] => []
  | members :: rest =>
    .table within (membersToValues within members) :: itemsToValues within rest

end

end TokenDesk.Toml
