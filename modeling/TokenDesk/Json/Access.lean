import TokenDesk.Json.Document

/-!
Looking into documents by the names of members. An absent member and one that is null are the same
here, and numbers may be given as numbers or as decimal texts.
-/

namespace TokenDesk.Json.Document

/-- The member of a name, unless it is null. -/
def member? (d : Document) (name : String) : Option Document :=
  match d with
  | .object members _ =>
    match members.find? fun m => m.1 = some name.toList with
    | some (_, .null) => none
    | some (_, value) => some value
    | none => none
  | _ => none

def toText? : Document → Option String
  | .text (some cs) => some (String.ofList cs)
  | _ => none

def toInt? : Document → Option Int
  | .number (.integer i) => some i
  | .text (some ('-' :: cs)) => (Text.readNumeral cs).map fun n => -(n : Int)
  | .text (some cs) => (Text.readNumeral cs).map fun n => (n : Int)
  | _ => none

def toNat? (most : Nat) (d : Document) : Option Nat :=
  d.toInt?.bind fun i => if 0 ≤ i ∧ i ≤ most then some i.toNat else none

def toItems? : Document → Option (List Document)
  | .array items true => some items
  | _ => none

def toBytes? (d : Document) : Option Bytes :=
  d.toText?.bind fun text => (Text.readHex text.toList).toOption

def text? (d : Document) (name : String) : Option String := (d.member? name).bind toText?

def int? (d : Document) (name : String) : Option Int := (d.member? name).bind toInt?

def nat? (d : Document) (most : Nat) (name : String) : Option Nat :=
  (d.member? name).bind (toNat? most)

/-- The items of an array member, each read. -/
def list? (d : Document) (name : String) (read : Document → Option α) : Option (List α) :=
  ((d.member? name).bind toItems?).bind fun items => items.mapM read

/-- The items of an array member that may be absent, each read. -/
def listOrNone? (d : Document) (name : String) (read : Document → Option α) : Option (List α) :=
  if (d.member? name).isSome then d.list? name read else some []

def bytes? (d : Document) (name : String) : Option Bytes := (d.member? name).bind toBytes?

def optional? (d : Document) (name : String) (read : Document → Option α) : Option (Option α) :=
  match d.member? name with
  | some value => (read value).map some
  | none => some none

def flag (d : Document) (name : String) : Bool :=
  match d.member? name with
  | some (.bool b) => b
  | _ => false

end TokenDesk.Json.Document
