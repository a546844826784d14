/-!
Values of a configuration document. Numbers with a fraction and moments in time have a place in the
format, but nothing here asks for their worth.
-/

namespace TokenDesk.Toml

abbrev Key := List Char

/-- A value of a configuration document. -/
inductive Value
  | text (characters : List Char)
  | int (value : Int)
  | real
  | bool (value : Bool)
  | moment
  | array (items : List Value)
  /-- A table, which is written within a value or by headers and dotted keys. -/
  | table (within : Bool) (members : List (Key × Value))

namespace Value

def find? (key : String) (members : List (Key × Value)) : Option Value :=
  (members.find? fun m => m.1 = key.toList).map Prod.snd

def text? : Value → Option String
  | .text characters => some (String.ofList characters)
  | _ => none

/-- A whole number from zero up to `most`. -/
def natural? (most : Nat) : Value → Option Nat
  | .int value => if 0 ≤ value ∧ value ≤ most then some value.toNat else none
  | _ => none

/-- Whether a value is an array or a table that holds nothing. -/
def isEmpty : Value → Bool
  | .array items => items.isEmpty
  | .table _ members => members.isEmpty
  | _ => false

def named? (all : List α) (name : α → String) (characters : List Char) : Option α :=
  all.find? fun a => (name a).toList = characters

/-- Which of some things a value names, by its name alone or by its only key over nothing. Of a
table that headers make up, the first key counts. -/
def choice? (all : List α) (name : α → String) : Value → Option α
  | .text characters => named? all name characters
  | .table within ((key, value) :: rest) =>
    if value.isEmpty && (!within || rest.isEmpty) then named? all name key else none
  | _ => none

/-- Which of some things a value names, by its name alone or by its only key over an empty table. -/
def strictChoice? (all : List α) (name : α → String) : Value → Option α
  | .text characters => named? all name characters
  | .table _ [(key, .table _ [])] => named? all name key
  | _ => none

end Value

/-- The parts of a record: under their names, or in the order of its fields. -/
inductive Parts
  | named (members : List (Key × Value))
  | listed (items : List Value)

namespace Parts

/-- The parts of a value. A moment counts as a table without any known key. -/
def ofValue? : Value → Option Parts
  | .table _ members => some (named members)
  | .moment => some (named [])
  | .array items => some (listed items)
  | _ => none

def required (parts : Parts) (place : Nat) (name : String) (read : Value → Option α) : Option α :=
  match parts with
  | .named members => (Value.find? name members).bind read
  | .listed items => items[place]?.bind read

/-- A field that may be absent under its name; in a list every field is there. -/
def optional (parts : Parts) (place : Nat) (name : String) (read : Value → Option α) :
    Option (Option α) :=
  match parts with
  | .named members =>
    match Value.find? name members with
    | some value => (read value).map some
    | none => some none
  | .listed items => (items[place]?.bind read).map some

/-- Whether a list has no more parts than a record has fields. -/
def fits (parts : Parts) (count : Nat) : Bool :=
  match parts with
  | .named _ => true
  | .listed items => items.length ≤ count

end Parts

end TokenDesk.Toml
