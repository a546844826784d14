import TokenDesk.Amount
import TokenDesk.Calendar.Read
import TokenDesk.Json.Document
import TokenDesk.TransactionId

/-!
Decoding JSON documents. A record is an object, or an array of its fields in order. Of several
faults the one that stands first in the text counts. What depends on a tag that may stand anywhere
is first read to its end and then decoded, and this second pass is more lenient in two places:
a variant may be given by its number, and a plain name may be followed by an empty object.
-/

namespace TokenDesk.Wire

open Json (Document)

/-- Why a document does not decode. -/
inductive Fault
  /-- The text is no JSON, or its values are not of the kind asked for. -/
  | malformed
  | id (cause : IdError)
  | amount (cause : AmountError)
  deriving DecidableEq, Repr

/-- The wording of a fault, where it has one of its own. -/
def Fault.message? : Fault → Option String
  | .malformed => none
  | .id cause => some cause.message
  | .amount cause => some cause.message

/-- Whether a document is decoded straight from its text or after it was read to its end. -/
inductive Pass
  | streaming
  | buffered
  deriving DecidableEq, Repr

/-- The outcome of decoding: a value, or a fault. -/
abbrev Outcome (α : Type) := Except Fault α

def characters : Document → Outcome (List Char)
  | .text (some cs) => .ok cs
  | _ => .error .malformed

def string (d : Document) : Outcome String := (characters d).map String.ofList

def bool : Document → Outcome Bool
  | .bool b => .ok b
  | _ => .error .malformed

def integer (low high : Int) : Document → Outcome Int
  | .number (.integer i) => if low ≤ i ∧ i ≤ high then .ok i else .error .malformed
  | _ => .error .malformed

def natural (bits : Nat) (d : Document) : Outcome Nat :=
  (integer 0 (2 ^ bits - 1 : Nat) d).map Int.toNat

def uint8 (d : Document) : Outcome UInt8 := (natural 8 d).map UInt8.ofNat

def uint64 (d : Document) : Outcome UInt64 := (natural 64 d).map UInt64.ofNat

def int64 (d : Document) : Outcome Int64 :=
  (integer Int64.minValue.toInt Int64.maxValue.toInt d).map Int64.ofInt

/-- Null, or a value. -/
def optional (decode : Document → Outcome α) : Document → Outcome (Option α)
  | .null => .ok none
  | d => (decode d).map some

/-- The items of an array, each decoded. -/
def list (decode : Document → Outcome α) : Document → Outcome (List α)
  | .array items closed => do
    let values ← items.mapM decode
    if closed then .ok values else .error .malformed
  | _ => .error .malformed

def named (all : List α) (name : α → String) (cs : List Char) : Outcome α :=
  match all.find? fun a => (name a).toList = cs with
  | some a => .ok a
  | none => .error .malformed

/-- A name, alone or as the only key of an object that holds nothing. -/
def choice (pass : Pass) (all : List α) (name : α → String) : Document → Outcome α
  | .text (some cs) => named all name cs
  | .object [(some key, value)] true =>
    match named all name key, value, pass with
    | .ok a, .null, _ => .ok a
    | .ok a, .object [] true, .buffered => .ok a
    | .ok _, _, _ => .error .malformed
    | .error fault, _, _ => .error fault
  | _ => .error .malformed

/-- A decoded part of a record: a value, or a fault at a place of the text. -/
inductive Reading (α : Type)
  | value (a : α)
  | fault (place : Nat) (cause : Fault)

namespace Reading

def map (f : α → β) : Reading α → Reading β
  | .value a => .value (f a)
  | .fault place cause => .fault place cause

/-- Two readings together; of two faults the earlier one counts. -/
def both (r : Reading (α → β)) (s : Reading α) : Reading β :=
  match r, s with
  | .value f, .value a => .value (f a)
  | .fault place cause, .value _ => .fault place cause
  | .value _, .fault place cause => .fault place cause
  | .fault p c, .fault q d => if q < p then .fault q d else .fault p c

instance : Functor Reading where
  map := map

instance : Seq Reading where
  seq r s := both r (s ())

end Reading

/-- The parts of a record: for each field where it stands and what it is, the first place where the
record itself is at fault, and the place of its end. -/
structure Record where
  slots : List (Option (Nat × Document))
  defect : Option Nat
  finish : Nat

/-- The first place, from `place` on, where members are at fault: a key that is no text, a field
given twice, or an unknown field that is no JSON. -/
def memberDefect (fields : List String) (seen : List (List Char)) (place : Nat) :
    List (Option (List Char) × Document) → Option Nat
  | [] => none
  | (none, _) :: _ => some place
  | (some key, value) :: rest =>
    if fields.any fun f => f.toList = key then
      if seen.contains key then some place
      else memberDefect fields (key :: seen) (place + 1) rest
    else if value.complete then memberDefect fields seen (place + 1) rest
    else some place

/-- The first member with the given key, and its place. -/
def findMember (key : List Char) (place : Nat) :
    List (Option (List Char) × Document) → Option (Nat × Document)
  | [] => none
  | (k, value) :: rest =>
    if k = some key then some (place, value) else findMember key (place + 1) rest

/-- The record with the given fields, if a document is an object or an array. -/
def record (fields : List String) : Document → Outcome Record
  | .object members closed =>
    let finish := members.length
    let defect := memberDefect fields [] 0 members
    .ok ⟨fields.map fun f => findMember f.toList 0 members,
      if defect.isNone && !closed then some finish else defect, finish⟩
  | .array items closed =>
    let finish := fields.length
    let short := items.length < fields.length
    .ok ⟨(List.range fields.length).map fun i => items[i]?.map fun d => (i, d),
      if short then some items.length
      else if !closed || fields.length < items.length then some finish else none, finish⟩
  | _ => .error .malformed

namespace Record

def field (r : Record) (i : Nat) (decode : Document → Outcome α) : Reading α :=
  match r.slots[i]? with
  | some (some (place, d)) =>
    match decode d with
    | .ok a => .value a
    | .error cause => .fault place cause
  | _ => .fault r.finish .malformed

def field? (r : Record) (i : Nat) (decode : Document → Outcome α) : Reading (Option α) :=
  match r.slots[i]? with
  | some none => .value none
  | _ => r.field i (optional decode)

def settle (r : Record) (reading : Reading α) : Outcome α :=
  match reading, r.defect with
  | .value a, none => .ok a
  | .value _, some _ => .error .malformed
  | .fault _ cause, none => .error cause
  | .fault place cause, some defect => if defect < place then .error .malformed else .error cause

end Record

def maxDepth : Nat := 127

/-- The variant that a tag names, by its name or, after buffering, by its number. -/
def variant (pass : Pass) (all : List α) (name : α → String) : Document → Outcome α
  | .text (some cs) => named all name cs
  | .number (.integer i) =>
    match pass, all[i.toNat]? with
    | .buffered, some a => if 0 ≤ i then .ok a else .error .malformed
    | _, _ => .error .malformed
  | _ => .error .malformed

/-- The variant of a tagged value and what else the value holds. The tag is one of the members of
an object or the first item of an array. -/
def tagged (pass : Pass) (tag : String) (all : List α) (name : α → String) (d : Document) :
    Outcome (α × Document) :=
  if pass = .streaming && !d.isValue maxDepth then .error .malformed
  else match d with
  | .object members _ =>
    match members.filter fun (key, _) => key = some tag.toList with
    | [(_, value)] =>
      (variant pass all name value).map fun a =>
        (a, .object (members.filter fun (key, _) => key ≠ some tag.toList) true)
    | _ => .error .malformed
  | .array (first :: rest) _ =>
    (variant pass all name first).map fun a => (a, .array rest true)
  | _ => .error .malformed

/-- Nothing: any object, or an empty array. -/
def nothing : Document → Outcome Unit
  | .object _ _ => .ok ()
  | .array [] _ => .ok ()
  | _ => .error .malformed

/-- Decodes the text of a value; only space may follow it. -/
def decodeText (decode : Document → Outcome α) (text : List Char) : Outcome α :=
  let (document, ended) := Json.read text
  match decode document with
  | .ok a => if ended then .ok a else .error .malformed
  | .error fault => .error fault

end TokenDesk.Wire
