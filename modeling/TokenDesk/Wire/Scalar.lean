import TokenDesk.Wire.Decode

/-!
The wire forms of ids, amounts, instants and byte strings.
-/

namespace TokenDesk.Wire

open Json (Document)

/-- An entity id, written as text. -/
def entity (d : Document) : Outcome EntityId := do
  match EntityId.read (← string d) with
  | .ok id => .ok id
  | .error cause => .error (.id cause)

def ofEntity (id : EntityId) : Json := .text id.toString

/-- A transaction id, written as text. -/
def transactionId (d : Document) : Outcome TransactionId := do
  match TransactionId.read (← string d) with
  | .ok id => .ok id
  | .error cause => .error (.id cause)

def ofTransactionId (id : TransactionId) : Json := .text id.toString

/-- A decimal number, written as text. -/
def decimal (d : Document) : Outcome Decimal := do
  match Decimal.read (← characters d) with
  | .ok value => .ok value
  | .error _ => .error .malformed

/-- An amount: its value as text, and its decimals. -/
def amount (d : Document) : Outcome Amount := do
  let r ← record ["value", "decimals"] d
  let (value, decimals) ← r.settle (Prod.mk <$> r.field 0 decimal <*> r.field 1 uint8)
  match Amount.ofDecimal value decimals with
  | .ok a => .ok a
  | .error cause => .error (.amount cause)

def ofAmount (a : Amount) : Json :=
  .object [("value", .text a.toString), ("decimals", .nat a.decimals.toNat)]

/-- An instant, written as text. -/
def instant (d : Document) : Outcome Calendar.Instant := do
  match Calendar.Instant.read (← characters d) with
  | some t => .ok t
  | none => .error .malformed

def ofInstant (t : Calendar.Instant) : Json := .text (String.ofList t.text)

/-- A byte string: hexadecimal text, or an array of numbers. -/
def bytes : Document → Outcome Bytes
  | .text (some cs) =>
    match Text.readHex cs with
    | .ok b => .ok b
    | .error _ => .error .malformed
  | d => list uint8 d

def ofBytes (b : Bytes) : Json := .text (Text.hexString b)

end TokenDesk.Wire
