import TokenDesk.Calendar.Instant
import TokenDesk.EntityId

/-!
Transaction ids: the paying account and the instant from which the transaction is valid. The
written form keeps nine digits of nanoseconds, and reading admits no leap second.
-/

namespace TokenDesk

/-- The account that pays and the start of validity. -/
structure TransactionId where
  payer : EntityId
  seconds : Int64
  nanos : UInt32
  deriving DecidableEq, Repr

namespace TransactionId

def ofInstant (payer : EntityId) (start : Calendar.Instant) : TransactionId :=
  ⟨payer, Int64.ofInt start.seconds, UInt32.ofNat start.nanos⟩

/-- The payer, the seconds and at least nine digits of nanoseconds. -/
def text (id : TransactionId) : List Char :=
  id.payer.text ++ '@' :: Text.intNumeral id.seconds.toInt ++
    '.' :: Text.paddedNumeral 9 id.nanos.toNat

def toString (id : TransactionId) : String := String.ofList id.text

/-- The form that stands in the path of an address on the web. -/
def pathSegment (id : TransactionId) : List Char :=
  id.payer.text ++ '-' :: Text.intNumeral id.seconds.toInt ++
    '-' :: Text.paddedNumeral 9 id.nanos.toNat

/-- Reads an id: the payer up to the first at sign, the seconds up to the next point, and fewer
than a second's nanoseconds. -/
def ofText? (text : List Char) : Option TransactionId := do
  let (payer, start) ← Text.splitOnce '@' text
  let (seconds, nanos) ← Text.splitOnce '.' start
  let nanos ← Text.readUnsigned 999_999_999 nanos
  let payer ← EntityId.ofText? payer
  let seconds ← Text.readInt64 seconds
  return ⟨payer, Int64.ofInt seconds, UInt32.ofNat nanos⟩

/-- Reads an id; the error keeps the whole text. -/
def read (text : String) : Except IdError TransactionId :=
  match ofText? text.toList with
  | some id => .ok id
  | none => .error (.transaction text)

end TransactionId

end TokenDesk
