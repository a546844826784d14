import TokenDesk.Bytes
import TokenDesk.Text.Digits
import TokenDesk.Text.Quoted
import TokenDesk.Text.Split

/-!
The ids of accounts, tokens and contracts: a shard, a realm and a number with dots between. An id
is also a contract address, its three parts one after the other.
-/

namespace TokenDesk

/-- Why a text is no id; the error keeps the text. -/
inductive IdError
  | entity (text : String)
  | transaction (text : String)
  deriving DecidableEq, Repr

def IdError.name : IdError → String
  | .entity _ => "Entity"
  | .transaction _ => "Transaction"

def IdError.message : IdError → String
  | .entity text =>
    "invalid entity id " ++ Text.quoteString text ++ ", expected shard.realm.num"
  | .transaction text =>
    "invalid transaction id " ++ Text.quoteString text ++ ", expected payer@seconds.nanos"

/-- The id of an account, a token or a contract. -/
structure EntityId where
  shard : UInt32
  realm : UInt64
  num : UInt64
  deriving DecidableEq, Repr

namespace EntityId

def text (id : EntityId) : List Char :=
  Text.numeral id.shard.toNat ++ '.' :: Text.numeral id.realm.toNat ++
    '.' :: Text.numeral id.num.toNat

def toString (id : EntityId) : String := String.ofList id.text

/-- Reads an id: exactly three numbers of 32, 64 and 64 bits. -/
def ofText? (text : List Char) : Option EntityId :=
  match Text.splitAt '.' text with
  | [shard, realm, num] => do
    let shard ← Text.readUnsigned (UInt32.size - 1) shard
    let realm ← Text.readUnsigned (UInt64.size - 1) realm
    let num ← Text.readUnsigned (UInt64.size - 1) num
    return ⟨UInt32.ofNat shard, UInt64.ofNat realm, UInt64.ofNat num⟩
  | _ => none

/-- Reads an id; the error keeps the whole text. -/
def read (text : String) : Except IdError EntityId :=
  match ofText? text.toList with
  | some id => .ok id
  | none => .error (.entity text)

def address (id : EntityId) : Bytes :=
  Bytes.ofNat 4 id.shard.toNat ++ Bytes.ofNat 8 id.realm.toNat ++ Bytes.ofNat 8 id.num.toNat

/-- The order of ids: by shard, then by realm, then by number. -/
def compare (a b : EntityId) : Ordering :=
  ((Ord.compare a.shard b.shard).then (Ord.compare a.realm b.realm)).then
    (Ord.compare a.num b.num)

def describe (id : EntityId) : String :=
  "EntityId \x7b shard: " ++ Text.numeralString id.shard.toNat ++ ", realm: " ++
    Text.numeralString id.realm.toNat ++ ", num: " ++ Text.numeralString id.num.toNat ++ " \x7d"

def sort (ids : List EntityId) : List EntityId :=
  ids.mergeSort fun a b => a.compare b != .gt

end EntityId

end TokenDesk
