import TokenDesk.Abi.Value
import TokenDesk.Text.Utf8

/-!
Decoding the results of a contract call. Only what is needed is read: padding is not looked at, any
word but zero is true, the upper bits of short integers are kept, and more data may follow.
-/

namespace TokenDesk.Abi

def wordAt (data : Bytes) (place : Nat) : Except DecodeError (Bytes × Nat) :=
  let w := (data.drop place).take 32
  if w.length = 32 then .ok (w, place + 32) else .error .overrun

def offsetAt (data : Bytes) (place : Nat) : Except DecodeError (Nat × Nat) := do
  let (w, next) ← wordAt data place
  let n := Bytes.toNat w
  if n < UInt64.size then .ok (n, next) else .error (.offsetTooLarge w)

def follow (data : Bytes) (place : Nat) : Except DecodeError (Bytes × Nat) := do
  let (offset, next) ← offsetAt data place
  if offset ≤ data.length then .ok (data.drop offset, next) else .error .overrun

/-- A byte string with its length in front, at the start of the data. -/
def countedBytes (data : Bytes) : Except DecodeError Bytes := do
  let (size, next) ← offsetAt data 0
  let bytes := (data.drop next).take size
  if bytes.length = size then .ok bytes else .error .overrun

def signedWord (w : Bytes) : Int :=
  let n := Bytes.toNat w
  if 2 * n < Bytes.span 32 then n else (n : Int) - Bytes.span 32

/-- Decodes `count` values, one after the other. -/
def decodeMany (decode : Nat → Except DecodeError (α × Nat)) :
    Nat → Nat → Except DecodeError (List α × Nat)
  | 0, place => .ok ([], place)
  | count + 1, place => do
    let (v, place) ← decode place
    let (rest, place) ← decodeMany decode count place
    return (v :: rest, place)

mutual

def decodeAt : Ty → Bytes → Nat → Except DecodeError (Value × Nat)
  | .bool, data, place => do
    let (w, next) ← wordAt data place
    return (.bool (Bytes.toNat w != 0), next)
  | .uint bits, data, place => do
    let (w, next) ← wordAt data place
    return (.uint bits (Bytes.toNat w), next)
  | .int bits, data, place => do
    let (w, next) ← wordAt data place
    return (.int bits (signedWord w), next)
  | .address, data, place => do
    let (w, next) ← wordAt data place
    return (.address (w.drop 12), next)
  | .fixedBytes size, data, place => do
    let (w, next) ← wordAt data place
    return (.fixedBytes (w.take size), next)
  | .function, data, place => do
    let (w, next) ← wordAt data place
    return (.function (w.take 24), next)
  | .bytes, data, place => do
    let (inner, next) ← follow data place
    return (.bytes (← countedBytes inner), next)
  | .string, data, place => do
    let (inner, next) ← follow data place
    return (.string (Text.readUtf8Lossy (← countedBytes inner)), next)
  | .array item, data, place => do
    let (inner, next) ← follow data place
    let (count, start) ← offsetAt inner 0
    let (items, _) ← decodeMany (decodeAt item (inner.drop start)) count 0
    return (.array items, next)
  | .fixedArray item size, data, place =>
    if item.isDynamic then do
      let (inner, next) ← follow data place
      let (items, _) ← decodeMany (decodeAt item inner) size 0
      return (.fixedArray items, next)
    else do
      let (items, next) ← decodeMany (decodeAt item data) size place
      return (.fixedArray items, next)
  | .tuple parts, data, place =>
    if anyDynamic parts then do
      let (inner, next) ← follow data place
      let (values, _) ← decodeParts parts inner 0
      return (.tuple values, next)
    else do
      let (values, next) ← decodeParts parts data place
      return (.tuple values, next)

/-- Decodes values of the given types, one after the other. -/
def decodeParts : List Ty → Bytes → Nat → Except DecodeError (List Value × Nat)
  | [], _, place => .ok ([], place)
  | t :: rest, data, place => do
    let (v, place) ← decodeAt t data place
    let (vs, place) ← decodeParts rest data place
    return (v :: vs, place)

end

def decodeAll (types : List Ty) (data : Bytes) : Except DecodeError (List Value) :=
  (decodeParts types data 0).map Prod.fst

def DecodeError.message : DecodeError → String
  | .overrun => "ABI decoding failed: buffer overrun while deserializing"
  | .offsetTooLarge word =>
    "type check failed for \"offset (usize)\" with data: " ++ String.ofList (Text.hexOfBytes word)
  | .unknownType name => "invalid type string: " ++ name
  | .badSize name => "invalid size for type: " ++ name

end TokenDesk.Abi
