import TokenDesk.Json.Access
import TokenDesk.Response
import TokenDesk.Wire.Scalar

/-!
The JSON forms of responses and of what they come from: values of contract calls, failures,
receipts and settlements. Integers of contract calls are decimal texts, since they may be long.
-/

namespace TokenDesk.Wire

open Json (Document)

/-- The members of an error: its name, its wording and what else there is. -/
def errorMembers (name message : String) (more : List (String × Json)) : List (String × Json) :=
  [("error", .text name), ("message", .text message)] ++ more

mutual

def ofValue : Abi.Value → Json
  | .bool b => .object [("bool", .bool b)]
  | .uint bits n => .object [("uint", .text (Text.numeralString n)), ("bits", .nat bits)]
  | .int bits i => .object [("int", .text (Text.intString i)), ("bits", .nat bits)]
  | .address bytes => .object [("address", ofBytes bytes)]
  | .fixedBytes bytes => .object [("fixed_bytes", ofBytes bytes)]
  | .function bytes => .object [("function", ofBytes bytes)]
  | .bytes bytes => .object [("bytes", ofBytes bytes)]
  | .string text => .object [("string", .text (String.ofList text))]
  | .array items => .object [("array", .array (ofValues items))]
  | .fixedArray items => .object [("fixed_array", .array (ofValues items))]
  | .tuple parts => .object [("tuple", .array (ofValues parts))]

def ofValues : List Abi.Value → List Json
  | [] => []
  | v :: rest => ofValue v :: ofValues rest

end

def ofPayload : Payload → Json
  | .settled => .text "settled"
  | .raw data => .object [("raw", ofBytes data)]
  | .decoded values => .object [("decoded", .array (ofValues values))]

def ofFailure (f : Failure) : Json :=
  .object [
    ("kind", .text f.kind.name), ("message", .text f.message), ("display", .text f.text),
    ("retryable", .bool f.kind.isRetryable),
    ("transaction_id", .ofText? (f.transaction.map TransactionId.toString)),
    ("explorer_url", .ofText? (f.link.map Url.toString))]

def responseMembers (r : Response) : List (String × Json) :=
  [("success", .bool r.isSuccess), ("id", .ofText? (r.id.map TransactionId.toString)),
    ("payload", r.payload?.elim .null ofPayload), ("error", r.failure?.elim .null ofFailure)]

def ofStatus : Status → Json
  | .success => .text "success"
  | .failed code => .object [("failed", .text code)]

def ofReceipt (r : Receipt) : Json :=
  .object [("transaction_id", .text r.transaction.toString), ("status", ofStatus r.status)]

def status? (d : Document) : Option Status :=
  match d.toText? with
  | some text => if text = "success" then some .success else none
  | none => (d.text? "failed").map .failed

/-- What was fetched about a transaction, but for its id. -/
def settlement? (d : Document) (id : TransactionId) : Option Settlement := do
  let receipt : Receipt := ⟨id, ← (d.member? "status").bind status?⟩
  match ← d.text? "kind" with
  | "receipt" => some (.receipt receipt)
  | "record" => some (.record ⟨receipt, ← d.optional? "call_result" Document.toBytes?⟩)
  | _ => none

def responseKindName : ResponseKind → String
  | .receiptOnly => "receipt_only"
  | .fullRecord => "full_record"

/-- What has to be fetched, by its name. -/
def responseKind? (name : String) : Option ResponseKind :=
  [ResponseKind.receiptOnly, .fullRecord].find? fun k => responseKindName k = name

end TokenDesk.Wire
