import TokenDesk.Abi.Decode
import TokenDesk.Failure
import TokenDesk.Settlement

/-!
Responses: what a settled transaction means for the caller. A failed status is a failure whatever
else was fetched, and returned data is decoded where the request asked for it.
-/

namespace TokenDesk

/-- What a successful transaction gives. -/
inductive Payload
  /-- Nothing but the success. -/
  | settled
  /-- Returned data that nobody asked to decode. -/
  | raw (data : Bytes)
  | decoded (values : List Abi.Value)

/-- The answer to a request: a payload of a transaction, or a failure. -/
inductive Response
  | success (id : TransactionId) (payload : Payload)
  | failure (cause : Failure)

namespace Response

def id : Response → Option TransactionId
  | .success id _ => some id
  | .failure cause => cause.transaction

def payload? : Response → Option Payload
  | .success _ payload => some payload
  | .failure _ => none

def failure? : Response → Option Failure
  | .success _ _ => none
  | .failure cause => some cause

def isSuccess (r : Response) : Bool := r.payload?.isSome

/-- The response with a link in its failure, if it is one. -/
def withLink (r : Response) (url : Url) : Response :=
  match r with
  | .success id payload => .success id payload
  | .failure cause => .failure (cause.withLink url)

end Response

/-- Why what was fetched is no answer. -/
inductive ResponseFault
  | missingRecord
  | emptyData (function : String)
  | unknownFunction (function : String)
  | undecodable (function : String) (cause : Abi.DecodeError)
  deriving DecidableEq, Repr

/-- A fault of what was fetched about a transaction. -/
structure ResponseError where
  transaction : TransactionId
  fault : ResponseFault
  deriving DecidableEq, Repr

def ResponseFault.name : ResponseFault → String
  | .missingRecord => "MissingRecord"
  | .emptyData _ => "EmptyReturnData"
  | .unknownFunction _ => "UnknownFunction"
  | .undecodable _ _ => "Decode"

def ResponseError.message (e : ResponseError) : String :=
  e.transaction.toString ++ ": " ++ match e.fault with
    | .missingRecord => "expected a record but the ledger returned a receipt"
    | .emptyData function => function ++ " returned empty data"
    | .unknownFunction function => function ++ " is not part of the decode interface"
    | .undecodable function cause =>
      "failed to decode " ++ function ++ " output: " ++ cause.message

def ReturnFormat.decode (f : ReturnFormat) (data : Bytes) :
    Except ResponseFault (List Abi.Value) :=
  if data.isEmpty then .error (.emptyData f.function)
  else match f.interface.find? f.function with
    | none => .error (.unknownFunction f.function)
    | some function => (function.decodeOutputs data).mapError (.undecodable f.function)

def Record.payload (r : Record) : Option ReturnFormat → Except ResponseFault Payload
  | none => .ok (r.returned.elim .settled .raw)
  | some format => (format.decode (r.returned.getD [])).map .decoded

def Settlement.response (s : Settlement) (kind : ResponseKind) (format : Option ReturnFormat) :
    Except ResponseError Response :=
  let receipt := s.toReceipt
  let id := receipt.transaction
  match receipt.status with
  | .failed code =>
    let cause := Failure.ofMessage .settlementFailed ("transaction settled with status " ++ code)
    .ok (.failure (cause.withTransaction id))
  | .success =>
    match kind, s with
    | .receiptOnly, _ => .ok (.success id .settled)
    | .fullRecord, .receipt _ => .error ⟨id, .missingRecord⟩
    | .fullRecord, .record found =>
      match found.payload format with
      | .ok payload => .ok (.success id payload)
      | .error fault => .error ⟨id, fault⟩

end TokenDesk
