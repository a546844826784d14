import TokenDesk.Build
import TokenDesk.Explorer
import TokenDesk.Ledger
import TokenDesk.Response

/-!
Carrying out requests. A call looks up what the account may do, builds the transaction, has it
signed, submits it and waits for it to settle. Whatever goes wrong becomes a failure; from the
submission on it names the transaction.
-/

namespace TokenDesk

/-- The stage in which a call was cancelled. -/
inductive Stage
  | lookup
  | submission
  | settlement
  /-- A stage of another name. -/
  | named (name : String)
  deriving DecidableEq, Repr

def Stage.text : Stage → String
  | .lookup => "looking up capabilities"
  | .submission => "submitting"
  | .settlement => "awaiting settlement"
  | .named name => name

/-- Why a request was not carried out. -/
inductive DispatchError
  | notAllowed (account : EntityId) (operation : Operation) (token : EntityId)
  | capability (token : EntityId) (reason : String)
  | build (cause : BuildError)
  | signing (cause : Signing.Error)
  | ledger (cause : LedgerError)
  | response (cause : ResponseError)
  | cancelled (stage : Stage)
  deriving DecidableEq, Repr

namespace DispatchError

def message : DispatchError → String
  | .notAllowed account operation token =>
    "account " ++ account.toString ++ " is not allowed to " ++ operation.name ++ " token " ++
      token.toString
  | .capability token reason =>
    "capability lookup for token " ++ token.toString ++ " failed: " ++ reason
  | .build cause => cause.message
  | .signing cause => cause.message
  | .ledger cause => cause.message
  | .response cause => cause.message
  | .cancelled stage => "cancelled while " ++ stage.text

/-- The kind of failure that an error is for the caller. -/
def kind : DispatchError → FailureKind
  | .notAllowed _ _ _ => .operationNotAllowed
  | .capability _ _ => .networkSubmissionFailed
  | .build cause =>
    if cause.isInvariantViolation then .internalInvariantViolation else .invalidRequest
  | .signing .notInitialized => .sessionNotInitialized
  | .signing _ => .signingError
  | .ledger _ => .networkSubmissionFailed
  | .response _ => .invalidResponse
  | .cancelled _ => .cancelled

def classify (e : DispatchError) : Failure := .ofMessage e.kind e.message

end DispatchError

/-- Who carries out requests, and how. -/
structure Dispatcher where
  account : EntityId
  explorer : Explorer
  maxFee : UInt64
  deriving Repr

/-- What a dispatcher works with: where it looks up what an account may do, the signer and the
ledger, each with a state of its own. -/
structure Desk (κ σ τ : Type) where
  capabilities : EntityId → Token → κ → Wait (Except String (List Capability)) × κ
  signer : Signing.Signer σ
  ledger : Ledger τ

/-- The states of a desk. -/
structure DeskState (κ σ τ : Type) where
  lookup : κ
  signer : σ
  ledger : τ

/-- What a call did outside, in order. -/
inductive Action
  | sign (body : Bytes)
  | submit (artifact : Artifact)
  | fetch (kind : ResponseKind)
  deriving DecidableEq, Repr

/-- A call: its outcome unless it never ends, the transaction if it was submitted, what was done
outside, and time and states at the end. -/
structure CallReport (κ σ τ : Type) (α : Type) where
  result : Option α
  submitted : Option TransactionId
  actions : List Action
  time : Timeline
  state : DeskState κ σ τ

namespace Dispatcher

def fetch (ledger : Ledger τ) (kind : ResponseKind) (id : TransactionId) (s : τ) :
    Wait (Except LedgerError Settlement) × τ :=
  match kind with
  | .receiptOnly =>
    let (w, s) := ledger.receipt id s
    (w.map fun a => a.map .receipt, s)
  | .fullRecord =>
    let (w, s) := ledger.record id s
    (w.map fun a => a.map .record, s)

def plan (d : Dispatcher) (capabilities : List Capability) (token : Token) (request : Request) :
    Except DispatchError Plan :=
  match Decision.ofCapabilities capabilities request.operation with
  | .forbidden => .error (.notAllowed d.account request.operation token.id)
  | .use surface =>
    if surface.supports request.operation then
      (surface.plan token request).mapError .build
    else .error (.build (.noBuilder request.operation surface))

/-- The transaction of a plan, under the given id. -/
def unsigned (d : Dispatcher) (plan : Plan) (id : TransactionId) : Unsigned :=
  ⟨id, d.maxFee, plan.body⟩

def submit (desk : Desk κ σ τ) (plan : Plan) (artifact : Artifact) (before : List Action)
    (t : Timeline) (s : DeskState κ σ τ) : CallReport κ σ τ (Except DispatchError Response) :=
  let submitted := some artifact.transaction
  let actions := before ++ [.submit artifact]
  let (w, ledger) := desk.ledger.submit artifact s.ledger
  match t.await w with
  | .endless t => ⟨none, submitted, actions, t, { s with ledger }⟩
  | .cancelled t => ⟨none, submitted, actions, t, { s with ledger }⟩
  | .answered (.error e) t =>
    ⟨some (.error (.ledger e)), submitted, actions, t, { s with ledger }⟩
  | .answered (.ok handle) t =>
    let actions := actions ++ [.fetch plan.response]
    match t.race (fetch desk.ledger plan.response handle) ledger with
    | (.endless t, ledger) => ⟨none, submitted, actions, t, { s with ledger }⟩
    | (.cancelled t, ledger) =>
      ⟨some (.error (.cancelled .settlement)), submitted, actions, t, { s with ledger }⟩
    | (.answered (.error e) t, ledger) =>
      ⟨some (.error (.ledger e)), submitted, actions, t, { s with ledger }⟩
    | (.answered (.ok settlement) t, ledger) =>
      let response := (settlement.response plan.response plan.format).mapError .response
      ⟨some response, submitted, actions, t, { s with ledger }⟩

/-- Has the transaction of a plan signed and submits it, unless the call was cancelled meanwhile. -/
def signAndSubmit (d : Dispatcher) (desk : Desk κ σ τ) (plan : Plan) (id : TransactionId)
    (t : Timeline) (s : DeskState κ σ τ) : CallReport κ σ τ (Except DispatchError Response) :=
  let body := (d.unsigned plan id).bytes
  let actions := [Action.sign body]
  let run := desk.signer.sign body t s.signer
  let s := { s with signer := run.state }
  match run.result with
  | none => ⟨none, none, actions, run.time, s⟩
  | some (.error e) => ⟨some (.error (.signing e)), none, actions, run.time, s⟩
  | some (.ok authorization) =>
    if run.time.isCancelled then
      ⟨some (.error (.cancelled .submission)), none, actions, run.time, s⟩
    else submit desk plan ⟨id, body, authorization⟩ actions run.time s

/-- Carries out a request under the given transaction id, up to the first error. -/
def run (d : Dispatcher) (desk : Desk κ σ τ) (token : Token) (request : Request)
    (id : TransactionId) (t : Timeline) (s : DeskState κ σ τ) :
    CallReport κ σ τ (Except DispatchError Response) :=
  match t.race (desk.capabilities d.account token) s.lookup with
  | (.endless t, lookup) => ⟨none, none, [], t, { s with lookup }⟩
  | (.cancelled t, lookup) =>
    ⟨some (.error (.cancelled .lookup)), none, [], t, { s with lookup }⟩
  | (.answered (.error reason) t, lookup) =>
    ⟨some (.error (.capability token.id reason)), none, [], t, { s with lookup }⟩
  | (.answered (.ok capabilities) t, lookup) =>
    match d.plan capabilities token request with
    | .error e => ⟨some (.error e), none, [], t, { s with lookup }⟩
    | .ok plan => d.signAndSubmit desk plan id t { s with lookup }

def conclude (submitted : Option TransactionId) : Except DispatchError Response → Response
  | .ok response => response
  | .error e =>
    let failure := e.classify
    .failure (submitted.elim failure failure.withTransaction)

/-- The response with a link to the transaction of its failure. -/
def linked (d : Dispatcher) (response : Response) : Response :=
  match response.failure?.bind Failure.transaction with
  | none => response
  | some id =>
    match d.explorer.transactionUrl id with
    | .ok url => response.withLink url
    | .error _ => response

def execute (d : Dispatcher) (desk : Desk κ σ τ) (token : Token) (request : Request)
    (id : TransactionId) (t : Timeline) (s : DeskState κ σ τ) : CallReport κ σ τ Response :=
  let report := d.run desk token request id t s
  ⟨report.result.map fun r => d.linked (conclude report.submitted r), report.submitted,
    report.actions, report.time, report.state⟩

/-- The form for inspection, for a signer of the given kind, without the explorer. -/
def describe (d : Dispatcher) (strategy : Signing.Strategy) : String :=
  "Dispatcher \x7b signer: " ++ Text.quoteString strategy.name ++ ", account: " ++
    d.account.describe ++ ", max_fee_tinybars: " ++ Text.numeralString d.maxFee.toNat ++
    ", .. \x7d"

end Dispatcher

end TokenDesk
