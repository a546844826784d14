import TokenDesk.Settlement
import TokenDesk.Signing.Signer

/-!
Ledgers. A ledger takes a signed transaction, names it by a handle, and says later how it settled.
`MemoryLedger` does so in memory, always with the same outcome, and keeps every submission.
-/

namespace TokenDesk

/-- The bytes of a transaction with their authorization. -/
structure Artifact where
  transaction : TransactionId
  body : Bytes
  authorization : Signing.Authorization
  deriving DecidableEq, Repr

/-- Why a ledger gives no answer. -/
inductive LedgerError
  | submit (reason : String)
  | receipt (transaction : TransactionId) (reason : String)
  | record (transaction : TransactionId) (reason : String)
  deriving DecidableEq, Repr

def LedgerError.name : LedgerError → String
  | .submit _ => "Submit"
  | .receipt _ _ => "Receipt"
  | .record _ _ => "Record"

def LedgerError.message : LedgerError → String
  | .submit reason => "submission failed: " ++ reason
  | .receipt transaction reason =>
    "failed to fetch receipt for " ++ transaction.toString ++ ": " ++ reason
  | .record transaction reason =>
    "failed to fetch record for " ++ transaction.toString ++ ": " ++ reason

/-- A ledger: how it answers while its state changes. A transaction is named by its id. -/
structure Ledger (σ : Type) where
  submit : Artifact → σ → Wait (Except LedgerError TransactionId) × σ
  receipt : TransactionId → σ → Wait (Except LedgerError Receipt) × σ
  record : TransactionId → σ → Wait (Except LedgerError Record) × σ

/-- What becomes of every transaction. -/
inductive LedgerOutcome
  | success (returned : Option Bytes)
  | settlementFailure (code : String)
  | submitError (reason : String)
  | receiptError (reason : String)
  deriving DecidableEq, Repr

def LedgerOutcome.status : LedgerOutcome → Status
  | .settlementFailure code => .failed code
  | _ => .success

/-- A ledger in memory. -/
structure MemoryLedger where
  outcome : LedgerOutcome
  submissions : Nat
  submitted : List Artifact
  deriving DecidableEq, Repr

namespace MemoryLedger

def ofOutcome (outcome : LedgerOutcome) : MemoryLedger := ⟨outcome, 0, []⟩

/-- Takes a transaction. A submission that fails is counted but not kept. -/
def submit (artifact : Artifact) (l : MemoryLedger) :
    Except LedgerError TransactionId × MemoryLedger :=
  let l := { l with submissions := l.submissions + 1 }
  match l.outcome with
  | .submitError reason => (.error (.submit reason), l)
  | _ => (.ok artifact.transaction, { l with submitted := l.submitted ++ [artifact] })

def receipt (l : MemoryLedger) (id : TransactionId) : Except LedgerError Receipt :=
  match l.outcome with
  | .receiptError reason => .error (.receipt id reason)
  | outcome => .ok ⟨id, outcome.status⟩

/-- The record of a transaction; only a success returns data. -/
def record (l : MemoryLedger) (id : TransactionId) : Except LedgerError Record :=
  match l.outcome with
  | .receiptError reason => .error (.record id reason)
  | .success returned => .ok ⟨⟨id, .success⟩, returned⟩
  | outcome => .ok ⟨⟨id, outcome.status⟩, none⟩

/-- The ledger in memory, which answers at once. -/
def ledger : Ledger MemoryLedger where
  submit artifact l := let (a, l) := l.submit artifact; (.now a, l)
  receipt id l := (.now (l.receipt id), l)
  record id l := (.now (l.record id), l)

end MemoryLedger

end TokenDesk
