import TokenDesk.TransactionId
import TokenDesk.Url.Basic

/-!
Failures as callers see them: a kind, which says whether trying again may help, and a message.
-/

namespace TokenDesk

/-- The kinds of failures. -/
inductive FailureKind
  | operationNotAllowed
  | invalidRequest
  | signingError
  /-- Signing is left to a wallet, and none is paired. -/
  | sessionNotInitialized
  | invalidResponse
  | networkSubmissionFailed
  /-- The network took the transaction, and it settled without success. -/
  | settlementFailed
  /-- The call was cancelled outside of signing. -/
  | cancelled
  | internalInvariantViolation
  deriving DecidableEq, Repr

namespace FailureKind

def name : FailureKind → String
  | .operationNotAllowed => "operation_not_allowed"
  | .invalidRequest => "invalid_request"
  | .signingError => "signing_error"
  | .sessionNotInitialized => "session_not_initialized"
  | .invalidResponse => "invalid_response"
  | .networkSubmissionFailed => "network_submission_failed"
  | .settlementFailed => "settlement_failed"
  | .cancelled => "cancelled"
  | .internalInvariantViolation => "internal_invariant_violation"

def isRetryable : FailureKind → Bool
  | .signingError | .networkSubmissionFailed | .cancelled => true
  | _ => false

end FailureKind

/-- A failure, with the transaction it concerns and a link to it. -/
structure Failure where
  kind : FailureKind
  message : String
  transaction : Option TransactionId
  link : Option Url
  deriving DecidableEq, Repr

namespace Failure

def ofMessage (kind : FailureKind) (message : String) : Failure := ⟨kind, message, none, none⟩

def withTransaction (f : Failure) (id : TransactionId) : Failure :=
  { f with transaction := some id }

def withLink (f : Failure) (url : Url) : Failure := { f with link := some url }

def text (f : Failure) : String := f.kind.name ++ ": " ++ f.message

end Failure

end TokenDesk
