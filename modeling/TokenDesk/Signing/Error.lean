import TokenDesk.Text.Duration
import TokenDesk.Text.Quoted

/-!
Why something was not signed.
-/

namespace TokenDesk.Signing

/-- What is wrong with a payload. -/
inductive PayloadFault
  | empty
  /-- A reason in words. -/
  | because (reason : String)
  deriving DecidableEq, Repr

def PayloadFault.message : PayloadFault → String
  | .empty => "payload is empty"
  | .because reason => reason

/-- What is wrong with a signature. -/
inductive SignatureFault
  | unreadable (cause : Text.HexError)
  | longComponent (size : Nat)
  | emptySignature
  | wrongLength (size : Nat)
  /-- A reason in words. -/
  | because (reason : String)
  deriving DecidableEq, Repr

def SignatureFault.message : SignatureFault → String
  | .unreadable cause => cause.message
  | .longComponent size =>
    "signature component is " ++ Text.numeralString size ++ " bytes, expected at most 32"
  | .emptySignature => "empty full signature"
  | .wrongLength size => "expected 64 bytes, got " ++ Text.numeralString size
  | .because reason => reason

/-- What is wrong with a private key. -/
inductive KeyFault
  | unreadable (cause : Text.HexError)
  /-- The number is zero or not below the order of the curve. -/
  | outOfRange
  /-- A reason in words. -/
  | because (reason : String)
  deriving DecidableEq, Repr

def KeyFault.message : KeyFault → String
  | .unreadable cause => cause.message
  | .outOfRange => "signature error"
  | .because reason => reason

/-- Why something was not signed. -/
inductive Error
  | rejected (request reason : String)
  /-- The request was still pending after a number of queries and of nanoseconds; the last query
  may itself have failed. -/
  | timedOut (request : String) (attempts elapsed : Nat) (lastError : Option String)
  | cancelled (request : Option String)
  | provider (name message : String)
  | malformedPayload (cause : PayloadFault)
  | malformedSignature (cause : SignatureFault)
  | invalidKey (cause : KeyFault)
  | notInitialized
  | sessionDisconnected
  | sessionRejected (reason : String)
  deriving DecidableEq, Repr

def quoteOptional (s : Option String) : String :=
  s.elim "None" fun s => "Some(" ++ Text.quoteString s ++ ")"

def timeoutHint (lastError : Option String) : String :=
  lastError.elim "increase poll attempts or interval" fun e => "last status query failed: " ++ e

def Error.name : Error → String
  | .rejected _ _ => "Rejected"
  | .timedOut _ _ _ _ => "TimedOut"
  | .cancelled _ => "Cancelled"
  | .provider _ _ => "Provider"
  | .malformedPayload _ => "MalformedPayload"
  | .malformedSignature _ => "MalformedSignature"
  | .invalidKey _ => "InvalidKey"
  | .notInitialized => "NotInitialized"
  | .sessionDisconnected => "SessionDisconnected"
  | .sessionRejected _ => "SessionRejected"

def Error.message : Error → String
  | .rejected request reason => "signature request " ++ request ++ " was rejected: " ++ reason
  | .timedOut request attempts elapsed lastError =>
    "signature request " ++ request ++ " still pending after " ++ Text.numeralString attempts ++
      " attempts (" ++ Text.durationText elapsed ++ "); " ++ timeoutHint lastError
  | .cancelled request => "signing was cancelled (request " ++ quoteOptional request ++ ")"
  | .provider name message => name ++ " signing provider error: " ++ message
  | .malformedPayload cause => "malformed signing payload: " ++ cause.message
  | .malformedSignature cause => "malformed signature from signer: " ++ cause.message
  | .invalidKey cause => "invalid private key: " ++ cause.message
  | .notInitialized => "no wallet session has been initialized"
  | .sessionDisconnected => "wallet session disconnected"
  | .sessionRejected reason => "wallet rejected the request: " ++ reason

end TokenDesk.Signing
