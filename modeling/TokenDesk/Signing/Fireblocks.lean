import TokenDesk.Json.Value
import TokenDesk.Signing.Custodial
import TokenDesk.Wire.Decode

/-!
A custodial provider that signs raw messages from a vault account. A request is a transaction of the
provider, and the signature is attached to its first message when the transaction is complete.
-/

namespace TokenDesk.Signing.Fireblocks

/-- The environments of the provider. -/
inductive Environment
  | production
  | sandbox
  deriving DecidableEq, Repr

namespace Environment

def all : List Environment := [.production, .sandbox]

def name : Environment → String
  | .production => "production"
  | .sandbox => "sandbox"

def describe : Environment → String
  | .production => "Production"
  | .sandbox => "Sandbox"

end Environment

/-- Where a provider's transaction stands. -/
inductive TransactionStatus
  | submitted | pendingAmlScreening | pendingEnrichment | pendingAuthorization | queued
  | pendingSignature | pendingThirdPartyManualApproval | pendingThirdParty | broadcasting
  | completed | confirming | cancelling | cancelled | blocked | rejected | failed
  deriving DecidableEq, Repr

namespace TransactionStatus

def all : List TransactionStatus := [
  .submitted, .pendingAmlScreening, .pendingEnrichment, .pendingAuthorization, .queued,
  .pendingSignature, .pendingThirdPartyManualApproval, .pendingThirdParty, .broadcasting,
  .completed, .confirming, .cancelling, .cancelled, .blocked, .rejected, .failed]

def name : TransactionStatus → String
  | .submitted => "SUBMITTED"
  | .pendingAmlScreening => "PENDING_AML_SCREENING"
  | .pendingEnrichment => "PENDING_ENRICHMENT"
  | .pendingAuthorization => "PENDING_AUTHORIZATION"
  | .queued => "QUEUED"
  | .pendingSignature => "PENDING_SIGNATURE"
  | .pendingThirdPartyManualApproval => "PENDING_3RD_PARTY_MANUAL_APPROVAL"
  | .pendingThirdParty => "PENDING_3RD_PARTY"
  | .broadcasting => "BROADCASTING"
  | .completed => "COMPLETED"
  | .confirming => "CONFIRMING"
  | .cancelling => "CANCELLING"
  | .cancelled => "CANCELLED"
  | .blocked => "BLOCKED"
  | .rejected => "REJECTED"
  | .failed => "FAILED"

/-- The word for a status that ends a transaction without a signature. -/
def title : TransactionStatus → String
  | .submitted => "Submitted"
  | .pendingAmlScreening => "PendingAmlScreening"
  | .pendingEnrichment => "PendingEnrichment"
  | .pendingAuthorization => "PendingAuthorization"
  | .queued => "Queued"
  | .pendingSignature => "PendingSignature"
  | .pendingThirdPartyManualApproval => "Pending3RdPartyManualApproval"
  | .pendingThirdParty => "Pending3RdParty"
  | .broadcasting => "Broadcasting"
  | .completed => "Completed"
  | .confirming => "Confirming"
  | .cancelling => "Cancelling"
  | .cancelled => "Cancelled"
  | .blocked => "Blocked"
  | .rejected => "Rejected"
  | .failed => "Failed"

end TransactionStatus

/-- What a status means, with the signature attached to the first message. -/
def classify (status : TransactionStatus) (signature : Option String) : RemoteStatus Material :=
  match status with
  | .completed =>
    match signature with
    | some text => .signed (.whole text)
    | none => .failed "completed without a signed message"
  | .cancelling | .cancelled | .blocked | .rejected | .failed => .failed status.title
  | _ => .pending

/-- A provider's transaction: its status, and the signature of its first message if it has one. -/
structure Transaction where
  id : String
  status : TransactionStatus
  signature : Option String
  deriving DecidableEq, Repr

def Transaction.remoteStatus (t : Transaction) : RemoteStatus Material :=
  classify t.status t.signature

open Wire in
/-- The signature of a message, as far as it is given in one piece. -/
def messageSignature (d : Json.Document) : Outcome (Option String) := do
  let r ← record ["fullSig", "r", "s"] d
  r.settle ((fun whole _ _ => whole) <$> r.field? 0 string <*> r.field? 1 string <*>
    r.field? 2 string)

open Wire in
def signedMessage (d : Json.Document) : Outcome (Option String) := do
  let r ← record ["content", "signature"] d
  r.settle ((fun _ signature => signature.join) <$> r.field? 0 string <*>
    r.field? 1 messageSignature)

open Wire in
def transaction (pass : Pass) (d : Json.Document) : Outcome Transaction := do
  let r ← record ["id", "status", "signedMessages"] d
  r.settle ((fun id status messages => ⟨id, status, (messages.getD []).head?.join⟩) <$>
    r.field 0 string <*> r.field 1 (choice pass TransactionStatus.all TransactionStatus.name) <*>
    r.field? 2 (list signedMessage))

def signingRequest (assetId vaultAccountId content externalId : String) : Json :=
  .object [
    ("operation", .text "RAW"),
    ("note", .text "token operation signature"),
    ("externalTxId", .text externalId),
    ("assetId", .text assetId),
    ("source", .object [("type", .text "VAULT_ACCOUNT"), ("id", .text vaultAccountId)]),
    ("extraParameters", .object [
      ("rawMessageData", .object [
        ("messages", .array [.object [("content", .text content)]]),
        ("algorithm", .text "MPC_ECDSA_SECP256K1")])])]

/-- A random identifier: 32 hexadecimal digits in five groups, of which one digit is a four and the
two highest bits of another are one and zero. -/
def randomId (random : Bytes) : String :=
  let bytes := (random ++ List.replicate 16 0).take 16
  let marked := bytes.zipIdx.map fun (b, i) =>
    if i = 6 then UInt8.ofNat (b.toNat % 16 + 64)
    else if i = 8 then UInt8.ofNat (b.toNat % 64 + 128)
    else b
  let digits := Text.hexOfBytes marked
  let group (first size : Nat) := String.ofList ((digits.drop first).take size)
  Text.joinWith "-" [group 0 8, group 8 4, group 12 4, group 16 4, group 20 12]

def isRandomId (text : String) : Bool :=
  match Text.splitAt '-' text.toList with
  | [a, b, c, d, e] =>
    [a, b, c, d, e].map List.length = [8, 4, 4, 4, 12] &&
      [a, b, c, d, e].all (fun g => g.all fun x => (Text.hexValue? x).isSome) &&
      c.head? = some '4' && (d.head?.elim false fun x => ['8', '9', 'a', 'b'].contains x)
  | _ => false

/-- The vault account and the asset that a client signs with. -/
structure Context where
  apiUserId : String
  vaultAccountId : String
  assetId : String
  environment : Environment
  deriving DecidableEq, Repr

/-- The form for inspection, which does not show the secret. -/
def Context.describe (c : Context) : String :=
  "FireblocksCtx \x7b api_user_id: " ++ Text.quoteString c.apiUserId ++
    ", secret: \"[REDACTED]\", vault_account_id: " ++ Text.quoteString c.vaultAccountId ++
    ", asset_id: " ++ Text.quoteString c.assetId ++ ", environment: " ++ c.environment.describe ++
    " \x7d"

end TokenDesk.Signing.Fireblocks
