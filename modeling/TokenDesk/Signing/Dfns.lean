import TokenDesk.Json.Value
import TokenDesk.Signing.Custodial
import TokenDesk.Text.Utf8
import TokenDesk.Url.Read
import TokenDesk.Wire.Decode

/-!
A custodial provider over HTTP. A request is created by a POST to the wallet's signatures, and its
status is asked for by a GET of the address below. The exchange itself is a parameter.
-/

namespace TokenDesk.Signing.Dfns

/-- Where and as whom to ask. -/
structure Context where
  baseUrl : Url
  appId : String
  authToken : String
  walletId : String
  deriving DecidableEq, Repr

/-- The form for inspection, which does not show the token. -/
def Context.describe (c : Context) : String :=
  "DfnsCtx \x7b base_url: " ++ Text.quoteString c.baseUrl.toString ++ ", app_id: " ++
    Text.quoteString c.appId ++ ", auth_token: \"[REDACTED]\", wallet_id: " ++
    Text.quoteString c.walletId ++ " \x7d"

open Wire in
def url (d : Json.Document) : Outcome Url := do
  match Url.read (← characters d) with
  | .ok u => .ok u
  | .error _ => .error .malformed

open Wire in
def context (d : Json.Document) : Outcome Context := do
  let r ← record ["base_url", "app_id", "auth_token", "wallet_id"] d
  r.settle (Context.mk <$> r.field 0 url <*> r.field 1 string <*> r.field 2 string <*>
    r.field 3 string)

def describeClient (c : Context) : String :=
  "DfnsClient \x7b ctx: " ++ c.describe ++ ", .. \x7d"

/-- The methods of HTTP that are used. -/
inductive Method
  | get
  | post
  deriving DecidableEq, Repr

/-- A request over HTTP. -/
structure HttpRequest where
  method : Method
  url : String
  bearer : String
  appId : String
  body : Option Json

/-- An answer over HTTP, without its headers: the body is taken for UTF-8, whatever charset they
name. -/
structure HttpReply where
  status : Nat
  body : Bytes
  deriving DecidableEq, Repr

def Context.signaturesUrl (c : Context) : String :=
  String.ofList (Text.dropEnding '/' c.baseUrl.text) ++ "/wallets/" ++ c.walletId ++ "/signatures"

def Context.createRequest (c : Context) (payload : Bytes) : HttpRequest :=
  ⟨.post, c.signaturesUrl, c.authToken, c.appId,
    some (.object [("kind", .text "Message"), ("message", .text (Text.hexString payload))])⟩

def Context.statusRequest (c : Context) (request : String) : HttpRequest :=
  ⟨.get, c.signaturesUrl ++ "/" ++ request, c.authToken, c.appId, none⟩

/-- What the provider says about a signature. -/
structure SignatureState where
  id : Option String
  status : String
  /-- The two components, each as hexadecimal text. -/
  signature : Option (String × String)
  reason : Option String
  deriving DecidableEq, Repr

open Wire in
def components (d : Json.Document) : Outcome (String × String) := do
  let r ← record ["r", "s"] d
  r.settle (Prod.mk <$> r.field 0 string <*> r.field 1 string)

open Wire in
def signatureState (d : Json.Document) : Outcome SignatureState := do
  let r ← record ["id", "status", "signature", "reason"] d
  r.settle (SignatureState.mk <$> r.field? 0 string <*> r.field 1 string <*>
    r.field? 2 components <*> r.field? 3 string)

/-- The state that a body is the text of. -/
def readState? (body : Bytes) : Option SignatureState := do
  let text ← Text.readUtf8? body
  (Wire.decodeText signatureState text).toOption

/-- Reads an answer: only a status of success has a state in its body. -/
def readReply (reply : HttpReply) : Except ProviderError SignatureState :=
  if isSuccess reply.status then
    match readState? reply.body with
    | some state => .ok state
    | none => .error (.http "error decoding response body")
  else .error (.api reply.status (String.ofList (Text.readUtf8Lossy reply.body)))

/-- What a state means. A request may be signed before the signature is attached. -/
def classify (s : SignatureState) : Except ProviderError (RemoteStatus Material) :=
  if s.status = "Pending" ∨ s.status = "Executing" then .ok .pending
  else if s.status = "Signed" ∨ s.status = "Confirmed" then
    match s.signature with
    | some (r, s) => .ok (.signed (.components r s))
    | none => .ok .pending
  else if s.status = "Failed" ∨ s.status = "Rejected" then
    .ok (.failed (s.reason.getD s.status))
  else .error (.unknownStatus s.status)

def createdId (reply : HttpReply) : Except ProviderError String := do
  match (← readReply reply).id with
  | some id => return id
  | none => throw .missingRequestId

def remoteStatus (reply : HttpReply) : Except ProviderError (RemoteStatus Material) := do
  classify (← readReply reply)

/-- The provider behind an exchange, which answers requests or fails with a reason. -/
def provider (c : Context) (exchange : HttpRequest → σ → Wait (Except String HttpReply) × σ) :
    Provider σ where
  name := "dfns"
  create payload s :=
    let (w, s) := exchange (c.createRequest payload) s
    (w.map fun a => (a.mapError ProviderError.http).bind createdId, s)
  status request s :=
    let (w, s) := exchange (c.statusRequest request) s
    (w.map fun a => (a.mapError ProviderError.http).bind remoteStatus, s)

end TokenDesk.Signing.Dfns
