import TokenDesk.Signing.HttpStatus
import TokenDesk.Signing.Material
import TokenDesk.Signing.Poll
import TokenDesk.Timing

/-!
Signing by a custodial provider, which holds the key and answers in its own time. A call creates a
request and then asks for its status until the provider has decided, the number of queries is used
up, or the call is cancelled.
-/

namespace TokenDesk.Signing

/-- What can go wrong when a provider is asked. -/
inductive ProviderError
  /-- The exchange failed, or its answer could not be read. -/
  | http (reason : String)
  | api (status : Nat) (body : String)
  | missingRequestId
  | unknownStatus (status : String)
  | provider (reason : String)
  deriving DecidableEq, Repr

namespace ProviderError

def name : ProviderError → String
  | .http _ => "Http"
  | .api _ _ => "Api"
  | .missingRequestId => "MissingRequestId"
  | .unknownStatus _ => "UnknownStatus"
  | .provider _ => "Provider"

def message : ProviderError → String
  | .http reason => "HTTP request to custodial provider failed: " ++ reason
  | .api status body => "custodial provider returned " ++ statusText status ++ ": " ++ body
  | .missingRequestId => "custodial provider response did not include a request id"
  | .unknownStatus status => "custodial provider returned an unknown status: " ++ status
  | .provider reason => "custodial provider error: " ++ reason

def isPermanent : ProviderError → Bool
  | .api status _ => isPermanentStatus status
  | _ => false

end ProviderError

/-- A custodial provider: its name, and how it answers while its state changes. -/
structure Provider (σ : Type) where
  name : String
  /-- Asks for a signature; the answer names the request. -/
  create : Bytes → σ → Wait (Except ProviderError String) × σ
  /-- Asks how a request stands. -/
  status : String → σ → Wait (Except ProviderError (RemoteStatus Material)) × σ

/-- What an answer to a status query comes to: a permanent error decides the request, and any other
error leaves it pending and is remembered. -/
def observe :
    Except ProviderError (RemoteStatus Material) → RemoteStatus Material × Option String
  | .ok status => (status, none)
  | .error e =>
    if e.isPermanent then (.failed e.message, none) else (.pending, some e.message)

/-- Waits, asks and counts until the request is decided; `left` queries are allowed. -/
def pollFrom (provider : Provider σ) (interval began : Nat) :
    Nat → Poller → Option String → Timeline → σ → Run σ (Except Error Material)
  | 0, poller, lastError, t, s =>
    ⟨some (.error (.timedOut poller.request poller.attempts (t.now - began) lastError)), t, s⟩
  | left + 1, poller, _, t, s =>
    match t.race (fun s => (Wait.pause interval, s)) s with
    | (.endless t, s) => ⟨none, t, s⟩
    | (.cancelled t, s) => ⟨some (.error (.cancelled (some poller.request))), t, s⟩
    | (.answered _ t, s) =>
      match t.race (provider.status poller.request) s with
      | (.endless t, s) => ⟨none, t, s⟩
      | (.cancelled t, s) => ⟨some (.error (.cancelled (some poller.request))), t, s⟩
      | (.answered answer t, s) =>
        let (status, lastError) := observe answer
        match poller.advance status with
        | (.signed material, _) => ⟨some (.ok material), t, s⟩
        | (.failed reason, _) => ⟨some (.error (.rejected poller.request reason)), t, s⟩
        | (.timedOut attempts, _) =>
          ⟨some (.error (.timedOut poller.request attempts (t.now - began) lastError)), t, s⟩
        | (.pending _, poller) => pollFrom provider interval began left poller lastError t s

/-- Asks for the status of a request until it is decided. -/
def poll (provider : Provider σ) (config : PollConfig) (request : String) (t : Timeline) (s : σ) :
    Run σ (Except Error Material) :=
  pollFrom provider config.interval t.now config.maxAttempts.toNat (.start request config) none t s

def signCustodial (provider : Provider σ) (config : PollConfig) (payload : Bytes) (t : Timeline)
    (s : σ) : Run σ (Except Error Bytes) :=
  if payload.isEmpty then ⟨some (.error (.malformedPayload .empty)), t, s⟩
  else match t.race (provider.create payload) s with
    | (.endless t, s) => ⟨none, t, s⟩
    | (.cancelled t, s) => ⟨some (.error (.cancelled none)), t, s⟩
    | (.answered (.error e) t, s) => ⟨some (.error (.provider provider.name e.message)), t, s⟩
    | (.answered (.ok request) t, s) =>
      let run := poll provider config request t s
      ⟨run.result.map fun r => r.bind Material.reconstruct, run.time, run.state⟩

def describeCustodial (name : String) (config : PollConfig) : String :=
  "CustodialSigner \x7b provider: " ++ Text.quoteString name ++ ", poll: " ++ config.describe ++
    ", .. \x7d"

end TokenDesk.Signing
