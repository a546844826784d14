import TokenDesk.Json.Access
import TokenDesk.Signing.Scripted
import TokenDesk.Signing.Wallet

/-!
Scripts for providers and wallets in memory, written in JSON. A `Playback` is a provider of either
kind, and a wallet's script lists what it does with each request.
-/

namespace TokenDesk.Signing

open Json (Document)

/-- Signature material: the whole signature, or its two numbers. -/
def Material.ofDocument? (d : Document) : Option Material :=
  match d.text? "full" with
  | some text => some (.whole text)
  | none => do return .components (← d.text? "r") (← d.text? "s")

def Material.toJson : Material → Json
  | .components r s => .object [("r", .text r), ("s", .text s)]
  | .whole signature => .object [("full", .text signature)]

def remoteStatus? (d : Document) : Option (RemoteStatus Material) := do
  match ← d.text? "status" with
  | "pending" => some .pending
  | "signed" => return .signed (← (d.member? "material").bind Material.ofDocument?)
  | "failed" => return .failed (← d.text? "reason")
  | _ => none

/-- The members of the JSON form of what a provider says. -/
def remoteMembers : RemoteStatus Material → List (String × Json)
  | .pending => [("status", .text "pending")]
  | .signed material => [("status", .text "signed"), ("material", material.toJson)]
  | .failed reason => [("status", .text "failed"), ("reason", .text reason)]

/-- A status code of HTTP, which has three digits. -/
def statusCode? (d : Document) : Option Nat := do
  let code ← d.nat? 999 "status"
  if 100 ≤ code then some code else none

def ProviderError.ofDocument? (d : Document) : Option ProviderError := do
  match ← d.text? "kind" with
  | "api" => return .api (← statusCode? d) (← d.text? "body")
  | "missing_request_id" => some .missingRequestId
  | "unknown_status" => return .unknownStatus (← d.text? "text")
  | "provider" => return .provider (← d.text? "text")
  | _ => none

/-- What a creation answers: the name of the request, or an error. -/
def creation? (d : Document) : Option (Except ProviderError String) :=
  match d.toText? with
  | some request => some (.ok request)
  | none => (ProviderError.ofDocument? d).map .error

/-- A number of milliseconds, in nanoseconds. -/
def millis? (d : Document) : Option Nat := (d.toNat? (UInt64.size - 1)).map (· * 1_000_000)

/-- The answer to a status query, and when it comes. -/
def statusWait? (d : Document) : Option (Wait (Except ProviderError (RemoteStatus Material))) := do
  let delay ← d.optional? "delay_ms" millis?
  let answer ←
    if d.flag "hang" then some none
    else match d.member? "error" with
      | some e => (ProviderError.ofDocument? e).map fun e => some (.error e)
      | none => (remoteStatus? d).map fun s => some (.ok s)
  return ⟨delay.getD 0, answer, d.flag "cancels"⟩

/-- A provider in memory that plays a script, with or without times. -/
inductive Playback
  | scripted (s : Scripted)
  | stepped (s : Stepped)

namespace Playback

def ofDocument? (d : Document) : Option Playback := do
  match ← d.text? "type" with
  | "scripted" => return .scripted (.ofScript (← d.listOrNone? "script" remoteStatus?))
  | "failing_create" => return .scripted (.failingCreate (← d.text? "message"))
  | "failing_status" =>
    return .scripted (.failingStatus (← statusCode? d) (← d.text? "body"))
  | "steps" =>
    return .stepped {
      creations := ← d.listOrNone? "create" creation?
      createHangs := d.flag "create_hangs"
      createCancels := d.flag "create_cancels"
      script := ← d.listOrNone? "script" statusWait?
      calls := [] }
  | _ => none

def toJson : Playback → Json
  | .scripted s =>
    .object [("status_calls", .nat s.statusCalls),
      ("created", .array (s.created.map fun payload => .nat payload.length))]
  | .stepped s =>
    .object [("calls", .array (s.calls.map fun
      | .create size => .text ("create " ++ Text.numeralString size)
      | .status request => .text ("status " ++ request)))]

def name : Playback → String
  | .scripted _ => Scripted.provider.name
  | .stepped _ => Stepped.provider.name

/-- The provider, under the name of one that plays a script. -/
def provider (name : String) : Provider Playback where
  name
  create payload
    | .scripted s => let (w, s) := Scripted.provider.create payload s; (w, .scripted s)
    | .stepped s => let (w, s) := Stepped.provider.create payload s; (w, .stepped s)
  status request
    | .scripted s => let (w, s) := Scripted.provider.status request s; (w, .scripted s)
    | .stepped s => let (w, s) := Stepped.provider.status request s; (w, .stepped s)

end Playback

/-- How often to ask, and how long to wait before each time. -/
def PollConfig.ofDocument? (d : Document) : Option PollConfig := do
  return ⟨UInt32.ofNat (← d.nat? (UInt32.size - 1) "max_attempts"),
    ← (d.member? "interval_ms").bind millis?⟩

def WalletAction.ofDocument? (d : Document) : Option WalletAction := do
  let cancels := d.flag "cancels"
  match d.member? "approve", d.member? "approve_append", d.member? "reject" with
  | some bytes, _, _ => return ⟨.approve (← bytes.toBytes?), cancels⟩
  | none, some bytes, _ => return ⟨.append (← bytes.toBytes?), cancels⟩
  | none, none, some reason => return ⟨.reject (← reason.toText?), cancels⟩
  | none, none, none => return ⟨if d.flag "hang" then .keep else .drop, cancels⟩

def Wallet.ofDocument? (d : Document) : Option Wallet := do
  return .start (← d.text? "account") (← d.listOrNone? "actions" WalletAction.ofDocument?)

end TokenDesk.Signing
