import TokenDesk.Dispatch
import TokenDesk.KeyFile.Rsa
import TokenDesk.Signing.Dfns
import TokenDesk.Signing.Fireblocks
import TokenDesk.Toml.Read

/-!
The configuration of a desk. It comes from two documents, one with settings and one with the
credentials of a signer. `Draft.read` reads both, and `Draft.assemble` turns them into a `Config`
with the content of the file that the credentials may name.
-/

namespace TokenDesk

/-- How much is logged. -/
inductive LogLevel
  | trace
  | debug
  | info
  | warn
  | error
  deriving DecidableEq, Repr

namespace LogLevel

def all : List LogLevel := [.trace, .debug, .info, .warn, .error]

def name : LogLevel → String
  | .trace => "trace"
  | .debug => "debug"
  | .info => "info"
  | .warn => "warn"
  | .error => "error"

def label : LogLevel → String
  | .trace => "TRACE"
  | .debug => "DEBUG"
  | .info => "INFO"
  | .warn => "WARN"
  | .error => "ERROR"

def describe : LogLevel → String
  | .trace => "Trace"
  | .debug => "Debug"
  | .info => "Info"
  | .warn => "Warn"
  | .error => "Error"

end LogLevel

/-- Why there is no configuration. -/
inductive ConfigError
  /-- A file cannot be read. -/
  | unreadable
  /-- A document is malformed or says something that it cannot say. -/
  | malformed
  | explorerUrl (cause : Url.ReadError)
  | invalidKey (cause : Signing.Error)
  /-- The client of a custodial provider cannot be made. -/
  | custodial (provider : String)
  deriving DecidableEq, Repr

namespace ConfigError

def name : ConfigError → String
  | .unreadable => "Io"
  | .malformed => "Toml"
  | .explorerUrl _ => "ExplorerUrl"
  | .invalidKey _ => "InvalidKey"
  | .custodial _ => "Custodial"

def message : ConfigError → String
  | .unreadable => "failed to read config file"
  | .malformed => "failed to parse TOML"
  | .explorerUrl _ => "invalid explorer URL"
  | .invalidKey _ => "invalid local signing key"
  | .custodial provider => "failed to construct " ++ provider ++ " client"

/-- What went wrong, in words that tell nothing about the documents. -/
def kind : ConfigError → String
  | .unreadable => "failed to read config file"
  | .malformed => "failed to parse config file"
  | .explorerUrl _ => "invalid explorer URL"
  | .invalidKey _ => "invalid local signing key"
  | .custodial _ => "failed to construct custodial client"

end ConfigError

/-- What settings say about polling a custodial provider. -/
structure PollSettings where
  maxAttempts : Option UInt32
  /-- The interval in milliseconds. -/
  interval : Option UInt64
  deriving DecidableEq, Repr

def PollSettings.over (settings : Option PollSettings) (defaults : Signing.PollConfig) :
    Signing.PollConfig where
  maxAttempts := (settings.bind PollSettings.maxAttempts).getD defaults.maxAttempts
  interval :=
    match settings.bind PollSettings.interval with
    | some ms => ms.toNat * 1_000_000
    | none => defaults.interval

/-- What the document with settings says. -/
structure Settings where
  logLevel : Option LogLevel
  network : Network
  operator : EntityId
  explorerUrl : Option Url
  maxFee : Option UInt64
  poll : Option PollSettings
  deriving DecidableEq, Repr

/-- What the document with credentials says. -/
inductive Credentials
  | localKey (privateKey : String)
  | dfns (context : Signing.Dfns.Context)
  /-- The secret of the client is the content of a file. -/
  | fireblocks (context : Signing.Fireblocks.Context) (secretPath : String)
  | walletSession
  deriving DecidableEq, Repr

namespace Config

open Toml

def uint32? (v : Value) : Option UInt32 := (v.natural? (UInt32.size - 1)).map UInt32.ofNat

def uint64? (v : Value) : Option UInt64 := (v.natural? (UInt64.size - 1)).map UInt64.ofNat

def url? (v : Value) : Option Url := v.text?.bind fun text => (Url.read text.toList).toOption

def entity? (v : Value) : Option EntityId := v.text?.bind fun text => EntityId.ofText? text.toList

def pollSettings? (v : Value) : Option PollSettings := do
  let parts ← Parts.ofValue? v
  return ⟨← parts.optional 0 "max_attempts" uint32?, ← parts.optional 1 "interval_ms" uint64?⟩

def settings? (document : List (Key × Value)) : Option Settings := do
  let parts := Parts.named document
  let logLevel ← parts.optional 0 "log_level" (Value.choice? LogLevel.all LogLevel.name)
  let network ← parts.required 1 "network" (Value.choice? Network.all Network.name)
  let operator ← parts.required 2 "operator_account" entity?
  let explorerUrl ← parts.optional 3 "explorer_url" url?
  let maxFee ← parts.optional 4 "max_fee_tinybars" uint64?
  let poll ← parts.optional 5 "poll" pollSettings?
  return ⟨logLevel, network, operator, explorerUrl, maxFee, poll⟩

def environment? : Value → Option Signing.Fireblocks.Environment :=
  Value.strictChoice? Signing.Fireblocks.Environment.all Signing.Fireblocks.Environment.name

/-- The kind of signer that credentials are for, and their other parts. -/
def strategy? (v : Value) : Option (Signing.Strategy × Parts) := do
  let (tag, parts) ← match ← Parts.ofValue? v with
    | .named members => (Value.find? "type" members).map fun tag => (tag, Parts.named members)
    | .listed items => items.head?.map fun tag => (tag, Parts.listed items.tail)
  let name ← tag.text?
  let strategy ← Value.named? Signing.Strategy.all Signing.Strategy.name name.toList
  return (strategy, parts)

/-- Credentials, tagged with the kind of signer. -/
def credentials? (v : Value) : Option Credentials := do
  let (strategy, parts) ← strategy? v
  match strategy with
  | .localKey =>
    let key ← parts.required 0 "private_key" Value.text?
    if parts.fits 1 then some (.localKey key) else none
  | .dfns =>
    let baseUrl ← parts.required 0 "base_url" url?
    let appId ← parts.required 1 "app_id" Value.text?
    let authToken ← parts.required 2 "auth_token" Value.text?
    let walletId ← parts.required 3 "wallet_id" Value.text?
    if parts.fits 4 then some (.dfns ⟨baseUrl, appId, authToken, walletId⟩) else none
  | .fireblocks =>
    let apiUserId ← parts.required 0 "api_user_id" Value.text?
    let secretPath ← parts.required 1 "secret_path" Value.text?
    let vaultAccountId ← parts.required 2 "vault_account_id" Value.text?
    let assetId ← parts.required 3 "asset_id" Value.text?
    let environment ← parts.optional 4 "environment" environment?
    let context : Signing.Fireblocks.Context :=
      ⟨apiUserId, vaultAccountId, assetId, environment.getD .production⟩
    if parts.fits 5 then some (.fireblocks context secretPath) else none
  | .walletSession => if parts.fits 0 then some .walletSession else none

end Config

/-- What both documents say. -/
structure Draft where
  settings : Settings
  credentials : Credentials
  deriving DecidableEq, Repr

/-- A signer as configured. -/
inductive SignerSetup
  | localKey (key : Signing.LocalKey)
  | dfns (context : Signing.Dfns.Context) (poll : Signing.PollConfig)
  | fireblocks (context : Signing.Fireblocks.Context) (secret : Bytes) (poll : Signing.PollConfig)
  | walletSession
  deriving DecidableEq, Repr

namespace SignerSetup

def strategy : SignerSetup → Signing.Strategy
  | .localKey _ => .localKey
  | .dfns _ _ => .dfns
  | .fireblocks _ _ _ => .fireblocks
  | .walletSession => .walletSession

/-- The kind of a signer, if one can be made: a client that signs its own calls needs a key. -/
def ready (s : SignerSetup) : Except ConfigError Signing.Strategy :=
  match s with
  | .fireblocks _ secret _ =>
    if KeyFile.holdsRsaKey secret then .ok .fireblocks
    else .error (.custodial Signing.Strategy.fireblocks.name)
  | s => .ok s.strategy

end SignerSetup

/-- The configuration of a desk. -/
structure Config where
  logLevel : LogLevel
  operator : EntityId
  explorer : Explorer
  maxFee : UInt64
  signer : SignerSetup
  deriving DecidableEq, Repr

namespace Draft

def read (settings credentials : String) : Except ConfigError Draft :=
  let parsed : Option Draft := do
    let settings ← Config.settings? (← Toml.read settings.toList)
    let credentials ← (Toml.Parts.named (← Toml.read credentials.toList)).required 0 "signer"
      Config.credentials?
    return ⟨settings, credentials⟩
  match parsed with
  | some draft => .ok draft
  | none => .error .malformed

def secretPath? (d : Draft) : Option String :=
  match d.credentials with
  | .fireblocks _ path => some path
  | _ => none

/-- The explorer of the settings, or the standard one. -/
def explorer (s : Settings) : Except ConfigError Explorer :=
  match s.explorerUrl with
  | some base => .ok (.ofBase base s.network)
  | none => (Explorer.standard s.network).mapError .explorerUrl

/-- Three queries, a second apart. -/
def dfnsPoll : Signing.PollConfig := ⟨3, 1_000_000_000⟩

/-- Ten queries, a second apart. -/
def fireblocksPoll : Signing.PollConfig := ⟨10, 1_000_000_000⟩

/-- The signer of the credentials, with the content of the file that they name. -/
def signer (d : Draft) (secret : Option Bytes) : Except ConfigError SignerSetup :=
  match d.credentials with
  | .localKey text => ((Signing.LocalKey.read text).map .localKey).mapError .invalidKey
  | .dfns context => .ok (.dfns context (PollSettings.over d.settings.poll dfnsPoll))
  | .fireblocks context _ =>
    match secret with
    | some secret =>
      .ok (.fireblocks context secret (PollSettings.over d.settings.poll fireblocksPoll))
    | none => .error .unreadable
  | .walletSession => .ok .walletSession

/-- The configuration, with the content of the file that the credentials name, if it could be
read. -/
def assemble (d : Draft) (secret : Option Bytes) : Except ConfigError Config := do
  let explorer ← explorer d.settings
  let signer ← d.signer secret
  return {
    logLevel := d.settings.logLevel.getD .info
    operator := d.settings.operator
    explorer
    maxFee := d.settings.maxFee.getD defaultMaxFee
    signer }

end Draft

namespace Config

/-- The configuration in two documents, with a way to read the file that they may name. -/
def read (settings credentials : String) (file : String → Option Bytes) :
    Except ConfigError Config := do
  let draft ← Draft.read settings credentials
  draft.assemble (draft.secretPath?.bind file)

def dispatcher (c : Config) : Dispatcher := ⟨c.operator, c.explorer, c.maxFee⟩

end Config

end TokenDesk
