import TokenDesk.Config
import TokenDesk.Text.Utf8

/-!
Checking a configuration from the command line. `Invocation.ofArguments` reads the arguments from
left to right and stops at the first that decides; `report` says what the command prints and with
which code it ends, given the content of files.
-/

namespace TokenDesk.Validation

/-- What the command is asked to do. -/
inductive Invocation
  /-- Checks the configuration in two files. -/
  | check (settings credentials : String)
  | help
  | misuse
  deriving DecidableEq, Repr

/-- The options that take a value. -/
inductive FileOption
  | config
  | secrets
  deriving DecidableEq, Repr

def FileOption.name : FileOption → String
  | .config => "--config"
  | .secrets => "--secrets"

def FileOption.all : List FileOption := [.config, .secrets]

/-- The values of the options read so far. -/
structure Given where
  config : Option String
  secrets : Option String
  deriving DecidableEq, Repr

/-- The given values with one more, which may be given only once. -/
def Given.add (g : Given) (o : FileOption) (value : String) : Option Given :=
  if value.isEmpty then none
  else match o, g with
    | .config, ⟨none, secrets⟩ => some ⟨some value, secrets⟩
    | .secrets, ⟨config, none⟩ => some ⟨config, some value⟩
    | _, _ => none

def isValue (argument : String) : Bool :=
  argument = "-" || argument.toList.head? ≠ some '-'

def Given.invocation (g : Given) : Invocation :=
  match g with
  | ⟨some config, some secrets⟩ => .check config secrets
  | _ => .misuse

/-- The option and the value in one argument, if it has the form of both. -/
def attached? (argument : String) : Option (FileOption × String) :=
  FileOption.all.findSome? fun o =>
    (Text.dropStart? (o.name.toList ++ ['=']) argument.toList).map fun value =>
      (o, String.ofList value)

/-- Whether an argument asks for help. A letter may be followed by others. -/
def asksForHelp (argument : String) : Bool :=
  argument = "--help" || ['-', 'h'].isPrefixOf argument.toList

/-- The given values with one more that is an argument of its own. -/
def Given.addNext (g : Given) (name value : String) : Option Given := do
  let o ← FileOption.all.find? fun o => o.name = name
  if isValue value then g.add o value else none

def Invocation.read (g : Given) : List String → Invocation
  | [] => g.invocation
  | argument :: rest =>
    if asksForHelp argument then .help
    else if argument = "--" && rest.isEmpty then g.invocation
    else match attached? argument with
      | some (o, value) =>
        match g.add o value with
        | some g => Invocation.read g rest
        | none => .misuse
      | none =>
        match rest with
        | value :: rest =>
          match g.addNext argument value with
          | some g => Invocation.read g rest
          | none => .misuse
        | [] => .misuse

def Invocation.ofArguments (arguments : List String) : Invocation :=
  Invocation.read ⟨none, none⟩ arguments

def fileText (file : String → Option Bytes) (path : String) : Except ConfigError String :=
  match (file path).bind Text.readUtf8? with
  | some text => .ok (String.ofList text)
  | none => .error .unreadable

/-- Checks the configuration in two files: that it can be read, and that its signer can be made. -/
def check (file : String → Option Bytes) (settings credentials : String) :
    Except ConfigError Signing.Strategy := do
  let settings ← fileText file settings
  let credentials ← fileText file credentials
  let config ← Config.read settings credentials file
  config.signer.ready

/-- What the command leaves behind: the code it ends with, and what it prints for its caller and as
a diagnosis. -/
structure Report where
  code : UInt32
  output : String
  diagnosis : String
  deriving DecidableEq, Repr

def usage : String := "Usage: validate-config --config <CONFIG> --secrets <SECRETS>\n"

def options : String :=
  "\nOptions:\n      --config <CONFIG>    Path to plaintext TOML configuration file\n" ++
    "      --secrets <SECRETS>  Path to TOML secrets file\n  -h, --help               Print help\n"

def Report.ofFinding : Except ConfigError Signing.Strategy → Report
  | .ok _ => ⟨0, "", "Config validation passed\n"⟩
  | .error e => ⟨1, "", "Config validation failed: " ++ e.kind ++ "\n"⟩

def report (arguments : List String) (file : String → Option Bytes) : Report :=
  match Invocation.ofArguments arguments with
  | .help => ⟨0, usage ++ options, ""⟩
  | .misuse => ⟨2, "", "error: unusable arguments\n\n" ++ usage⟩
  | .check settings credentials => .ofFinding (check file settings credentials)

/-- The file named by the credentials among the files that the arguments name. -/
def secretPath? (arguments : List String) (file : String → Option Bytes) : Option String :=
  match Invocation.ofArguments arguments with
  | .check settings credentials =>
    let draft : Except ConfigError Draft := do
      let settings ← fileText file settings
      let credentials ← fileText file credentials
      Draft.read settings credentials
    match draft with
    | .ok draft => draft.secretPath?
    | .error _ => none
  | _ => none

end TokenDesk.Validation
