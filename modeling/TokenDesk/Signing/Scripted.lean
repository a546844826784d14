import TokenDesk.Signing.Custodial

/-!
Custodial providers that play a script. Both answer pending when the script has come to its end.
-/

namespace TokenDesk.Signing

/-- A provider in memory, which answers at once. -/
structure Scripted where
  script : List (RemoteStatus Material)
  createError : Option String
  /-- A status code and a text with which every query fails. -/
  statusError : Option (Nat × String)
  created : List Bytes
  statusCalls : Nat

namespace Scripted

/-- A provider with a script that has not been asked yet. -/
def ofScript (script : List (RemoteStatus Material)) : Scripted := ⟨script, none, none, [], 0⟩

def failingCreate (message : String) : Scripted := { ofScript [] with createError := some message }

def failingStatus (code : Nat) (body : String) : Scripted :=
  { ofScript [] with statusError := some (code, body) }

/-- Creates a request; requests are numbered. -/
def create (payload : Bytes) (s : Scripted) : Except ProviderError String × Scripted :=
  match s.createError with
  | some message => (.error (.provider message), s)
  | none =>
    let created := s.created ++ [payload]
    (.ok ("scripted-" ++ Text.numeralString created.length), { s with created })

/-- Answers a status query with the next entry of the script. -/
def status (s : Scripted) : Except ProviderError (RemoteStatus Material) × Scripted :=
  let s := { s with statusCalls := s.statusCalls + 1 }
  match s.statusError, s.script with
  | some (code, body), _ => (.error (.api code body), s)
  | none, [] => (.ok .pending, s)
  | none, answer :: rest => (.ok answer, { s with script := rest })

def provider : Provider Scripted where
  name := "scripted"
  create payload s := let (a, s) := s.create payload; (.now a, s)
  status _ s := let (a, s) := s.status; (.now a, s)

end Scripted

/-- What a provider was asked. -/
inductive ProviderCall
  | create (size : Nat)
  | status (request : String)
  deriving DecidableEq, Repr

/-- A provider whose script says also how long each answer takes. -/
structure Stepped where
  /-- What the next creations answer; after them a request is always created. -/
  creations : List (Except ProviderError String)
  createHangs : Bool
  createCancels : Bool
  script : List (Wait (Except ProviderError (RemoteStatus Material)))
  calls : List ProviderCall

namespace Stepped

def create (payload : Bytes) (s : Stepped) : Wait (Except ProviderError String) × Stepped :=
  let answer : Except ProviderError String := s.creations.head?.getD (.ok "request")
  (⟨0, if s.createHangs then none else some answer, s.createCancels⟩,
    { s with creations := s.creations.tail,
             calls := s.calls ++ [ProviderCall.create payload.length] })

/-- Answers a status query with the next entry of the script. -/
def status (request : String) (s : Stepped) :
    Wait (Except ProviderError (RemoteStatus Material)) × Stepped :=
  let s := { s with calls := s.calls ++ [ProviderCall.status request] }
  match s.script with
  | [] => (.now (.ok .pending), s)
  | w :: rest => (w, { s with script := rest })

def provider : Provider Stepped where
  name := "steps"
  create := create
  status := status

end Stepped

end TokenDesk.Signing
