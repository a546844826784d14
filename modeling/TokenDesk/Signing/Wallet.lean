import TokenDesk.Signing.Session
import TokenDesk.Timing

/-!
Signing by a paired wallet. A wallet does one thing with each request that it is sent, and a call
waits for what becomes of its own; without a pairing nothing is signed.
-/

namespace TokenDesk.Signing

/-- What a wallet does with a request. -/
inductive WalletAnswer
  | approve (bytes : Bytes)
  /-- Approves with the payload itself and bytes behind it. -/
  | append (bytes : Bytes)
  | reject (reason : String)
  /-- Keeps the request without an answer. -/
  | keep
  | drop
  deriving DecidableEq, Repr

/-- What a wallet does with a request, and whether the call is cancelled in the same instant. -/
structure WalletAction where
  answer : WalletAnswer
  cancels : Bool
  deriving DecidableEq, Repr

/-- A wallet that does one action for each request and then goes away, unless it keeps a request. -/
structure Wallet where
  account : String
  actions : List WalletAction
  session : Session

namespace Wallet

def after (w : Wallet) (events : List SessionEvent) : Wallet :=
  { w with session := w.session.run events }

def leave (w : Wallet) : Wallet :=
  if w.actions.isEmpty && w.session.held.isEmpty && w.session.connected then w.after [.disconnect]
  else w

def start (account : String) (actions : List WalletAction) : Wallet :=
  leave ⟨account, actions, .fresh⟩

/-- What an action does to the session, for the request of a call. -/
def eventOf (request : WalletRequest) : WalletAnswer → Option SessionEvent
  | .approve bytes => some (.reply request.call (.signed bytes))
  | .append bytes => some (.reply request.call (.signed (request.payload ++ bytes)))
  | .reject reason => some (.reply request.call (.rejected reason))
  | .keep => none
  | .drop => some (.drop request.call)

/-- Takes the oldest request and does the next action, if there is one of each. The second part
tells whether this cancels the call. -/
def act (w : Wallet) : Wallet × Bool :=
  match w.actions, w.session.queue with
  | action :: rest, request :: _ =>
    let w := { w with actions := rest }.after (.receive :: (eventOf request action.answer).toList)
    (w.leave, action.cancels)
  | _, _ => (w, false)

/-- Sends the request of a call, and waits for what becomes of it. -/
def ask (call : Nat) (w : Wallet) : Wait (Except Error Bytes) × Wallet :=
  let (w, cancels) := (w.after [.send call]).act
  (⟨0, w.session.heard call, cancels⟩, w)

/-- Has a paired wallet sign a payload. Without a pairing nothing is signed. -/
def sign (payload : Bytes) (t : Timeline) (w : Option Wallet) :
    Run (Option Wallet) (Except Error Bytes) :=
  match w with
  | none => ⟨some (.error .notInitialized), t, none⟩
  | some w =>
    let call := w.session.calls.length
    let w := w.after [.call payload]
    match w.session.outcome? call with
    | some outcome => ⟨some outcome, t, some w⟩
    | none =>
      match t.race (ask call) w with
      | (.endless t, w) => ⟨none, t, some w⟩
      | (.cancelled t, w) =>
        ⟨some (.error (.cancelled none)), t, some (w.after [.cancel call, .abandon call])⟩
      | (.answered outcome t, w) => ⟨some outcome, t, some (w.after [.hear call])⟩

def describeSigner (account : Option String) : String :=
  "WalletSessionSigner \x7b account: " ++ quoteOptional account ++ " \x7d"

end Wallet

end TokenDesk.Signing
