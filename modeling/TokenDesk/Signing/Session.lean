import TokenDesk.Signing.Error

/-!
A session between calls that want something signed and a wallet. Each call puts its request in a
queue and waits; the wallet takes the requests in order and answers each, or drops it. A request
that was sent stays on its way even if its call is cancelled, and an answer to it reaches nobody.

Who moves when is left open: `Session.step` says what one move does, whichever comes next. A call
does not notice at once what becomes of it. If an answer and a cancellation have both come, it ends
with the one that it notices first.
-/

namespace TokenDesk.Signing

/-- What a wallet answers. -/
inductive WalletReply
  /-- The signed transaction. -/
  | signed (bytes : Bytes)
  | rejected (reason : String)
  deriving DecidableEq, Repr

def WalletReply.outcome : WalletReply → Except Error Bytes
  | .signed bytes => .ok bytes
  | .rejected reason => .error (.sessionRejected reason)

/-- A request on its way to the wallet: the number of the call that made it, and the payload. -/
structure WalletRequest where
  call : Nat
  payload : Bytes
  deriving DecidableEq, Repr

/-- Where a call stands. -/
inductive CallStage
  /-- Its request waits for a place in the queue. -/
  | sending
  /-- Its request was sent. -/
  | waiting
  | answered (reply : WalletReply)
  /-- Its request is gone, and there will be no answer. -/
  | dropped
  | ended (outcome : Except Error Bytes)

/-- A call through a session. -/
structure SessionCall where
  payload : Bytes
  stage : CallStage
  cancelled : Bool

namespace SessionCall

/-- A call at its beginning. With an empty payload it ends there. -/
def start (payload : Bytes) : SessionCall :=
  ⟨payload, if payload.isEmpty then .ended (.error (.malformedPayload .empty)) else .sending, false⟩

/-- News of the request, which only a call that waits for it takes in. -/
def tell (c : SessionCall) (news : CallStage) : SessionCall :=
  match c.stage with
  | .waiting => { c with stage := news }
  | _ => c

/-- What a call ends with once it notices what has become of its request. -/
def heard (c : SessionCall) (connected : Bool) : Option (Except Error Bytes) :=
  match c.stage with
  | .sending => if connected then none else some (.error .sessionDisconnected)
  | .answered reply => some reply.outcome
  | .dropped => some (.error .sessionDisconnected)
  | .waiting | .ended _ => none

def outcome? (c : SessionCall) : Option (Except Error Bytes) :=
  match c.stage with
  | .ended outcome => some outcome
  | _ => none

/-- The call with an outcome, if it has come to one. -/
def finish (c : SessionCall) : Option (Except Error Bytes) → SessionCall
  | some outcome => { c with stage := .ended outcome }
  | none => c

/-- A cancelled call that has not ended ends with that. -/
def abandon (c : SessionCall) : SessionCall :=
  if c.cancelled && c.outcome?.isNone then c.finish (some (.error (.cancelled none))) else c

end SessionCall

/-- A session with a wallet. -/
structure Session where
  /-- Whether the wallet still takes requests. -/
  connected : Bool
  /-- Requests that the wallet has not taken, the oldest first. -/
  queue : List WalletRequest
  /-- Requests that the wallet has taken and neither answered nor dropped. -/
  held : List WalletRequest
  /-- Every call, in the order in which they began. -/
  calls : List SessionCall
  /-- Every request that was put in the queue, in order. -/
  sent : List WalletRequest
  /-- Every request that the wallet has taken, in order. -/
  delivered : List WalletRequest

/-- What happens in a session. -/
inductive SessionEvent
  /-- A call begins. -/
  | call (payload : Bytes)
  /-- The request of a call gets its place in the queue. -/
  | send (call : Nat)
  /-- The wallet takes the oldest request. -/
  | receive
  /-- The wallet answers a request that it holds. -/
  | reply (call : Nat) (reply : WalletReply)
  /-- The wallet drops a request that it holds. -/
  | drop (call : Nat)
  /-- The wallet goes away, and what it has not taken is lost. What it holds it may still answer. -/
  | disconnect
  /-- A call is cancelled. -/
  | cancel (call : Nat)
  /-- A call notices what has become of its request. -/
  | hear (call : Nat)
  /-- A call notices that it is cancelled. -/
  | abandon (call : Nat)
  deriving DecidableEq, Repr

namespace Session

/-- How many requests the queue takes. The calls behind them wait for their turn to send. -/
def capacity : Nat := 8

def fresh : Session := ⟨true, [], [], [], [], []⟩

def update (s : Session) (f : Nat → SessionCall → SessionCall) : Session :=
  { s with calls := s.calls.mapIdx f }

/-- The session after a change to one call. -/
def updateCall (s : Session) (call : Nat) (f : SessionCall → SessionCall) : Session :=
  s.update fun i c => if i = call then f c else c

def holds (s : Session) (call : Nat) : Bool := s.held.any fun r => r.call = call

def queues (s : Session) (call : Nat) : Bool := s.queue.any fun r => r.call = call

/-- What has become of a call, if it has ended. -/
def outcome? (s : Session) (call : Nat) : Option (Except Error Bytes) :=
  s.calls[call]?.bind SessionCall.outcome?

def heard (s : Session) (call : Nat) : Option (Except Error Bytes) :=
  s.calls[call]?.bind fun c => c.heard s.connected

def send (s : Session) (call : Nat) : Session :=
  match s.calls[call]? with
  | some ⟨payload, .sending, _⟩ =>
    if s.connected && s.queue.length < capacity then
      { s.updateCall call fun c => { c with stage := .waiting } with
        queue := s.queue ++ [⟨call, payload⟩]
        sent := s.sent ++ [⟨call, payload⟩] }
    else s
  | _ => s

/-- The wallet parts with a request that it holds, and the call has news. -/
def release (s : Session) (call : Nat) (news : CallStage) : Session :=
  if s.holds call then
    { s.updateCall call (·.tell news) with held := s.held.filter fun r => r.call ≠ call }
  else s

/-- The session after an event. Events that cannot happen change nothing. -/
def step (s : Session) : SessionEvent → Session
  | .call payload => { s with calls := s.calls ++ [.start payload] }
  | .send call => s.send call
  | .receive =>
    match s.queue with
    | request :: rest =>
      { s with
        queue := rest
        held := s.held ++ [request]
        delivered := s.delivered ++ [request] }
    | [] => s
  | .reply call reply => s.release call (.answered reply)
  | .drop call => s.release call .dropped
  | .disconnect =>
    { s.update fun i c => if s.queues i then c.tell .dropped else c with
      connected := false
      queue := [] }
  | .cancel call => s.updateCall call fun c => { c with cancelled := true }
  | .hear call => s.updateCall call fun c => c.finish (c.heard s.connected)
  | .abandon call => s.updateCall call SessionCall.abandon

def run (s : Session) (events : List SessionEvent) : Session := events.foldl step s

end Session

end TokenDesk.Signing
