import TokenDesk.Signing.Error

/-!
Asking again and again for the status of a signature request. A `Poller` counts the answers and says
after each whether to go on; it never lets more than a given number of answers be pending.
-/

namespace TokenDesk.Signing

/-- How often to ask, and how many nanoseconds to wait before each time. -/
structure PollConfig where
  maxAttempts : UInt32
  interval : Nat
  deriving DecidableEq, Repr

namespace PollConfig

/-- Three queries, a second apart. -/
def standard : PollConfig := ⟨3, 1_000_000_000⟩

def describe (c : PollConfig) : String :=
  "PollConfig \x7b max_attempts: " ++ Text.numeralString c.maxAttempts.toNat ++ ", interval: " ++
    Text.durationText c.interval ++ " \x7d"

end PollConfig

/-- What a provider says about a request. -/
inductive RemoteStatus (α : Type)
  | pending
  | signed (a : α)
  | failed (reason : String)
  deriving DecidableEq, Repr

/-- Where a request stands after a status. -/
inductive PollState (α : Type)
  | pending (remaining : Nat)
  | signed (a : α)
  | failed (reason : String)
  | timedOut (attempts : Nat)
  deriving DecidableEq, Repr

def PollState.isTerminal : PollState α → Bool
  | .pending _ => false
  | _ => true

/-- The count of the statuses of one request. -/
structure Poller where
  request : String
  remaining : Nat
  attempts : Nat
  deriving DecidableEq, Repr

namespace Poller

def start (request : String) (config : PollConfig) : Poller :=
  ⟨request, config.maxAttempts.toNat, 0⟩

/-- Counts a status. A pending one that was the last to be allowed ends the polling. -/
def advance (p : Poller) (status : RemoteStatus α) : PollState α × Poller :=
  let next : Poller := ⟨p.request, p.remaining - 1, p.attempts + 1⟩
  let state := match status with
    | .signed a => .signed a
    | .failed reason => .failed reason
    | .pending => if next.remaining = 0 then .timedOut next.attempts else .pending next.remaining
  (state, next)

def describe (p : Poller) : String :=
  "Poller \x7b request_id: " ++ Text.quoteString p.request ++ ", remaining: " ++
    Text.numeralString p.remaining ++ ", attempts: " ++ Text.numeralString p.attempts ++ " \x7d"

end Poller

end TokenDesk.Signing
