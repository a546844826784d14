import TokenDesk.Abi.Interface
import TokenDesk.TransactionId

/-!
What the ledger says about a transaction it has settled: a receipt with the status alone, or a
record that also holds what a contract returned.
-/

namespace TokenDesk

/-- How a transaction ended. -/
inductive Status
  | success
  /-- The code that the ledger gave. -/
  | failed (code : String)
  deriving DecidableEq, Repr

/-- The status of a transaction. -/
structure Receipt where
  transaction : TransactionId
  status : Status
  deriving DecidableEq, Repr

/-- A receipt together with the data that a contract returned, if it returned any. -/
structure Record where
  receipt : Receipt
  returned : Option Bytes
  deriving DecidableEq, Repr

/-- What was fetched about a settled transaction. -/
inductive Settlement
  | receipt (receipt : Receipt)
  | record (record : Record)
  deriving DecidableEq, Repr

def Settlement.toReceipt : Settlement → Receipt
  | .receipt r => r
  | .record r => r.receipt

/-- What has to be fetched to know an operation's outcome. -/
inductive ResponseKind
  | receiptOnly
  | fullRecord
  deriving DecidableEq, Repr

/-- How returned data is read: as the results of a function of an interface. -/
structure ReturnFormat where
  function : String
  interface : Abi.Interface
  deriving Repr

/-- The form for inspection, which leaves out the interface. -/
def ReturnFormat.describe (f : ReturnFormat) : String :=
  "DecodeContext \x7b function: " ++ Text.quoteString f.function ++ ", .. \x7d"

end TokenDesk
