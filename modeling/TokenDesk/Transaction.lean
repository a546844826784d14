import TokenDesk.Request
import TokenDesk.TransactionId
import TokenDesk.Json.Value

/-!
Transactions and the text of them that gets signed. The text is a JSON object whose members have a
fixed order, so a transaction has one text, and no two transactions share theirs.
-/

namespace TokenDesk

/-- A change of one account's balance, in base units. -/
structure Adjustment where
  account : EntityId
  amount : Int64
  deriving DecidableEq, Repr

/-- A custom fee with its amounts in base units. -/
inductive FeeTerms
  | fixed (amount : Int64) (denominatingToken : Option EntityId) (collector : EntityId)
      (collectorsExempt : Bool)
  | fractional (numerator denominator minimum maximum : Int64) (netOfTransfers : Bool)
      (collector : EntityId) (collectorsExempt : Bool)
  deriving DecidableEq, Repr

/-- A transaction of the ledger's token service. -/
inductive NativeBody
  | mint (token : EntityId) (amount : Int64)
  | burn (token : EntityId) (amount : Int64)
  | wipe (token account : EntityId) (amount : Int64)
  | freeze (token account : EntityId)
  | unfreeze (token account : EntityId)
  | pause (token : EntityId)
  | unpause (token : EntityId)
  | grantKyc (token account : EntityId)
  | revokeKyc (token account : EntityId)
  | feeSchedule (token : EntityId) (fees : List FeeTerms)
  /-- The adjustments sum to zero, and the debit comes last. -/
  | transfer (token : EntityId) (adjustments : List Adjustment)
  deriving DecidableEq, Repr

/-- A call of a contract's function. -/
structure ContractCall where
  contract : EntityId
  function : String
  gas : Nat
  calldata : Bytes
  deriving DecidableEq, Repr

/-- What a transaction does. -/
inductive Body
  | native (body : NativeBody)
  | contract (call : ContractCall)
  deriving DecidableEq, Repr

def Body.surface : Body → Surface
  | .native _ => .native
  | .contract _ => .contract

/-- Everything that gets signed. -/
structure Unsigned where
  id : TransactionId
  /-- The highest fee the payer accepts, in the smallest unit of the ledger's currency. -/
  maxFee : UInt64
  body : Body
  deriving DecidableEq, Repr

/-- The fee that a payer accepts if nothing else is said. -/
def defaultMaxFee : UInt64 := 200000000

namespace Transaction

def ofId (id : EntityId) : Json := .text id.toString

def ofUnits (n : Int64) : Json := .int n.toInt

def ofAdjustment (a : Adjustment) : Json :=
  .object [("account", ofId a.account), ("amount", ofUnits a.amount)]

def ofFee : FeeTerms → Json
  | .fixed amount denominatingToken collector exempt =>
    .object [("kind", .text "fixed"), ("amount", ofUnits amount),
      ("denominating_token", denominatingToken.elim .null ofId), ("collector", ofId collector),
      ("collectors_exempt", .bool exempt)]
  | .fractional numerator denominator minimum maximum net collector exempt =>
    .object [("kind", .text "fractional"), ("numerator", ofUnits numerator),
      ("denominator", ofUnits denominator), ("minimum", ofUnits minimum),
      ("maximum", ofUnits maximum), ("net_of_transfers", .bool net),
      ("collector", ofId collector), ("collectors_exempt", .bool exempt)]

/-- The type of a native body and its parameters in order. -/
def ofNative : NativeBody → List (String × Json)
  | .mint token amount =>
    [("type", .text "token_mint"), ("token", ofId token), ("amount", ofUnits amount)]
  | .burn token amount =>
    [("type", .text "token_burn"), ("token", ofId token), ("amount", ofUnits amount)]
  | .wipe token account amount =>
    [("type", .text "token_wipe"), ("token", ofId token), ("account", ofId account),
      ("amount", ofUnits amount)]
  | .freeze token account =>
    [("type", .text "token_freeze"), ("token", ofId token), ("account", ofId account)]
  | .unfreeze token account =>
    [("type", .text "token_unfreeze"), ("token", ofId token), ("account", ofId account)]
  | .pause token => [("type", .text "token_pause"), ("token", ofId token)]
  | .unpause token => [("type", .text "token_unpause"), ("token", ofId token)]
  | .grantKyc token account =>
    [("type", .text "token_grant_kyc"), ("token", ofId token), ("account", ofId account)]
  | .revokeKyc token account =>
    [("type", .text "token_revoke_kyc"), ("token", ofId token), ("account", ofId account)]
  | .feeSchedule token fees =>
    [("type", .text "token_fee_schedule_update"), ("token", ofId token),
      ("custom_fees", .array (fees.map ofFee))]
  | .transfer token adjustments =>
    [("type", .text "crypto_transfer"), ("token", ofId token),
      ("transfers", .array (adjustments.map ofAdjustment))]

def ofCall (c : ContractCall) : List (String × Json) :=
  [("contract", ofId c.contract), ("function", .text c.function), ("gas", .nat c.gas),
    ("calldata", .text (Text.hexString c.calldata))]

def ofBody : Body → Json
  | .native body => .object (("surface", .text "native") :: ofNative body)
  | .contract call => .object (("surface", .text "contract") :: ofCall call)

end Transaction

namespace Unsigned

def toJson (u : Unsigned) : Json :=
  .object [("transaction_id", .text u.id.toString), ("max_fee_tinybars", .nat u.maxFee.toNat),
    ("body", Transaction.ofBody u.body)]

def bytes (u : Unsigned) : Bytes := Text.utf8 u.toJson.chars

end Unsigned

end TokenDesk
