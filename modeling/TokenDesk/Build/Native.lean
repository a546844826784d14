import TokenDesk.Build.Error
import TokenDesk.Transaction

/-!
Transactions of the ledger's token service. Amounts become base units, and a batch of transfers
becomes one credit for each recipient and one debit of the source.
-/

namespace TokenDesk.Native

def supports : Operation → Bool
  | .cashIn | .burn | .wipe | .freeze | .unfreeze | .pause | .unpause | .grantKyc | .revokeKyc
  | .updateCustomFees | .transfers => true
  | _ => false

def feeDecimals (token : Token) (amount : Amount) : Option EntityId → UInt8
  | none => currencyDecimals
  | some id => if id = token.id then token.decimals else amount.decimals

def feeTerms (token : Token) : CustomFee → Except BuildError FeeTerms
  | .fixed amount denominatingToken collector exempt =>
    let expected := feeDecimals token amount denominatingToken
    if amount.decimals = expected then do
      return .fixed (← amount.checkedUnits) denominatingToken collector exempt
    else .error (.refused (.feeDecimals amount.decimals expected))
  | .fractional numerator denominator minimum maximum net collector exempt =>
    if denominator ≤ 0 ∨ numerator < 0 then
      .error (.refused (.notFraction numerator denominator))
    else do
      let least ← token.units minimum
      let most ← token.units maximum
      if most ≠ 0 ∧ most < least then throw (.refused (.minimumAboveMaximum least most))
      else return .fractional numerator denominator least most net collector exempt

/-- The sum of two signed 64-bit numbers, if it is one. -/
def addUnits? (a b : Int64) : Option Int64 :=
  let sum := a.toInt + b.toInt
  if Int64.minValue.toInt ≤ sum ∧ sum ≤ Int64.maxValue.toInt then some (Int64.ofInt sum) else none

/-- The credits of a batch and their sum; `total` is the sum of the credits before. -/
def credits (token : Token) (source : EntityId) (total : Int64) :
    List Transfer → Except BuildError (List Adjustment × Int64)
  | [] => .ok ([], total)
  | t :: rest =>
    if t.recipient = source then .error (.refused (.selfTransfer source))
    else do
      let amount ← token.units t.amount
      if amount = 0 then throw (.refused (.zeroTransfer t.recipient))
      else match addUnits? total amount with
        | none => throw (.refused .totalOverflow)
        | some total =>
          let (later, total) ← credits token source total rest
          return (⟨t.recipient, amount⟩ :: later, total)

/-- The adjustments of a batch: the credits in order, then the debit. -/
def adjustments (token : Token) (source : EntityId) (transfers : List Transfer) :
    Except BuildError (List Adjustment) :=
  if transfers.isEmpty then .error (.refused .noTransfers)
  else if maxAdjustments ≤ transfers.length then
    .error (.refused (.tooManyRecipients transfers.length))
  else do
    let (list, total) ← credits token source 0 transfers
    return list ++ [⟨source, -total⟩]

def build (token : Token) : Request → Except BuildError NativeBody
  | .cashIn target amount =>
    if target = token.treasury then return .mint token.id (← token.units amount)
    else .error (.refused (.notTreasury token.treasury target))
  | .burn amount => return .burn token.id (← token.units amount)
  | .wipe target amount => return .wipe token.id target (← token.units amount)
  | .freeze target => .ok (.freeze token.id target)
  | .unfreeze target => .ok (.unfreeze token.id target)
  | .pause => .ok (.pause token.id)
  | .unpause => .ok (.unpause token.id)
  | .grantKyc target => .ok (.grantKyc token.id target)
  | .revokeKyc target => .ok (.revokeKyc token.id target)
  | .updateCustomFees fees =>
    if maxCustomFees < fees.length then .error (.refused (.tooManyFees fees.length))
    else return .feeSchedule token.id (← fees.mapM (feeTerms token))
  | .transfers source transfers => return .transfer token.id (← adjustments token source transfers)
  | other => .error (.noBuilder other.operation .native)

end TokenDesk.Native
