import TokenDesk.Request

/-!
Why a request has no transaction.
-/

namespace TokenDesk

/-- What is wrong with a request that fits the token's decimals. -/
inductive Refusal
  | notTreasury (treasury target : EntityId)
  | feeDecimals (actual expected : UInt8)
  | notFraction (numerator denominator : Int64)
  | minimumAboveMaximum (minimum maximum : Int64)
  | tooManyFees (count : Nat)
  | noTransfers
  | tooManyRecipients (count : Nat)
  | selfTransfer (account : EntityId)
  | zeroTransfer (recipient : EntityId)
  | totalOverflow
  | notCurrencyDecimals (actual : UInt8)
  | beforeEpoch (expiration : Calendar.Instant)
  /-- A reason in words. -/
  | because (reason : String)
  deriving DecidableEq, Repr

def currencyDecimals : UInt8 := 8

def maxCustomFees : Nat := 10

/-- The most accounts that one transfer may touch, the debited one included. -/
def maxAdjustments : Nat := 10

def Refusal.message : Refusal → String
  | .notTreasury treasury target =>
    "native cash-in mints to treasury " ++ treasury.toString ++ ", not " ++ target.toString
  | .feeDecimals actual expected =>
    "fixed fee amount has " ++ Text.numeralString actual.toNat ++ " decimals, expected " ++
      Text.numeralString expected.toNat
  | .notFraction numerator denominator =>
    "fractional fee " ++ Text.intString numerator.toInt ++ "/" ++
      Text.intString denominator.toInt ++ " is not a valid fraction"
  | .minimumAboveMaximum minimum maximum =>
    "fractional fee minimum " ++ Text.intString minimum.toInt ++ " exceeds maximum " ++
      Text.intString maximum.toInt
  | .tooManyFees count =>
    Text.numeralString count ++ " custom fees exceed the limit of " ++
      Text.numeralString maxCustomFees
  | .noTransfers => "transfer list is empty"
  | .tooManyRecipients count =>
    Text.numeralString count ++ " recipients exceed the limit of " ++
      Text.numeralString (maxAdjustments - 1)
  | .selfTransfer account => account.toString ++ " cannot transfer to itself"
  | .zeroTransfer recipient => "transfer to " ++ recipient.toString ++ " has a zero amount"
  | .totalOverflow => "transfer total overflows 64-bit base units"
  | .notCurrencyDecimals actual =>
    "HBAR amounts use " ++ Text.numeralString currencyDecimals.toNat ++ " decimals, got " ++
      Text.numeralString actual.toNat
  | .beforeEpoch expiration => "hold expiration " ++ expiration.describe ++ " is before the epoch"
  | .because reason => reason

/-- Why a request has no transaction on a surface. -/
inductive BuildError
  | noBuilder (operation : Operation) (surface : Surface)
  | missingContract (token : EntityId)
  | interface (reason : String)
  | decimalsMismatch (token : EntityId) (expected actual : UInt8)
  | amount (cause : AmountError)
  | refused (cause : Refusal)
  deriving DecidableEq, Repr

namespace BuildError

def name : BuildError → String
  | .noBuilder _ _ => "NoBuilder"
  | .missingContract _ => "MissingContract"
  | .interface _ => "Interface"
  | .decimalsMismatch _ _ _ => "DecimalsMismatch"
  | .amount _ => "Amount"
  | .refused _ => "InvalidRequest"

def message : BuildError → String
  | .noBuilder operation surface => "no " ++ surface.title ++ " builder for " ++ operation.name
  | .missingContract token => "token " ++ token.toString ++ " has no token manager contract"
  | .interface reason => "failed to load contract interface: " ++ reason
  | .decimalsMismatch token expected actual =>
    "amount has " ++ Text.numeralString actual.toNat ++ " decimals, token " ++ token.toString ++
      " uses " ++ Text.numeralString expected.toNat
  | .amount cause => cause.message
  | .refused cause => "invalid request: " ++ cause.message

/-- Whether the error lies in how things are set up and not in the request. -/
def isInvariantViolation : BuildError → Bool
  | .noBuilder _ _ | .missingContract _ | .interface _ => true
  | _ => false

end BuildError

def Amount.checkedUnits (a : Amount) : Except BuildError Int64 :=
  a.units.mapError .amount

def Token.units (token : Token) (a : Amount) : Except BuildError Int64 :=
  if a.decimals = token.decimals then a.checkedUnits
  else .error (.decimalsMismatch token.id token.decimals a.decimals)

end TokenDesk
