import TokenDesk.Decimal.Read

/-!
Token amounts: a decimal value together with the number of digits the token shows behind the
point. `Amount.ofDecimal` is the only gate for values: it admits numbers that are not negative and
need no more digits than the token has, so `Amount.units` loses nothing.
-/

namespace TokenDesk

def maxDecimals : UInt8 := 18

/-- Why a value is no amount, or an amount has no base units. -/
inductive AmountError
  | tooManyDigits (value : Decimal) (decimals : UInt8)
  | unsupportedDecimals (decimals : UInt8)
  | negative (value : Decimal)
  | overflow (value : Decimal) (decimals : UInt8)
  | unreadable (cause : Decimal.ReadError)
  /-- The multiplier from the value to base units has more than 96 bits. -/
  | multiplierTooLarge (decimals : UInt8)
  deriving DecidableEq, Repr

def AmountError.name : AmountError → String
  | .tooManyDigits _ _ => "DecimalsOverRange"
  | .unsupportedDecimals _ => "UnsupportedDecimals"
  | .negative _ => "Negative"
  | .overflow _ _ => "Overflow"
  | .unreadable _ => "Parse"
  | .multiplierTooLarge _ => "MultiplierTooLarge"

def AmountError.message : AmountError → String
  | .tooManyDigits value decimals =>
    "amount " ++ value.toString ++ " has more than " ++ Text.numeralString decimals.toNat ++
      " fractional digits"
  | .unsupportedDecimals decimals =>
    "token decimals " ++ Text.numeralString decimals.toNat ++ " exceed the supported maximum of " ++
      Text.numeralString maxDecimals.toNat
  | .negative value => "amount " ++ value.toString ++ " is negative"
  | .overflow value decimals =>
    "amount " ++ value.toString ++ " does not fit in 64-bit base units at " ++
      Text.numeralString decimals.toNat ++ " decimals"
  | .unreadable cause => "invalid decimal string: " ++ cause.message
  | .multiplierTooLarge decimals =>
    "no multiplier for " ++ Text.numeralString decimals.toNat ++ " decimals"

/-- A value and the number of decimals of the token it counts. The value is not negative and shows
no more digits than the token has. -/
structure Amount where
  value : Decimal
  decimals : UInt8
  unsigned : value.negative = false
  scale_le : value.scale ≤ decimals.toNat
  deriving DecidableEq, Repr

namespace Amount

/-- The amount of a value, shown with the token's decimals. -/
def ofDecimal (value : Decimal) (decimals : UInt8) : Except AmountError Amount :=
  if maxDecimals < decimals then .error (.unsupportedDecimals decimals)
  else if h : value.negative then .error (.negative value)
  else
    let plain := value.normalize
    if fits : decimals.toNat < plain.scale then .error (.tooManyDigits value decimals)
    else .ok ⟨plain.extendTo decimals.toNat, decimals, by simpa [plain] using h,
      Decimal.extendTo_scale_le (Nat.le_of_not_lt fits)⟩

def read (text : List Char) (decimals : UInt8) : Except AmountError Amount :=
  match Decimal.read text with
  | .ok value => ofDecimal value decimals
  | .error cause => .error (.unreadable cause)

def ofUnits (units : Int64) (decimals : UInt8) : Except AmountError Amount :=
  if maxDecimals < decimals then .error (.unsupportedDecimals decimals)
  else match Decimal.ofParts? (units.toInt < 0) units.toInt.natAbs decimals.toNat with
    | some value => ofDecimal value decimals
    | none => .error (.unsupportedDecimals decimals)

/-- No tokens. The number of decimals is taken as it is. -/
def zero (decimals : UInt8) : Amount := ⟨Decimal.zero, decimals, rfl, Nat.zero_le _⟩

/-- The number of base units in one token, if it has at most 96 bits. -/
def multiplier? (decimals : UInt8) : Option Nat :=
  let m := 10 ^ decimals.toNat
  if m < Decimal.limit then some m else none

/-- The amount in base units, if they are a signed 64-bit number. -/
def units (a : Amount) : Except AmountError Int64 :=
  match multiplier? a.decimals with
  | none => .error (.multiplierTooLarge a.decimals)
  | some multiplier =>
    let whole := a.value.mantissa * multiplier / 10 ^ a.value.scale
    let signed : Int := if a.value.negative then -(whole : Int) else whole
    if Int64.minValue.toInt ≤ signed ∧ signed ≤ Int64.maxValue.toInt then .ok (Int64.ofInt signed)
    else .error (.overflow a.value a.decimals)

def word (a : Amount) : Except AmountError Nat :=
  a.units.map fun n => n.toInt.natAbs

def isZero (a : Amount) : Bool := a.value.isZero

/-- The order of amounts: by value, then by decimals. -/
def compare (a b : Amount) : Ordering :=
  (a.value.compareValues b.value).then (Ord.compare a.decimals b.decimals)

/-- Whether two amounts have the same value and the same decimals. -/
def same (a b : Amount) : Bool := a.value.compareValues b.value == .eq && a.decimals == b.decimals

def text (a : Amount) : List Char := a.value.text

def toString (a : Amount) : String := a.value.toString

/-- The form for inspection, which names the decimals. -/
def describe (a : Amount) : String :=
  "Amount(" ++ a.toString ++ ", decimals=" ++ Text.numeralString a.decimals.toNat ++ ")"

/-- Puts an amount into its place in a sorted list, in front of equal ones. -/
def insertSorted (a : Amount) : List Amount → List Amount
  | [] => [a]
  | b :: rest => if a.compare b == .gt then b :: insertSorted a rest else a :: b :: rest

def sort (amounts : List Amount) : List Amount := amounts.foldr insertSorted []

/-- A list without the amounts that are the same as the one before them. -/
def dedup : List Amount → List Amount
  | a :: b :: rest => if a.same b then dedup (a :: rest) else a :: dedup (b :: rest)
  | short => short

end Amount

end TokenDesk
