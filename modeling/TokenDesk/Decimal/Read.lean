import TokenDesk.Decimal.Basic
import TokenDesk.Text.Split

/-!
Reading decimal text: an optional sign, digits with at most one point, and underscores after the
first digit. Digits behind the point that do not fit are rounded away, a half upwards; a text that
fails so and holds an `e` is read again as a mantissa and a power of ten.
-/

namespace TokenDesk.Decimal

/-- Why a text is no decimal number. -/
inductive ReadError
  | empty
  | noDigits
  | unknownCharacter
  | secondPoint
  | earlySeparator
  | tooManyDigits
  | roundsTooLarge
  | badExponent
  | exponentTooLarge (exponent : Nat)
  | powerTooLarge
  deriving DecidableEq, Repr

def ReadError.message : ReadError → String
  | .empty => "Invalid decimal: empty"
  | .noDigits => "Invalid decimal: no digits found"
  | .unknownCharacter => "Invalid decimal: unknown character"
  | .secondPoint => "Invalid decimal: two decimal points"
  | .earlySeparator => "Invalid decimal: must start lead with a number"
  | .tooManyDigits => "Invalid decimal: overflow from too many digits"
  | .roundsTooLarge => "Invalid decimal: overflow from mantissa after rounding"
  | .badExponent => "Failed to parse"
  | .exponentTooLarge exponent =>
    "Scale exceeds the maximum precision allowed: " ++ Text.numeralString exponent ++ " > 28"
  | .powerTooLarge => "Number exceeds maximum value that can be represented."

/-- What has been read of the digits: their value, how many stood behind the point, whether there
was a point, and whether there was a digit. -/
structure Progress where
  mantissa : Nat
  scale : Nat
  point : Bool
  digit : Bool

/-- The fault of a character that cannot stand where it is. -/
def misplaced (c : Char) : ReadError :=
  if c = '.' then .secondPoint else if c = '_' then .earlySeparator else .unknownCharacter

/-- The finished number, if its parts are in range. -/
def finish (negative : Bool) (p : Progress) : Except ReadError Decimal :=
  if p.digit then
    match ofParts? negative p.mantissa p.scale with
    | some d => .ok d
    | none => .error .tooManyDigits
  else .error .noDigits

/-- Rounds at the first dropped character. What follows it must be digits or underscores. -/
def roundAt (negative : Bool) (mantissa scale : Nat) (dropped : Char) (rest : List Char) :
    Except ReadError Decimal :=
  if !Text.isDigit dropped && dropped != '_' then .error (misplaced dropped)
  else match rest.find? (fun c => !Text.isDigit c && c != '_') with
    | some c => .error (misplaced c)
    | none =>
      let up := dropped != '_' && 5 ≤ Text.digitValue dropped
      let rounded := if up then mantissa + 1 else mantissa
      if rounded < limit then finish negative ⟨rounded, scale, true, true⟩
      else if scale = 0 then .error .roundsTooLarge
      else finish negative ⟨(rounded + 4) / 10, scale - 1, true, true⟩

/-- Reads digits, the point and underscores up to the end of the text. -/
def readDigits (negative : Bool) (p : Progress) : List Char → Except ReadError Decimal
  | [] => finish negative p
  | c :: rest =>
    if Text.isDigit c then
      let mantissa := p.mantissa * 10 + Text.digitValue c
      if limit ≤ mantissa then
        if p.point then roundAt negative p.mantissa p.scale c rest else .error .tooManyDigits
      else
        let scale := if p.point then p.scale + 1 else 0
        match rest with
        | next :: after =>
          if p.point && maxScale ≤ scale then roundAt negative mantissa scale next after
          else readDigits negative ⟨mantissa, scale, p.point, true⟩ rest
        | [] => finish negative ⟨mantissa, scale, p.point, true⟩
    else if c = '.' ∧ !p.point then readDigits negative { p with point := true } rest
    else if c = '_' ∧ p.digit then readDigits negative p rest
    else .error (misplaced c)

def readPlain (text : List Char) : Except ReadError Decimal :=
  let start : Progress := ⟨0, 0, false, false⟩
  match text with
  | [] => .error .empty
  | '-' :: rest => readDigits true start rest
  | '+' :: rest => readDigits false start rest
  | _ => readDigits false start text

def timesPower (d : Decimal) (power : Nat) : Except ReadError Decimal :=
  if power ≤ d.scale then
    match ofParts? d.negative d.mantissa (d.scale - power) with
    | some r => .ok r
    | none => .error .powerTooLarge
  else if maxScale < power then .error (.exponentTooLarge power)
  else match ofParts? d.negative (d.mantissa * 10 ^ (power - d.scale)) 0 with
    | some r => .ok r
    | none => .error .powerTooLarge

/-- The number divided by ten to a power, rounded so that its digits have room. -/
def overPower (d : Decimal) (power : Nat) : Except ReadError Decimal :=
  if maxScale < power then .error (.exponentTooLarge power)
  else
    let d := d.roundTo (maxScale - power)
    match ofParts? d.negative d.mantissa (d.scale + power) with
    | some r => .ok r
    | none => .error .powerTooLarge

/-- Reads a mantissa and, after the first `e` in either case, a power of ten. -/
def readScientific (text : List Char) : Except ReadError Decimal := do
  let isMark (c : Char) : Bool := c = 'e' || c = 'E'
  let mantissa ← readPlain (text.takeWhile fun c => !isMark c)
  match (text.dropWhile fun c => !isMark c).drop 1 with
  | '-' :: digits =>
    match Text.readUnsigned (UInt32.size - 1) digits with
    | some power => overPower mantissa power
    | none => .error .badExponent
  | digits =>
    match Text.readUnsigned (UInt32.size - 1) digits with
    | some power => timesPower mantissa power
    | none => .error .badExponent

def read (text : List Char) : Except ReadError Decimal :=
  match readPlain text with
  | .ok d => .ok d
  | .error e => if text.any (fun c => c = 'e' || c = 'E') then readScientific text else .error e

end TokenDesk.Decimal
