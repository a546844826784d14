import TokenDesk.Text.Digits

/-!
Decimal numbers of 96 bits: a mantissa, a sign and the number of digits behind the point. Zero has
no sign. The written form shows every digit of the scale.
-/

namespace TokenDesk

def Decimal.limit : Nat := 0x1_0000_0000_0000_0000_0000_0000

/-- A decimal number `± mantissa / 10 ^ scale`. -/
structure Decimal where
  negative : Bool
  mantissa : Nat
  scale : Nat
  mantissa_lt : mantissa < Decimal.limit
  scale_le : scale ≤ 28
  zero_unsigned : mantissa = 0 → negative = false
  deriving DecidableEq, Repr

namespace Decimal

def maxScale : Nat := 28

/-- The number with the given parts, if they are in range. A zero loses its sign. -/
def ofParts? (negative : Bool) (mantissa scale : Nat) : Option Decimal :=
  if h : mantissa < limit ∧ scale ≤ 28 then
    some ⟨negative && mantissa != 0, mantissa, scale, h.1, h.2, by simp +contextual⟩
  else none

def zero : Decimal := ⟨false, 0, 0, by decide, by decide, fun _ => rfl⟩

def isZero (d : Decimal) : Bool := d.mantissa == 0

/-- Drops trailing zero digits behind the point: the remaining mantissa and scale. -/
def stripZeros : Nat → Nat → Nat × Nat
  | mantissa, 0 => (mantissa, 0)
  | mantissa, scale + 1 =>
    if mantissa % 10 = 0 then stripZeros (mantissa / 10) scale else (mantissa, scale + 1)

theorem stripZeros_le (mantissa scale : Nat) :
    (stripZeros mantissa scale).1 ≤ mantissa ∧ (stripZeros mantissa scale).2 ≤ scale := by
  induction scale generalizing mantissa with
  | zero => simp [stripZeros]
  | succ k ih =>
    simp only [stripZeros]
    split
    · have := ih (mantissa / 10)
      have := Nat.div_le_self mantissa 10
      omega
    · simp

theorem stripZeros_value (mantissa scale : Nat) :
    (stripZeros mantissa scale).1 * 10 ^ (scale - (stripZeros mantissa scale).2) = mantissa := by
  induction scale generalizing mantissa with
  | zero => simp [stripZeros]
  | succ k ih =>
    simp only [stripZeros]
    split
    · rename_i hz
      have hle := (stripZeros_le (mantissa / 10) k).2
      rw [Nat.succ_sub hle, Nat.pow_succ, ← Nat.mul_assoc, ih]
      omega
    · simp

def normalize (d : Decimal) : Decimal :=
  let parts := stripZeros d.mantissa d.scale
  have le := stripZeros_le d.mantissa d.scale
  ⟨d.negative, parts.1, parts.2, Nat.lt_of_le_of_lt le.1 d.mantissa_lt,
    Nat.le_trans le.2 d.scale_le, by
      intro h
      apply d.zero_unsigned
      have := stripZeros_value d.mantissa d.scale
      rw [← this, show (stripZeros d.mantissa d.scale).1 = 0 from h, Nat.zero_mul]⟩

@[simp] theorem normalize_negative (d : Decimal) : d.normalize.negative = d.negative := rfl

/-- Adds up to `steps` zero digits behind the point, as many as the mantissa has room for. -/
def addZeros : Nat → Decimal → Decimal
  | 0, d => d
  | steps + 1, d =>
    if h : d.mantissa * 10 < limit ∧ d.scale + 1 ≤ 28 then
      addZeros steps ⟨d.negative, d.mantissa * 10, d.scale + 1, h.1, h.2, by
        intro hz
        exact d.zero_unsigned (by omega)⟩
    else d

@[simp] theorem addZeros_negative (steps : Nat) (d : Decimal) :
    (addZeros steps d).negative = d.negative := by
  induction steps generalizing d with
  | zero => rfl
  | succ k ih =>
    unfold addZeros
    split
    · exact ih _
    · rfl

theorem addZeros_scale_le (steps : Nat) (d : Decimal) :
    (addZeros steps d).scale ≤ d.scale + steps := by
  induction steps generalizing d with
  | zero => exact Nat.le_refl _
  | succ k ih =>
    unfold addZeros
    split
    · have := ih ⟨d.negative, d.mantissa * 10, d.scale + 1, by omega, by omega, by
        intro hz
        exact d.zero_unsigned (by omega)⟩
      simp only at this
      omega
    · omega

/-- The same number with `digits` digits behind the point if it has fewer and there is room, and
else with as many as there is room for. -/
def extendTo (digits : Nat) (d : Decimal) : Decimal := addZeros (digits - d.scale) d

@[simp] theorem extendTo_negative (digits : Nat) (d : Decimal) :
    (extendTo digits d).negative = d.negative :=
  addZeros_negative _ d

theorem extendTo_scale_le {digits : Nat} {d : Decimal} (le : d.scale ≤ digits) :
    (extendTo digits d).scale ≤ digits := by
  have := addZeros_scale_le (digits - d.scale) d
  unfold extendTo
  omega

/-- The number rounded to at most `digits` digits behind the point, a half away from zero. -/
def roundTo (digits : Nat) (d : Decimal) : Decimal :=
  if h : digits < d.scale then
    let unit := 10 ^ (d.scale - digits)
    let mantissa := (d.mantissa + unit / 2) / unit
    have small : mantissa < limit := by
      have positive : 0 < unit := Nat.pow_pos (by decide)
      have below : (d.mantissa + unit / 2) / unit < d.mantissa + 1 := by
        rw [Nat.div_lt_iff_lt_mul positive, Nat.add_mul]
        have := Nat.le_mul_of_pos_right d.mantissa positive
        omega
      exact Nat.lt_of_lt_of_le below d.mantissa_lt
    ⟨d.negative && mantissa != 0, mantissa, digits, small,
      Nat.le_trans (Nat.le_of_lt h) d.scale_le, by simp +contextual⟩
  else d

/-- The order of the values; digits behind the point that are zero do not count. -/
def compareValues (a b : Decimal) : Ordering :=
  let signed (d : Decimal) (n : Nat) : Int := if d.negative then -(n : Int) else n
  compare (signed a (a.mantissa * 10 ^ b.scale)) (signed b (b.mantissa * 10 ^ a.scale))

/-- The written form, with `scale` digits behind the point. -/
def text (d : Decimal) : List Char :=
  let digits := Text.paddedNumeral (d.scale + 1) d.mantissa
  let whole := digits.take (digits.length - d.scale)
  let fraction := digits.drop (digits.length - d.scale)
  (if d.negative then ['-'] else []) ++ whole ++
    (if d.scale = 0 then [] else '.' :: fraction)

def toString (d : Decimal) : String := String.ofList d.text

end Decimal

end TokenDesk
