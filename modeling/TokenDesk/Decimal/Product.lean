import TokenDesk.Decimal.Basic

/-!
Products of a decimal number and a whole number. If the exact product needs more than 96 bits, as
many of the last digits behind the point are dropped as have no room; what is left is the closest
such number, of two the even one.
-/

namespace TokenDesk.Decimal

/-- The whole number closest to a quotient, and of two that are as close the even one. -/
def halfEven (n unit : Nat) : Nat :=
  let low := n / unit
  let rest := n % unit
  if unit < 2 * rest ∨ 2 * rest = unit ∧ low % 2 = 1 then low + 1 else low

/-- The product with a whole number. There is none if it has no room even without digits behind the
point. -/
def times? (d : Decimal) (factor : Nat) : Option Decimal :=
  let product := d.mantissa * factor
  if product = 0 then some zero
  else (List.range (d.scale + 1)).findSome? fun dropped =>
    ofParts? d.negative (halfEven product (10 ^ dropped)) (d.scale - dropped)

/-- The number without its digits behind the point, if it then is a signed 64-bit number. -/
def toInt64? (d : Decimal) : Option Int64 :=
  let whole := d.mantissa / 10 ^ d.scale
  let signed : Int := if d.negative then -(whole : Int) else whole
  if Int64.minValue.toInt ≤ signed ∧ signed ≤ Int64.maxValue.toInt then some (Int64.ofInt signed)
  else none

end TokenDesk.Decimal
