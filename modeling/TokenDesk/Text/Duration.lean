import TokenDesk.Text.Digits

/-!
Lengths of time in words: the largest unit that fits at least once, and a fraction without zeros at
its end.
-/

namespace TokenDesk.Text

/-- A number of units and the digits of a fraction of one, whose last digit is not zero. -/
def withFraction (whole width fraction : Nat) : List Char :=
  let digits := ((paddedNumeral width fraction).reverse.dropWhile (· = '0')).reverse
  if digits.isEmpty then numeral whole else numeral whole ++ '.' :: digits

def durationText (nanos : Nat) : String :=
  let inUnits (width unit : Nat) : String :=
    String.ofList (withFraction (nanos / unit) width (nanos % unit))
  if 1_000_000_000 ≤ nanos then inUnits 9 1_000_000_000 ++ "s"
  else if 1_000_000 ≤ nanos then inUnits 6 1_000_000 ++ "ms"
  else if 1000 ≤ nanos then inUnits 3 1000 ++ "µs"
  else numeralString nanos ++ "ns"

end TokenDesk.Text
