import TokenDesk.Calendar.Date

/-!
Points in time with nanoseconds. In any second the nanoseconds may go on from one thousand million
to just below two thousand million. In the last second of a minute this is a leap second, and it is
written as the sixtieth. In any other second what goes on is written as the second after it.
-/

namespace TokenDesk.Calendar

/-- The first and the last second, counted from the start of 1970, that an instant can have. -/
def firstSecond : Int := (Date.mk firstYear 1 1).toDays * 86400
def lastSecond : Int := (Date.mk lastYear 12 31).toDays * 86400 + 86399

def isInstant (seconds : Int) (nanos : Nat) : Bool :=
  firstSecond ≤ seconds && seconds ≤ lastSecond && nanos < 2_000_000_000

theorem isInstant_iff {seconds : Int} {nanos : Nat} : isInstant seconds nanos = true ↔
    firstSecond ≤ seconds ∧ seconds ≤ lastSecond ∧ nanos < 2_000_000_000 := by
  simp [isInstant, and_assoc]

/-- A point in time, as seconds and nanoseconds from the start of 1970. -/
structure Instant where
  seconds : Int
  nanos : Nat
  valid : isInstant seconds nanos = true
  deriving DecidableEq, Repr

namespace Instant

/-- Whether a clock shows the instant: the nanoseconds end with their second, or the second is one
that a leap second may follow. -/
def isOnClock (t : Instant) : Bool := t.nanos < 1_000_000_000 || t.seconds % 60 == 59

/-- The instant of a second and its nanoseconds, if a clock shows it. -/
def ofParts? (seconds : Int) (nanos : Nat) : Option Instant :=
  if h : isInstant seconds nanos = true then
    let t : Instant := ⟨seconds, nanos, h⟩
    if t.isOnClock then some t else none
  else none

def date (t : Instant) : Date := Date.ofDays (t.seconds / 86400)

/-- The second of the day, from zero. -/
def secondOfDay (t : Instant) : Nat := (t.seconds % 86400).toNat

/-- The digits behind the point of the seconds: none, three, six or nine. -/
def fractionText (nanos : Nat) : List Char :=
  let n := nanos % 1_000_000_000
  if n = 0 then []
  else if n % 1_000_000 = 0 then '.' :: Text.paddedNumeral 3 (n / 1_000_000)
  else if n % 1000 = 0 then '.' :: Text.paddedNumeral 6 (n / 1000)
  else '.' :: Text.paddedNumeral 9 n

/-- Hour, minute and second with colons between. Nanoseconds past the end of a second count into the
next, and a leap second is the sixtieth. -/
def timeText (t : Instant) : List Char :=
  let s := t.secondOfDay
  Text.paddedNumeral 2 (s / 3600) ++ ':' :: Text.paddedNumeral 2 (s / 60 % 60) ++
    ':' :: Text.paddedNumeral 2 (s % 60 + t.nanos / 1_000_000_000) ++ fractionText t.nanos

/-- The form for exchange, in universal time. -/
def text (t : Instant) : List Char := t.date.text ++ 'T' :: t.timeText ++ ['Z']

def describe (t : Instant) : String :=
  String.ofList (t.date.text ++ ' ' :: t.timeText) ++ " UTC"

end Instant

end TokenDesk.Calendar
