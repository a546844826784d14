import TokenDesk.Calendar.Instant
import TokenDesk.Text.Blank
import TokenDesk.Text.Split

/-!
Reading a point in time from text: a day, a `T` or a space, a time of day and an offset from
universal time. Blanks may stand before each number and each mark, and numbers may be unpadded.
-/

namespace TokenDesk.Calendar

/-- A number of one to `most` digits, and the text after it. -/
def takeDigits (most : Nat) (cs : List Char) : Option (Nat × List Char) :=
  let digits := (cs.take most).takeWhile Text.isDigit
  if digits.isEmpty then none else some (Text.digitsValue digits, cs.drop digits.length)

def takeField (most : Nat) (cs : List Char) : Option (Nat × List Char) :=
  takeDigits most (Text.dropBlanks cs)

def takeMark (mark : Char) (cs : List Char) : Option (List Char) :=
  match Text.dropBlanks cs with
  | c :: rest => if c = mark then some rest else none
  | [] => none

/-- A year: up to four digits, or a sign and any number of digits. -/
def takeYear (cs : List Char) : Option (Int × List Char) :=
  match Text.dropBlanks cs with
  | '-' :: rest => (takeDigits rest.length rest).map fun (n, rest) => (-(n : Int), rest)
  | '+' :: rest => (takeDigits rest.length rest).map fun (n, rest) => ((n : Int), rest)
  | digits => (takeDigits 4 digits).map fun (n, rest) => ((n : Int), rest)

/-- The nanoseconds after a point; digits past the ninth are dropped. -/
def takeNanos : List Char → Option (Nat × List Char)
  | '.' :: rest => do
    let (n, after) ← takeDigits 9 rest
    let taken := rest.length - after.length
    return (n * 10 ^ (9 - taken), after.dropWhile Text.isDigit)
  | rest => some (0, rest)

/-- Hours and minutes of an offset, in seconds, and the text after them. -/
def takeOffsetDigits (cs : List Char) : Option (Nat × List Char) :=
  match cs with
  | h1 :: h2 :: rest =>
    if Text.isDigit h1 && Text.isDigit h2 then
      match rest.dropWhile fun c => c = ':' || Text.isBlank c with
      | m1 :: m2 :: rest =>
        if Text.isDigit m1 && Text.isDigit m2 && Text.digitValue m1 < 6 then
          some ((10 * Text.digitValue h1 + Text.digitValue h2) * 3600 +
            (10 * Text.digitValue m1 + Text.digitValue m2) * 60, rest)
        else none
      | _ => none
    else none
  | _ => none

/-- The offset from universal time, in seconds, and the text after it. -/
def takeOffset (cs : List Char) : Option (Int × List Char) :=
  match cs with
  | u :: t :: c :: rest =>
    if u.toUpper = 'U' ∧ t.toUpper = 'T' ∧ c.toUpper = 'C' then some (0, rest) else signed cs
  | _ => signed cs
where
  /-- The offset written as a letter or as a sign with digits. -/
  signed : List Char → Option (Int × List Char)
    | [] => none
    | sign :: rest =>
      if sign = 'Z' ∨ sign = 'z' then some (0, rest)
      else if sign = '+' then (takeOffsetDigits rest).map fun (n, rest) => ((n : Int), rest)
      else if sign = '-' ∨ sign = '\u2212' then
        (takeOffsetDigits rest).map fun (n, rest) => (-(n : Int), rest)
      else none

def Instant.read (cs : List Char) : Option Instant := do
  let (year, cs) ← takeYear cs
  let cs ← takeMark '-' cs
  let (month, cs) ← takeField 2 cs
  let cs ← takeMark '-' cs
  let (day, cs) ← takeField 2 cs
  let cs ← match cs with
    | c :: rest => if c = 'T' ∨ c = 't' ∨ c = ' ' then some rest else none
    | [] => none
  let (hour, cs) ← takeField 2 cs
  let cs ← takeMark ':' cs
  let (minute, cs) ← takeField 2 cs
  let cs ← takeMark ':' cs
  let (second, cs) ← takeField 2 cs
  let (nanos, cs) ← takeNanos cs
  let (offset, cs) ← takeOffset (Text.dropBlanks cs)
  let date : Date := ⟨year, month, day⟩
  if !(Text.dropBlanks cs).isEmpty then none
  else if !date.exists || 24 ≤ hour || 60 ≤ minute || 60 < second then none
  else if 86400 ≤ offset.natAbs then none
  else
    let leap := second == 60
    let secondOfDay := hour * 3600 + minute * 60 + (if leap then 59 else second)
    ofParts? (date.toDays * 86400 + secondOfDay - offset)
      (if leap then nanos + 1_000_000_000 else nanos)

end TokenDesk.Calendar
