/-!
Writing a label outside ASCII with ASCII letters and digits. The ASCII characters come first; then
each other character, in ascending order, is inserted by a number that says how far on it stands.
Numbers are written with digits of base 36 whose thresholds adapt to the numbers before.
-/

namespace TokenDesk.Url.Punycode

/-- The digit of a number below 36: letters first, then the decimal digits. -/
def digit (d : Nat) : Char := if d < 26 then Char.ofNat (97 + d) else Char.ofNat (22 + d)

/-- The number from which on the digit at weight `k` is not the last. -/
def threshold (k bias : Nat) : Nat :=
  if k ≤ bias then 1 else if bias + 26 ≤ k then 26 else k - bias

theorem threshold_pos (k bias : Nat) : 1 ≤ threshold k bias := by
  unfold threshold
  split
  · omega
  · split <;> omega

/-- Divides a number until it is small, and counts the divisions in steps of 36. -/
def scaleDown (delta k : Nat) : Nat × Nat :=
  if 455 < delta then scaleDown (delta / 35) (k + 36) else (delta, k)
termination_by delta
decreasing_by exact Nat.div_lt_self (by omega) (by omega)

def adapt (delta count : Nat) (first : Bool) : Nat :=
  let halved := if first then delta / 700 else delta / 2
  let (small, k) := scaleDown (halved + halved / count) 0
  k + 36 * small / (small + 38)

def digits (bias k q : Nat) : List Char :=
  let t := threshold k bias
  if q < t then [digit q]
  else digit (t + (q - t) % (36 - t)) :: digits bias (k + 36) ((q - t) / (36 - t))
termination_by q
decreasing_by
  have positive := threshold_pos k bias
  have small := Nat.div_le_self (q - threshold k bias) (36 - threshold k bias)
  omega

/-- How far the insertion has come. -/
structure State where
  written : List Char
  delta : Nat
  bias : Nat
  /-- The number of characters already in place. -/
  placed : Nat

/-- Passes one character of the label while the characters numbered `m` are inserted. -/
def pass (basic m : Nat) (s : State) (c : Char) : State :=
  if c.toNat < m then { s with delta := s.delta + 1 }
  else if c.toNat = m then
    { written := s.written ++ digits s.bias 36 s.delta, delta := 0,
      bias := adapt s.delta (s.placed + 1) (s.placed = basic), placed := s.placed + 1 }
  else s

/-- Inserts the characters with the given numbers, which ascend from `n`. -/
def insertAll (label : List Char) (basic : Nat) : List Nat → Nat → State → State
  | [], _, s => s
  | m :: rest, n, s =>
    let s := { s with delta := s.delta + (m - n) * (s.placed + 1) }
    let s := label.foldl (pass basic m) s
    insertAll label basic rest (m + 1) { s with delta := s.delta + 1 }

/-- The ASCII form of a label, without the mark that says it is one. -/
def encode (label : List Char) : List Char :=
  let basic := label.filter fun c => c.toNat < 128
  let others := ((label.filter fun c => 128 ≤ c.toNat).map Char.toNat).mergeSort.eraseDups
  let state := insertAll label basic.length others 128 ⟨[], 0, 72, basic.length⟩
  basic ++ (if basic.isEmpty then [] else ['-']) ++ state.written

end TokenDesk.Url.Punycode
