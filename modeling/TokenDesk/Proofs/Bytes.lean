import TokenDesk.Bytes

/-!
Numbers and the bytes that they are written in.

At a fixed width a byte string is the same as a number that the width can hold: reading undoes
writing and writing undoes reading. Strings one after the other are the digits of a number in two
parts (`toNat_append`), and the order of the strings is the order of the numbers
(`lt_iff_toNat_lt`).
-/

namespace TokenDesk

/-- Numbers with two digits in some base are ordered by the first digit, then by the second. -/
theorem compare_digits {base m n : Nat} (x y : Nat) (digit : m < base) (digit' : n < base) :
    compare (x * base + m) (y * base + n) = (compare x y).then (compare m n) := by
  rcases Nat.lt_trichotomy x y with below | rfl | above
  · have carry : (x + 1) * base ≤ y * base := Nat.mul_le_mul_right base below
    rw [Nat.succ_mul] at carry
    rw [Nat.compare_eq_lt.mpr below, Nat.compare_eq_lt.mpr (by omega)]
    rfl
  · rw [Nat.compare_eq_eq.mpr rfl, Ordering.eq_then]
    rcases Nat.lt_trichotomy m n with less | rfl | more
    · rw [Nat.compare_eq_lt.mpr less, Nat.compare_eq_lt.mpr (by omega)]
    · rw [Nat.compare_eq_eq.mpr rfl, Nat.compare_eq_eq.mpr rfl]
    · rw [Nat.compare_eq_gt.mpr more, Nat.compare_eq_gt.mpr (by omega)]
  · have carry : (y + 1) * base ≤ x * base := Nat.mul_le_mul_right base above
    rw [Nat.succ_mul] at carry
    rw [Nat.compare_eq_gt.mpr above, Nat.compare_eq_gt.mpr (by omega)]
    rfl

namespace Bytes

/-- Bytes are the digits of the number that they are read as. -/
theorem ofNat_toNat {width : Nat} {bytes : Bytes} (size : bytes.length = width) :
    ofNat width (toNat bytes) = bytes := by
  induction width generalizing bytes with
  | zero => rw [List.eq_nil_of_length_eq_zero size, ofNat]
  | succ width ih =>
    rcases List.eq_nil_or_concat bytes with rfl | ⟨front, b, rfl⟩
    · cases size
    · rw [List.concat_eq_append] at size ⊢
      rw [List.length_append, List.length_singleton, Nat.succ_inj] at size
      have quotient : (256 * toNat front + b.toNat) / 256 = toNat front := by
        have small := b.toNat_lt
        omega
      have digit : UInt8.ofNat (256 * toNat front + b.toNat) = b := by
        have small := b.toNat_lt
        rw [← UInt8.toNat_inj, UInt8.toNat_ofNat']
        omega
      rw [toNat_concat, ofNat, quotient, digit, ih size]

/-- Numbers that fit a width are told apart by their bytes. -/
theorem ofNat_inj {width m n : Nat} (fits : m < span width) (fits' : n < span width)
    (same : ofNat width m = ofNat width n) : m = n := by
  have value := congrArg toNat same
  rwa [toNat_ofNat, toNat_ofNat, Nat.mod_eq_of_lt fits, Nat.mod_eq_of_lt fits'] at value

theorem toNat_lt_span (bytes : Bytes) : toNat bytes < span bytes.length := by
  have written := toNat_ofNat bytes.length (toNat bytes)
  rw [ofNat_toNat rfl] at written
  rw [written]
  exact Nat.mod_lt _ (Nat.pow_pos (by decide))

theorem toNat_singleton (b : UInt8) : toNat [b] = b.toNat := by
  simp only [toNat, List.foldl_cons, List.foldl_nil, Nat.mul_zero, Nat.zero_add]

/-- Bytes in front count as many times as the bytes behind them have strings of their length. -/
theorem toNat_append (front back : Bytes) :
    toNat (front ++ back) = toNat front * span back.length + toNat back := by
  induction back generalizing front with
  | nil => simp [toNat, span]
  | cons b back ih =>
    have first : toNat (b :: back) = b.toNat * span back.length + toNat back := by
      rw [← List.singleton_append, ih, toNat_singleton]
    calc toNat (front ++ b :: back)
        = toNat (front ++ [b] ++ back) := by rw [List.append_assoc, List.singleton_append]
      _ = (256 * toNat front + b.toNat) * span back.length + toNat back := by
        rw [ih, toNat_concat]
      _ = toNat front * span (b :: back).length + toNat (b :: back) := by
        rw [first, List.length_cons, span_succ, Nat.add_mul, Nat.mul_left_comm, Nat.mul_assoc,
          Nat.add_assoc]

theorem toNat_cons (b : UInt8) (rest : Bytes) :
    toNat (b :: rest) = b.toNat * span rest.length + toNat rest := by
  rw [← List.singleton_append, toNat_append, toNat_singleton]

/-- Strings of one length are ordered as the numbers that they are read as. -/
theorem lt_iff_toNat_lt {a b : Bytes} (same : a.length = b.length) :
    a < b ↔ toNat a < toNat b := by
  induction a generalizing b with
  | nil =>
    rw [List.eq_nil_of_length_eq_zero same.symm]
    exact iff_of_false (List.not_lt_nil _) (Nat.lt_irrefl _)
  | cons x a ih =>
    rcases b with _ | ⟨y, b⟩
    · cases same
    · have rest : a.length = b.length := Nat.succ.inj same
      have small := toNat_lt_span a
      rw [rest] at small
      calc x :: a < y :: b
          ↔ x < y ∨ x = y ∧ a < b := List.cons_lt_cons_iff
        _ ↔ (compare x.toNat y.toNat).then (compare (toNat a) (toNat b)) = .lt := by
          rw [Ordering.then_eq_lt, Nat.compare_eq_lt, Nat.compare_eq_eq, Nat.compare_eq_lt,
            UInt8.toNat_inj, UInt8.lt_iff_toNat_lt, ih rest]
        _ ↔ toNat (x :: a) < toNat (y :: b) := by
          rw [toNat_cons, toNat_cons, rest, ← Nat.compare_eq_lt,
            compare_digits _ _ small (toNat_lt_span b)]

end Bytes

end TokenDesk
