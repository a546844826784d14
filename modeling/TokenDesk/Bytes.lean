import TokenDesk.Power

/-!
Byte strings, the big-endian numbers in them, and zero padding on the left. A number of a fixed
width is written by `Bytes.ofNat` and read by `Bytes.toNat`.
-/

namespace TokenDesk

abbrev Bytes := List UInt8

namespace Bytes

def span (width : Nat) : Nat := 256 ^ width

/-- The last `width` base-256 digits of a number, most significant first. -/
def ofNat : Nat → Nat → Bytes
  | 0, _ => []
  | width + 1, n => ofNat width (n / 256) ++ [UInt8.ofNat n]

/-- The number whose base-256 digits are the given bytes, most significant first. -/
def toNat (bytes : Bytes) : Nat :=
  bytes.foldl (fun n b => 256 * n + b.toNat) 0

/-- The bytes with zeros in front, up to a width. Longer strings stay as they are. -/
def padLeft (width : Nat) (bytes : Bytes) : Bytes :=
  List.replicate (width - bytes.length) 0 ++ bytes

/-- The bytes with zeros behind, up to the next multiple of `width`. -/
def padToMultiple (width : Nat) (bytes : Bytes) : Bytes :=
  bytes ++ List.replicate ((width - bytes.length % width) % width) 0

@[simp] theorem length_ofNat (width n : Nat) : (ofNat width n).length = width := by
  induction width generalizing n with
  | zero => rfl
  | succ k ih => simp [ofNat, ih]

theorem span_succ (width : Nat) : span (width + 1) = 256 * span width := by
  rw [span, Nat.pow_succ, Nat.mul_comm, span]

theorem toNat_concat (front : Bytes) (b : UInt8) :
    toNat (front ++ [b]) = 256 * toNat front + b.toNat := by
  simp [toNat, List.foldl_append]

/-- Writing a number at a width and reading it back loses what the width cannot hold. -/
theorem toNat_ofNat (width n : Nat) : toNat (ofNat width n) = n % span width := by
  induction width generalizing n with
  | zero => simp [ofNat, toNat, span, Nat.mod_one]
  | succ k ih =>
    rw [ofNat, toNat_concat, ih, UInt8.toNat_ofNat', span_succ, Nat.mod_mul]
    omega

theorem length_padLeft {width : Nat} {bytes : Bytes} (short : bytes.length ≤ width) :
    (padLeft width bytes).length = width := by
  rw [padLeft, List.length_append, List.length_replicate]
  omega

/-- Zeros in front do not count. -/
theorem toNat_zeros (count : Nat) (bytes : Bytes) :
    toNat (List.replicate count 0 ++ bytes) = toNat bytes := by
  induction count with
  | zero => rfl
  | succ k ih => exact ih

end Bytes

end TokenDesk
