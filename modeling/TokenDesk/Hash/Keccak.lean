import TokenDesk.Bytes

/-!
The Keccak hash of 256 bits: a sponge over the permutation of 1600 bits with a rate of 136 bytes.
The state is a list of 25 lanes of 64 bits, row by row.
-/

namespace TokenDesk.Keccak

def rate : Nat := 136

def rotate (w : UInt64) (bits : Nat) : UInt64 :=
  if bits % 64 = 0 then w
  else (w <<< UInt64.ofNat (bits % 64)) ||| (w >>> UInt64.ofNat (64 - bits % 64))

/-- The lane in a column and a row, both taken modulo five. -/
def lane (state : Array UInt64) (x y : Nat) : UInt64 := state.getD (x % 5 + 5 * (y % 5)) 0

/-- The state whose lane in column `x` and row `y` is `f x y`. -/
def build (f : Nat → Nat → UInt64) : Array UInt64 :=
  ((List.range 25).map fun i => f (i % 5) (i / 5)).toArray

def mixColumns (a : Array UInt64) : Array UInt64 :=
  let parity := ((List.range 5).map fun x =>
    lane a x 0 ^^^ lane a x 1 ^^^ lane a x 2 ^^^ lane a x 3 ^^^ lane a x 4).toArray
  build fun x y =>
    lane a x y ^^^ parity.getD ((x + 4) % 5) 0 ^^^ rotate (parity.getD ((x + 1) % 5) 0) 1

/-- How far each lane is turned, row by row. -/
def offsets : Array Nat := #[
  0, 1, 62, 28, 27, 36, 44, 6, 55, 20, 3, 10, 43, 25, 39, 41, 45, 15, 21, 8, 18, 2, 61, 56, 14]

def turnAndMove (a : Array UInt64) : Array UInt64 :=
  build fun x y =>
    -- The lane that moves to column `x` and row `y` comes from row `x`, column `x + 3 y`.
    rotate (lane a (x + 3 * y) x) (offsets.getD ((x + 3 * y) % 5 + 5 * x) 0)

def mixRows (a : Array UInt64) : Array UInt64 :=
  build fun x y => lane a x y ^^^ (~~~ lane a (x + 1) y &&& lane a (x + 2) y)

/-- The constants added to the first lane, one for each round. -/
def roundConstants : List UInt64 := [
  0x0000000000000001, 0x0000000000008082, 0x800000000000808A, 0x8000000080008000,
  0x000000000000808B, 0x0000000080000001, 0x8000000080008081, 0x8000000000008009,
  0x000000000000008A, 0x0000000000000088, 0x0000000080008009, 0x000000008000000A,
  0x000000008000808B, 0x800000000000008B, 0x8000000000008089, 0x8000000000008003,
  0x8000000000008002, 0x8000000000000080, 0x000000000000800A, 0x800000008000000A,
  0x8000000080008081, 0x8000000000008080, 0x0000000080000001, 0x8000000080008008]

def permute (state : Array UInt64) : Array UInt64 :=
  roundConstants.foldl (fun a constant =>
    let a := mixRows (turnAndMove (mixColumns a))
    build fun x y => if x = 0 ∧ y = 0 then lane a 0 0 ^^^ constant else lane a x y) state

/-- A word from its bytes, least significant first. -/
def wordOfBytes (bytes : Bytes) : UInt64 :=
  bytes.foldr (fun b w => w * 256 + b.toUInt64) 0

/-- The bytes of a word, least significant first. -/
def bytesOfWord (w : UInt64) : Bytes :=
  (List.range 8).map fun i => (w >>> UInt64.ofNat (8 * i)).toUInt8

/-- The message with its padding, a whole number of blocks. -/
def pad (message : Bytes) : Bytes :=
  let missing := rate - message.length % rate
  if missing = 1 then message ++ [0x81]
  else message ++ 0x01 :: List.replicate (missing - 2) 0 ++ [0x80]

/-- Absorbs `count` blocks. -/
def absorb : Nat → Array UInt64 → Bytes → Array UInt64
  | 0, state, _ => state
  | count + 1, state, message =>
    let block := message.take rate
    let mixed := build fun x y =>
      let i := x + 5 * y
      if i < rate / 8 then lane state x y ^^^ wordOfBytes ((block.drop (8 * i)).take 8)
      else lane state x y
    absorb count (permute mixed) (message.drop rate)

/-- The hash of a message: 32 bytes. -/
def hash (message : Bytes) : Bytes :=
  let padded := pad message
  let state := absorb (padded.length / rate) (build fun _ _ => 0) padded
  (List.range 4).flatMap fun i => bytesOfWord (state.getD i 0)

def hashText (text : String) : Bytes := hash (text.toList.flatMap String.utf8EncodeChar)

end TokenDesk.Keccak
