import TokenDesk.Curve.Point
import TokenDesk.Hash.Keccak
import TokenDesk.Hash.Sha256

/-!
Signatures on the curve over a hash of 32 bytes. The secret number of a signature comes from the
key and the hash alone, and the second half of a signature is at most half the group order. A
signature and the parity of a coordinate give the signer's point back, and a point gives an
address.
-/

namespace TokenDesk.Curve

/-- The two halves of a signature. -/
structure Signature where
  r : Nat
  s : Nat
  deriving DecidableEq, Repr

/-- A stream of candidates for the secret number: the key and the running value of a keyed hash. -/
structure NonceState where
  key : Bytes
  value : Bytes

/-- The first state, from the secret key and the hash to be signed. -/
def NonceState.start (secret hash : Bytes) : NonceState :=
  let key := List.replicate 32 0
  let value := List.replicate 32 1
  let key := Sha256.keyed key (value ++ 0x00 :: secret ++ hash)
  let value := Sha256.keyed key value
  let key := Sha256.keyed key (value ++ 0x01 :: secret ++ hash)
  ⟨key, Sha256.keyed key value⟩

/-- The first candidate between one and the group order, among `tries` of them. -/
def NonceState.pick : Nat → NonceState → Option Nat
  | 0, _ => none
  | tries + 1, state =>
    let value := Sha256.keyed state.key state.value
    let candidate := Bytes.toNat value
    if 0 < candidate && candidate < order then some candidate
    else
      let key := Sha256.keyed state.key (value ++ [0x00])
      NonceState.pick tries ⟨key, Sha256.keyed key value⟩

def sign (secret : Nat) (hash : Bytes) : Option Signature := do
  let nonce ← NonceState.pick 64 (NonceState.start (Bytes.ofNat 32 secret) hash)
  let point ← (Projective.multiple nonce (Projective.ofAffine generator)).toAffine?
  let r := point.x % order
  let s := inverse nonce order * ((Bytes.toNat hash + r * secret) % order) % order
  if r = 0 ∨ s = 0 then none
  else some ⟨r, if order / 2 < s then order - s else s⟩

/-- The point whose key made a signature of a hash, given the parity of the secret point. -/
def recover (hash : Bytes) (signature : Signature) (odd : Bool) : Option Affine := do
  if signature.r = 0 ∨ order ≤ signature.r ∨ signature.s = 0 ∨ order ≤ signature.s then none
  else
    let point ← liftX signature.r odd
    let inv := inverse signature.r order
    let u1 := (order - Bytes.toNat hash % order) * inv % order
    let u2 := signature.s * inv % order
    let sum := Projective.add (Projective.multiple u1 (Projective.ofAffine generator))
      (Projective.multiple u2 (Projective.ofAffine point))
    sum.toAffine?

def publicPoint (secret : Nat) : Option Affine :=
  (Projective.multiple secret (Projective.ofAffine generator)).toAffine?

/-- The address of a public point: the last twenty bytes of the hash of its coordinates. -/
def address (point : Affine) : Bytes :=
  (Keccak.hash (Bytes.ofNat 32 point.x ++ Bytes.ofNat 32 point.y)).drop 12

end TokenDesk.Curve
