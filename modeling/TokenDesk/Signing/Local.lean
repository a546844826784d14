import TokenDesk.Curve.Signature
import TokenDesk.Signing.Error
import TokenDesk.Text.Split

/-!
Signing with a private key at hand. A signature is over the hash of the payload and holds two
numbers of 32 bytes. Which of two possible keys it belongs to is not part of it, so checking a
signature tries both.
-/

namespace TokenDesk.Signing

/-- A private key: a number of the curve's group other than zero. -/
structure LocalKey where
  secret : Nat
  deriving DecidableEq, Repr

namespace LocalKey

/-- Reads a key from hexadecimal text, after all marks of the base in front of it. -/
def read (text : String) : Except Error LocalKey :=
  match Text.readHexOf 32 (Text.dropHexMarks text.toList) with
  | .error e => .error (.invalidKey (.unreadable e))
  | .ok bytes =>
    let secret := Bytes.toNat bytes
    if secret = 0 ∨ Curve.order ≤ secret then .error (.invalidKey .outOfRange) else .ok ⟨secret⟩

def address (key : LocalKey) : Bytes := (Curve.publicPoint key.secret).elim [] Curve.address

/-- The bytes of a signature: its two numbers. -/
def signatureBytes (s : Curve.Signature) : Bytes := Bytes.ofNat 32 s.r ++ Bytes.ofNat 32 s.s

def sign (key : LocalKey) (payload : Bytes) : Except Error Bytes :=
  if payload.isEmpty then .error (.malformedPayload .empty)
  else match Curve.sign key.secret (Keccak.hash payload) with
    | some signature => .ok (signatureBytes signature)
    | none => .error (.malformedPayload (.because "signature error"))

/-- Whether a signature gives an address back, with either parity. -/
def recovers (hash : Bytes) (signature : Curve.Signature) (address : Bytes) : Bool :=
  [false, true].any fun odd =>
    (Curve.recover hash signature odd).elim false fun point => Curve.address point = address

/-- The form for inspection of the signer with an address, whose key is not shown. -/
def describeSigner (address : Bytes) : String :=
  "LocalKeySigner \x7b address: " ++ Text.hexString address ++ ", .. \x7d"

end LocalKey

/-- Whether a signature over a payload was made by the key of an address. -/
def verify (payload signature address : Bytes) : Except Error Bool :=
  if signature.length ≠ 64 then .error (.malformedSignature (.wrongLength signature.length))
  else
    let halves : Curve.Signature :=
      ⟨Bytes.toNat (signature.take 32), Bytes.toNat (signature.drop 32)⟩
    .ok (LocalKey.recovers (Keccak.hash payload) halves address)

end TokenDesk.Signing
