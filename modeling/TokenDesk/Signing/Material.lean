import TokenDesk.Signing.Error
import TokenDesk.Text.Split

/-!
Signatures as custodial providers hand them out, and the byte layout that the ledger expects.
-/

namespace TokenDesk.Signing

/-- A signature as a provider returns it. -/
inductive Material
  /-- The two numbers of a signature, each as hexadecimal text. -/
  | components (r s : String)
  /-- A whole signature as hexadecimal text. -/
  | whole (signature : String)
  deriving DecidableEq, Repr

namespace Material

def componentSize : Nat := 32

/-- Reads hexadecimal text after all marks of the base in front of it. -/
def readBytes (text : String) : Except Error Bytes :=
  (Text.readHex (Text.dropHexMarks text.toList)).mapError fun e =>
    .malformedSignature (.unreadable e)

def component (text : String) : Except Error Bytes := do
  let bytes ← readBytes text
  if componentSize < bytes.length then
    throw (.malformedSignature (.longComponent bytes.length))
  else return Bytes.padLeft componentSize bytes

/-- The signature in the layout of the ledger: the components one after the other, or the whole
signature as it is. -/
def reconstruct : Material → Except Error Bytes
  | .components r s => do
    let r ← component r
    let s ← component s
    return r ++ s
  | .whole signature => do
    let bytes ← readBytes signature
    if bytes.isEmpty then throw (.malformedSignature .emptySignature) else return bytes

end Material

end TokenDesk.Signing
