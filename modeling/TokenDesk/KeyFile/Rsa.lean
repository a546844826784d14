import TokenDesk.KeyFile.Armor

/-!
Key files that hold an RSA key. The content of a file is a sequence of tagged blocks, each with its
length, and blocks of one kind hold further blocks. Whether the numbers inside make up a key is not
looked at.
-/

namespace TokenDesk.KeyFile

/-- A tagged block, as far as it matters which it is. -/
inductive Block
  | sequence (items : List Block)
  /-- The numbers that identify a kind of object. -/
  | identifier (arcs : List Nat)
  /-- A string of bits or bytes. -/
  | octets
  | other

/-- A number in groups of seven bits, of which all but the last are marked. -/
def readGroups (n : Nat) : Bytes → Option (Nat × Bytes)
  | [] => none
  | b :: rest =>
    let n := 128 * n + b.toNat % 128
    if b.toNat < 128 then some (n, rest) else readGroups n rest

def readArcs : Nat → Bytes → Option (List Nat)
  | 0, _ => none
  | _, [] => some []
  | fuel + 1, bytes => do
    let (arc, rest) ← readGroups 0 bytes
    let arcs ← readArcs fuel rest
    return arc :: arcs

/-- The numbers of an identifier. The first byte holds two of them. -/
def readIdentifier : Bytes → Option (List Nat)
  | [] => none
  | b :: rest =>
    let first := min (b.toNat / 40) 2
    (readArcs (rest.length + 1) rest).map fun arcs => first :: (b.toNat - 40 * first) :: arcs

def readLength : Bytes → Option (Nat × Bytes)
  | [] => none
  | b :: rest =>
    if b.toNat < 128 then some (b.toNat, rest)
    else
      let size := b.toNat - 128
      if 8 < size ∨ rest.length < size then none
      else some (Bytes.toNat (rest.take size), rest.drop size)

/-- The class, the number and the rest of a tag. -/
def readTag : Bytes → Option (Nat × Nat × Bytes)
  | [] => none
  | b :: rest =>
    if b.toNat % 32 = 31 then
      (readGroups 0 rest).map fun (number, rest) => (b.toNat / 64, number, rest)
    else some (b.toNat / 64, b.toNat % 32, rest)

/-- Whether the first byte of a string of bits counts no more unused bits than there are. -/
def isBitString : Bytes → Bool
  | [] => true
  | unused :: bits => unused.toNat ≤ 8 * bits.length

mutual

/-- Reads blocks up to the end; `fuel` bounds their number and depth. -/
def readBlocks : Nat → Bytes → Option (List Block)
  | 0, _ => none
  | _, [] => some []
  | fuel + 1, bytes => do
    let (kind, number, rest) ← readTag bytes
    let (size, rest) ← readLength rest
    if rest.length < size then none
    else
      let block ← readBlock fuel kind number (rest.take size)
      let blocks ← readBlocks fuel (rest.drop size)
      return block :: blocks

def readBlock : Nat → Nat → Nat → Bytes → Option Block
  | 0, _, _, _ => none
  | fuel + 1, kind, number, body =>
    if kind ≠ 0 then some .other
    else if number = 1 then if body.length = 1 then some .other else none
    else if number = 3 then if isBitString body then some .octets else none
    else if number = 4 then some .octets
    else if number = 6 then (readIdentifier body).map .identifier
    else if number = 12 then (Text.readUtf8? body).map fun _ => .other
    else if number = 16 ∨ number = 17 then
      match readBlocks fuel body with
      | some [] => none
      | some items => some (if number = 16 then .sequence items else .other)
      | none => none
    else some .other

end

/-- The kinds of keys that an identifier can announce. -/
inductive KeyKind
  | rsa
  | curve
  | edwards
  deriving DecidableEq, Repr

def keyKind? (arcs : List Nat) : Option KeyKind :=
  if arcs = [1, 2, 840, 113549, 1, 1, 1] then some .rsa
  else if arcs = [1, 2, 840, 10045, 2, 1] then some .curve
  else if arcs = [1, 3, 101, 112] then some .edwards
  else none

mutual

def Block.kind? : Block → Option KeyKind
  | .sequence items => firstKind? items
  | .identifier arcs => keyKind? arcs
  | _ => none

def firstKind? : List Block → Option KeyKind
  | [] => none
  | block :: rest => block.kind?.or (firstKind? rest)

end

mutual

/-- Whether there is a string of bits or bytes in a block. -/
def Block.holdsOctets : Block → Bool
  | .sequence items => anyHoldsOctets items
  | .octets => true
  | _ => false

/-- Whether there is a string of bits or bytes in any of some blocks. -/
def anyHoldsOctets : List Block → Bool
  | [] => false
  | block :: rest => block.holdsOctets || anyHoldsOctets rest

end

/-- Whether a file holds an RSA key: either bare, or in an envelope that announces its kind and
holds it as a string. -/
def holdsRsaKey (file : Bytes) : Bool :=
  match readArmor file with
  | none => false
  | some armored =>
    match readBlocks (2 * armored.content.length + 1) armored.content with
    | none | some [] => false
    | some blocks =>
      if armored.label = "RSA PRIVATE KEY" || armored.label = "RSA PUBLIC KEY" then true
      else if ["PRIVATE KEY", "PUBLIC KEY", "CERTIFICATE"].contains armored.label then
        firstKind? blocks = some .rsa && anyHoldsOctets blocks
      else false

end TokenDesk.KeyFile
