import TokenDesk.Abi.Value
import TokenDesk.Hash.Keccak
import TokenDesk.Text.Hex

/-!
Encoding the arguments of a contract call. The parts of a sequence come one after the other, and in
the place of a dynamic part stands the offset of its bytes, which follow behind all the parts.
-/

namespace TokenDesk.Abi

def word (n : Nat) : Bytes := Bytes.ofNat 32 n

/-- An integer as a word, negative ones as their complement. -/
def intWord (i : Int) : Bytes := word (i % Bytes.span 32).toNat

/-- One part of a sequence: its bytes, and whether they follow behind the parts. -/
structure Part where
  dynamic : Bool
  bytes : Bytes

def Part.headLength (p : Part) : Nat := if p.dynamic then 32 else p.bytes.length

def headLength : List Part → Nat
  | [] => 0
  | p :: rest => p.headLength + headLength rest

/-- The places of the parts; `offset` is where the next bytes behind them begin. -/
def heads (offset : Nat) : List Part → Bytes
  | [] => []
  | p :: rest =>
    if p.dynamic then word offset ++ heads (offset + p.bytes.length) rest
    else p.bytes ++ heads offset rest

def tails : List Part → Bytes
  | [] => []
  | p :: rest => if p.dynamic then p.bytes ++ tails rest else tails rest

def assemble (parts : List Part) : Bytes := heads (headLength parts) parts ++ tails parts

/-- A byte string with its length in front, filled up to whole words. -/
def lengthPrefixed (bytes : Bytes) : Bytes :=
  word bytes.length ++ Bytes.padToMultiple 32 bytes

mutual

def Value.isDynamic : Value → Bool
  | .bytes _ | .string _ | .array _ => true
  | .fixedArray items => anyDynamicValue items
  | .tuple parts => anyDynamicValue parts
  | _ => false

def anyDynamicValue : List Value → Bool
  | [] => false
  | v :: rest => v.isDynamic || anyDynamicValue rest

end

mutual

def Value.encode : Value → Bytes
  | .bool b => word (if b then 1 else 0)
  | .uint _ n => word n
  | .int _ i => intWord i
  | .address bytes => Bytes.padLeft 32 bytes
  | .fixedBytes bytes => Bytes.padToMultiple 32 bytes
  | .function bytes => Bytes.padToMultiple 32 bytes
  | .bytes bytes => lengthPrefixed bytes
  | .string text => lengthPrefixed (Text.utf8 text)
  | .array items => word items.length ++ assemble (valueParts items)
  | .fixedArray items => assemble (valueParts items)
  | .tuple parts => assemble (valueParts parts)

def valueParts : List Value → List Part
  | [] => []
  | v :: rest => ⟨v.isDynamic, v.encode⟩ :: valueParts rest

end

def encodeAll (arguments : List Value) : Bytes := assemble (valueParts arguments)

/-- The four bytes by which a contract knows a function, from its name and parameter types. -/
def selector (signature : String) : Bytes := (Keccak.hashText signature).take 4

end TokenDesk.Abi
