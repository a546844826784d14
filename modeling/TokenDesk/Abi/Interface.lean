import TokenDesk.Abi.Decode
import TokenDesk.Text.Digits
import TokenDesk.Text.Split

/-!
Interfaces of contracts, given by signatures for people such as
`function f(address a, bytes b) returns (bool)`. The names of types are kept as they are written and
given a meaning only when a result is decoded.
-/

namespace TokenDesk.Abi

/-- A type as it is written. -/
inductive TypeName
  | plain (name : String)
  | tuple (parts : List TypeName)
  | array (item : TypeName) (size : Option Nat)
  deriving Repr

/-- A function of an interface: its name and the types of its parameters and results. -/
structure Function where
  name : String
  inputs : List TypeName
  outputs : List TypeName
  deriving Repr

abbrev Interface := List Function

/-- The size that a type's name ends in, between one and `most` and a multiple of `unit`. -/
def sizeIn (digits : List Char) (unit most : Nat) : Option Nat :=
  match Text.readUnsigned (UInt64.size - 1) digits with
  | some n => if 0 < n ∧ n ≤ most ∧ n % unit = 0 then some n else none
  | none => none

def plainType (name : String) : Except DecodeError Ty :=
  if name = "address" then .ok .address
  else if name = "function" then .ok .function
  else if name = "bool" then .ok .bool
  else if name = "string" then .ok .string
  else if name = "bytes" then .ok .bytes
  else if name = "uint" then .ok (.uint 256)
  else if name = "int" then .ok (.int 256)
  else match Text.dropStart? "bytes".toList name.toList with
    | some digits =>
      match sizeIn digits 1 32 with
      | some n => .ok (.fixedBytes n)
      | none => .error (.badSize name)
    | none =>
      match Text.dropStart? "uint".toList name.toList with
      | some digits =>
        match sizeIn digits 8 256 with
        | some n => .ok (.uint n)
        | none => .error (.badSize name)
      | none =>
        match Text.dropStart? "int".toList name.toList with
        | some digits =>
          match sizeIn digits 8 256 with
          | some n => .ok (.int n)
          | none => .error (.badSize name)
        | none => .error (.unknownType name)

mutual

def TypeName.resolve : TypeName → Except DecodeError Ty
  | .plain name => plainType name
  | .tuple parts => do return .tuple (← resolveAll parts)
  | .array item none => do return .array (← item.resolve)
  | .array item (some size) => do return .fixedArray (← item.resolve) size

def resolveAll : List TypeName → Except DecodeError (List Ty)
  | [] => .ok []
  | t :: rest => do
    let t ← t.resolve
    let ts ← resolveAll rest
    return t :: ts

end

/-- Decodes results one after the other; each type is looked up when its turn comes. -/
def decodeNamed : List TypeName → Bytes → Nat → Except DecodeError (List Value)
  | [], _, _ => .ok []
  | name :: rest, data, place => do
    let t ← name.resolve
    let (v, place) ← decodeAt t data place
    let vs ← decodeNamed rest data place
    return v :: vs

def Function.decodeOutputs (f : Function) (data : Bytes) : Except DecodeError (List Value) :=
  decodeNamed f.outputs data 0

def startsName (c : Char) : Bool := c.isAlpha || c = '_' || c = '$'

def continuesName (c : Char) : Bool := startsName c || Text.isDigit c || c = '.'

/-- A piece of a signature. -/
inductive Token
  | word (text : List Char)
  | number (value : Nat)
  | mark (c : Char)
  deriving DecidableEq, Repr

/-- The pieces of a signature; `none` if a character fits nowhere. The word or number being read is
kept in reverse. -/
def tokens (current : List Char) : List Char → Option (List Token)
  | [] => some (close current)
  | c :: rest =>
    if c = ' ' ∨ c = '\t' ∨ c = '\n' ∨ c = '\r' then (tokens [] rest).map (close current ++ ·)
    else if continuesName c then tokens (c :: current) rest
    else if c = '(' ∨ c = ')' ∨ c = '[' ∨ c = ']' ∨ c = ',' ∨ c = ';' ∨ c = ':' then
      (tokens [] rest).map (close current ++ .mark c :: ·)
    else none
where
  /-- The finished word or number, if there is one. -/
  close (current : List Char) : List Token :=
    if current.isEmpty then []
    else match Text.readNumeral current.reverse with
      | some n => [.number n]
      | none => [.word current.reverse]

/-- Where a parameter lives or how it is passed; such words say nothing about its type. -/
def placeWords : List (List Char) :=
  ["memory", "calldata", "storage", "indexed", "payable"].map String.toList

def modifierWords : List (List Char) :=
  ["external", "public", "internal", "private", "pure", "view", "payable", "nonpayable",
    "virtual", "override", "constant"].map String.toList

def isName : List Char → Bool
  | c :: _ => startsName c
  | [] => false

def takeArrays (t : TypeName) : List Token → TypeName × List Token
  | .mark '[' :: .mark ']' :: rest => takeArrays (.array t none) rest
  | .mark '[' :: .number n :: .mark ']' :: rest =>
    if n = 0 then (t, .mark '[' :: .number n :: .mark ']' :: rest)
    else takeArrays (.array t (some n)) rest
  | rest => (t, rest)

/-- Drops words about the place of a parameter, and its name. -/
def dropParameterName : List Token → List Token
  | .word w :: rest =>
    if placeWords.contains w then
      match rest with
      | .word n :: rest => if isName n then rest else .word n :: rest
      | rest => rest
    else if isName w then rest
    else .word w :: rest
  | rest => rest

mutual

/-- A type at the start of the pieces; `fuel` bounds the nesting and the number of parameters. -/
def takeType : Nat → List Token → Option (TypeName × List Token)
  | 0, _ => none
  | fuel + 1, .mark '(' :: rest => do
    let (parts, rest) ← takeParameters fuel rest
    return takeArrays (.tuple parts) rest
  | fuel + 1, .word w :: rest =>
    match rest with
    | .mark '(' :: inner =>
      if w = "tuple".toList then do
        let (parts, rest) ← takeParameters fuel inner
        return takeArrays (.tuple parts) rest
      else none
    | _ => if isName w then some (takeArrays (.plain (String.ofList w)) rest) else none
  | _, _ => none

def takeParameters : Nat → List Token → Option (List TypeName × List Token)
  | 0, _ => none
  | _ + 1, .mark ')' :: rest => some ([], rest)
  | fuel + 1, tokens => do
    let (t, rest) ← takeType fuel tokens
    match dropParameterName rest with
    | .mark ',' :: rest =>
      let (ts, rest) ← takeParameters fuel rest
      return (t :: ts, rest)
    | .mark ')' :: rest => return ([t], rest)
    | _ => none

end

/-- Drops what a function may do and who may call it. -/
def dropModifiers (tokens : List Token) : List Token :=
  tokens.dropWhile fun
    | .word w => modifierWords.contains w
    | _ => false

/-- The results after the parameters, and that nothing else follows. -/
def takeResults (fuel : Nat) (tokens : List Token) : Option (List TypeName) :=
  let ended (rest : List Token) : Bool := rest = [] || rest = [.mark ';']
  let tokens := match tokens with
    | .mark ':' :: rest => rest
    | tokens => tokens
  match tokens with
  | .word w :: .mark '(' :: rest =>
    if w = "returns".toList then
      match takeParameters fuel rest with
      | some (outputs, rest) => if ended rest then some outputs else none
      | none => none
    else none
  | .mark '(' :: rest =>
    match takeParameters fuel rest with
    | some (outputs, rest) => if ended rest then some outputs else none
    | none => none
  | rest => if ended rest then some [] else none

def Function.read (signature : String) : Option Function := do
  let pieces ← tokens [] signature.toList
  let fuel := 2 * pieces.length + 2
  match pieces with
  | .word keyword :: .word name :: .mark '(' :: rest =>
    if keyword = "function".toList && isName name then
      let (inputs, rest) ← takeParameters fuel rest
      let outputs ← takeResults fuel (dropModifiers rest)
      return ⟨String.ofList name, inputs, outputs⟩
    else none
  | _ => none

def Interface.read (signatures : List String) : Option Interface := signatures.mapM Function.read

def Interface.find? (interface : Interface) (name : String) : Option Function :=
  List.find? (fun f => f.name = name) interface

end TokenDesk.Abi
