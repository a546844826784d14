import TokenDesk.Bytes

/-!
Types and values of contract calls. A value names its own type where the type shows in its form.
-/

namespace TokenDesk.Abi

/-- A type of a parameter or a result. -/
inductive Ty
  | bool
  | uint (bits : Nat)
  | int (bits : Nat)
  | address
  | fixedBytes (size : Nat)
  | function
  | bytes
  | string
  | array (item : Ty)
  | fixedArray (item : Ty) (size : Nat)
  | tuple (parts : List Ty)

/-- A value of a parameter or a result. -/
inductive Value
  | bool (b : Bool)
  | uint (bits : Nat) (n : Nat)
  | int (bits : Nat) (i : Int)
  | address (bytes : Bytes)
  | fixedBytes (bytes : Bytes)
  | function (bytes : Bytes)
  | bytes (bytes : Bytes)
  | string (text : List Char)
  | array (items : List Value)
  | fixedArray (items : List Value)
  | tuple (parts : List Value)

mutual

/-- Whether values of a type have no fixed size and so are reached through an offset. -/
def Ty.isDynamic : Ty → Bool
  | .bytes | .string | .array _ => true
  | .fixedArray item _ => item.isDynamic
  | .tuple parts => anyDynamic parts
  | _ => false

def anyDynamic : List Ty → Bool
  | [] => false
  | t :: rest => t.isDynamic || anyDynamic rest

end

/-- Why data does not decode. -/
inductive DecodeError
  /-- The data ends too early. -/
  | overrun
  /-- An offset or a length has more than 64 bits. -/
  | offsetTooLarge (word : Bytes)
  | unknownType (name : String)
  | badSize (name : String)
  deriving DecidableEq, Repr

end TokenDesk.Abi
