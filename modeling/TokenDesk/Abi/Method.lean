import TokenDesk.Abi.Encode
import TokenDesk.Text.Digits
import TokenDesk.Text.Split

/-!
Functions of contracts. A call is the four bytes of the function's selector and then its arguments.
-/

namespace TokenDesk.Abi

mutual

def Ty.name : Ty → String
  | .bool => "bool"
  | .uint bits => "uint" ++ Text.numeralString bits
  | .int bits => "int" ++ Text.numeralString bits
  | .address => "address"
  | .fixedBytes size => "bytes" ++ Text.numeralString size
  | .function => "function"
  | .bytes => "bytes"
  | .string => "string"
  | .array item => item.name ++ "[]"
  | .fixedArray item size => item.name ++ "[" ++ Text.numeralString size ++ "]"
  | .tuple parts => "(" ++ Text.joinWith "," (typeNames parts) ++ ")"

def typeNames : List Ty → List String
  | [] => []
  | t :: rest => t.name :: typeNames rest

end

/-- A function of a contract: its name and the types of its parameters. -/
structure Method where
  name : String
  parameters : List Ty

namespace Method

/-- The name and the parameter types, without blanks. -/
def signature (m : Method) : String :=
  m.name ++ "(" ++ Text.joinWith "," (typeNames m.parameters) ++ ")"

def calldata (m : Method) (arguments : List Value) : Bytes :=
  selector m.signature ++ encodeAll arguments

end Method

end TokenDesk.Abi
