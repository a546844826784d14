import TokenDesk.Build.Contract
import TokenDesk.Build.Native

/-!
Building the transaction of a request. Each surface supports some operations; for those a request
gives a body, and what to fetch once the transaction has settled.
-/

namespace TokenDesk

/-- A body, what to fetch when it has settled, and how returned data is to be read. -/
structure Plan where
  body : Body
  response : ResponseKind
  format : Option ReturnFormat
  deriving Repr

def Surface.supports : Surface → Operation → Bool
  | .native => Native.supports
  | .contract => Contract.supports

/-- The plan of a contract call: the results of creating a hold are read back. -/
def Plan.ofCall (operation : Operation) (call : ContractCall) : Except BuildError Plan :=
  match operation with
  | .createHold | .createHoldByController => do
    return ⟨.contract call, .fullRecord, some (← Contract.returnFormat call.function)⟩
  | _ => .ok ⟨.contract call, .receiptOnly, none⟩

def Surface.plan (token : Token) (request : Request) : Surface → Except BuildError Plan
  | .native => do return ⟨.native (← Native.build token request), .receiptOnly, none⟩
  | .contract => do Plan.ofCall request.operation (← Contract.build token request)

end TokenDesk
