import TokenDesk.Operation
import TokenDesk.EntityId

/-!
Where an operation on a token may be carried out. A token comes with a list of capabilities, and
the first one for an operation decides. Where the lists are fixed, every account finds the same.
-/

namespace TokenDesk

/-- Where an operation is carried out: by the ledger's token service or by a contract. -/
inductive Surface
  | native
  | contract
  deriving DecidableEq, Repr

namespace Surface

def all : List Surface := [.native, .contract]

def name : Surface → String
  | .native => "native"
  | .contract => "contract"

def title : Surface → String
  | .native => "Native"
  | .contract => "Contract"

end Surface

/-- Leave to carry out an operation on a surface. -/
structure Capability where
  operation : Operation
  surface : Surface
  deriving DecidableEq, Repr

/-- What a list of capabilities says about an operation. -/
inductive Decision
  | forbidden
  | use (surface : Surface)
  deriving DecidableEq, Repr

/-- The decision of the first capability for the operation; without one it is forbidden. -/
def Decision.ofCapabilities (capabilities : List Capability) (operation : Operation) : Decision :=
  match capabilities.find? fun c => c.operation = operation with
  | some c => .use c.surface
  | none => .forbidden

/-- The token an operation acts on. -/
structure Token where
  id : EntityId
  /-- The token manager contract, if the token has one. -/
  manager : Option EntityId
  treasury : EntityId
  decimals : UInt8
  deriving DecidableEq, Repr

/-- Fixed lists of capabilities for tokens, the newest first. -/
structure FixedCapabilities where
  lists : List (EntityId × List Capability)
  deriving Repr

namespace FixedCapabilities

def empty : FixedCapabilities := ⟨[]⟩

/-- Gives a token its list, in place of the one that it has. -/
def withToken (fixed : FixedCapabilities) (token : EntityId) (list : List Capability) :
    FixedCapabilities :=
  ⟨(token, list) :: fixed.lists⟩

/-- What the list of a token holds, whatever account asks; a token without a list may do nothing. -/
def capabilities (fixed : FixedCapabilities) (_account : EntityId) (token : Token) :
    List Capability :=
  (fixed.lists.lookup token.id).getD []

theorem capabilities_withToken (fixed : FixedCapabilities) (id : EntityId)
    (list : List Capability) (account : EntityId) (token : Token) :
    (fixed.withToken id list).capabilities account token =
      if token.id = id then list else fixed.capabilities account token := by
  unfold capabilities withToken
  rw [List.lookup_cons]
  by_cases same : token.id = id
  · rw [if_pos same, beq_iff_eq.mpr same]
    rfl
  · rw [if_neg same, beq_false_of_ne same]

end FixedCapabilities

end TokenDesk
