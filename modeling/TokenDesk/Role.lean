import TokenDesk.Hash.Keccak

/-!
The roles that a token manager contract gives out. A role is known to the contract by the hash of
its label, and the administrator's role by zero.
-/

namespace TokenDesk

/-- A role of the token manager contract. -/
inductive Role
  | defaultAdmin | cashIn | burn | wipe | rescue | pause | freeze | delete | kyc | customFees
  | holdCreator
  deriving DecidableEq, Repr

namespace Role

/-- Every role, in the order of their declaration. -/
def all : List Role := [
  .defaultAdmin, .cashIn, .burn, .wipe, .rescue, .pause, .freeze, .delete, .kyc, .customFees,
  .holdCreator]

def name : Role → String
  | .defaultAdmin => "default_admin"
  | .cashIn => "cash_in"
  | .burn => "burn"
  | .wipe => "wipe"
  | .rescue => "rescue"
  | .pause => "pause"
  | .freeze => "freeze"
  | .delete => "delete"
  | .kyc => "kyc"
  | .customFees => "custom_fees"
  | .holdCreator => "hold_creator"

def label : Role → String
  | .defaultAdmin => "DEFAULT_ADMIN_ROLE"
  | .cashIn => "CASHIN_ROLE"
  | .burn => "BURN_ROLE"
  | .wipe => "WIPE_ROLE"
  | .rescue => "RESCUE_ROLE"
  | .pause => "PAUSE_ROLE"
  | .freeze => "FREEZE_ROLE"
  | .delete => "DELETE_ROLE"
  | .kyc => "KYC_ROLE"
  | .customFees => "CUSTOM_FEES_ROLE"
  | .holdCreator => "HOLD_CREATOR_ROLE"

def id (role : Role) : Bytes :=
  match role with
  | .defaultAdmin => List.replicate 32 0
  | other => Keccak.hashText other.label

end Role

end TokenDesk
