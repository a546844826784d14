/-!
The operations on a token, each with its name.
-/

namespace TokenDesk

/-- What can be done with a token. -/
inductive Operation
  | cashIn | burn | wipe | freeze | unfreeze | pause | unpause | delete | rescue | rescueHbar
  | grantKyc | revokeKyc | grantRole | revokeRole | updateCustomFees | createHold
  | createHoldByController | executeHold | releaseHold | reclaimHold | grantSupplierRole
  | grantUnlimitedSupplierRole | revokeSupplierRole | increaseSupplierAllowance
  | decreaseSupplierAllowance | resetSupplierAllowance | updateReserveAddress
  | updateReserveAmount | transfers
  deriving DecidableEq, Repr

namespace Operation

/-- Every operation, in the order of their declaration. -/
def all : List Operation := [
  .cashIn, .burn, .wipe, .freeze, .unfreeze, .pause, .unpause, .delete, .rescue, .rescueHbar,
  .grantKyc, .revokeKyc, .grantRole, .revokeRole, .updateCustomFees, .createHold,
  .createHoldByController, .executeHold, .releaseHold, .reclaimHold, .grantSupplierRole,
  .grantUnlimitedSupplierRole, .revokeSupplierRole, .increaseSupplierAllowance,
  .decreaseSupplierAllowance, .resetSupplierAllowance, .updateReserveAddress,
  .updateReserveAmount, .transfers]

def name : Operation → String
  | .cashIn => "cash_in"
  | .burn => "burn"
  | .wipe => "wipe"
  | .freeze => "freeze"
  | .unfreeze => "unfreeze"
  | .pause => "pause"
  | .unpause => "unpause"
  | .delete => "delete"
  | .rescue => "rescue"
  | .rescueHbar => "rescue_hbar"
  | .grantKyc => "grant_kyc"
  | .revokeKyc => "revoke_kyc"
  | .grantRole => "grant_role"
  | .revokeRole => "revoke_role"
  | .updateCustomFees => "update_custom_fees"
  | .createHold => "create_hold"
  | .createHoldByController => "create_hold_by_controller"
  | .executeHold => "execute_hold"
  | .releaseHold => "release_hold"
  | .reclaimHold => "reclaim_hold"
  | .grantSupplierRole => "grant_supplier_role"
  | .grantUnlimitedSupplierRole => "grant_unlimited_supplier_role"
  | .revokeSupplierRole => "revoke_supplier_role"
  | .increaseSupplierAllowance => "increase_supplier_allowance"
  | .decreaseSupplierAllowance => "decrease_supplier_allowance"
  | .resetSupplierAllowance => "reset_supplier_allowance"
  | .updateReserveAddress => "update_reserve_address"
  | .updateReserveAmount => "update_reserve_amount"
  | .transfers => "transfers"

def index (operation : Operation) : Nat := all.idxOf operation

theorem mem_all (operation : Operation) : operation ∈ all := by
  cases operation <;> decide

end Operation

end TokenDesk
