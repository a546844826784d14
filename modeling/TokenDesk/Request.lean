import TokenDesk.Amount
import TokenDesk.Calendar.Instant
import TokenDesk.Capability
import TokenDesk.Role

/-!
What a caller wants done with a token, whatever surface carries it out.
-/

namespace TokenDesk

/-- A fee that a token charges on its transfers. -/
inductive CustomFee
  /-- A fixed amount, in another token if one is named and else in the ledger's currency. -/
  | fixed (amount : Amount) (denominatingToken : Option EntityId) (collector : EntityId)
      (collectorsExempt : Bool)
  /-- A part of what is transferred, within bounds. -/
  | fractional (numerator denominator : Int64) (minimum maximum : Amount) (netOfTransfers : Bool)
      (collector : EntityId) (collectorsExempt : Bool)
  deriving DecidableEq, Repr

def CustomFee.collector : CustomFee → EntityId
  | .fixed _ _ collector _ => collector
  | .fractional _ _ _ _ _ collector _ => collector

/-- An amount set aside from a holder's balance until an instant. -/
structure Hold where
  amount : Amount
  escrow : EntityId
  expiration : Calendar.Instant
  destination : Option EntityId
  data : Bytes
  deriving DecidableEq, Repr

/-- A hold that exists: the holder's account and the number the contract gave it. -/
structure HoldRef where
  tokenHolder : EntityId
  holdId : UInt64
  deriving DecidableEq, Repr

/-- One credit of a batch. -/
structure Transfer where
  recipient : EntityId
  amount : Amount
  deriving DecidableEq, Repr

/-- An operation with its parameters. -/
inductive Request
  | cashIn (target : EntityId) (amount : Amount)
  | burn (amount : Amount)
  | wipe (target : EntityId) (amount : Amount)
  | freeze (target : EntityId)
  | unfreeze (target : EntityId)
  | pause
  | unpause
  | delete
  | rescue (amount : Amount)
  | rescueHbar (amount : Amount)
  | grantKyc (target : EntityId)
  | revokeKyc (target : EntityId)
  | grantRole (target : EntityId) (role : Role)
  | revokeRole (target : EntityId) (role : Role)
  | updateCustomFees (fees : List CustomFee)
  | createHold (hold : Hold)
  | createHoldByController (source : EntityId) (hold : Hold)
  | executeHold (hold : HoldRef) (recipient : EntityId) (amount : Amount)
  | releaseHold (hold : HoldRef) (amount : Amount)
  | reclaimHold (hold : HoldRef)
  | grantSupplierRole (target : EntityId) (allowance : Amount)
  | grantUnlimitedSupplierRole (target : EntityId)
  | revokeSupplierRole (target : EntityId)
  | increaseSupplierAllowance (target : EntityId) (amount : Amount)
  | decreaseSupplierAllowance (target : EntityId) (amount : Amount)
  | resetSupplierAllowance (target : EntityId)
  | updateReserveAddress (reserve : EntityId)
  | updateReserveAmount (reserve : EntityId) (amount : Amount)
  | transfers (source : EntityId) (credits : List Transfer)
  deriving DecidableEq, Repr

def Request.operation : Request → Operation
  | .cashIn .. => .cashIn
  | .burn .. => .burn
  | .wipe .. => .wipe
  | .freeze .. => .freeze
  | .unfreeze .. => .unfreeze
  | .pause => .pause
  | .unpause => .unpause
  | .delete => .delete
  | .rescue .. => .rescue
  | .rescueHbar .. => .rescueHbar
  | .grantKyc .. => .grantKyc
  | .revokeKyc .. => .revokeKyc
  | .grantRole .. => .grantRole
  | .revokeRole .. => .revokeRole
  | .updateCustomFees .. => .updateCustomFees
  | .createHold .. => .createHold
  | .createHoldByController .. => .createHoldByController
  | .executeHold .. => .executeHold
  | .releaseHold .. => .releaseHold
  | .reclaimHold .. => .reclaimHold
  | .grantSupplierRole .. => .grantSupplierRole
  | .grantUnlimitedSupplierRole .. => .grantUnlimitedSupplierRole
  | .revokeSupplierRole .. => .revokeSupplierRole
  | .increaseSupplierAllowance .. => .increaseSupplierAllowance
  | .decreaseSupplierAllowance .. => .decreaseSupplierAllowance
  | .resetSupplierAllowance .. => .resetSupplierAllowance
  | .updateReserveAddress .. => .updateReserveAddress
  | .updateReserveAmount .. => .updateReserveAmount
  | .transfers .. => .transfers

end TokenDesk
