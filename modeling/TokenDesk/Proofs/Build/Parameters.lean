import TokenDesk.Build.Contract
import TokenDesk.Proofs.Abi.RoundTrip
import TokenDesk.Proofs.Addresses
import TokenDesk.Proofs.Amount
import TokenDesk.Proofs.Except

/-!
The parameters that a request stands for when a contract carries it out.

`Request.parameters` says so on its own, without the checks of the builder: accounts by their
addresses, amounts by their exact base units, holds and references to holds as tuples. What the
builder passes on is these parameters (`Contract.arguments_eq`), and they have the declared types
(`Contract.arguments_fit`).
-/

namespace TokenDesk

open Abi (Ty Value AllFit)

/-! ## What a request stands for -/

/-- Units, whole seconds until expiration, escrow, destination or else the zero address, data. -/
def Hold.parameter (h : Hold) : Value :=
  .tuple [.int 64 h.amount.baseUnits, .uint 256 h.expiration.seconds.toNat,
    .address h.escrow.address,
    .address (h.destination.elim (List.replicate 20 0) EntityId.address), .bytes h.data]

/-- The holder's address and the number of the hold. -/
def HoldRef.parameter (h : HoldRef) : Value :=
  .tuple [.address h.tokenHolder.address, .uint 256 h.holdId.toNat]

namespace Request

/-- The parameters of a request in the order of the contract's function. -/
def parameters : Request → List Value
  | .cashIn target amount | .wipe target amount =>
    [.address target.address, .int 64 amount.baseUnits]
  | .burn amount | .rescue amount => [.int 64 amount.baseUnits]
  | .freeze target | .unfreeze target | .grantKyc target | .revokeKyc target
  | .grantUnlimitedSupplierRole target | .revokeSupplierRole target
  | .resetSupplierAllowance target => [.address target.address]
  | .pause | .unpause | .delete => []
  | .rescueHbar amount => [.uint 256 amount.baseUnits]
  | .grantRole target role | .revokeRole target role =>
    [.fixedBytes role.id, .address target.address]
  | .createHold hold => [hold.parameter]
  | .createHoldByController source hold => [.address source.address, hold.parameter, .bytes []]
  | .executeHold hold recipient amount =>
    [hold.parameter, .address recipient.address, .int 64 amount.baseUnits]
  | .releaseHold hold amount => [hold.parameter, .int 64 amount.baseUnits]
  | .reclaimHold hold => [hold.parameter]
  | .grantSupplierRole target amount | .increaseSupplierAllowance target amount
  | .decreaseSupplierAllowance target amount =>
    [.address target.address, .uint 256 amount.baseUnits]
  | .updateReserveAddress reserve => [.address reserve.address]
  | .updateReserveAmount _ amount => [.int 256 amount.baseUnits]
  | .updateCustomFees _ | .transfers _ _ => []

/-- The hold that a request creates. -/
def hold? : Request → Option Hold
  | .createHold hold | .createHoldByController _ hold => some hold
  | _ => none

end Request

namespace Contract

variable {token : Token} {request : Request} {values : List Value} {entry : EntryPoint}

/-! ## Single arguments -/

theorem toInt_of_tokenUnits {a : Amount} {n : Int64} (counted : token.units a = .ok n) :
    n.toInt = a.baseUnits := by
  unfold Token.units at counted
  split at counted
  · exact Amount.toInt_of_units (of_mapError_ok counted)
  · cases counted

theorem units_eq {a : Amount} {n : Int64} (counted : token.units a = .ok n) :
    units n = .int 64 a.baseUnits := by
  rw [units, toInt_of_tokenUnits counted]

theorem unitsWord_eq {a : Amount} {n : Int64} (exact_units : n.toInt = a.baseUnits) :
    unitsWord n = .uint 256 a.baseUnits := by
  rw [unitsWord, exact_units, Int.natAbs_natCast]

theorem fits_account (id : EntityId) : (account id).Fits .address := id.length_address

/-- A signed 64-bit number has a place in a word of any declared width. -/
theorem fits_int (bits : Nat) (n : Int64) : (Value.int bits n.toInt).Fits (.int bits) := by
  have low := n.le_toInt
  have high := n.toInt_lt
  have wide : (2 : Int) ^ 64 ≤ (Bytes.span 32 : Nat) := by decide +kernel
  exact ⟨rfl, by omega, by omega⟩

theorem fits_uint {n : Nat} (small : n < 2 ^ 64) : (Value.uint 256 n).Fits (.uint 256) :=
  ⟨rfl, Nat.lt_of_lt_of_le small (by decide +kernel)⟩

theorem fits_unitsWord (n : Int64) : (unitsWord n).Fits (.uint 256) := by
  have low := n.le_toInt
  have high := n.toInt_lt
  exact fits_uint (by omega)

theorem fits_holdRef (h : HoldRef) : (holdRefArgument h).Fits holdRefType :=
  ⟨fits_account h.tokenHolder, fits_uint h.holdId.toNat_lt, trivial⟩

theorem length_keccak (message : Bytes) : (Keccak.hash message).length = 32 := by
  simp [Keccak.hash, Keccak.bytesOfWord, List.length_flatMap, List.map_const']

theorem fits_role (role : Role) : (Value.fixedBytes role.id).Fits (.fixedBytes 32) := by
  refine ⟨?_, by decide, by decide⟩
  cases role with
  | defaultAdmin => rfl
  | _ => exact length_keccak _

/-- A hold that the builder accepts expires after 1970, and this is its parameter. -/
theorem of_holdArgument {h : Hold} {v : Value} (built : holdArgument token h = .ok v) :
    0 ≤ h.expiration.seconds ∧ v = h.parameter ∧ v.Fits holdType := by
  unfold holdArgument at built
  split at built
  · cases built
  · rename_i started
    obtain ⟨n, counted, rest⟩ := of_bind_ok built
    cases rest
    -- The calendar ends long before the seconds leave 64 bits.
    obtain ⟨-, late, -⟩ := Calendar.isInstant_iff.mp h.expiration.valid
    have last : Calendar.lastSecond < 2 ^ 64 := by decide +kernel
    have destination : (Value.address
        (h.destination.elim (List.replicate 20 0) EntityId.address)).Fits .address := by
      cases h.destination with
      | none => rfl
      | some id => exact fits_account id
    refine ⟨by omega, ?_, ?_⟩
    · rw [units_eq counted]
      rfl
    · exact ⟨fits_int 64 n, fits_uint (by omega), fits_account h.escrow, destination, trivial,
        trivial⟩

/-! ## All arguments -/

/-- The builder passes on what the request stands for, in the declared types. -/
theorem of_arguments (argued : arguments token request = .ok values)
    (carried : entryPoint? request.operation = some entry) :
    values = request.parameters ∧ AllFit values entry.method.parameters := by
  cases request with
  | cashIn target amount | wipe target amount =>
    cases carried
    obtain ⟨n, counted, rest⟩ := of_bind_ok argued
    cases rest
    exact ⟨by rw [units_eq counted]; rfl, fits_account target, fits_int 64 n, trivial⟩
  | burn amount | rescue amount =>
    cases carried
    obtain ⟨n, counted, rest⟩ := of_bind_ok argued
    cases rest
    exact ⟨by rw [units_eq counted]; rfl, fits_int 64 n, trivial⟩
  | freeze target | unfreeze target | grantKyc target | revokeKyc target
  | grantUnlimitedSupplierRole target | revokeSupplierRole target
  | resetSupplierAllowance target =>
    cases carried
    cases argued
    exact ⟨rfl, fits_account target, trivial⟩
  | pause | unpause | delete =>
    cases carried
    cases argued
    exact ⟨rfl, trivial⟩
  | rescueHbar amount =>
    cases carried
    dsimp only [arguments] at argued
    split at argued
    · obtain ⟨n, counted, rest⟩ := of_bind_ok argued
      cases rest
      have same := Amount.toInt_of_units (of_mapError_ok counted)
      exact ⟨by rw [unitsWord_eq same]; rfl, fits_unitsWord n, trivial⟩
    · cases argued
  | grantRole target role | revokeRole target role =>
    cases carried
    cases argued
    exact ⟨rfl, fits_role role, fits_account target, trivial⟩
  | createHold hold =>
    cases carried
    obtain ⟨v, built, rest⟩ := of_bind_ok argued
    cases rest
    obtain ⟨-, rfl, fits⟩ := of_holdArgument built
    exact ⟨rfl, fits, trivial⟩
  | createHoldByController source hold =>
    cases carried
    obtain ⟨v, built, rest⟩ := of_bind_ok argued
    cases rest
    obtain ⟨-, rfl, fits⟩ := of_holdArgument built
    exact ⟨rfl, fits_account source, fits, trivial, trivial⟩
  | executeHold hold recipient amount =>
    cases carried
    obtain ⟨n, counted, rest⟩ := of_bind_ok argued
    cases rest
    exact ⟨by rw [units_eq counted]; rfl, fits_holdRef hold, fits_account recipient,
      fits_int 64 n, trivial⟩
  | releaseHold hold amount =>
    cases carried
    obtain ⟨n, counted, rest⟩ := of_bind_ok argued
    cases rest
    exact ⟨by rw [units_eq counted]; rfl, fits_holdRef hold, fits_int 64 n, trivial⟩
  | reclaimHold hold =>
    cases carried
    cases argued
    exact ⟨rfl, fits_holdRef hold, trivial⟩
  | grantSupplierRole target amount | increaseSupplierAllowance target amount
  | decreaseSupplierAllowance target amount =>
    cases carried
    obtain ⟨n, counted, rest⟩ := of_bind_ok argued
    cases rest
    have same := toInt_of_tokenUnits counted
    exact ⟨by rw [unitsWord_eq same]; rfl, fits_account target, fits_unitsWord n, trivial⟩
  | updateReserveAddress reserve =>
    cases carried
    cases argued
    exact ⟨rfl, fits_account reserve, trivial⟩
  | updateReserveAmount reserve amount =>
    cases carried
    obtain ⟨n, counted, rest⟩ := of_bind_ok argued
    cases rest
    have same := Amount.toInt_of_units (of_mapError_ok counted)
    exact ⟨by rw [same]; rfl, fits_int 256 n, trivial⟩
  | updateCustomFees fees => cases carried
  | transfers source credits => cases carried

end Contract

end TokenDesk
