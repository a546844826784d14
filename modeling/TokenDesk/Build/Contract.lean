import TokenDesk.Abi.Method
import TokenDesk.Build.Error
import TokenDesk.Settlement
import TokenDesk.Transaction

/-!
Calls of the token manager contract and of the reserve contract. Each operation that a contract
carries out has an entry point, and its request gives the arguments.
-/

namespace TokenDesk.Contract

open Abi (Ty Value Method)

/-- The parameters of a hold: units, expiration second, escrow, destination and data. -/
def holdType : Ty := .tuple [.int 64, .uint 256, .address, .address, .bytes]

/-- The parameters that name a hold: its holder and its number. -/
def holdRefType : Ty := .tuple [.address, .uint 256]

/-- The function that carries out an operation, and the gas it is given. -/
structure EntryPoint where
  method : Method
  gas : Nat

/-- The entry point of an operation, if a contract carries it out. -/
def entryPoint? : Operation → Option EntryPoint
  | .cashIn => some ⟨⟨"mint", [.address, .int 64]⟩, 120000⟩
  | .burn => some ⟨⟨"burn", [.int 64]⟩, 70000⟩
  | .wipe => some ⟨⟨"wipe", [.address, .int 64]⟩, 70000⟩
  | .freeze => some ⟨⟨"freeze", [.address]⟩, 65000⟩
  | .unfreeze => some ⟨⟨"unfreeze", [.address]⟩, 65000⟩
  | .pause => some ⟨⟨"pause", []⟩, 65000⟩
  | .unpause => some ⟨⟨"unpause", []⟩, 65000⟩
  | .delete => some ⟨⟨"deleteToken", []⟩, 65000⟩
  | .rescue => some ⟨⟨"rescue", [.int 64]⟩, 70000⟩
  | .rescueHbar => some ⟨⟨"rescueHBAR", [.uint 256]⟩, 70000⟩
  | .grantKyc => some ⟨⟨"grantKyc", [.address]⟩, 65000⟩
  | .revokeKyc => some ⟨⟨"revokeKyc", [.address]⟩, 65000⟩
  | .grantRole => some ⟨⟨"grantRole", [.fixedBytes 32, .address]⟩, 150000⟩
  | .revokeRole => some ⟨⟨"revokeRole", [.fixedBytes 32, .address]⟩, 85000⟩
  | .updateCustomFees => none
  | .createHold => some ⟨⟨"createHold", [holdType]⟩, 250000⟩
  | .createHoldByController =>
    some ⟨⟨"createHoldByController", [.address, holdType, .bytes]⟩, 250000⟩
  | .executeHold => some ⟨⟨"executeHold", [holdRefType, .address, .int 64]⟩, 200000⟩
  | .releaseHold => some ⟨⟨"releaseHold", [holdRefType, .int 64]⟩, 200000⟩
  | .reclaimHold => some ⟨⟨"reclaimHold", [holdRefType]⟩, 200000⟩
  | .grantSupplierRole => some ⟨⟨"grantSupplierRole", [.address, .uint 256]⟩, 150000⟩
  | .grantUnlimitedSupplierRole => some ⟨⟨"grantUnlimitedSupplierRole", [.address]⟩, 150000⟩
  | .revokeSupplierRole => some ⟨⟨"revokeSupplierRole", [.address]⟩, 85000⟩
  | .increaseSupplierAllowance =>
    some ⟨⟨"increaseSupplierAllowance", [.address, .uint 256]⟩, 130000⟩
  | .decreaseSupplierAllowance =>
    some ⟨⟨"decreaseSupplierAllowance", [.address, .uint 256]⟩, 130000⟩
  | .resetSupplierAllowance => some ⟨⟨"resetSupplierAllowance", [.address]⟩, 130000⟩
  | .updateReserveAddress => some ⟨⟨"updateReserveAddress", [.address]⟩, 65000⟩
  | .updateReserveAmount => some ⟨⟨"setAmount", [.int 256]⟩, 65000⟩
  | .transfers => none

def gas? (operation : Operation) : Option Nat := (entryPoint? operation).map EntryPoint.gas

def supports (operation : Operation) : Bool := (entryPoint? operation).isSome

def account (id : EntityId) : Value := .address id.address

def units (n : Int64) : Value := .int 64 n.toInt

def unitsWord (n : Int64) : Value := .uint 256 n.toInt.natAbs

def holdArgument (token : Token) (h : Hold) : Except BuildError Value :=
  if h.expiration.seconds < 0 then .error (.refused (.beforeEpoch h.expiration))
  else do
    let amount ← token.units h.amount
    return .tuple [units amount, .uint 256 h.expiration.seconds.toNat, account h.escrow,
      .address (h.destination.elim (List.replicate 20 0) EntityId.address), .bytes h.data]

def holdRefArgument (h : HoldRef) : Value :=
  .tuple [account h.tokenHolder, .uint 256 h.holdId.toNat]

/-- The arguments that a request gives to its function. A reserve amount has the reserve's own
decimals. -/
def arguments (token : Token) : Request → Except BuildError (List Value)
  | .cashIn target amount | .wipe target amount => do
    return [account target, units (← token.units amount)]
  | .burn amount | .rescue amount => do return [units (← token.units amount)]
  | .freeze target | .unfreeze target | .grantKyc target | .revokeKyc target
  | .grantUnlimitedSupplierRole target | .revokeSupplierRole target
  | .resetSupplierAllowance target => .ok [account target]
  | .pause | .unpause | .delete => .ok []
  | .rescueHbar amount =>
    if amount.decimals = currencyDecimals then do return [unitsWord (← amount.checkedUnits)]
    else .error (.refused (.notCurrencyDecimals amount.decimals))
  | .grantRole target role | .revokeRole target role =>
    .ok [.fixedBytes role.id, account target]
  | .createHold hold => do return [← holdArgument token hold]
  | .createHoldByController source hold => do
    return [account source, ← holdArgument token hold, .bytes []]
  | .executeHold hold recipient amount => do
    return [holdRefArgument hold, account recipient, units (← token.units amount)]
  | .releaseHold hold amount => do return [holdRefArgument hold, units (← token.units amount)]
  | .reclaimHold hold => .ok [holdRefArgument hold]
  | .grantSupplierRole target amount | .increaseSupplierAllowance target amount
  | .decreaseSupplierAllowance target amount => do
    return [account target, unitsWord (← token.units amount)]
  | .updateReserveAddress reserve => .ok [account reserve]
  | .updateReserveAmount _ amount => do return [.int 256 (← amount.checkedUnits).toInt]
  | .updateCustomFees _ => .error (.noBuilder .updateCustomFees .contract)
  | .transfers _ _ => .error (.noBuilder .transfers .contract)

/-- The contract that a request goes to: the reserve for its amount, else the token manager. -/
def destination (token : Token) : Request → Except BuildError EntityId
  | .updateReserveAmount reserve _ => .ok reserve
  | _ =>
    match token.manager with
    | some manager => .ok manager
    | none => .error (.missingContract token.id)

def build (token : Token) (request : Request) : Except BuildError ContractCall :=
  match entryPoint? request.operation with
  | none => .error (.noBuilder request.operation .contract)
  | some entry => do
    let contract ← destination token request
    let values ← arguments token request
    return ⟨contract, entry.method.name, entry.gas, entry.method.calldata values⟩

def returnSignatures : List String := [
  "function createHold((int64,uint256,address,address,bytes) hold) " ++
    "returns (bool success, uint256 holdId)",
  "function createHoldByController(address from, (int64,uint256,address,address,bytes) hold, " ++
    "bytes operatorData) returns (bool success, uint256 holdId)"]

def returnFormat (function : String) : Except BuildError ReturnFormat :=
  match Abi.Interface.read returnSignatures with
  | some interface => .ok ⟨function, interface⟩
  | none => .error (.interface "unreadable signature")

end TokenDesk.Contract
