import Mathlib.Logic.Function.Defs
import TokenDesk.Proofs.Addresses
import TokenDesk.Proofs.Build.Calldata

/-!
What the call of a contract tells about its request.

`Request.terms` is what counts of a request once it is built: the operation, the accounts by their
ids, the role by its own id, the reference to a hold, the base units of the amount, and of a new
hold the second of its expiration, its destination and its data. Two requests that are built for
one token have the same call exactly if they have the same terms (`Contract.build_eq_iff_terms`).
The zero address stands for a missing destination, so the account `0.0.0` and no destination at all
are one and the same here, and nothing else is.
-/

namespace TokenDesk

open Abi (Value encodeAll lengthPrefixed)

/-! ## Bytes that determine what they were written from -/

namespace Abi

theorem word_inj {m n : Nat} (fits : m < Bytes.span 32) (fits' : n < Bytes.span 32)
    (same : word m = word n) : m = n := Bytes.ofNat_inj fits fits' same

theorem padLeft_inj {a b : Bytes} (size : a.length = 20) (size' : b.length = 20)
    (same : Bytes.padLeft 32 a = Bytes.padLeft 32 b) : a = b := by
  rw [Bytes.padLeft, Bytes.padLeft, size, size'] at same
  exact List.append_cancel_left same

/-- Byte strings of any length: the word of the length wraps around far behind what padding can
hide. -/
theorem lengthPrefixed_injective : Function.Injective lengthPrefixed := by
  intro a b same
  obtain ⟨size, padded⟩ := List.append_inj same (by simp)
  have lengths := congrArg List.length padded
  have below := length_padToMultiple_le a
  have below' := length_padToMultiple_le b
  simp only [Bytes.padToMultiple, List.length_append, List.length_replicate] at lengths
  have wrapped := congrArg Bytes.toNat size
  rw [word, word, Bytes.toNat_ofNat, Bytes.toNat_ofNat] at wrapped
  have span : Bytes.span 32 = 2 ^ 256 := by decide +kernel
  rw [span] at wrapped
  have length : a.length = b.length := by omega
  exact (List.append_inj padded length).1

end Abi

/-! ## Parameters from their bytes -/

namespace Hold

/-- The address that a hold names as its destination. -/
def target (h : Hold) : Bytes := h.destination.elim (List.replicate 20 0) EntityId.address

theorem length_target (h : Hold) : h.target.length = 20 := by
  unfold target
  cases h.destination with
  | none => rfl
  | some id => exact id.length_address

theorem parameter_eq (h : Hold) :
    h.parameter = .tuple [.int 64 h.amount.baseUnits, .uint 256 h.expiration.seconds.toNat,
      .address h.escrow.address, .address h.target, .bytes h.data] := rfl

/-- Five words and, where the last of them leads to, the data. -/
theorem encode_parameter (h : Hold) :
    h.parameter.encode = Abi.intWord h.amount.baseUnits ++
      (Abi.word h.expiration.seconds.toNat ++ (Bytes.padLeft 32 h.escrow.address ++
        (Bytes.padLeft 32 h.target ++ (Abi.word 160 ++ lengthPrefixed h.data)))) := by
  have escrow : (Bytes.padLeft 32 h.escrow.address).length = 32 :=
    Bytes.length_padLeft (by rw [EntityId.length_address]; decide)
  have target : (Bytes.padLeft 32 h.target).length = 32 :=
    Bytes.length_padLeft (by rw [length_target]; decide)
  have places : Abi.headLength (Abi.valueParts [.int 64 h.amount.baseUnits,
      .uint 256 h.expiration.seconds.toNat, .address h.escrow.address, .address h.target,
      .bytes h.data]) = 160 := by
    simp [Abi.valueParts, Abi.headLength, Abi.Part.headLength, Value.isDynamic, Value.encode,
      Abi.intWord, escrow, target]
  rw [parameter_eq, Value.encode, Abi.assemble, places]
  simp [Abi.valueParts, Abi.heads, Abi.tails, Value.isDynamic, Value.encode, List.append_assoc]

/-- A hold's parameter is determined by its bytes, however long the data. -/
theorem parameter_of_encode {a b : Hold} (fits : a.parameter.Fits Contract.holdType)
    (fits' : b.parameter.Fits Contract.holdType)
    (same : a.parameter.encode = b.parameter.encode) : a.parameter = b.parameter := by
  obtain ⟨⟨-, low, high⟩, ⟨-, small⟩, -⟩ := fits
  obtain ⟨⟨-, low', high'⟩, ⟨-, small'⟩, -⟩ := fits'
  rw [encode_parameter, encode_parameter] at same
  obtain ⟨units, same⟩ := List.append_inj same (by simp [Abi.intWord])
  obtain ⟨seconds, same⟩ := List.append_inj same (by simp)
  obtain ⟨escrows, same⟩ := List.append_inj same (by simp [Bytes.padLeft, EntityId.length_address])
  obtain ⟨targets, same⟩ := List.append_inj same (by simp [Bytes.padLeft, length_target])
  have data := Abi.lengthPrefixed_injective (List.append_cancel_left same)
  have amounts : (a.amount.baseUnits : Int) = b.amount.baseUnits := by
    rw [← Abi.signedWord_intWord low high, units, Abi.signedWord_intWord low' high']
  rw [parameter_eq, parameter_eq, amounts, Abi.word_inj small small' seconds,
    Abi.padLeft_inj a.escrow.length_address b.escrow.length_address escrows,
    Abi.padLeft_inj a.length_target b.length_target targets, data]

end Hold

namespace Contract

open Abi (AllFit)

variable {token : Token} {a b : Request} {entry : EntryPoint}

theorem encodeAll_hold (h : Hold) :
    encodeAll [h.parameter] = Abi.word 32 ++ h.parameter.encode := by
  have kind : h.parameter.isDynamic = true := rfl
  simp [encodeAll, Abi.assemble, Abi.valueParts, Abi.heads, Abi.tails, Abi.headLength,
    Abi.Part.headLength, kind]

theorem encodeAll_heldHold (source : EntityId) (h : Hold) :
    encodeAll [.address source.address, h.parameter, .bytes []] =
      Bytes.padLeft 32 source.address ++ (Abi.word 96 ++
        (Abi.word (96 + h.parameter.encode.length) ++
          (h.parameter.encode ++ lengthPrefixed []))) := by
  have kind : h.parameter.isDynamic = true := rfl
  have holder : (Bytes.padLeft 32 source.address).length = 32 :=
    Bytes.length_padLeft (by rw [EntityId.length_address]; decide)
  simp [encodeAll, Abi.assemble, Abi.valueParts, Abi.heads, Abi.tails, Abi.headLength,
    Abi.Part.headLength, Value.isDynamic, Value.encode, kind, holder]

/-- Equal words of equal operations stand for equal parameters. -/
theorem parameters_of_encodeAll (carried : entryPoint? a.operation = some entry)
    (same : a.operation = b.operation) (fit : AllFit a.parameters entry.method.parameters)
    (fit' : AllFit b.parameters entry.method.parameters)
    (encoded : encodeAll a.parameters = encodeAll b.parameters) : a.parameters = b.parameters := by
  cases dynamic : Abi.anyDynamic entry.method.parameters with
  | false =>
    have decoded := Abi.decodeAll_encodeAll fit (by simp [fit.anyDynamic_eq, dynamic])
    have decoded' := Abi.decodeAll_encodeAll fit' (by simp [fit'.anyDynamic_eq, dynamic])
    rw [encoded, decoded'] at decoded
    exact (Except.ok.inj decoded).symm
  | true =>
    -- Only the parameters of a new hold have no fixed size.
    cases a with
    | createHold h =>
      cases b <;> cases same
      rename_i h'
      cases carried
      change encodeAll [h.parameter] = encodeAll [h'.parameter] at encoded
      rw [encodeAll_hold, encodeAll_hold] at encoded
      have held := Hold.parameter_of_encode fit.1 fit'.1 (List.append_cancel_left encoded)
      rw [Request.parameters, Request.parameters, held]
    | createHoldByController source h =>
      cases b <;> cases same
      rename_i source' h'
      cases carried
      change encodeAll [.address source.address, h.parameter, .bytes []] =
        encodeAll [.address source'.address, h'.parameter, .bytes []] at encoded
      rw [encodeAll_heldHold, encodeAll_heldHold] at encoded
      obtain ⟨sources, encoded⟩ := List.append_inj encoded (by
        simp [Bytes.padLeft, EntityId.length_address])
      have behind := (List.append_inj (List.append_cancel_left encoded) (by simp)).2
      have held := Hold.parameter_of_encode fit.2.1 fit'.2.1 (List.append_cancel_right behind)
      rw [Request.parameters, Request.parameters, held, Abi.padLeft_inj source.length_address
        source'.length_address sources]
    | _ => cases carried <;> cases dynamic

end Contract

/-! ## Terms -/

/-- The terms of a new hold. A missing destination counts as the account whose address is zero. -/
structure HoldTerms where
  expiration : Int
  destination : EntityId
  data : Bytes

/-- What counts of a request that a contract carries out. -/
structure Terms where
  operation : Operation
  /-- The accounts and contracts that it names, in order: source, target, recipient, escrow or
  reserve. -/
  accounts : List EntityId
  /-- The role by the id that the contract knows. -/
  role : Option Bytes
  /-- The hold that it refers to. -/
  holdRef : Option HoldRef
  /-- The exact base units of its amount. -/
  units : List Nat
  /-- The hold that it creates. -/
  hold : Option HoldTerms

/-- The account whose address is zero. -/
def EntityId.zero : EntityId := ⟨0, 0, 0⟩

def Hold.terms (h : Hold) : HoldTerms :=
  ⟨h.expiration.seconds, h.destination.getD .zero, h.data⟩

namespace Request

def accounts : Request → List EntityId
  | .cashIn target _ | .wipe target _ | .freeze target | .unfreeze target | .grantKyc target
  | .revokeKyc target | .grantRole target _ | .revokeRole target _ | .grantSupplierRole target _
  | .grantUnlimitedSupplierRole target | .revokeSupplierRole target
  | .increaseSupplierAllowance target _ | .decreaseSupplierAllowance target _
  | .resetSupplierAllowance target => [target]
  | .createHold hold => [hold.escrow]
  | .createHoldByController source hold => [source, hold.escrow]
  | .executeHold _ recipient _ => [recipient]
  | .updateReserveAddress reserve | .updateReserveAmount reserve _ => [reserve]
  | _ => []

def role? : Request → Option Role
  | .grantRole _ role | .revokeRole _ role => some role
  | _ => none

def holdRef? : Request → Option HoldRef
  | .executeHold hold _ _ | .releaseHold hold _ | .reclaimHold hold => some hold
  | _ => none

/-- The reserve contract that is called itself. -/
def reserve? : Request → Option EntityId
  | .updateReserveAmount reserve _ => some reserve
  | _ => none

def terms (request : Request) : Terms where
  operation := request.operation
  accounts := request.accounts
  role := request.role?.map Role.id
  holdRef := request.holdRef?
  units := request.amounts.map Amount.baseUnits
  hold := request.hold?.map Hold.terms

end Request

theorem Hold.target_eq (h : Hold) : h.target = (h.destination.getD .zero).address := by
  unfold target
  cases h.destination with
  | none => decide
  | some id => rfl

theorem Hold.parameter_inj {a b : Hold} (started : 0 ≤ a.expiration.seconds)
    (started' : 0 ≤ b.expiration.seconds) :
    a.parameter = b.parameter ↔ a.amount.baseUnits = b.amount.baseUnits ∧ a.escrow = b.escrow ∧
      a.terms = b.terms := by
  have seconds : a.expiration.seconds.toNat = b.expiration.seconds.toNat ↔
      a.expiration.seconds = b.expiration.seconds := by omega
  simp only [parameter_eq, target_eq, terms, Value.tuple.injEq, List.cons.injEq, Value.int.injEq,
    Value.uint.injEq, Value.address.injEq, Value.bytes.injEq, HoldTerms.mk.injEq,
    EntityId.address_injective.eq_iff, Int.natCast_inj, seconds, true_and, and_true]
  tauto

theorem HoldRef.parameter_inj {a b : HoldRef} : a.parameter = b.parameter ↔ a = b := by
  cases a
  cases b
  simp [parameter, EntityId.address_injective.eq_iff, UInt64.toNat_inj]

/-- Requests of one operation have the same parameters, and the same reserve if they call one,
exactly if they have the same terms. -/
theorem Request.parameters_inj {a b : Request} (same : a.operation = b.operation)
    (started : ∀ hold, a.hold? = some hold → 0 ≤ hold.expiration.seconds)
    (started' : ∀ hold, b.hold? = some hold → 0 ≤ hold.expiration.seconds) :
    a.parameters = b.parameters ∧ a.reserve? = b.reserve? ↔ a.terms = b.terms := by
  cases a <;> cases b <;> cases same
  case createHold.createHold.refl h h' =>
    have held := Hold.parameter_inj (started h rfl) (started' h' rfl)
    simp [parameters, reserve?, terms, operation, accounts, role?, holdRef?, amounts, hold?, held]
    tauto
  case createHoldByController.createHoldByController.refl source h source' h' =>
    have held := Hold.parameter_inj (started h rfl) (started' h' rfl)
    simp [parameters, reserve?, terms, operation, accounts, role?, holdRef?, amounts, hold?, held,
      EntityId.address_injective.eq_iff]
    tauto
  all_goals
    simp [parameters, reserve?, terms, operation, accounts, role?, holdRef?, amounts, hold?,
      HoldRef.parameter_inj, EntityId.address_injective.eq_iff, and_comm, and_left_comm]

/-! ## Calls -/

namespace Contract

variable {token : Token} {a b : Request} {x y : ContractCall}

/-- The operation that a function of the contracts is for. -/
def operationOf? (function : String) : Option Operation :=
  Operation.all.find? fun o => (entryPoint? o).any fun entry => entry.method.name = function

theorem operationOf?_name {operation : Operation} {entry : EntryPoint}
    (carried : entryPoint? operation = some entry) :
    operationOf? entry.method.name = some operation := by
  cases operation <;> cases carried <;> decide

/-- A call that was built goes to the contract of its request and passes on its parameters. -/
theorem of_build (built : build token a = .ok x) :
    ∃ entry contract, entryPoint? a.operation = some entry ∧ destination token a = .ok contract ∧
      arguments token a = .ok a.parameters ∧ Abi.AllFit a.parameters entry.method.parameters ∧
      x = ⟨contract, entry.method.name, entry.gas, entry.method.calldata a.parameters⟩ := by
  unfold build at built
  split at built
  · cases built
  · rename_i entry carried
    obtain ⟨contract, found, rest⟩ := of_bind_ok built
    obtain ⟨values, argued, rest⟩ := of_bind_ok rest
    obtain ⟨rfl, fit⟩ := of_arguments argued carried
    cases rest
    exact ⟨entry, contract, carried, found, argued, fit, rfl⟩

theorem destination_of_reserve {reserve : EntityId} (named : a.reserve? = some reserve) :
    destination token a = .ok reserve := by
  cases a <;> cases named
  rfl

theorem destination_of_manager (unnamed : a.reserve? = none) :
    destination token a = destination token .pause := by
  cases a with
  | updateReserveAmount reserve amount => cases unnamed
  | _ => rfl

/-- Built for one token, calls of one operation go to the same contract exactly if they name the
same reserve or none. -/
theorem destination_inj {c d : EntityId} (same : a.operation = b.operation)
    (found : destination token a = .ok c) (found' : destination token b = .ok d) :
    c = d ↔ a.reserve? = b.reserve? := by
  have both : a.reserve?.isSome = b.reserve?.isSome := by
    cases a <;> cases b <;> cases same <;> rfl
  cases named : a.reserve? with
  | none =>
    rw [named] at both
    have unnamed : b.reserve? = none := by simpa using both.symm
    rw [destination_of_manager named] at found
    rw [destination_of_manager unnamed, found] at found'
    rw [unnamed]
    exact ⟨fun _ => rfl, fun _ => Except.ok.inj found'⟩
  | some reserve =>
    rw [named] at both
    obtain ⟨reserve', named'⟩ := Option.isSome_iff_exists.mp both.symm
    rw [destination_of_reserve named] at found
    rw [destination_of_reserve named'] at found'
    cases found
    cases found'
    rw [named', Option.some.injEq]

/-- The decimals that an amount has to have. -/
def decimalsFor (token : Token) : Operation → UInt8
  | .rescueHbar => currencyDecimals
  | _ => token.decimals

theorem decimals_of_tokenUnits {amount : Amount} {n : Int64}
    (counted : token.units amount = .ok n) : amount.decimals = token.decimals := by
  unfold Token.units at counted
  split at counted
  · assumption
  · cases counted

/-- Only a reserve amount has a scale of its own. -/
theorem decimals_of_arguments {values : List Value} (argued : arguments token a = .ok values)
    (unnamed : a.reserve? = none) :
    ∀ amount ∈ a.amounts, amount.decimals = decimalsFor token a.operation := by
  intro amount member
  cases a with
  | cashIn | burn | wipe | rescue | executeHold | releaseHold | grantSupplierRole
  | increaseSupplierAllowance | decreaseSupplierAllowance =>
    cases List.mem_singleton.mp member
    obtain ⟨n, counted, -⟩ := of_bind_ok argued
    exact decimals_of_tokenUnits counted
  | rescueHbar =>
    cases List.mem_singleton.mp member
    dsimp only [arguments] at argued
    split at argued
    · assumption
    · cases argued
  | createHold hold | createHoldByController source hold =>
    cases List.mem_singleton.mp member
    obtain ⟨v, built, -⟩ := of_bind_ok argued
    unfold holdArgument at built
    split at built
    · cases built
    · obtain ⟨n, counted, -⟩ := of_bind_ok built
      exact decimals_of_tokenUnits counted
  | updateReserveAmount => cases unnamed
  | _ => cases member

theorem operation_of_call (first : build token a = .ok x) (second : build token b = .ok x) :
    a.operation = b.operation := by
  obtain ⟨entry, c, carried, -, -, -, rfl⟩ := of_build first
  obtain ⟨entry', d, carried', -, -, -, equal⟩ := of_build second
  have named := operationOf?_name carried
  have function : entry.method.name = entry'.method.name := congrArg ContractCall.function equal
  rw [function, operationOf?_name carried'] at named
  exact (Option.some.inj named).symm

theorem terms_of_call (first : build token a = .ok x) (second : build token b = .ok x) :
    a.terms = b.terms := by
  have same := operation_of_call first second
  obtain ⟨entry, c, carried, found, argued, fit, rfl⟩ := of_build first
  obtain ⟨entry', d, carried', found', argued', fit', equal⟩ := of_build second
  cases carried.symm.trans (same ▸ carried')
  have contracts : c = d := congrArg ContractCall.contract equal
  have calldata : entry.method.calldata a.parameters = entry.method.calldata b.parameters :=
    congrArg ContractCall.calldata equal
  have parameters :=
    parameters_of_encodeAll carried same fit fit' (List.append_cancel_left calldata)
  exact (Request.parameters_inj same (fun _ => expiration_of_arguments argued)
    (fun _ => expiration_of_arguments argued')).mp
    ⟨parameters, (destination_inj same found found').mp contracts⟩

theorem call_of_terms (first : build token a = .ok x) (second : build token b = .ok y)
    (agreed : a.terms = b.terms) : x = y := by
  have same : a.operation = b.operation := congrArg Terms.operation agreed
  obtain ⟨entry, c, carried, found, argued, -, rfl⟩ := of_build first
  obtain ⟨entry', d, carried', found', argued', -, rfl⟩ := of_build second
  cases carried.symm.trans (same ▸ carried')
  obtain ⟨parameters, reserve⟩ := (Request.parameters_inj same
    (fun _ => expiration_of_arguments argued) (fun _ => expiration_of_arguments argued')).mpr agreed
  rw [parameters, (destination_inj same found found').mpr reserve]

theorem role_of_terms (distinct : Function.Injective Role.id) (agreed : a.terms = b.terms) :
    a.role? = b.role? :=
  Option.map_injective distinct (congrArg Terms.role agreed)

theorem decimals_of_terms (first : build token a = .ok x) (second : build token b = .ok y)
    (agreed : a.terms = b.terms) (scaled : a.operation ≠ .updateReserveAmount) :
    a.amounts.map Amount.decimals = b.amounts.map Amount.decimals := by
  have same : a.operation = b.operation := congrArg Terms.operation agreed
  have units : a.amounts.map Amount.baseUnits = b.amounts.map Amount.baseUnits :=
    congrArg Terms.units agreed
  have count : a.amounts.length = b.amounts.length := by simpa using congrArg List.length units
  obtain ⟨-, -, -, -, argued, -⟩ := of_build first
  obtain ⟨-, -, -, -, argued', -⟩ := of_build second
  have unnamed : ∀ r : Request, r.operation ≠ .updateReserveAmount → r.reserve? = none := by
    intro r other
    cases r <;> first | rfl | exact (other rfl).elim
  have decimals := decimals_of_arguments argued (unnamed a scaled)
  have decimals' := decimals_of_arguments argued' (unnamed b (same ▸ scaled))
  rw [List.map_congr_left decimals, List.map_congr_left decimals', List.map_const',
    List.map_const', count, same]

/-- **A call determines its request.** Calls that were built for one token are equal exactly if
their requests have the same terms; then the roles are the same, if no two roles share an id, and
the amounts have the same decimals, unless they are reserve amounts. -/
theorem build_eq_iff_terms (first : build token a = .ok x) (second : build token b = .ok y) :
    (x = y ↔ a.terms = b.terms) ∧
      (x = y → (Function.Injective Role.id → a.role? = b.role?) ∧
        (a.operation ≠ .updateReserveAmount →
          a.amounts.map Amount.decimals = b.amounts.map Amount.decimals)) := by
  have agree : x = y → a.terms = b.terms := by
    rintro rfl
    exact terms_of_call first second
  refine ⟨⟨agree, call_of_terms first second⟩, fun equal => ⟨fun distinct => ?_, fun scaled => ?_⟩⟩
  · exact role_of_terms distinct (agree equal)
  · exact decimals_of_terms first second (agree equal) scaled

/-- A hold of 1.5 tokens with one byte of data, from the instant of its expiration and its
destination. -/
def holdUntil (nanos : Nat) (valid : Calendar.isInstant 1700000000 nanos = true)
    (destination : Option EntityId) : Hold where
  amount := ⟨⟨false, 1500000, 6, by decide, by decide, by decide⟩, 6, rfl, by decide⟩
  escrow := ⟨0, 0, 11⟩
  expiration := ⟨1700000000, nanos, valid⟩
  destination
  data := [7]

/-- Holds that expire within one second have the same call. -/
theorem build_eq_iff_terms_subsecond :
    let token : Token := ⟨⟨0, 0, 7⟩, some ⟨0, 0, 9⟩, ⟨0, 0, 8⟩, 6⟩
    let a : Request := .createHoldByController ⟨0, 0, 10⟩
      (holdUntil 0 rfl (some ⟨0, 0, 12⟩))
    let b : Request := .createHoldByController ⟨0, 0, 10⟩
      (holdUntil 500000000 rfl (some ⟨0, 0, 12⟩))
    ∃ x y, build token a = .ok x ∧ build token b = .ok y ∧ a ≠ b ∧ x = y ∧
      a.amounts.map Amount.decimals = b.amounts.map Amount.decimals := by
  intro token a b
  obtain ⟨x, first⟩ : ∃ x, build token a = .ok x := exists_of_isOk (by decide +kernel)
  obtain ⟨y, second⟩ : ∃ y, build token b = .ok y := exists_of_isOk (by decide +kernel)
  obtain ⟨agree, alike⟩ := build_eq_iff_terms first second
  have equal : x = y := agree.mpr rfl
  exact ⟨x, y, first, second, by decide +kernel, equal, (alike equal).2 (by decide)⟩

/-- No destination and the account `0.0.0` give the same call. -/
theorem build_zeroDestination :
    let token : Token := ⟨⟨0, 0, 7⟩, some ⟨0, 0, 9⟩, ⟨0, 0, 8⟩, 6⟩
    let a := holdUntil 0 rfl none
    let b := holdUntil 0 rfl (some ⟨0, 0, 0⟩)
    ∃ call, build token (.createHold a) = .ok call ∧ build token (.createHold b) = .ok call ∧
      a.destination ≠ b.destination := by
  intro token a b
  obtain ⟨x, first⟩ : ∃ x, build token (.createHold a) = .ok x :=
    exists_of_isOk (by decide +kernel)
  obtain ⟨y, second⟩ : ∃ y, build token (.createHold b) = .ok y :=
    exists_of_isOk (by decide +kernel)
  cases call_of_terms first second rfl
  exact ⟨x, first, second, by decide⟩

end Contract

end TokenDesk
