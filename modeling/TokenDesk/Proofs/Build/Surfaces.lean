import TokenDesk.Proofs.Build.Failures
import TokenDesk.Proofs.Build.Terms

/-!
The two surfaces of one operation.

Nine operations have a builder on both surfaces (`Operation.shared`). What their native transactions
do to an account and by how much is `NativeBody.effect`, in the form in which a contract's function
takes it. For a token with a contract, the call that the other builder makes goes to that contract,
to the function of the operation, and its words decode to just this effect (`ContractCall.Mirrors`).
Each builder makes something of a request exactly if the other one does, and fails as the other one
fails (`Surface.plans_agree`). The one exception is by the ledger's rule: a native transaction mints
to the treasury, so it cannot cash in to another account, while a call can.
-/

namespace TokenDesk

open Abi (Value)

/-- The operations that both surfaces carry out. -/
def Operation.shared : List Operation :=
  [.cashIn, .burn, .wipe, .freeze, .unfreeze, .pause, .unpause, .grantKyc, .revokeKyc]

theorem Operation.mem_shared_iff {operation : Operation} :
    operation ∈ shared ↔ ∀ surface : Surface, surface.supports operation = true := by
  constructor
  · intro member surface
    cases surface <;> revert operation <;> decide
  · intro supported
    have native := supported .native
    have contract := supported .contract
    cases operation with
    | updateCustomFees | transfers => cases contract
    | cashIn | burn | wipe | freeze | unfreeze | pause | unpause | grantKyc | revokeKyc => decide
    | _ => cases native

/-! ## What a native transaction does -/

namespace NativeBody

def token : NativeBody → EntityId
  | .mint token _ | .burn token _ | .wipe token _ _ | .freeze token _ | .unfreeze token _
  | .pause token | .unpause token | .grantKyc token _ | .revokeKyc token _ | .feeSchedule token _
  | .transfer token _ => token

def operation : NativeBody → Operation
  | .mint .. => .cashIn
  | .burn .. => .burn
  | .wipe .. => .wipe
  | .freeze .. => .freeze
  | .unfreeze .. => .unfreeze
  | .pause .. => .pause
  | .unpause .. => .unpause
  | .grantKyc .. => .grantKyc
  | .revokeKyc .. => .revokeKyc
  | .feeSchedule .. => .updateCustomFees
  | .transfer .. => .transfers

/-- The account that a transaction is about. A mint goes to the treasury without naming it. -/
def account? (treasury : EntityId) : NativeBody → Option EntityId
  | .mint .. => some treasury
  | .wipe _ account _ | .freeze _ account | .unfreeze _ account | .grantKyc _ account
  | .revokeKyc _ account => some account
  | _ => none

/-- The base units that a transaction mints, burns or wipes. -/
def units? : NativeBody → Option Int64
  | .mint _ units | .burn _ units | .wipe _ _ units => some units
  | _ => none

/-- The address of the account, and the base units. -/
def effect (treasury : EntityId) (body : NativeBody) : List Value :=
  (body.account? treasury).toList.map (fun id => .address id.address) ++
    body.units?.toList.map fun units => .int 64 units.toInt

end NativeBody

/-! ## Building -/

/-- Whether tokens are cashed in to another account than the treasury. -/
def Request.MintsElsewhere (request : Request) (token : Token) : Prop :=
  ∃ target amount, request = .cashIn target amount ∧ target ≠ token.treasury

/-- A call to the contract that has the effect of a transaction: by the function of the same
operation, with words that decode to the same account and the same base units. -/
structure ContractCall.Mirrors (call : ContractCall) (body : NativeBody)
    (treasury manager : EntityId) : Prop where
  contract : call.contract = manager
  decoded : ∃ entry, Contract.entryPoint? body.operation = some entry ∧
    call.function = entry.method.name ∧
    call.calldata.take 4 = Abi.selector entry.method.signature ∧
    Abi.decodeAll entry.method.parameters (call.calldata.drop 4) = .ok (body.effect treasury)

section

variable {token : Token} {manager : EntityId} {request : Request} {e : BuildError}
  (both : ∀ surface : Surface, surface.supports request.operation = true)

include both

namespace Native

omit both in
theorem build_of_mintsElsewhere {target : EntityId} {amount : Amount}
    (elsewhere : target ≠ token.treasury) :
    build token (.cashIn target amount) = .error (.refused (.notTreasury token.treasury target)) :=
  if_neg elsewhere

/-- A transaction of a shared operation does what its request asks. -/
theorem of_build {body : NativeBody} (built : build token request = .ok body) :
    body.token = token.id ∧ body.operation = request.operation ∧
      body.effect token.treasury = request.parameters := by
  cases request with
  | cashIn target amount =>
    dsimp only [build] at built
    split at built
    · rename_i treasury
      obtain ⟨n, counted, made⟩ := of_bind_ok built
      cases made
      refine ⟨rfl, rfl, ?_⟩
      rw [Request.parameters, ← Contract.toInt_of_tokenUnits counted, treasury]
      rfl
    · cases built
  | burn amount | wipe target amount =>
    obtain ⟨n, counted, made⟩ := of_bind_ok built
    cases made
    refine ⟨rfl, rfl, ?_⟩
    rw [Request.parameters, ← Contract.toInt_of_tokenUnits counted]
    rfl
  | freeze | unfreeze | pause | unpause | grantKyc | revokeKyc =>
    cases built
    exact ⟨rfl, rfl, rfl⟩
  | updateCustomFees fees => cases both .contract
  | transfers source credits => cases both .contract
  | _ => cases both .native

/-- Both builders ask the token for the same base units, and otherwise nothing can fail. -/
theorem build_eq_error_iff (here : ¬request.MintsElsewhere token) :
    build token request = .error e ↔ Contract.arguments token request = .error e := by
  cases request with
  | cashIn target amount =>
    have treasury : target = token.treasury := by
      by_contra other
      exact here ⟨target, amount, rfl, other⟩
    rw [build, if_pos treasury]
    exact bind_pure_eq_error_iff.trans bind_pure_eq_error_iff.symm
  | burn amount | wipe target amount =>
    exact bind_pure_eq_error_iff.trans bind_pure_eq_error_iff.symm
  | freeze | unfreeze | pause | unpause | grantKyc | revokeKyc =>
    constructor
    · intro failed
      cases failed
    · intro failed
      cases failed
  | updateCustomFees fees => cases both .contract
  | transfers source credits => cases both .contract
  | _ => cases both .native

end Native

theorem Request.fitsMemory_of_shared : request.FitsMemory := by
  intro hold holds
  cases request with
  | createHold hold => cases both .native
  | createHoldByController source hold => cases both .native
  | _ => cases holds

theorem Request.not_createsHold_of_shared : ¬request.operation.createsHold = true := by
  cases request with
  | createHold hold => cases both .native
  | createHoldByController source hold => cases both .native
  | _ => exact nofun

variable (managed : token.manager = some manager)

include managed

namespace Contract

theorem destination_of_shared : destination token request = .ok manager := by
  cases request with
  | updateReserveAmount reserve amount => cases both .native
  | _ => rw [destination, managed]; nofun

theorem build_eq_error_iff_of_shared :
    build token request = .error e ↔ arguments token request = .error e :=
  build_eq_error_iff (both .contract) fun lacks => nomatch managed.symm.trans lacks.2.1

theorem mirrors_of_build {call : ContractCall} {body : NativeBody}
    (built : build token request = .ok call) (made : Native.build token request = .ok body) :
    call.Mirrors body token.treasury manager := by
  obtain ⟨entry, contract, carried, found, -, fit, rfl⟩ := of_build built
  obtain ⟨-, operation, effect⟩ := Native.of_build both made
  have length := length_selector entry.method.signature
  have words : (entry.method.calldata request.parameters).drop 4 =
      Abi.encodeAll request.parameters := List.drop_left' length
  refine ⟨?_, entry, operation ▸ carried, rfl, List.take_left' length, ?_⟩
  · rw [destination_of_shared both managed] at found
    exact (Except.ok.inj found).symm
  · rw [words, effect]
    exact Abi.decodeAll_encodeAll fit (Request.fitsMemory_of_shared both).length_lt

end Contract

namespace Surface

omit managed in
theorem contract_plan_of_shared : contract.plan token request =
    Contract.build token request >>= fun call => pure ⟨.contract call, .receiptOnly, none⟩ :=
  bind_congr fun _ => Plan.ofCall_of_not_createsHold (Request.not_createsHold_of_shared both)

/-- Elsewhere than for a mint to another account, the surfaces fail alike. -/
theorem plan_eq_error_iff_of_shared (here : ¬request.MintsElsewhere token) :
    native.plan token request = .error e ↔ contract.plan token request = .error e := by
  rw [contract_plan_of_shared both, bind_pure_eq_error_iff,
    Contract.build_eq_error_iff_of_shared both managed, ← Native.build_eq_error_iff both here]
  exact bind_pure_eq_error_iff

/-- What is built natively is also built as a call. -/
theorem exists_call_of_native {body : NativeBody} (made : Native.build token request = .ok body) :
    ∃ call, Contract.build token request = .ok call := by
  cases built : Contract.build token request with
  | ok call => exact ⟨call, rfl⟩
  | error e =>
    by_cases elsewhere : request.MintsElsewhere token
    · obtain ⟨target, amount, rfl, other⟩ := elsewhere
      rw [Native.build_of_mintsElsewhere other] at made
      cases made
    · rw [Contract.build_eq_error_iff_of_shared both managed,
        ← Native.build_eq_error_iff both elsewhere, made] at built
      cases built

/-- What is built as a call for an account that tokens can be minted to is also built natively. -/
theorem exists_native_of_call {call : ContractCall} (here : ¬request.MintsElsewhere token)
    (built : Contract.build token request = .ok call) :
    ∃ body, Native.build token request = .ok body := by
  cases made : Native.build token request with
  | ok body => exact ⟨body, rfl⟩
  | error e =>
    rw [Native.build_eq_error_iff both here,
      ← Contract.build_eq_error_iff_of_shared both managed, built] at made
    cases made

end Surface

end

/-! ## Plans -/

namespace Surface

/-- A native plan and the plan of a call, both for one request, with the same effect. -/
def SameEffect (token : Token) (manager : EntityId) (request : Request)
    (transaction call : Plan) : Prop :=
  ∃ body made, transaction = ⟨.native body, .receiptOnly, none⟩ ∧
    call = ⟨.contract made, .receiptOnly, none⟩ ∧ body.token = token.id ∧
    body.operation = request.operation ∧ body.effect token.treasury = request.parameters ∧
    made.Mirrors body token.treasury manager

/-- How the plans of the two surfaces compare. -/
structure PlansAgree (token : Token) (manager : EntityId) (request : Request) : Prop where
  shared : request.operation ∈ Operation.shared
  /-- What has a native transaction has a call with the same effect. -/
  call : ∀ p, native.plan token request = .ok p →
    ∃ q, contract.plan token request = .ok q ∧ SameEffect token manager request p q
  /-- What has a call has such a native transaction, unless tokens are minted elsewhere. -/
  transaction : ¬request.MintsElsewhere token → ∀ q, contract.plan token request = .ok q →
    ∃ p, native.plan token request = .ok p ∧ SameEffect token manager request p q
  elsewhere : ∀ target amount, request = .cashIn target amount → target ≠ token.treasury →
    native.plan token request = .error (.refused (.notTreasury token.treasury target))
  /-- Otherwise one fails exactly if the other does, and for the same reason. -/
  failure : ¬request.MintsElsewhere token → ∀ e,
    native.plan token request = .error e ↔ contract.plan token request = .error e

/-- Plans of what was built on either surface have the same effect. -/
theorem sameEffect_of_build {token : Token} {manager : EntityId} {request : Request}
    {body : NativeBody} {call : ContractCall} (managed : token.manager = some manager)
    (both : ∀ surface : Surface, surface.supports request.operation = true)
    (made : Native.build token request = .ok body)
    (built : Contract.build token request = .ok call) :
    SameEffect token manager request ⟨.native body, .receiptOnly, none⟩
      ⟨.contract call, .receiptOnly, none⟩ := by
  obtain ⟨subject, operation, effect⟩ := Native.of_build both made
  exact ⟨body, call, rfl, rfl, subject, operation, effect,
    Contract.mirrors_of_build both managed built made⟩

/-- **Agreement of the surfaces.** For a token with a contract, an operation that both surfaces
carry out has the same effect on either, and fails alike, but for a mint to another account than the
treasury. -/
theorem plans_agree (token : Token) (manager : EntityId) (request : Request)
    (managed : token.manager = some manager)
    (both : ∀ surface : Surface, surface.supports request.operation = true) :
    PlansAgree token manager request where
  shared := Operation.mem_shared_iff.mpr both
  call p planned := by
    obtain ⟨body, made, rest⟩ := of_bind_ok planned
    cases rest
    obtain ⟨call, built⟩ := exists_call_of_native both managed made
    refine ⟨_, ?_, sameEffect_of_build managed both made built⟩
    rw [contract_plan_of_shared both, built]
    rfl
  transaction here q planned := by
    rw [contract_plan_of_shared both] at planned
    obtain ⟨call, built, rest⟩ := of_bind_ok planned
    cases rest
    obtain ⟨body, made⟩ := exists_native_of_call both managed here built
    refine ⟨_, ?_, sameEffect_of_build managed both made built⟩
    rw [plan, made]
    rfl
  elsewhere target amount asked other := by
    rw [asked, plan, Native.build_of_mintsElsewhere other]
    rfl
  failure here e := plan_eq_error_iff_of_shared both managed here

/-- Wiping 1.5 tokens of six decimals. -/
theorem plans_agree_wipe :
    let token : Token := ⟨⟨0, 0, 7⟩, some ⟨0, 0, 9⟩, ⟨0, 0, 8⟩, 6⟩
    let amount : Amount := ⟨⟨false, 1500000, 6, by decide, by decide, by decide⟩, 6, rfl,
      by decide⟩
    let request : Request := .wipe ⟨0, 0, 3⟩ amount
    token.manager = some ⟨0, 0, 9⟩ ∧
      (∀ surface : Surface, surface.supports request.operation = true) ∧
      ∃ call, contract.plan token request = .ok ⟨.contract call, .receiptOnly, none⟩ ∧
        call.Mirrors (.wipe ⟨0, 0, 7⟩ ⟨0, 0, 3⟩ 1500000) ⟨0, 0, 8⟩ ⟨0, 0, 9⟩ := by
  intro token amount request
  have both : ∀ surface : Surface, surface.supports request.operation = true := by
    intro surface
    cases surface <;> rfl
  have made : Native.build token request = .ok (.wipe ⟨0, 0, 7⟩ ⟨0, 0, 3⟩ 1500000) := by
    decide +kernel
  have planned : native.plan token request =
      .ok ⟨.native (.wipe ⟨0, 0, 7⟩ ⟨0, 0, 3⟩ 1500000), .receiptOnly, none⟩ := by
    rw [plan, made]
    rfl
  obtain ⟨q, called, body, call, same, rfl, -, -, -, mirrors⟩ :=
    (plans_agree token ⟨0, 0, 9⟩ request rfl both).call _ planned
  cases same
  exact ⟨rfl, both, call, called, mirrors⟩

end Surface

end TokenDesk
