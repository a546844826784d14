import TokenDesk.Proofs.Build.Fees
import TokenDesk.Proofs.Dispatch.Outcome

/-!
Why a surface has no plan for a request.

A plan fails because of how things are set up, or because of what the request says. The first kind
is decided by the surface, the operation and whether the token has a manager contract
(`Surface.LacksContract`); the builders look at it before they look at the request. Everything that
they find in a request whose amounts came through the gate is of the second kind
(`BuildError.LiesInRequest`): another scale, an amount that no 64 bits hold, or a refusal. So the
table of supported operations and the builders say the same, and no amount, account or list makes a
failure look like a fault in the set-up (`Surface.plan_failures`).
-/

namespace TokenDesk

variable {token : Token} {request : Request} {e : BuildError}

/-- Failures that are due to what the request says. -/
inductive BuildError.LiesInRequest : BuildError → Prop
  | scale (token : EntityId) (expected actual : UInt8) :
    LiesInRequest (.decimalsMismatch token expected actual)
  | overflow (value : Decimal) (decimals : UInt8) :
    LiesInRequest (.amount (.overflow value decimals))
  | refusal (cause : Refusal) : LiesInRequest (.refused cause)

theorem BuildError.LiesInRequest.not_invariantViolation (lies : e.LiesInRequest) :
    e.isInvariantViolation = false := by
  cases lies <;> rfl

theorem BuildError.LiesInRequest.of_refused {α : Type} {cause : Refusal}
    (failed : (.error (.refused cause) : Except BuildError α) = .error e) : e.LiesInRequest := by
  cases failed
  exact .refusal cause

/-! ## Amounts -/

theorem Token.Misfit.liesInRequest {a : Amount} (misfit : token.Misfit a e) : e.LiesInRequest := by
  cases misfit with
  | decimals _ => exact .scale token.id token.decimals a.decimals
  | overflow _ _ => exact .overflow a.value a.decimals

theorem liesInRequest_of_checkedUnits {a : Amount} (accepted : a.Accepted)
    (failed : a.checkedUnits = .error e) : e.LiesInRequest := by
  obtain ⟨-, rfl⟩ := accepted.of_checkedUnits_error failed
  exact .overflow a.value a.decimals

theorem liesInRequest_of_tokenUnits {a : Amount} (accepted : a.Accepted)
    (failed : token.units a = .error e) : e.LiesInRequest :=
  (accepted.of_tokenUnits_error failed).liesInRequest

/-! ## Calls of a contract -/

namespace Contract

theorem of_holdArgument_error {hold : Hold} (accepted : hold.amount.Accepted)
    (failed : holdArgument token hold = .error e) : e.LiesInRequest := by
  unfold holdArgument at failed
  split at failed
  · exact .of_refused failed
  · exact liesInRequest_of_tokenUnits accepted (of_bind_pure_error failed)

/-- The arguments of an operation with an entry point fail only by the request. -/
theorem of_arguments_error (accepted : ∀ a ∈ request.allAmounts, a.Accepted)
    (supported : supports request.operation = true) (failed : arguments token request = .error e) :
    e.LiesInRequest := by
  cases request with
  | cashIn _ amount | wipe _ amount | burn amount | rescue amount | executeHold _ _ amount
  | releaseHold _ amount | grantSupplierRole _ amount | increaseSupplierAllowance _ amount
  | decreaseSupplierAllowance _ amount =>
    exact liesInRequest_of_tokenUnits (accepted amount List.mem_cons_self)
      (of_bind_pure_error failed)
  | rescueHbar amount =>
    dsimp only [arguments] at failed
    split at failed
    · exact liesInRequest_of_checkedUnits (accepted amount List.mem_cons_self)
        (of_bind_pure_error failed)
    · exact .of_refused failed
  | createHold hold | createHoldByController _ hold =>
    exact of_holdArgument_error (accepted hold.amount List.mem_cons_self)
      (of_bind_pure_error failed)
  | updateReserveAmount _ amount =>
    exact liesInRequest_of_checkedUnits (accepted amount List.mem_cons_self)
      (of_bind_pure_error failed)
  | updateCustomFees fees => cases supported
  | transfers source credits => cases supported
  | _ => cases failed

end Contract

/-! ## Transactions of the token service -/

namespace Native

theorem Faulty.liesInRequest {fee : CustomFee} (faulty : Faulty token fee e) :
    e.LiesInRequest := by
  cases faulty with
  | decimals | fraction | bounds => exact .refusal _
  | overflow => exact .overflow _ _
  | minimum _ misfit | maximum _ _ misfit => exact misfit.liesInRequest

theorem of_credits_error {source : EntityId} {total : Int64} {transfers : List Transfer}
    (accepted : ∀ t ∈ transfers, t.amount.Accepted)
    (failed : credits token source total transfers = .error e) : e.LiesInRequest := by
  induction transfers generalizing total with
  | nil => cases failed
  | cons t rest ih =>
    unfold credits at failed
    split at failed
    · exact .of_refused failed
    · rcases of_bind_error failed with failed | ⟨amount, -, failed⟩
      · exact liesInRequest_of_tokenUnits (accepted t List.mem_cons_self) failed
      · split at failed
        · exact .of_refused failed
        · split at failed
          · exact .of_refused failed
          · exact ih (fun other member => accepted other (List.mem_cons_of_mem t member))
              (of_bind_pure_error failed)

theorem of_adjustments_error {source : EntityId} {transfers : List Transfer}
    (accepted : ∀ t ∈ transfers, t.amount.Accepted)
    (failed : adjustments token source transfers = .error e) : e.LiesInRequest := by
  unfold adjustments at failed
  split at failed
  · exact .of_refused failed
  · split at failed
    · exact .of_refused failed
    · exact of_credits_error accepted (of_bind_pure_error failed)

theorem of_build_error (accepted : ∀ a ∈ request.allAmounts, a.Accepted)
    (supported : supports request.operation = true) (failed : build token request = .error e) :
    e.LiesInRequest := by
  cases request with
  | cashIn target amount =>
    dsimp only [build] at failed
    split at failed
    · exact liesInRequest_of_tokenUnits (accepted amount List.mem_cons_self)
        (of_bind_pure_error failed)
    · exact .of_refused failed
  | burn amount | wipe _ amount =>
    exact liesInRequest_of_tokenUnits (accepted amount List.mem_cons_self)
      (of_bind_pure_error failed)
  | updateCustomFees fees =>
    dsimp only [build] at failed
    split at failed
    · exact .of_refused failed
    · obtain ⟨fee, member, failed⟩ := of_mapM_error (of_bind_pure_error failed)
      have fee_accepted : ∀ a ∈ fee.amounts, a.Accepted := fun a inside =>
        accepted a (List.mem_flatMap.mpr ⟨fee, member, inside⟩)
      exact (faulty_of_feeTerms fee_accepted failed).liesInRequest
  | transfers source credits =>
    exact of_adjustments_error
      (fun t member => accepted t.amount (List.mem_map.mpr ⟨t, member, rfl⟩))
      (of_bind_pure_error failed)
  | freeze | unfreeze | pause | unpause | grantKyc | revokeKyc => cases failed
  | _ => cases supported

theorem build_of_unsupported (unsupported : supports request.operation = false) :
    build token request = .error (.noBuilder request.operation .native) := by
  cases request with
  | cashIn | burn | wipe | freeze | unfreeze | pause | unpause | grantKyc | revokeKyc
  | updateCustomFees | transfers => cases unsupported
  | _ => rfl

end Native

/-! ## The set-up -/

/-- Whether a supported operation has no contract to go to. Only the reserve's amount is set
elsewhere than at the token's manager. -/
def Surface.LacksContract (surface : Surface) (token : Token) (operation : Operation) : Prop :=
  surface = .contract ∧ token.manager = none ∧ operation ≠ .updateReserveAmount

namespace Contract

theorem build_of_unsupported (unsupported : supports request.operation = false) :
    build token request = .error (.noBuilder request.operation .contract) := by
  unfold build
  rw [Option.not_isSome_iff_eq_none.mp (Bool.eq_false_iff.mp unsupported)]

theorem destination_of_noManager (missing : token.manager = none)
    (elsewhere : request.operation ≠ .updateReserveAmount) :
    destination token request = .error (.missingContract token.id) := by
  unfold destination
  split
  · exact (elsewhere rfl).elim
  · rw [missing]

/-- The contract is looked for before the arguments are. -/
theorem build_of_lacksContract (supported : supports request.operation = true)
    (lacks : Surface.contract.LacksContract token request.operation) :
    build token request = .error (.missingContract token.id) := by
  obtain ⟨entry, carried⟩ := Option.isSome_iff_exists.mp supported
  unfold build
  rw [carried]
  dsimp only
  rw [destination_of_noManager lacks.2.1 lacks.2.2]
  rfl

theorem exists_destination (present : ¬Surface.contract.LacksContract token request.operation) :
    ∃ contract, destination token request = .ok contract := by
  unfold destination
  split
  · exact ⟨_, rfl⟩
  · rename_i elsewhere
    cases known : token.manager with
    | some manager => exact ⟨manager, rfl⟩
    | none =>
      refine (present ⟨rfl, known, fun reserve => ?_⟩).elim
      cases request <;> cases reserve
      exact elsewhere _ _ rfl

/-- With a contract to go to, a build fails exactly where the arguments do. -/
theorem build_eq_error_iff (supported : supports request.operation = true)
    (present : ¬Surface.contract.LacksContract token request.operation) :
    build token request = .error e ↔ arguments token request = .error e := by
  obtain ⟨entry, carried⟩ := Option.isSome_iff_exists.mp supported
  obtain ⟨contract, found⟩ := exists_destination present
  unfold build
  rw [carried]
  dsimp only
  rw [found]
  exact bind_pure_eq_error_iff

/-- A call that was built has a plan: what it returns can be read. -/
theorem exists_plan_ofCall {call : ContractCall} (built : build token request = .ok call) :
    ∃ plan, Plan.ofCall request.operation call = .ok plan := by
  by_cases creates : request.operation.createsHold = true
  · obtain ⟨format, known, -⟩ := returnFormat_readsHold (function_of_createsHold built creates)
    exact ⟨_, Plan.ofCall_of_createsHold creates known⟩
  · exact ⟨_, Plan.ofCall_of_not_createsHold creates⟩

end Contract

theorem Plan.body_ofCall {operation : Operation} {call : ContractCall} {plan : Plan}
    (planned : Plan.ofCall operation call = .ok plan) : plan.body = .contract call := by
  unfold ofCall at planned
  split at planned
  · obtain ⟨format, -, made⟩ := of_bind_ok planned
    cases made
    rfl
  · obtain ⟨format, -, made⟩ := of_bind_ok planned
    cases made
    rfl
  · cases planned
    rfl

namespace Surface

variable {surface : Surface} {plan : Plan}

theorem plan_of_unsupported (unsupported : surface.supports request.operation = false) :
    surface.plan token request = .error (.noBuilder request.operation surface) := by
  cases surface with
  | native => rw [Surface.plan, Native.build_of_unsupported unsupported]; rfl
  | contract => rw [Surface.plan, Contract.build_of_unsupported unsupported]; rfl

theorem plan_of_lacksContract (supported : surface.supports request.operation = true)
    (lacks : surface.LacksContract token request.operation) :
    surface.plan token request = .error (.missingContract token.id) := by
  obtain ⟨rfl, missing, elsewhere⟩ := lacks
  rw [Surface.plan, Contract.build_of_lacksContract supported ⟨rfl, missing, elsewhere⟩]
  rfl

/-- Where the set-up is complete, a plan fails by the request. -/
theorem liesInRequest_of_plan (accepted : ∀ a ∈ request.allAmounts, a.Accepted)
    (supported : surface.supports request.operation = true)
    (present : ¬surface.LacksContract token request.operation)
    (failed : surface.plan token request = .error e) : e.LiesInRequest := by
  cases surface with
  | native => exact Native.of_build_error accepted supported (of_bind_pure_error failed)
  | contract =>
    rcases of_bind_error failed with failed | ⟨call, built, failed⟩
    · exact Contract.of_arguments_error accepted supported
        ((Contract.build_eq_error_iff supported present).mp failed)
    · obtain ⟨plan, planned⟩ := Contract.exists_plan_ofCall built
      rw [planned] at failed
      cases failed

/-- The failures of a plan, each with what it is due to. -/
inductive Fails (surface : Surface) (token : Token) (request : Request) : BuildError → Prop
  | unsupported (none : surface.supports request.operation = false) :
    Fails surface token request (.noBuilder request.operation surface)
  | uncontracted (supported : surface.supports request.operation = true)
    (lacks : surface.LacksContract token request.operation) :
    Fails surface token request (.missingContract token.id)
  | request {e : BuildError} (supported : surface.supports request.operation = true)
    (present : ¬surface.LacksContract token request.operation) (lies : e.LiesInRequest) :
    Fails surface token request e

theorem fails_of_plan (accepted : ∀ a ∈ request.allAmounts, a.Accepted)
    (failed : surface.plan token request = .error e) : surface.Fails token request e := by
  cases supported : surface.supports request.operation with
  | false =>
    cases failed.symm.trans (plan_of_unsupported supported)
    exact .unsupported supported
  | true =>
    by_cases lacks : surface.LacksContract token request.operation
    · cases failed.symm.trans (plan_of_lacksContract supported lacks)
      exact .uncontracted supported lacks
    · exact .request supported lacks (liesInRequest_of_plan accepted supported lacks failed)

theorem body_of_plan (planned : surface.plan token request = .ok plan) :
    plan.body.surface = surface := by
  cases surface with
  | native =>
    obtain ⟨body, -, made⟩ := of_bind_ok planned
    cases made
    rfl
  | contract =>
    obtain ⟨call, -, planned⟩ := of_bind_ok planned
    rw [Plan.body_ofCall planned]
    rfl

theorem contract_of_createsHold (planned : surface.plan token request = .ok plan)
    (creates : request.operation.createsHold = true) : surface = .contract := by
  cases surface with
  | contract => rfl
  | native =>
    obtain ⟨body, built, -⟩ := of_bind_ok planned
    rw [Native.not_createsHold built] at creates
    cases creates

/-- Whether making a plan failed by a fault in the set-up. -/
def Violates (surface : Surface) (token : Token) (request : Request) : Prop :=
  ∃ e, surface.plan token request = .error e ∧ e.isInvariantViolation = true

theorem violates_iff (accepted : ∀ a ∈ request.allAmounts, a.Accepted) :
    surface.Violates token request ↔ surface.supports request.operation = false ∨
      surface.LacksContract token request.operation := by
  constructor
  · rintro ⟨e, failed, violates⟩
    cases fails_of_plan accepted failed with
    | unsupported none => exact .inl none
    | uncontracted supported lacks => exact .inr lacks
    | request _ _ lies =>
      rw [lies.not_invariantViolation] at violates
      cases violates
  · intro incomplete
    cases supported : surface.supports request.operation with
    | false => exact ⟨_, plan_of_unsupported supported, rfl⟩
    | true =>
      rcases incomplete with none | lacks
      · rw [none] at supported
        cases supported
      · exact ⟨_, plan_of_lacksContract supported lacks, rfl⟩

/-- What decides about a plan, and what a plan holds. -/
structure Decides (surface : Surface) (token : Token) (request : Request) : Prop where
  /-- The table decides whether there is a builder, and the failure names what was asked for. -/
  noBuilder : ∀ operation other,
    surface.plan token request = .error (.noBuilder operation other) ↔
      operation = request.operation ∧ other = surface ∧
        surface.supports request.operation = false
  /-- Only a supported operation misses its contract. -/
  missingContract : ∀ id, surface.plan token request = .error (.missingContract id) ↔
    id = token.id ∧ surface.supports request.operation = true ∧
      surface.LacksContract token request.operation
  noInterface : ∀ reason, surface.plan token request ≠ .error (.interface reason)
  /-- Every other failure lies in the request. -/
  otherwise : ∀ e, surface.plan token request = .error e → e.isInvariantViolation = false →
    e.LiesInRequest
  body : ∀ plan, surface.plan token request = .ok plan → plan.body.surface = surface
  /-- Results are read back exactly where the record is fetched. -/
  format : ∀ plan, surface.plan token request = .ok plan →
    (plan.format.isSome = true ↔ plan.response = .fullRecord)
  /-- The record is fetched exactly where a contract creates a hold. -/
  response : ∀ plan, surface.plan token request = .ok plan →
    (plan.response = .fullRecord ↔ surface = .contract ∧ request.operation.createsHold = true)
  setUp : surface.Violates token request ↔ surface.supports request.operation = false ∨
    surface.LacksContract token request.operation
  /-- No amount, account or list tells a fault in the set-up from another failure. -/
  alike : ∀ token' request', (∀ a ∈ request'.allAmounts, a.Accepted) →
    request'.operation = request.operation → (token'.manager = none ↔ token.manager = none) →
      (surface.Violates token' request' ↔ surface.Violates token request)

/-- **Failures of plans.** For accepted amounts the table of operations and the builders agree, and
whether a failure is a fault in the set-up is decided by the surface, the operation and the presence
of a contract. -/
theorem plan_failures (surface : Surface) (token : Token) (request : Request)
    (accepted : ∀ a ∈ request.allAmounts, a.Accepted) : surface.Decides token request where
  noBuilder operation other := by
    constructor
    · intro failed
      cases fails_of_plan accepted failed with
      | unsupported none => exact ⟨rfl, rfl, none⟩
      | request _ _ lies => cases lies
    · rintro ⟨rfl, rfl, none⟩
      exact plan_of_unsupported none
  missingContract id := by
    constructor
    · intro failed
      cases fails_of_plan accepted failed with
      | uncontracted supported lacks => exact ⟨rfl, supported, lacks⟩
      | request _ _ lies => cases lies
    · rintro ⟨rfl, supported, lacks⟩
      exact plan_of_lacksContract supported lacks
  noInterface reason failed := by
    cases fails_of_plan accepted failed with
    | request _ _ lies => cases lies
  otherwise e failed fine := by
    cases fails_of_plan accepted failed with
    | unsupported none => cases fine
    | uncontracted supported lacks => cases fine
    | request _ _ lies => exact lies
  body plan := body_of_plan
  format plan planned := by
    have consistent := consistent_of_plan planned
    unfold Plan.Consistent at consistent
    split at consistent
    · obtain ⟨kind, format, known, -⟩ := consistent
      rw [known]
      exact iff_of_true rfl kind
    · obtain ⟨kind, none⟩ := consistent
      rw [kind, none]
      exact iff_of_false nofun nofun
  response plan planned := by
    have consistent := consistent_of_plan planned
    unfold Plan.Consistent at consistent
    split at consistent
    · rename_i creates
      exact iff_of_true consistent.1 ⟨contract_of_createsHold planned creates, creates⟩
    · rename_i keeps
      rw [consistent.1]
      exact iff_of_false nofun fun creates => keeps creates.2
  setUp := violates_iff accepted
  alike token' request' accepted' same present := by
    rw [violates_iff accepted, violates_iff accepted', same]
    unfold LacksContract
    rw [present]

/-- A batch whose sum leaves 64 bits, for a token without a contract: the native builder refuses it,
and the contract's surface has no builder that would look at it. -/
theorem plan_failures_transfers :
    let token : Token := ⟨⟨0, 0, 7⟩, none, ⟨0, 0, 8⟩, 0⟩
    let most : Amount := ⟨⟨false, 9223372036854775807, 0, by decide, by decide, by decide⟩, 0, rfl,
      by decide⟩
    let request : Request := .transfers ⟨0, 0, 3⟩ [⟨⟨0, 0, 4⟩, most⟩, ⟨⟨0, 0, 5⟩, most⟩]
    (∀ a ∈ request.allAmounts, a.Accepted) ∧
      native.plan token request = .error (.refused .totalOverflow) ∧
      ¬native.Violates token request ∧
      contract.plan token request = .error (.noBuilder .transfers .contract) ∧
      contract.Violates token request := by
  intro token most request
  have gate : Amount.ofDecimal most.value 0 = .ok most := by decide +kernel
  have accepted : ∀ a ∈ request.allAmounts, a.Accepted := by
    intro a member
    have same : a = most := by simpa [request, Request.allAmounts] using member
    exact same ▸ Amount.accepted_of_ofDecimal gate
  have summed : Native.adjustments token ⟨0, 0, 3⟩ [⟨⟨0, 0, 4⟩, most⟩, ⟨⟨0, 0, 5⟩, most⟩] =
      .error (.refused .totalOverflow) := by decide +kernel
  have decidesNative := plan_failures native token request accepted
  have decidesContract := plan_failures contract token request accepted
  refine ⟨accepted, ?_, ?_, ?_, ?_⟩
  · rw [plan, Native.build, summed]
    rfl
  · rw [decidesNative.setUp]
    rintro (none | lacks)
    · cases none
    · cases lacks.1
  · exact (decidesContract.noBuilder .transfers .contract).mpr ⟨rfl, rfl, rfl⟩
  · exact decidesContract.setUp.mpr (.inl rfl)

end Surface

end TokenDesk
