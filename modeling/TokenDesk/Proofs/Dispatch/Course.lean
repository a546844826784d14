import Mathlib.Logic.IsEmpty.Defs
import TokenDesk.Dispatch
import TokenDesk.Proofs.Except
import TokenDesk.Proofs.Timing

/-!
How a call of a dispatcher goes.

`Approval` is what a call needs before it has anything signed: a lookup that was answered, the first
capability for the operation, and a plan on the surface that this capability names. `Course` says
everything a call can do up to its first error. It asks nobody but the lookup, it asks the signer
for an approved body and submits nothing, or it submits what the signer returned. `run_course` is
the one place where `Dispatcher.run` is taken apart by whom it asks; what holds of every call
follows from it by cases.
-/

namespace TokenDesk

variable {κ σ τ α β : Type}

namespace CallReport

/-- The bodies that a call gave to the signer, in order. -/
def signings (report : CallReport κ σ τ α) : List Bytes :=
  report.actions.filterMap fun
    | .sign body => some body
    | _ => none

/-- What a call submitted to the ledger, in order. -/
def submissions (report : CallReport κ σ τ α) : List Artifact :=
  report.actions.filterMap fun
    | .submit artifact => some artifact
    | _ => none

end CallReport

namespace Dispatcher

/-! ## Plans -/

theorem surface_of_plan {surface : Surface} {token : Token} {request : Request} {plan : Plan}
    (planned : surface.plan token request = .ok plan) : plan.body.surface = surface := by
  cases surface with
  | native =>
    simp only [Surface.plan] at planned
    cases built : Native.build token request with
    | error e => rw [built] at planned; cases planned
    | ok body => rw [built] at planned; cases planned; rfl
  | contract =>
    simp only [Surface.plan] at planned
    cases built : Contract.build token request with
    | error e => rw [built] at planned; cases planned
    | ok call =>
      rw [built] at planned
      change Plan.ofCall request.operation call = .ok plan at planned
      unfold Plan.ofCall at planned
      split at planned
      · cases formatted : Contract.returnFormat call.function with
        | error e => rw [formatted] at planned; cases planned
        | ok format => rw [formatted] at planned; cases planned; rfl
      · cases formatted : Contract.returnFormat call.function with
        | error e => rw [formatted] at planned; cases planned
        | ok format => rw [formatted] at planned; cases planned; rfl
      · cases planned; rfl

/-- The first capability for an operation. -/
def firstEntry (capabilities : List Capability) (operation : Operation) : Option Capability :=
  capabilities.find? fun c => c.operation = operation

theorem operation_of_firstEntry {capabilities : List Capability} {operation : Operation}
    {entry : Capability} (first : firstEntry capabilities operation = some entry) :
    entry.operation = operation := by
  have found := List.find?_some first
  simpa using found

/-- A plan is made exactly on the surface of the first entry, if the surface carries out the
operation and builds the request. -/
theorem plan_eq_ok_iff {d : Dispatcher} {capabilities : List Capability} {token : Token}
    {request : Request} {plan : Plan} :
    d.plan capabilities token request = .ok plan ↔
      ∃ surface, firstEntry capabilities request.operation = some ⟨request.operation, surface⟩ ∧
        surface.supports request.operation = true ∧ surface.plan token request = .ok plan := by
  unfold Dispatcher.plan Decision.ofCapabilities
  rw [← firstEntry]
  cases first : firstEntry capabilities request.operation with
  | none => simp
  | some entry =>
    rcases entry with ⟨operation, surface⟩
    have same : operation = request.operation := operation_of_firstEntry first
    subst same
    by_cases supported : surface.supports request.operation
    · cases built : surface.plan token request with
      | error e => simp [supported, built, mapError_error]
      | ok made => simp [supported, built, mapError_ok]
    · simp [supported]

/-- Only the first entry for the operation counts. -/
theorem plan_firstEntry (d : Dispatcher) (capabilities : List Capability) (token : Token)
    (request : Request) :
    d.plan (firstEntry capabilities request.operation).toList token request =
      d.plan capabilities token request := by
  unfold Dispatcher.plan Decision.ofCapabilities
  rw [← firstEntry, ← firstEntry]
  cases first : firstEntry capabilities request.operation with
  | none => rfl
  | some entry =>
    have same := operation_of_firstEntry first
    simp [firstEntry, same]

variable {d : Dispatcher} {desk : Desk κ σ τ} {token : Token} {request : Request}
  {id : TransactionId} {t : Timeline} {s : DeskState κ σ τ}

/-! ## Submissions -/

/-- The ways a submission can go: the ledger gives no handle, the settlement is awaited in vain, or
it is found and becomes the response. -/
inductive Submission (desk : Desk κ σ τ) (plan : Plan) (artifact : Artifact)
    (before : List Action) (s : DeskState κ σ τ) :
    CallReport κ σ τ (Except DispatchError Response) → Prop
  | untaken {result : Option (Except DispatchError Response)} {time : Timeline} :
    (∀ r, result = some r → ∃ e, r = .error (.ledger e)) →
    Submission desk plan artifact before s
      ⟨result, some artifact.transaction, before ++ [.submit artifact], time,
        { s with ledger := (desk.ledger.submit artifact s.ledger).2 }⟩
  | unsettled {handle : TransactionId} {result : Option (Except DispatchError Response)}
    {time : Timeline} {ledger : τ} :
    (desk.ledger.submit artifact s.ledger).1.answer = some (.ok handle) →
    (∀ r, result = some r → ∃ e, r = .error e) →
    (ledger = (desk.ledger.submit artifact s.ledger).2 ∨
      ledger = (fetch desk.ledger plan.response handle
        (desk.ledger.submit artifact s.ledger).2).2) →
    Submission desk plan artifact before s
      ⟨result, some artifact.transaction,
        before ++ [.submit artifact] ++ [.fetch plan.response], time, { s with ledger }⟩
  | settled {handle : TransactionId} {settlement : Settlement} {time : Timeline} :
    (desk.ledger.submit artifact s.ledger).1.answer = some (.ok handle) →
    (fetch desk.ledger plan.response handle (desk.ledger.submit artifact s.ledger).2).1.answer =
      some (.ok settlement) →
    Submission desk plan artifact before s
      ⟨some ((settlement.response plan.response plan.format).mapError .response),
        some artifact.transaction, before ++ [.submit artifact] ++ [.fetch plan.response], time,
        { s with ledger := (fetch desk.ledger plan.response handle
          (desk.ledger.submit artifact s.ledger).2).2 }⟩

theorem submit_submission (desk : Desk κ σ τ) (plan : Plan) (artifact : Artifact)
    (before : List Action) (t : Timeline) (s : DeskState κ σ τ) :
    Submission desk plan artifact before s (submit desk plan artifact before t s) := by
  unfold submit
  dsimp only
  split
  · exact .untaken (by simp)
  · exact .untaken (by simp)
  · exact .untaken (by simp)
  · rename_i handle time awaited
    have taken := Timeline.answer_of_await awaited
    have left := Timeline.race_state time (fetch desk.ledger plan.response handle)
      (desk.ledger.submit artifact s.ledger).2
    split
    · rename_i raced
      rw [raced] at left
      exact .unsettled taken (by simp) left
    · rename_i raced
      rw [raced] at left
      exact .unsettled taken (by simp) left
    · rename_i raced
      rw [raced] at left
      exact .unsettled taken (by simp) left
    · rename_i raced
      obtain ⟨found, rfl⟩ := Timeline.of_race_answered raced
      exact .settled taken found

/-- Whatever becomes of a submission, it is one of the artifact. -/
theorem Submission.submitted {plan : Plan} {artifact : Artifact} {before : List Action}
    {report : CallReport κ σ τ (Except DispatchError Response)}
    (course : Submission desk plan artifact before s report) :
    report.submitted = some artifact.transaction := by
  cases course with
  | untaken _ => rfl
  | unsettled _ _ _ => rfl
  | settled _ _ => rfl

/-! ## Courses -/

/-- What has to be found before anything is signed: the lookup's answer has a first entry for the
operation, and the surface of that entry carries the operation out and builds the request. -/
structure Approval (d : Dispatcher) (desk : Desk κ σ τ) (token : Token) (request : Request)
    (t : Timeline) (s : DeskState κ σ τ) where
  capabilities : List Capability
  surface : Surface
  plan : Plan
  /-- The time when the lookup was answered, and the state it was left in. -/
  time : Timeline
  lookup : κ
  answered : t.race (desk.capabilities d.account token) s.lookup =
    (.answered (.ok capabilities) time, lookup)
  entry : firstEntry capabilities request.operation = some ⟨request.operation, surface⟩
  supported : surface.supports request.operation = true
  built : surface.plan token request = .ok plan

namespace Approval

/-- There is one approval at most: everything in it follows from the lookup's answer. -/
theorem eq (a b : Approval d desk token request t s) : a = b := by
  rcases a with ⟨capabilities, surface, plan, time, lookup, answered, entry, supported, built⟩
  rcases b with
    ⟨capabilities', surface', plan', time', lookup', answered', entry', supported', built'⟩
  have answer := answered.symm.trans answered'
  simp only [Prod.mk.injEq, Waited.answered.injEq, Except.ok.injEq] at answer
  obtain ⟨⟨rfl, rfl⟩, rfl⟩ := answer
  have first := entry.symm.trans entry'
  simp only [Option.some.injEq, Capability.mk.injEq] at first
  obtain ⟨-, rfl⟩ := first
  cases built.symm.trans built'
  rfl

/-- The bytes that are to be signed. -/
def body (a : Approval d desk token request t s) (id : TransactionId) : Bytes :=
  (d.unsigned a.plan id).bytes

/-- What the signer does with these bytes. -/
def signing (a : Approval d desk token request t s) (id : TransactionId) :
    Run σ (Except Signing.Error Signing.Authorization) :=
  desk.signer.sign (a.body id) a.time s.signer

/-- The states of the desk when the signer is done. -/
def signedState (a : Approval d desk token request t s) (id : TransactionId) : DeskState κ σ τ :=
  ⟨a.lookup, (a.signing id).state, s.ledger⟩

/-- The signer's answer lets the call go on: there is one, and no cancellation came meanwhile. -/
def Authorizes (a : Approval d desk token request t s) (id : TransactionId)
    (authorization : Signing.Authorization) : Prop :=
  (a.signing id).result = some (.ok authorization) ∧ (a.signing id).time.isCancelled = false

end Approval

/-- All that a call can do, up to its first error. -/
inductive Course (d : Dispatcher) (desk : Desk κ σ τ) (token : Token) (request : Request)
    (id : TransactionId) (t : Timeline) (s : DeskState κ σ τ) :
    CallReport κ σ τ (Except DispatchError Response) → Prop
  /-- Without an approval neither the signer nor the ledger is asked. -/
  | unsigned {result : Option (Except DispatchError Response)} {time : Timeline} {lookup : κ} :
    IsEmpty (Approval d desk token request t s) → (∀ r, result = some r → ∃ e, r = .error e) →
    Course d desk token request id t s ⟨result, none, [], time, { s with lookup }⟩
  /-- Without an authorization in time nothing is submitted. -/
  | unsubmitted {result : Option (Except DispatchError Response)}
    (a : Approval d desk token request t s) :
    (∀ authorization, ¬ a.Authorizes id authorization) →
    (∀ r, result = some r → ∃ e, r = .error e) →
    Course d desk token request id t s
      ⟨result, none, [.sign (a.body id)], (a.signing id).time, a.signedState id⟩
  /-- An approved and signed body is submitted. -/
  | submitted {authorization : Signing.Authorization} (a : Approval d desk token request t s) :
    a.Authorizes id authorization →
    Course d desk token request id t s
      (submit desk a.plan ⟨id, a.body id, authorization⟩ [.sign (a.body id)] (a.signing id).time
        (a.signedState id))

theorem signAndSubmit_course (a : Approval d desk token request t s) (id : TransactionId) :
    Course d desk token request id t s
      (d.signAndSubmit desk a.plan id a.time { s with lookup := a.lookup }) := by
  unfold signAndSubmit
  dsimp only
  split
  · rename_i silent
    refine .unsubmitted a ?_ (by simp)
    rintro authorization ⟨signed, -⟩
    cases silent.symm.trans signed
  · rename_i e failed
    refine .unsubmitted a ?_ (by simp)
    rintro authorization ⟨signed, -⟩
    cases failed.symm.trans signed
  · rename_i authorization signed
    split
    · rename_i cancelled
      refine .unsubmitted a ?_ (by simp)
      rintro other ⟨-, live⟩
      cases cancelled.symm.trans live
    · rename_i live
      exact .submitted a ⟨signed, eq_false_of_ne_true live⟩

/-- Every call takes one of the courses. -/
theorem run_course (d : Dispatcher) (desk : Desk κ σ τ) (token : Token) (request : Request)
    (id : TransactionId) (t : Timeline) (s : DeskState κ σ τ) :
    Course d desk token request id t s (d.run desk token request id t s) := by
  unfold run
  have unanswered : ∀ {outcome}, t.race (desk.capabilities d.account token) s.lookup = outcome →
      (∀ capabilities time lookup, outcome ≠ (.answered (.ok capabilities) time, lookup)) →
      IsEmpty (Approval d desk token request t s) := by
    intro outcome raced other
    refine ⟨fun a => other a.capabilities a.time a.lookup ?_⟩
    rw [← raced]
    exact a.answered
  split
  · rename_i raced
    exact .unsigned (unanswered raced (by simp)) (by simp)
  · rename_i raced
    exact .unsigned (unanswered raced (by simp)) (by simp)
  · rename_i raced
    exact .unsigned (unanswered raced (by simp)) (by simp)
  · rename_i capabilities time lookup raced
    split
    · rename_i e refused
      refine .unsigned ⟨fun a => ?_⟩ (by simp)
      have answer := raced.symm.trans a.answered
      simp only [Prod.mk.injEq, Waited.answered.injEq, Except.ok.injEq] at answer
      have planned : d.plan capabilities token request = .ok a.plan :=
        plan_eq_ok_iff.mpr ⟨a.surface, answer.1.1 ▸ a.entry, a.supported, a.built⟩
      rw [refused] at planned
      cases planned
    · rename_i plan planned
      obtain ⟨surface, entry, supported, built⟩ := plan_eq_ok_iff.mp planned
      exact signAndSubmit_course
        ⟨capabilities, surface, plan, time, lookup, raced, entry, supported, built⟩ id

end Dispatcher

end TokenDesk
