import TokenDesk.Proofs.Dispatch.Course

/-!
What reaches the signer and the ledger.

A call asks the signer once if there is an `Approval` and else never, and it submits once if the
signer's answer `Authorizes` that and else never. What it submits is the approved body, byte for
byte, with what the signer returned for it. Of the capabilities only the first entry for the
operation matters: `Desk.narrowed` hides all others, and no call can tell.
-/

namespace TokenDesk

variable {κ σ τ : Type}

/-- The desk whose lookup answers with the first entry for an operation and no other. -/
def Desk.narrowed (desk : Desk κ σ τ) (operation : Operation) : Desk κ σ τ :=
  { desk with
    capabilities := fun account token lookup =>
      let (w, lookup) := desk.capabilities account token lookup
      (w.map fun answer => answer.map fun capabilities =>
        (Dispatcher.firstEntry capabilities operation).toList, lookup) }

namespace Dispatcher

variable {d : Dispatcher} {desk : Desk κ σ τ} {token : Token} {request : Request}
  {id : TransactionId} {t : Timeline} {s : DeskState κ σ τ}

/-- What a call has done with the signer and the ledger. -/
structure Gated (d : Dispatcher) (desk : Desk κ σ τ) (token : Token) (request : Request)
    (id : TransactionId) (t : Timeline) (s : DeskState κ σ τ)
    (report : CallReport κ σ τ Response) : Prop where
  signs_once : report.signings.length ≤ 1
  submits_once : report.submissions.length ≤ 1
  /-- The signer is asked exactly if the request is allowed and builds. -/
  signs_iff : report.signings ≠ [] ↔ Nonempty (Approval d desk token request t s)
  /-- The ledger is asked exactly if the signer has signed and the call was not cancelled. -/
  submits_iff : report.submissions ≠ [] ↔
    ∃ (a : Approval d desk token request t s) (authorization : Signing.Authorization),
      a.Authorizes id authorization
  /-- The signer is asked for the approved body, and for nothing after it. -/
  signed : ∀ body ∈ report.signings, ∃ a : Approval d desk token request t s,
    body = Unsigned.bytes ⟨id, d.maxFee, a.plan.body⟩ ∧
      report.state.signer = (desk.signer.sign body a.time s.signer).state
  /-- The ledger is given the approved body with what the signer returned for it; after that it is
  asked for the settlement at most. -/
  submitted : ∀ artifact ∈ report.submissions, ∃ a : Approval d desk token request t s,
    a.plan.body.surface = a.surface ∧ artifact.transaction = id ∧
      artifact.body = Unsigned.bytes ⟨id, d.maxFee, a.plan.body⟩ ∧
      report.signings = [artifact.body] ∧
      (desk.signer.sign artifact.body a.time s.signer).result =
        some (.ok artifact.authorization) ∧
      (report.state.ledger = (desk.ledger.submit artifact s.ledger).2 ∨
        ∃ handle, report.state.ledger = (fetch desk.ledger a.plan.response handle
          (desk.ledger.submit artifact s.ledger).2).2)
  /-- Who is not asked stays as it was. -/
  unsigned : report.signings = [] → report.state.signer = s.signer
  unsubmitted : report.submissions = [] → report.state.ledger = s.ledger

/-! ## The calls of each course -/

/-- A submission adds one submission to what was done before and asks the signer for nothing. -/
theorem Submission.calls {plan : Plan} {artifact : Artifact} {body : Bytes}
    {report : CallReport κ σ τ (Except DispatchError Response)}
    (course : Submission desk plan artifact [.sign body] s report) :
    report.signings = [body] ∧ report.submissions = [artifact] := by
  cases course with
  | untaken _ => exact ⟨rfl, rfl⟩
  | unsettled _ _ _ => exact ⟨rfl, rfl⟩
  | settled _ _ => exact ⟨rfl, rfl⟩

/-- A submission leaves the signer alone; the ledger takes the artifact and is asked for the
settlement at most. -/
theorem Submission.states {plan : Plan} {artifact : Artifact} {before : List Action}
    {report : CallReport κ σ τ (Except DispatchError Response)}
    (course : Submission desk plan artifact before s report) :
    report.state.signer = s.signer ∧
      (report.state.ledger = (desk.ledger.submit artifact s.ledger).2 ∨
        ∃ handle, report.state.ledger = (fetch desk.ledger plan.response handle
          (desk.ledger.submit artifact s.ledger).2).2) := by
  cases course with
  | untaken _ => exact ⟨rfl, Or.inl rfl⟩
  | unsettled _ _ left =>
    rcases left with left | left
    · exact ⟨rfl, Or.inl left⟩
    · exact ⟨rfl, Or.inr ⟨_, left⟩⟩
  | settled _ _ => exact ⟨rfl, Or.inr ⟨_, rfl⟩⟩

/-- Whatever becomes of the response, a call that took one of the courses was gated. -/
theorem Course.gated {run : CallReport κ σ τ (Except DispatchError Response)}
    (course : Course d desk token request id t s run) (response : Option Response) :
    Gated d desk token request id t s
      ⟨response, run.submitted, run.actions, run.time, run.state⟩ := by
  cases course with
  | unsigned refused _ =>
    refine ⟨by simp [CallReport.signings], by simp [CallReport.submissions], ?_, ?_, ?_, ?_,
      fun _ => rfl, fun _ => rfl⟩
    · exact ⟨fun asked => (asked rfl).elim, fun ⟨a⟩ => (refused.false a).elim⟩
    · exact ⟨fun asked => (asked rfl).elim, fun ⟨a, _⟩ => (refused.false a).elim⟩
    · intro body asked
      cases asked
    · intro artifact asked
      cases asked
  | unsubmitted a withheld _ =>
    refine ⟨Nat.le_refl _, by simp [CallReport.submissions], ?_, ?_, ?_, ?_, ?_, fun _ => rfl⟩
    · exact ⟨fun _ => ⟨a⟩, fun _ => List.cons_ne_nil _ _⟩
    · refine ⟨fun asked => (asked rfl).elim, ?_⟩
      rintro ⟨b, authorization, authorized⟩
      cases b.eq a
      exact (withheld authorization authorized).elim
    · intro body asked
      cases List.mem_singleton.mp asked
      exact ⟨a, rfl, rfl⟩
    · intro artifact asked
      cases asked
    · intro unasked
      cases unasked
  | @submitted authorization a authorized =>
    have course := submit_submission desk a.plan ⟨id, a.body id, authorization⟩
      [.sign (a.body id)] (a.signing id).time (a.signedState id)
    generalize submit desk a.plan ⟨id, a.body id, authorization⟩
      [.sign (a.body id)] (a.signing id).time (a.signedState id) = run at course
    have signings : CallReport.signings
        ⟨response, run.submitted, run.actions, run.time, run.state⟩ = [a.body id] :=
      course.calls.1
    have submissions : CallReport.submissions
        ⟨response, run.submitted, run.actions, run.time, run.state⟩ =
          [⟨id, a.body id, authorization⟩] :=
      course.calls.2
    obtain ⟨signer, ledger⟩ := course.states
    refine ⟨?_, ?_, ?_, ?_, ?_, ?_, ?_, ?_⟩
    · rw [signings]
      exact Nat.le_refl _
    · rw [submissions]
      exact Nat.le_refl _
    · rw [signings]
      exact ⟨fun _ => ⟨a⟩, fun _ => List.cons_ne_nil _ _⟩
    · rw [submissions]
      exact ⟨fun _ => ⟨a, authorization, authorized⟩, fun _ => List.cons_ne_nil _ _⟩
    · intro body asked
      rw [signings] at asked
      cases List.mem_singleton.mp asked
      exact ⟨a, rfl, signer⟩
    · intro artifact asked
      rw [submissions] at asked
      cases List.mem_singleton.mp asked
      exact ⟨a, surface_of_plan a.built, rfl, rfl, signings, authorized.1, ledger⟩
    · intro unasked
      rw [signings] at unasked
      cases unasked
    · intro unasked
      rw [submissions] at unasked
      cases unasked

/-! ## The first entry decides -/

theorem run_narrowed (d : Dispatcher) (desk : Desk κ σ τ) (token : Token) (request : Request)
    (id : TransactionId) (t : Timeline) (s : DeskState κ σ τ) :
    d.run (desk.narrowed request.operation) token request id t s =
      d.run desk token request id t s := by
  unfold run
  have raced := Timeline.race_map t
    (fun answer : Except String (List Capability) => answer.map fun capabilities =>
      (firstEntry capabilities request.operation).toList)
    (desk.capabilities d.account token) s.lookup
  change t.race ((desk.narrowed request.operation).capabilities d.account token) s.lookup = _
    at raced
  rw [raced]
  rcases t.race (desk.capabilities d.account token) s.lookup with ⟨outcome, lookup⟩
  cases outcome with
  | endless time => rfl
  | cancelled time => rfl
  | answered answer time =>
    cases answer with
    | error reason => rfl
    | ok capabilities =>
      simp only [Waited.map, Except.map, plan_firstEntry]
      rfl

/-- **Gating.** Only a request that the first entry for its operation allows, and that the surface
of this entry supports and builds, is given to the signer; only what the signer returned for these
very bytes is submitted; and no call notices any other entry. -/
theorem execute_gated (d : Dispatcher) (desk : Desk κ σ τ) (token : Token) (request : Request)
    (id : TransactionId) (t : Timeline) (s : DeskState κ σ τ) :
    Gated d desk token request id t s (d.execute desk token request id t s) ∧
      d.execute (desk.narrowed request.operation) token request id t s =
        d.execute desk token request id t s := by
  constructor
  · exact (run_course d desk token request id t s).gated _
  · unfold execute
    rw [run_narrowed]

end Dispatcher

end TokenDesk
