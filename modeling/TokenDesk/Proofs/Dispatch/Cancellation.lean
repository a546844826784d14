import TokenDesk.Proofs.Dispatch.Linkage
import TokenDesk.Proofs.Signing.Cancellation

/-!
When a call is cancelled.

Between signing and submitting a call looks once whether it is cancelled (`checkTime`). If it is by
then, nothing is submitted and the caller gets a failure that names no transaction. Afterwards the
call submits once and answers for this transaction, whether the ledger tells what became of it or a
cancellation comes first (`Answer`). Both hold of any signer that heeds the cancellation, and all
signers do. What is asked of whom is in the courses of a call; here `run_progress` and
`submit_answer` add the times.
-/

namespace TokenDesk

variable {κ σ τ : Type}

namespace Dispatcher

/-- The time of the look between signing and submitting; of a call that does not come so far, the
time of its end. -/
def checkTime (d : Dispatcher) (desk : Desk κ σ τ) (token : Token) (request : Request)
    (id : TransactionId) (t : Timeline) (s : DeskState κ σ τ) : Timeline :=
  match (t.race (desk.capabilities d.account token) s.lookup).1 with
  | .answered (.ok capabilities) t =>
    match d.plan capabilities token request with
    | .ok plan => (desk.signer.sign (d.unsigned plan id).bytes t s.signer).time
    | .error _ => t
  | waited => waited.time

variable {d : Dispatcher} {desk : Desk κ σ τ} {token : Token} {request : Request}
  {id : TransactionId} {t check : Timeline} {s : DeskState κ σ τ}

/-! ## Up to the submission -/

/-- How a call goes up to the submission: it ends before, or it is not cancelled at the check. -/
inductive Progress (d : Dispatcher) (desk : Desk κ σ τ) (token : Token) (request : Request)
    (id : TransactionId) (check : Timeline) (s : DeskState κ σ τ) :
    CallReport κ σ τ (Except DispatchError Response) → Prop
  | stopped {run : CallReport κ σ τ (Except DispatchError Response)} :
    run.submitted = none → run.submissions = [] → run.state.ledger = s.ledger →
    (∀ result, run.result = some result → ∃ e, result = .error e) →
    (run.result = none → check.cancelAt = none) →
    Progress d desk token request id check s run
  | submitting {capabilities : List Capability} {plan : Plan}
    {authorization : Signing.Authorization} {state : DeskState κ σ τ} :
    d.plan capabilities token request = .ok plan → check.isCancelled = false →
    state.ledger = s.ledger →
    Progress d desk token request id check s
      (submit desk plan ⟨id, (d.unsigned plan id).bytes, authorization⟩
        [.sign (d.unsigned plan id).bytes] check state)

theorem signAndSubmit_progress (heeds : desk.signer.Heeds) {capabilities : List Capability}
    {plan : Plan} (planned : d.plan capabilities token request = .ok plan)
    (id : TransactionId) (t : Timeline) (s : DeskState κ σ τ) :
    Progress d desk token request id
      (desk.signer.sign (d.unsigned plan id).bytes t s.signer).time s
      (d.signAndSubmit desk plan id t s) := by
  have ends := (heeds (d.unsigned plan id).bytes t s.signer).ends
  unfold signAndSubmit
  dsimp only
  split
  · rename_i silent
    exact .stopped rfl rfl rfl (by simp) (fun _ => ends silent)
  · exact .stopped rfl rfl rfl (by simp) (by simp)
  · split
    · exact .stopped rfl rfl rfl (by simp) (by simp)
    · rename_i live
      exact .submitting planned (eq_false_of_ne_true live) rfl

/-- Every call comes to its check, or ends at that time. -/
theorem run_progress (d : Dispatcher) (heeds : desk.signer.Heeds) (token : Token)
    (request : Request) (id : TransactionId) (t : Timeline) (s : DeskState κ σ τ) :
    t.Follows (d.checkTime desk token request id t s) ∧
      Progress d desk token request id (d.checkTime desk token request id t s) s
        (d.run desk token request id t s) := by
  have follows := Timeline.follows_race t (desk.capabilities d.account token) s.lookup
  unfold run checkTime
  rcases raced : t.race (desk.capabilities d.account token) s.lookup with ⟨waited, lookup⟩
  rw [raced] at follows
  cases waited with
  | endless time =>
    have unknown := (Timeline.of_race_endless raced).2
    exact ⟨follows, .stopped rfl rfl rfl (by simp) (fun _ => unknown)⟩
  | cancelled time => exact ⟨follows, .stopped rfl rfl rfl (by simp) (by simp)⟩
  | answered answer time =>
    cases answer with
    | error reason => exact ⟨follows, .stopped rfl rfl rfl (by simp) (by simp)⟩
    | ok capabilities =>
      dsimp only
      cases planned : d.plan capabilities token request with
      | error e => exact ⟨follows, .stopped rfl rfl rfl (by simp) (by simp)⟩
      | ok plan =>
        refine ⟨follows.trans (heeds _ time s.signer).follows, ?_⟩
        have progress := signAndSubmit_progress heeds planned id time { s with lookup }
        dsimp only at progress ⊢
        generalize d.signAndSubmit desk plan id time { s with lookup } = run at progress
        cases progress with
        | stopped nothing unsubmitted kept failed ends =>
          exact .stopped nothing unsubmitted kept failed ends
        | submitting planned live kept => exact .submitting planned live kept

/-! ## From the submission on -/

/-- What the ledger tells about an artifact: that it does not take it, that it cannot say what
became of it, or what became of it. -/
inductive LedgerTells (ledger : Ledger τ) (plan : Plan) (artifact : Artifact) (l : τ) :
    Except DispatchError Response → Prop
  | refused {e : LedgerError} :
    (ledger.submit artifact l).1.answer = some (.error e) →
    LedgerTells ledger plan artifact l (.error (.ledger e))
  | unknown {handle : TransactionId} {e : LedgerError} :
    (ledger.submit artifact l).1.answer = some (.ok handle) →
    (fetch ledger plan.response handle (ledger.submit artifact l).2).1.answer =
      some (.error e) →
    LedgerTells ledger plan artifact l (.error (.ledger e))
  | settled {handle : TransactionId} {settlement : Settlement} :
    (ledger.submit artifact l).1.answer = some (.ok handle) →
    (fetch ledger plan.response handle (ledger.submit artifact l).2).1.answer =
      some (.ok settlement) →
    LedgerTells ledger plan artifact l
      ((settlement.response plan.response plan.format).mapError .response)

/-- What a call that has submitted an artifact comes to by a time. -/
inductive Answer (ledger : Ledger τ) (plan : Plan) (artifact : Artifact) (l : τ)
    (time : Timeline) : Except DispatchError Response → Prop
  | cancelled :
    time.isCancelled = true →
    Answer ledger plan artifact l time (.error (.cancelled .settlement))
  | told {result : Except DispatchError Response} :
    LedgerTells ledger plan artifact l result → Answer ledger plan artifact l time result

/-- A submission comes to an answer, unless the ledger never takes the artifact or nobody cancels
while the ledger is silent. -/
theorem submit_answer (desk : Desk κ σ τ) (plan : Plan) (artifact : Artifact)
    (before : List Action) (t : Timeline) (s : DeskState κ σ τ) :
    let report := submit desk plan artifact before t s
    t.Follows report.time ∧
    (∀ result, report.result = some result →
      Answer desk.ledger plan artifact s.ledger report.time result) ∧
    (report.result = none →
      (desk.ledger.submit artifact s.ledger).1.answer = none ∨ report.time.cancelAt = none) := by
  intro report
  subst report
  have follows := Timeline.follows_await t (desk.ledger.submit artifact s.ledger).1
  unfold submit
  dsimp only
  cases awaited : t.await (desk.ledger.submit artifact s.ledger).1 with
  | endless time =>
    rw [awaited] at follows
    exact ⟨follows, by simp, fun _ => .inl (Timeline.answer_of_await_endless awaited)⟩
  | cancelled time => exact (Timeline.await_ne_cancelled awaited).elim
  | answered answer time =>
    rw [awaited] at follows
    have taken := Timeline.answer_of_await awaited
    cases answer with
    | error e =>
      refine ⟨follows, ?_, by simp⟩
      rintro result ⟨⟩
      exact .told (.refused taken)
    | ok handle =>
      have later := follows.trans (Timeline.follows_race time
        (fetch desk.ledger plan.response handle) (desk.ledger.submit artifact s.ledger).2)
      dsimp only
      rcases raced : time.race (fetch desk.ledger plan.response handle)
        (desk.ledger.submit artifact s.ledger).2 with ⟨waited, ledger⟩
      rw [raced] at later
      cases waited with
      | endless time => exact ⟨later, by simp, fun _ => .inr (Timeline.of_race_endless raced).2⟩
      | cancelled time =>
        refine ⟨later, ?_, by simp⟩
        rintro result ⟨⟩
        exact .cancelled (Timeline.isCancelled_of_race raced)
      | answered answer time =>
        have found := (Timeline.of_race_answered raced).1
        cases answer with
        | error e =>
          refine ⟨later, ?_, by simp⟩
          rintro result ⟨⟩
          exact .told (.unknown taken found)
        | ok settlement =>
          refine ⟨later, ?_, by simp⟩
          rintro result ⟨⟩
          exact .told (.settled taken found)

/-- A failure that the ledger tells is that of a settlement. -/
theorem kind_of_response {settlement : Settlement} {kind : ResponseKind}
    {format : Option ReturnFormat} {response : Response} {failure : Failure}
    (answered : settlement.response kind format = .ok response)
    (failed : response.failure? = some failure) : failure.kind = .settlementFailed := by
  have comes := settlement.comes_response kind format
  rw [answered] at comes
  cases comes with
  | failed _ =>
    cases failed
    rfl
  | receiptOnly _ => cases failed
  | read _ _ => cases failed

theorem kind_of_linked {d : Dispatcher} {response : Response} {failure : Failure}
    (failed : (d.linked response).failure? = some failure) :
    ∃ cause, response.failure? = some cause ∧ failure.kind = cause.kind := by
  unfold linked at failed
  split at failed
  · exact ⟨failure, failed, rfl⟩
  · split at failed
    · cases response with
      | success id payload => cases failed
      | failure cause =>
        cases failed
        exact ⟨cause, rfl, rfl⟩
    · exact ⟨failure, failed, rfl⟩

/-- A response that is no error of the call fails only if the settlement did. -/
theorem Answer.kind_of_ok {ledger : Ledger τ} {plan : Plan} {artifact : Artifact} {l : τ}
    {time : Timeline} {response : Response} {failure : Failure}
    (answer : Answer ledger plan artifact l time (.ok response))
    (failed : response.failure? = some failure) : failure.kind = .settlementFailed := by
  generalize same : Except.ok response = result at answer
  cases answer with
  | cancelled fired => cases same
  | told told =>
    cases told with
    | refused _ => cases same
    | unknown _ _ => cases same
    | settled _ _ => exact kind_of_response (of_mapError_ok same.symm) failed

/-! ## Cancellation of whole calls -/

/-- What a call has done and answers once it has submitted an artifact. -/
structure Submitted (d : Dispatcher) (desk : Desk κ σ τ) (token : Token) (request : Request)
    (id : TransactionId) (check : Timeline) (s : DeskState κ σ τ)
    (report : CallReport κ σ τ Response) (artifact : Artifact) : Prop where
  once : report.submissions = [artifact]
  named : artifact.transaction = id
  /-- The call was not cancelled when it looked, and time has gone on since. -/
  live : check.isCancelled = false
  follows : check.Follows report.time
  /-- It reports the cancellation, then it is cancelled, or what the ledger tells. -/
  answered : ∃ capabilities plan, d.plan capabilities token request = .ok plan ∧
    artifact.body = (d.unsigned plan id).bytes ∧
    ∀ response, report.result = some response →
      ∃ result, response = d.linked (conclude (some id) result) ∧
        Answer desk.ledger plan artifact s.ledger report.time result
  /-- In either case it names the transaction. Only what became of a settled transaction is named by
  the ledger, which has to keep to the ids for that. -/
  names : ∀ response, report.result = some response →
    (desk.ledger.Faithful ∨
      ∃ failure, response.failure? = some failure ∧ failure.kind ≠ .settlementFailed) →
    response.id = some id
  /-- The answer stays away only if the ledger never takes the artifact, or nobody cancels. -/
  ends : report.result = none →
    (desk.ledger.submit artifact s.ledger).1.answer = none ∨ report.time.cancelAt = none

/-- What a cancellation does to a call, depending on whether it comes before the check. -/
structure CancelSafe (d : Dispatcher) (desk : Desk κ σ τ) (token : Token) (request : Request)
    (id : TransactionId) (t check : Timeline) (s : DeskState κ σ τ)
    (report : CallReport κ σ τ Response) : Prop where
  /-- A cancellation before the call began, or due by the check, has come at the check. -/
  started : t.isCancelled = true → check.isCancelled = true
  due : ∀ c, t.cancelAt = some c → c ≤ check.now → check.isCancelled = true
  /-- Then nothing is submitted, and the call fails without a transaction and without a link. -/
  before : check.isCancelled = true → report.submissions = [] ∧ report.state.ledger = s.ledger ∧
    ∃ failure, report.result = some (.failure failure) ∧ failure.transaction = none ∧
      failure.link = none
  after : ∀ artifact ∈ report.submissions,
    Submitted d desk token request id check s report artifact

/-- A call that is cancelled by its check stops there, with an error of its own. -/
theorem Progress.of_cancelled {run : CallReport κ σ τ (Except DispatchError Response)}
    (progress : Progress d desk token request id check s run)
    (cancelled : check.isCancelled = true) :
    (∃ e, run.result = some (.error e)) ∧ run.submitted = none ∧ run.submissions = [] ∧
      run.state.ledger = s.ledger := by
  cases progress with
  | submitting planned live kept => cases cancelled.symm.trans live
  | stopped nothing unsubmitted kept failed ends =>
    refine ⟨?_, nothing, unsubmitted, kept⟩
    cases ended : run.result with
    | none => exact (Timeline.cancelAt_ne_none cancelled (ends ended)).elim
    | some result =>
      obtain ⟨e, rfl⟩ := failed result ended
      exact ⟨e, rfl⟩

/-- A call that submits something does so once, and comes to an answer for it. -/
theorem Progress.submitted {run : CallReport κ σ τ (Except DispatchError Response)}
    (progress : Progress d desk token request id check s run)
    (course : Course d desk token request id t s run) {artifact : Artifact}
    (member : artifact ∈ run.submissions) :
    Submitted d desk token request id check s
      ⟨run.result.map fun r => d.linked (conclude run.submitted r), run.submitted, run.actions,
        run.time, run.state⟩ artifact := by
  have names : desk.ledger.Faithful → ∀ result, run.result = some result →
      (d.linked (conclude run.submitted result)).id =
        run.submissions.head?.map Artifact.transaction :=
    fun faithful result ended => (linked_of_names (course.result_names faithful ended)).1
  cases progress with
  | stopped nothing unsubmitted kept failed ends =>
    rw [unsubmitted] at member
    cases member
  | @submitting capabilities plan authorization state planned live kept =>
    have submission := submit_submission desk plan ⟨id, (d.unsigned plan id).bytes, authorization⟩
      [.sign (d.unsigned plan id).bytes] check state
    have answer := submit_answer desk plan ⟨id, (d.unsigned plan id).bytes, authorization⟩
      [.sign (d.unsigned plan id).bytes] check state
    dsimp only at answer
    rw [kept] at answer
    generalize submit desk plan ⟨id, (d.unsigned plan id).bytes, authorization⟩
      [.sign (d.unsigned plan id).bytes] check state = run at submission answer names member
    have once := submission.calls.2
    rw [once] at member names
    rw [submission.submitted] at names ⊢
    cases List.mem_singleton.mp member
    refine ⟨once, rfl, live, answer.1, ⟨capabilities, plan, planned, rfl, ?_⟩, ?_, ?_⟩
    · intro response ended
      obtain ⟨result, found, rfl⟩ := Option.map_eq_some_iff.mp ended
      exact ⟨result, rfl, answer.2.1 result found⟩
    · intro response ended reliable
      obtain ⟨result, found, rfl⟩ := Option.map_eq_some_iff.mp ended
      rcases reliable with faithful | ⟨failure, failed, own⟩
      · exact names faithful result found
      · cases result with
        | error e => exact (linked_of_names (conclude_error_names (some id) e)).1
        | ok response =>
          obtain ⟨cause, caused, kind⟩ := kind_of_linked failed
          exact (own (kind.trans ((answer.2.1 _ found).kind_of_ok caused))).elim
    · intro never
      exact answer.2.2 (Option.map_eq_none_iff.mp never)

/-- **Cancellation safety.** A key at hand, every custodial provider and every wallet heed the
cancellation of a call, and with a signer that does, no call that is cancelled by its check submits
anything, and a call that submits does so once and answers for that transaction. -/
theorem execute_cancelSafe :
    (∀ key, (Signing.Signer.ofKey key).Heeds) ∧
    (∀ {σ : Type} strategy (provider : Signing.Provider σ) config,
      (Signing.Signer.ofProvider strategy provider config).Heeds) ∧
    Signing.Signer.ofWallet.Heeds ∧
    ∀ {κ σ τ : Type} (d : Dispatcher) (desk : Desk κ σ τ) (token : Token) (request : Request)
      (id : TransactionId) (t : Timeline) (s : DeskState κ σ τ), desk.signer.Heeds →
      CancelSafe d desk token request id t (d.checkTime desk token request id t s) s
        (d.execute desk token request id t s) := by
  refine ⟨Signing.Signer.ofKey_heeds, Signing.Signer.ofProvider_heeds,
    Signing.Signer.ofWallet_heeds, ?_⟩
  intro κ σ τ d desk token request id t s heeds
  obtain ⟨follows, progress⟩ := run_progress d heeds token request id t s
  have course := run_course d desk token request id t s
  refine ⟨follows.isCancelled, fun c known due => follows.isCancelled_of_due known due, ?_, ?_⟩
  · intro cancelled
    obtain ⟨⟨e, failed⟩, nothing, unsubmitted, kept⟩ := progress.of_cancelled cancelled
    have answered : (d.execute desk token request id t s).result = some (.failure e.classify) := by
      change (d.run desk token request id t s).result.map _ = _
      rw [failed, Option.map_some, nothing]
      rfl
    exact ⟨unsubmitted, kept, e.classify, answered, rfl, rfl⟩
  · intro artifact member
    exact progress.submitted course member

/-- A desk like the pausing one whose signatures come from a custodial provider. -/
def custodialDesk : Desk Unit Signing.Stepped MemoryLedger where
  capabilities := pausingDesk.capabilities
  signer := .ofProvider .dfns Signing.Stepped.provider ⟨3, 1000⟩
  ledger := pausingDesk.ledger

/-- A desk like the pausing one whose ledger takes its time with every transaction. -/
def slowDesk : Desk Unit Unit MemoryLedger where
  capabilities := pausingDesk.capabilities
  signer := pausingDesk.signer
  ledger := { pausingDesk.ledger with
    submit := fun artifact l =>
      let (a, l) := l.submit artifact
      (⟨10, some a, false⟩, l) }

/-- A cancellation between two polls of the provider keeps the call from submitting; one that comes
while the ledger takes the transaction does not, and the failure names it. -/
theorem execute_cancelSafe_polling :
    let site : Url := ⟨"https".toList, [], [], some "hashscan.io".toList, none, .segments [[]],
      none, none⟩
    let d : Dispatcher := ⟨⟨0, 0, 2⟩, ⟨site, .testnet⟩, defaultMaxFee⟩
    let token : Token := ⟨⟨0, 0, 7⟩, none, ⟨0, 0, 8⟩, 6⟩
    let id : TransactionId := ⟨⟨0, 0, 2⟩, 1700000000, 5⟩
    let polls : Signing.Stepped := ⟨[], false, false, [⟨0, some (.ok .pending), true⟩], []⟩
    let early : DeskState Unit Signing.Stepped MemoryLedger :=
      ⟨(), polls, .ofOutcome (.success none)⟩
    let late : DeskState Unit Unit MemoryLedger := ⟨(), (), .ofOutcome (.success none)⟩
    let t := Timeline.start none fun _ => true
    let t' := Timeline.start (some 5) fun _ => false
    (custodialDesk.signer.Heeds ∧
      (d.checkTime custodialDesk token .pause id t early).isCancelled = true ∧
      (d.execute custodialDesk token .pause id t early).submissions = []) ∧
    slowDesk.signer.Heeds ∧
      ∃ failure, (d.execute slowDesk token .pause id t' late).result = some (.failure failure) ∧
        failure.kind = .cancelled ∧ failure.transaction = some id := by
  intro site d token id polls early late t t'
  have heeds : custodialDesk.signer.Heeds := execute_cancelSafe.2.1 .dfns _ _
  have heeds' : slowDesk.signer.Heeds := fun _ t s => .ended (.refl t) _ s
  have cancelled : (d.checkTime custodialDesk token .pause id t early).isCancelled = true := by
    decide +kernel
  have safe := execute_cancelSafe.2.2.2 d custodialDesk token .pause id t early heeds
  have ended : ∃ failure, (d.execute slowDesk token .pause id t' late).result =
      some (.failure failure) ∧ failure.kind = .cancelled ∧ failure.transaction = some id :=
    ⟨_, rfl, rfl, rfl⟩
  exact ⟨⟨heeds, cancelled, (safe.before cancelled).1⟩, heeds', ended⟩

end Dispatcher

end TokenDesk
