import TokenDesk.Proofs.Dispatch.Gating
import TokenDesk.Proofs.Settlement
import TokenDesk.Proofs.Text.Ids

/-!
Which transaction a response names.

With a ledger that keeps to the ids it is given (`Ledger.Faithful`; the ledger in memory does), a
response names a transaction exactly if one was submitted, and then that one: the id is the
artifact's and stands in the signed body. A failure links to the transaction it names and to no
other. So after a failure without an id nothing was submitted.
-/

namespace TokenDesk

variable {κ σ τ : Type}

/-! ## Ledgers that keep to the ids they are given -/

/-- Handles, receipts and records carry the id of what was submitted. -/
structure Ledger.Faithful (ledger : Ledger τ) : Prop where
  submit : ∀ {artifact l handle}, (ledger.submit artifact l).1.answer = some (.ok handle) →
    handle = artifact.transaction
  receipt : ∀ {id l found}, (ledger.receipt id l).1.answer = some (.ok found) →
    found.transaction = id
  record : ∀ {id l found}, (ledger.record id l).1.answer = some (.ok found) →
    found.receipt.transaction = id

/-- The ledger in memory is faithful, whatever its outcome. -/
theorem MemoryLedger.faithful : MemoryLedger.ledger.Faithful where
  submit {artifact l handle} taken := by
    simp only [ledger, Wait.now, MemoryLedger.submit] at taken
    split at taken
    · cases taken
    · cases taken
      rfl
  receipt {id l found} answered := by
    simp only [ledger, Wait.now, MemoryLedger.receipt] at answered
    split at answered
    · cases answered
    · cases answered
      rfl
  record {id l found} answered := by
    simp only [ledger, Wait.now, MemoryLedger.record] at answered
    split at answered
    · cases answered
    · cases answered
      rfl
    · cases answered
      rfl

theorem Ledger.Faithful.fetch {ledger : Ledger τ} (faithful : ledger.Faithful)
    {kind : ResponseKind} {id : TransactionId} {l : τ} {settlement : Settlement}
    (found : (Dispatcher.fetch ledger kind id l).1.answer = some (.ok settlement)) :
    settlement.toReceipt.transaction = id := by
  cases kind with
  | receiptOnly =>
    simp only [Dispatcher.fetch, Wait.map, Option.map_eq_some_iff] at found
    obtain ⟨answer, answered, mapped⟩ := found
    cases answer with
    | error e => cases mapped
    | ok receipt =>
      cases mapped
      exact faithful.receipt answered
  | fullRecord =>
    simp only [Dispatcher.fetch, Wait.map, Option.map_eq_some_iff] at found
    obtain ⟨answer, answered, mapped⟩ := found
    cases answer with
    | error e => cases mapped
    | ok record =>
      cases mapped
      exact faithful.record answered

/-! ## Responses before the link -/

/-- A response names a transaction, and has no link yet. -/
def Response.Names (response : Response) (id : Option TransactionId) : Prop :=
  response.id = id ∧ ∀ failure, response.failure? = some failure → failure.link = none

/-- A settlement's response names the transaction of its receipt. -/
theorem Settlement.response_names {settlement : Settlement} {kind : ResponseKind}
    {format : Option ReturnFormat} {response : Response}
    (answered : settlement.response kind format = .ok response) :
    response.Names (some settlement.toReceipt.transaction) := by
  have comes := settlement.comes_response kind format
  rw [answered] at comes
  cases comes with
  | failed _ =>
    refine ⟨rfl, ?_⟩
    rintro failure ⟨⟩
    rfl
  | receiptOnly _ =>
    refine ⟨rfl, ?_⟩
    rintro failure ⟨⟩
  | read _ _ =>
    refine ⟨rfl, ?_⟩
    rintro failure ⟨⟩

namespace Dispatcher

variable {d : Dispatcher} {desk : Desk κ σ τ} {token : Token} {request : Request}
  {id : TransactionId} {t : Timeline} {s : DeskState κ σ τ}

/-- An error becomes a failure that names what was submitted, if anything was. -/
theorem conclude_error_names (submitted : Option TransactionId) (e : DispatchError) :
    (conclude submitted (.error e)).Names submitted := by
  cases submitted with
  | none =>
    refine ⟨rfl, ?_⟩
    rintro failure ⟨⟩
    rfl
  | some id =>
    refine ⟨rfl, ?_⟩
    rintro failure ⟨⟩
    rfl

theorem Submission.result_names {plan : Plan} {artifact : Artifact} {before : List Action}
    {report : CallReport κ σ τ (Except DispatchError Response)}
    (course : Submission desk plan artifact before s report) (faithful : desk.ledger.Faithful)
    {result : Except DispatchError Response} (ended : report.result = some result) :
    (conclude report.submitted result).Names (some artifact.transaction) := by
  cases course with
  | untaken failed =>
    obtain ⟨e, rfl⟩ := failed result ended
    exact conclude_error_names _ _
  | unsettled _ failed _ =>
    obtain ⟨e, rfl⟩ := failed result ended
    exact conclude_error_names _ _
  | @settled handle settlement time taken found =>
    cases ended
    cases answered : settlement.response plan.response plan.format with
    | error e => exact conclude_error_names _ _
    | ok response =>
      have names := Settlement.response_names answered
      rw [faithful.fetch found, faithful.submit taken] at names
      exact names

/-- Without a submission the response names no transaction, and else the submitted one. -/
theorem Course.result_names {run : CallReport κ σ τ (Except DispatchError Response)}
    (course : Course d desk token request id t s run) (faithful : desk.ledger.Faithful)
    {result : Except DispatchError Response} (ended : run.result = some result) :
    (conclude run.submitted result).Names (run.submissions.head?.map Artifact.transaction) := by
  cases course with
  | unsigned _ failed =>
    obtain ⟨e, rfl⟩ := failed result ended
    exact conclude_error_names none e
  | unsubmitted _ _ failed =>
    obtain ⟨e, rfl⟩ := failed result ended
    exact conclude_error_names none e
  | @submitted authorization a _ =>
    have submission := submit_submission desk a.plan ⟨id, a.body id, authorization⟩
      [.sign (a.body id)] (a.signing id).time (a.signedState id)
    rw [submission.calls.2]
    exact submission.result_names faithful ended

/-! ## The link -/

/-- What the explorer's address for a transaction is, if there is one. -/
def link? (d : Dispatcher) (id : TransactionId) : Option Url :=
  (d.explorer.transactionUrl id).toOption

/-- Linking keeps what a response names; a failure gets the link to that transaction. -/
theorem linked_of_names {response : Response} {named : Option TransactionId}
    (names : response.Names named) :
    (d.linked response).id = named ∧
      ∀ failure, (d.linked response).failure? = some failure →
        failure.transaction = named ∧ failure.link = named.bind d.link? := by
  obtain ⟨rfl, unlinked⟩ := names
  cases response with
  | success id payload =>
    refine ⟨rfl, ?_⟩
    rintro failure ⟨⟩
  | failure cause =>
    have bare : cause.link = none := unlinked cause rfl
    unfold linked
    cases about : cause.transaction with
    | none =>
      have named : (Response.failure cause).failure?.bind Failure.transaction = none := about
      rw [named]
      refine ⟨rfl, ?_⟩
      rintro failure ⟨⟩
      exact ⟨rfl, by rw [bare, Response.id, about]; rfl⟩
    | some id =>
      have named : (Response.failure cause).failure?.bind Failure.transaction = some id := about
      rw [named]
      dsimp only
      have target : (Response.failure cause).id.bind d.link? = d.link? id := by
        rw [Response.id, about]
        rfl
      rw [target]
      cases address : d.explorer.transactionUrl id with
      | error e =>
        refine ⟨rfl, ?_⟩
        rintro failure ⟨⟩
        exact ⟨rfl, by rw [bare, link?, address]; rfl⟩
      | ok url =>
        refine ⟨rfl, ?_⟩
        rintro failure ⟨⟩
        exact ⟨rfl, by rw [link?, address]; rfl⟩

/-! ## Responses of whole calls -/

/-- A response and the submission it is about. -/
structure Linked (d : Dispatcher) (s : DeskState κ σ τ) (report : CallReport κ σ τ Response)
    (response : Response) : Prop where
  /-- A response has an id exactly if something was submitted. -/
  id_iff : response.id.isSome ↔ report.submissions ≠ []
  /-- The id is the artifact's, and the signed body begins with it. -/
  submitted : ∀ artifact ∈ report.submissions, response.id = some artifact.transaction ∧
    ∃ rest, artifact.body = Text.utf8
      ("\x7b\"transaction_id\":\"".toList ++ artifact.transaction.text ++ '"' :: rest)
  /-- A failure names the same id and links to it, if the explorer has an address for it. -/
  failed : ∀ failure, response.failure? = some failure →
    failure.transaction = response.id ∧ failure.link = response.id.bind d.link?
  /-- After a failure without an id, retryable or not, the ledger is as it was. -/
  unsubmitted : ∀ failure, response.failure? = some failure → failure.transaction = none →
    report.submissions = [] ∧ report.state.ledger = s.ledger
  exclusive : response.payload?.isSome = !response.failure?.isSome

/-- **Linkage.** Whatever the capabilities, the signer, the cancellation and the outcome: the
response to a call names exactly what the call submitted. -/
theorem execute_linked (d : Dispatcher) (desk : Desk κ σ τ) (token : Token) (request : Request)
    (id : TransactionId) (t : Timeline) (s : DeskState κ σ τ) (response : Response)
    (faithful : desk.ledger.Faithful)
    (ended : (d.execute desk token request id t s).result = some response) :
    Linked d s (d.execute desk token request id t s) response := by
  have course := run_course d desk token request id t s
  obtain ⟨result, found, rfl⟩ := Option.map_eq_some_iff.mp ended
  have gated : Gated d desk token request id t s (d.execute desk token request id t s) :=
    course.gated _
  obtain ⟨names, failures⟩ := linked_of_names (d := d) (course.result_names faithful found)
  rw [← names] at failures
  generalize d.linked (conclude (d.run desk token request id t s).submitted result) = response
    at ended names failures
  change response.id = (d.execute desk token request id t s).submissions.head?.map
    Artifact.transaction at names
  generalize d.execute desk token request id t s = report at ended gated names failures
  refine ⟨?_, ?_, ?_, ?_, ?_⟩
  · rw [names, Option.isSome_map, List.isSome_head?]
  · intro artifact member
    obtain ⟨a, -, named, body, -⟩ := gated.submitted artifact member
    have only : report.submissions = [artifact] := by
      obtain ⟨first, all⟩ := List.length_eq_one_iff.mp
        (Nat.le_antisymm gated.submits_once (List.length_pos_of_mem member))
      rw [all] at member ⊢
      rw [List.mem_singleton.mp member]
    refine ⟨by rw [names, only]; rfl, ?_⟩
    rw [body, named]
    exact Unsigned.bytes_eq _
  · intro failure caused
    exact failures failure caused
  · intro failure caused bare
    have transaction := (failures failure caused).1
    have empty : report.submissions = [] := by
      rw [bare, names] at transaction
      simpa using transaction.symm
    exact ⟨empty, gated.unsubmitted empty⟩
  · cases response with
    | success id payload => rfl
    | failure cause => rfl

/-- A desk that may pause tokens natively; its signer hands the payload back as the signature. -/
def pausingDesk : Desk Unit Unit MemoryLedger where
  capabilities _ _ lookup := (.now (.ok [⟨.pause, .native⟩]), lookup)
  signer := ⟨.localKey, fun payload t s => ⟨some (.ok (.signature payload)), t, s⟩⟩
  ledger := MemoryLedger.ledger

/-- A submitted transaction whose receipt fails: the failure names it. -/
theorem execute_linked_receiptError :
    let site : Url := ⟨"https".toList, [], [], some "hashscan.io".toList, none, .segments [[]],
      none, none⟩
    let d : Dispatcher := ⟨⟨0, 0, 2⟩, ⟨site, .testnet⟩, defaultMaxFee⟩
    let token : Token := ⟨⟨0, 0, 7⟩, none, ⟨0, 0, 8⟩, 6⟩
    let id : TransactionId := ⟨⟨0, 0, 2⟩, 1700000000, 5⟩
    let s : DeskState Unit Unit MemoryLedger := ⟨(), (), .ofOutcome (.receiptError "gone")⟩
    let report := d.execute pausingDesk token .pause id (.start none fun _ => true) s
    pausingDesk.ledger.Faithful ∧ ∃ failure, report.result = some (.failure failure) ∧
      failure.transaction = some id ∧ Linked d s report (.failure failure) := by
  intro site d token id s report
  have ended : ∃ failure, report.result = some (.failure failure) ∧
      failure.transaction = some id := ⟨_, rfl, rfl⟩
  obtain ⟨failure, failed, named⟩ := ended
  exact ⟨MemoryLedger.faithful, failure, failed, named,
    execute_linked d pausingDesk token .pause id _ s _ MemoryLedger.faithful failed⟩

end Dispatcher

end TokenDesk
