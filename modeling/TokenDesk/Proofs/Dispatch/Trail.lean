import TokenDesk.Proofs.Dispatch.Ledgers
import TokenDesk.Proofs.Dispatch.Linkage
import TokenDesk.Proofs.Dispatch.Outcome

/-!
Calls that follow one another on the ledger in memory.

Of that ledger only its outcome has a part in a call (`Call.apart_report`), and no call changes the
outcome: so each call of a sequence goes as it would alone. What a call leaves is the ledger with
what it submitted (`Call.ledger_report`), which is nothing or one artifact, and the response names
it. By induction over the calls the ledger's count and its list are those of the responses with an
id (`runCalls_trail`).
-/

namespace TokenDesk

variable {κ σ τ α : Type}

/-! ## The ledger in memory -/

/-- What a ledger keeps of artifacts: all of them, unless no submission succeeds. -/
def LedgerOutcome.kept (outcome : LedgerOutcome) (artifacts : List Artifact) : List Artifact :=
  match outcome with
  | .submitError _ => []
  | _ => artifacts

theorem LedgerOutcome.kept_append (outcome : LedgerOutcome) (front back : List Artifact) :
    outcome.kept (front ++ back) = outcome.kept front ++ outcome.kept back := by
  cases outcome <;> rfl

namespace MemoryLedger

/-- A ledger with the same answers that keeps nothing but its outcome. -/
def forgetful : Ledger LedgerOutcome where
  submit artifact outcome := ((ledger.submit artifact (ofOutcome outcome)).1, outcome)
  receipt id outcome := ((ledger.receipt id (ofOutcome outcome)).1, outcome)
  record id outcome := ((ledger.record id (ofOutcome outcome)).1, outcome)

/-- What the ledger in memory keeps has no part in its answers. -/
theorem along_outcome : ledger.Along MemoryLedger.outcome forgetful where
  submit artifact l := by
    rcases l with ⟨outcome, submissions, submitted⟩
    cases outcome <;> rfl
  receipt id l := by
    rcases l with ⟨outcome, submissions, submitted⟩
    cases outcome <;> rfl
  record id l := by
    rcases l with ⟨outcome, submissions, submitted⟩
    cases outcome <;> rfl

theorem submit_eq (l : MemoryLedger) (artifact : Artifact) : (l.submit artifact).2 =
    ⟨l.outcome, l.submissions + 1, l.submitted ++ l.outcome.kept [artifact]⟩ := by
  rcases l with ⟨outcome, submissions, submitted⟩
  cases outcome with
  | submitError reason =>
    rw [LedgerOutcome.kept, List.append_nil]
    rfl
  | success returned => rfl
  | settlementFailure code => rfl
  | receiptError reason => rfl

/-- The ledger after it was given artifacts in order. -/
def take (l : MemoryLedger) (artifacts : List Artifact) : MemoryLedger :=
  artifacts.foldl (fun l artifact => (l.submit artifact).2) l

theorem take_append (l : MemoryLedger) (front back : List Artifact) :
    l.take (front ++ back) = (l.take front).take back :=
  List.foldl_append

theorem take_eq (l : MemoryLedger) (artifacts : List Artifact) : l.take artifacts =
    ⟨l.outcome, l.submissions + artifacts.length, l.submitted ++ l.outcome.kept artifacts⟩ := by
  induction artifacts generalizing l with
  | nil =>
    have nothing : l.outcome.kept [] = [] := by cases l.outcome <;> rfl
    rw [nothing, List.append_nil]
    rfl
  | cons artifact artifacts ih =>
    have first : l.take (artifact :: artifacts) = (l.submit artifact).2.take artifacts := rfl
    rw [first, ih, submit_eq]
    dsimp only
    rw [List.append_assoc, ← LedgerOutcome.kept_append, List.singleton_append, List.length_cons,
      Nat.add_assoc, Nat.add_comm 1]

/-- What the queries of a ledger answer, which change nothing. -/
structure Reads (l : MemoryLedger) (id : TransactionId) : Prop where
  receipt : ledger.receipt id l = (.now (l.receipt id), l)
  record : ledger.record id l = (.now (l.record id), l)
  /-- Receipts and records report one status, or fail for one reason. -/
  status_iff : ∀ status, (∃ found, l.receipt id = .ok found ∧ found.status = status) ↔
    ∃ found, l.record id = .ok found ∧ found.receipt.status = status
  reason_iff : ∀ reason, l.receipt id = .error (.receipt id reason) ↔
    l.record id = .error (.record id reason)
  either : (∃ found, l.receipt id = .ok found) ∨
    ∃ reason, l.receipt id = .error (.receipt id reason)

theorem reads (l : MemoryLedger) (id : TransactionId) : l.Reads id := by
  rcases l with ⟨outcome, submissions, submitted⟩
  refine ⟨rfl, rfl, fun status => ?_, fun reason => ?_, ?_⟩
  · cases outcome <;> simp [receipt, record, LedgerOutcome.status]
  · cases outcome <;> simp [receipt, record]
  · cases outcome <;> simp [receipt]

end MemoryLedger

namespace Dispatcher

variable {d : Dispatcher} {desk : Desk κ σ MemoryLedger} {token : Token} {request : Request}
  {id : TransactionId} {t : Timeline} {s : DeskState κ σ MemoryLedger}

/-- Nobody waits in vain for the ledger in memory. -/
theorem exists_result_of_submit (memory : desk.ledger = MemoryLedger.ledger) (plan : Plan)
    (artifact : Artifact) (before : List Action) (t : Timeline)
    (s : DeskState κ σ MemoryLedger) :
    ∃ result, (submit desk plan artifact before t s).result = some result := by
  unfold submit
  dsimp only
  split
  · rename_i awaited
    rw [memory] at awaited
    cases Timeline.answer_of_await_endless awaited
  · rename_i awaited
    exact (Timeline.await_ne_cancelled awaited).elim
  · exact ⟨_, rfl⟩
  · split
    · rename_i raced
      rw [memory] at raced
      have silent := (Timeline.of_race_endless raced).1
      rw [fetch_memory] at silent
      cases silent
    · exact ⟨_, rfl⟩
    · exact ⟨_, rfl⟩
    · exact ⟨_, rfl⟩

/-- With a lookup and a signer that answer, every call ends. -/
theorem exists_result_of_run (memory : desk.ledger = MemoryLedger.ledger)
    (looked : (desk.capabilities d.account token s.lookup).1.answer ≠ none)
    (signs : ∀ body t, (desk.signer.sign body t s.signer).result ≠ none) :
    ∃ result, (d.run desk token request id t s).result = some result := by
  unfold run
  split
  · rename_i raced
    exact (looked (Timeline.of_race_endless raced).1).elim
  · exact ⟨_, rfl⟩
  · exact ⟨_, rfl⟩
  · split
    · exact ⟨_, rfl⟩
    · unfold signAndSubmit
      dsimp only
      split
      · rename_i silent
        exact (signs _ _ silent).elim
      · exact ⟨_, rfl⟩
      · split
        · exact ⟨_, rfl⟩
        · exact exists_result_of_submit memory _ _ _ _ _

end Dispatcher

/-! ## Calls -/

/-- A call with all that is its own: who carries it out, what is looked up and the signer, each with
its state, the request, and the id and the time that it gets. -/
structure Call (κ σ : Type) where
  dispatcher : Dispatcher
  capabilities : EntityId → Token → κ → Wait (Except String (List Capability)) × κ
  lookup : κ
  signer : Signing.Signer σ
  signing : σ
  token : Token
  request : Request
  id : TransactionId
  time : Timeline

/-- The transaction that the response to a call names. -/
def CallReport.id? (report : CallReport κ σ τ Response) : Option TransactionId :=
  report.result.bind Response.id

/-- Everything about a call but the ledger that it left. -/
def CallReport.apart (report : CallReport κ σ τ α) : CallReport κ σ Unit α :=
  report.mapLedger fun _ => ()

namespace Call

variable {c : Call κ σ} {l : MemoryLedger}

def desk (c : Call κ σ) : Desk κ σ MemoryLedger :=
  ⟨c.capabilities, c.signer, MemoryLedger.ledger⟩

def report (c : Call κ σ) (l : MemoryLedger) : CallReport κ σ MemoryLedger Response :=
  c.dispatcher.execute c.desk c.token c.request c.id c.time ⟨c.lookup, c.signing, l⟩

/-- What a call does up to its first error. -/
def run (c : Call κ σ) (l : MemoryLedger) :
    CallReport κ σ MemoryLedger (Except DispatchError Response) :=
  c.dispatcher.run c.desk c.token c.request c.id c.time ⟨c.lookup, c.signing, l⟩

theorem course (c : Call κ σ) (l : MemoryLedger) :
    Dispatcher.Course c.dispatcher c.desk c.token c.request c.id c.time ⟨c.lookup, c.signing, l⟩
      (c.run l) :=
  Dispatcher.run_course c.dispatcher c.desk c.token c.request c.id c.time ⟨c.lookup, c.signing, l⟩

/-- Of the ledger only its outcome has a part in a call. -/
theorem report_outcome (c : Call κ σ) (l : MemoryLedger) :
    (c.report l).mapLedger MemoryLedger.outcome =
      c.dispatcher.execute (c.desk.withLedger MemoryLedger.forgetful) c.token c.request c.id c.time
        ⟨c.lookup, c.signing, l.outcome⟩ := by
  have along : c.desk.ledger.Along MemoryLedger.outcome MemoryLedger.forgetful :=
    MemoryLedger.along_outcome
  exact (Dispatcher.execute_along along c.dispatcher c.token c.request c.id c.time
    ⟨c.lookup, c.signing, l⟩).symm

/-- A call goes as it would go alone. -/
theorem apart_report (c : Call κ σ) {l l' : MemoryLedger} (same : l.outcome = l'.outcome) :
    (c.report l).apart = (c.report l').apart := by
  have reports : (c.report l).mapLedger MemoryLedger.outcome =
      (c.report l').mapLedger MemoryLedger.outcome := by
    rw [report_outcome, report_outcome, same]
  have apart := congrArg CallReport.apart reports
  exact apart

theorem gated (c : Call κ σ) (l : MemoryLedger) :
    Dispatcher.Gated c.dispatcher c.desk c.token c.request c.id c.time ⟨c.lookup, c.signing, l⟩
      (c.report l) :=
  (c.course l).gated _

/-- A call submits nothing or one artifact. -/
theorem submissions_cases (c : Call κ σ) (l : MemoryLedger) :
    (c.report l).submissions = [] ∨ ∃ artifact, (c.report l).submissions = [artifact] := by
  have once := (c.gated l).submits_once
  generalize (c.report l).submissions = artifacts at once
  rcases artifacts with _ | ⟨artifact, _ | ⟨other, rest⟩⟩
  · exact .inl rfl
  · exact .inr ⟨artifact, rfl⟩
  · simp at once

/-- A call gives the ledger what it submits, and changes nothing else. -/
theorem ledger_report (c : Call κ σ) (l : MemoryLedger) :
    (c.report l).state.ledger = l.take (c.report l).submissions := by
  rcases c.submissions_cases l with none | ⟨artifact, one⟩
  · rw [none]
    exact (c.gated l).unsubmitted none
  · have member : artifact ∈ (c.report l).submissions := by
      rw [one]
      exact List.mem_singleton_self artifact
    rcases (c.gated l).submitted artifact member with ⟨a, -, -, -, -, -, left⟩
    rw [one]
    rcases left with left | ⟨handle, left⟩
    · exact left
    · rw [left]
      exact congrArg Prod.snd (Dispatcher.fetch_memory _ _ _)

/-- A call that submits something ends. -/
theorem exists_result (submitted : (c.run l).submissions ≠ []) :
    ∃ result, (c.run l).result = some result := by
  obtain ⟨plan, artifact, before, time, state, -, -, -, -, ran⟩ :=
    Dispatcher.of_submissions (c.course l) submitted
  rw [ran]
  exact Dispatcher.exists_result_of_submit rfl plan artifact before time state

/-- The response names what the call submitted, and nothing else. -/
theorem id_report (c : Call κ σ) (l : MemoryLedger) :
    (c.report l).submissions.map Artifact.transaction = (c.report l).id?.toList := by
  have named : (c.report l).id? = (c.report l).submissions.head?.map Artifact.transaction := by
    have reported : (c.report l).id? = ((c.run l).result.map fun result => c.dispatcher.linked
        (Dispatcher.conclude (c.run l).submitted result)).bind Response.id := rfl
    cases ended : (c.run l).result with
    | none =>
      have empty : (c.report l).submissions = [] := by
        by_contra submitted
        obtain ⟨result, found⟩ := exists_result submitted
        cases ended.symm.trans found
      rw [reported, ended, empty]
      rfl
    | some result =>
      have names := (c.course l).result_names MemoryLedger.faithful ended
      rw [reported, ended]
      exact (Dispatcher.linked_of_names names).1
  rcases c.submissions_cases l with none | ⟨artifact, one⟩
  · rw [named, none]
    rfl
  · rw [named, one]
    rfl

/-- What is looked up is found or refused, and the signer signs or fails: neither is waited for in
vain. -/
structure Answers (c : Call κ σ) : Prop where
  lookup : (c.capabilities c.dispatcher.account c.token c.lookup).1.answer ≠ none
  signer : ∀ body t, (c.signer.sign body t c.signing).result ≠ none

/-- A key at hand always answers. -/
example {key : Signing.LocalKey} {found : Except String (List Capability)} {c : Call Unit Unit}
    (lookup : c.capabilities = fun _ _ s => (.now found, s)) (signer : c.signer = .ofKey key) :
    c.Answers := by
  refine ⟨?_, fun body t => ?_⟩
  · rw [lookup]
    exact Option.some_ne_none found
  · rw [signer]
    exact Option.some_ne_none _

theorem exists_response (answers : c.Answers) (l : MemoryLedger) :
    ∃ response, (c.report l).result = some response := by
  obtain ⟨result, ended⟩ : ∃ result, (c.run l).result = some result :=
    Dispatcher.exists_result_of_run rfl answers.lookup answers.signer
  exact ⟨_, congrArg (Option.map _) ended⟩

/-- An artifact carries the id that the call got, and what the signer gave for its body. -/
theorem artifact_report {artifact : Artifact} (member : artifact ∈ (c.report l).submissions) :
    artifact.transaction = c.id ∧
      (∃ body, artifact.body = Unsigned.bytes ⟨c.id, c.dispatcher.maxFee, body⟩) ∧
        ∃ t, (c.signer.sign artifact.body t c.signing).result =
          some (.ok artifact.authorization) := by
  rcases (c.gated l).submitted artifact member with ⟨a, -, id, body, -, signed, -⟩
  exact ⟨id, ⟨_, body⟩, a.time, signed⟩

/-- A call whose response has no id leaves the ledger as it was. -/
theorem ledger_of_nameless (nameless : (c.report l).id? = none) :
    (c.report l).state.ledger = l := by
  have names := c.id_report l
  rw [nameless] at names
  rw [c.ledger_report, List.map_eq_nil_iff.mp names]
  rfl

end Call

/-- The reports of calls that follow one another, and the ledger after them. -/
def runCalls : List (Call κ σ) → MemoryLedger →
    List (CallReport κ σ MemoryLedger Response) × MemoryLedger
  | [], l => ([], l)
  | c :: rest, l =>
    let report := c.report l
    let (reports, l) := runCalls rest report.state.ledger
    (report :: reports, l)

/-- After a sequence of calls the ledger has been given what they submitted, in order. -/
theorem ledger_runCalls (calls : List (Call κ σ)) (l : MemoryLedger) :
    (runCalls calls l).2 = l.take ((runCalls calls l).1.flatMap CallReport.submissions) := by
  induction calls generalizing l with
  | nil => rfl
  | cons c rest ih =>
    dsimp only [runCalls]
    rw [ih, List.flatMap_cons, MemoryLedger.take_append, ← c.ledger_report]

theorem apart_runCalls (calls : List (Call κ σ)) {l l' : MemoryLedger}
    (same : l.outcome = l'.outcome) :
    (runCalls calls l).1.map CallReport.apart =
      calls.map fun c => (c.report l').apart := by
  induction calls generalizing l with
  | nil => rfl
  | cons c rest ih =>
    have kept : (c.report l).state.ledger.outcome = l'.outcome := by
      rw [c.ledger_report, MemoryLedger.take_eq, same]
    dsimp only [runCalls]
    rw [List.map_cons, List.map_cons, ih kept, c.apart_report same]

theorem mem_runCalls {calls : List (Call κ σ)} {l : MemoryLedger}
    {report : CallReport κ σ MemoryLedger Response} (member : report ∈ (runCalls calls l).1) :
    ∃ c ∈ calls, ∃ before, report = c.report before := by
  induction calls generalizing l with
  | nil => cases member
  | cons c rest ih =>
    rcases List.mem_cons.mp member with rfl | later
    · exact ⟨c, List.mem_cons_self, l, rfl⟩
    · obtain ⟨other, inside, before, same⟩ := ih later
      exact ⟨other, List.mem_cons_of_mem c inside, before, same⟩

/-- There are as many submissions as responses with an id. -/
theorem length_submissions {reports : List (CallReport κ σ MemoryLedger Response)}
    (named : ∀ report ∈ reports,
      report.submissions.map Artifact.transaction = report.id?.toList) :
    (reports.flatMap CallReport.submissions).length =
      (reports.filter fun report => report.id?.isSome).length := by
  induction reports with
  | nil => rfl
  | cons report rest ih =>
    have lengths := congrArg List.length (named report List.mem_cons_self)
    rw [List.length_map] at lengths
    rw [List.flatMap_cons, List.length_append, lengths,
      ih fun other member => named other (List.mem_cons_of_mem report member)]
    cases known : report.id? with
    | none => simp [known]
    | some id => simp [known, Nat.add_comm]

/-- What calls that follow one another report, and the ledger that they leave. -/
structure Trail (calls : List (Call κ σ)) (l : MemoryLedger)
    (reports : List (CallReport κ σ MemoryLedger Response)) (after : MemoryLedger) : Prop where
  /-- Each call goes as it would alone, on a new ledger of the same outcome. -/
  independent : reports.map CallReport.apart =
    calls.map fun c => (c.report (.ofOutcome l.outcome)).apart
  /-- A response has an id exactly if an artifact was submitted, and then the artifact's. -/
  named : ∀ report ∈ reports, report.submissions.map Artifact.transaction = report.id?.toList
  artifacts : ∀ c ∈ calls, ∀ before, ∀ artifact ∈ (c.report before).submissions,
    artifact.transaction = c.id ∧
      (∃ body, artifact.body = Unsigned.bytes ⟨c.id, c.dispatcher.maxFee, body⟩) ∧
        ∃ t, (c.signer.sign artifact.body t c.signing).result = some (.ok artifact.authorization)
  submissions : after.submissions =
    l.submissions + (reports.filter fun report => report.id?.isSome).length
  submitted : after.submitted =
    l.submitted ++ l.outcome.kept (reports.flatMap CallReport.submissions)
  nameless : ∀ c ∈ calls, ∀ before, (c.report before).id? = none →
    (c.report before).state.ledger = before
  answered : (∀ c ∈ calls, c.Answers) →
    ∀ report ∈ reports, ∃ response, report.result = some response
  reads : ∀ id, l.Reads id
  /-- No call changes what receipts and records say. -/
  steady : ∀ id, after.receipt id = l.receipt id ∧ after.record id = l.record id

/-- **Trail.** Calls that follow one another are independent, and what they leave on the ledger is
what their responses name. -/
theorem runCalls_trail (calls : List (Call κ σ)) (l : MemoryLedger) :
    Trail calls l (runCalls calls l).1 (runCalls calls l).2 := by
  have named : ∀ report ∈ (runCalls calls l).1,
      report.submissions.map Artifact.transaction = report.id?.toList := by
    intro report member
    rcases mem_runCalls member with ⟨c, -, before, rfl⟩
    exact c.id_report before
  have left := (ledger_runCalls calls l).trans (MemoryLedger.take_eq _ _)
  refine ⟨apart_runCalls calls rfl, named, fun c _ before artifact => Call.artifact_report, ?_, ?_,
    fun c _ before => Call.ledger_of_nameless, ?_, l.reads, ?_⟩
  · rw [left, length_submissions named]
  · rw [left]
  · intro answers report member
    rcases mem_runCalls member with ⟨c, inside, before, rfl⟩
    exact Call.exists_response (answers c inside) before
  · intro id
    rw [left]
    exact ⟨rfl, rfl⟩

/-- An operation that is not allowed leaves nothing behind, one that is leaves its artifact. -/
example :
    let site : Url := ⟨"https".toList, [], [], some "hashscan.io".toList, none, .segments [[]],
      none, none⟩
    let id : TransactionId := ⟨⟨0, 0, 2⟩, 1700000000, 5⟩
    let call (request : Request) : Call Unit Unit :=
      ⟨⟨⟨0, 0, 2⟩, ⟨site, .testnet⟩, defaultMaxFee⟩,
        fun _ _ s => (.now (.ok [⟨.pause, .native⟩]), s), (),
        ⟨.localKey, fun body t s => ⟨some (.ok (.signature body)), t, s⟩⟩, (),
        ⟨⟨0, 0, 7⟩, none, ⟨0, 0, 8⟩, 6⟩, request, id, .start none fun _ => true⟩
    let left := runCalls [call .unpause, call .pause] (.ofOutcome (.success none))
    left.1.map CallReport.id? = [none, some id] ∧ left.2.submissions = 1 ∧
      left.2.submitted.map Artifact.transaction = [id] := by
  decide +kernel

end TokenDesk
