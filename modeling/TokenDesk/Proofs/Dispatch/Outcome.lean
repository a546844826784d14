import TokenDesk.Proofs.Dispatch.Course
import TokenDesk.Proofs.Settlement

/-!
What a submitted call answers.

With the ledger in memory, the answer to a submitted call depends on the operation and on what
becomes of every transaction, and on nothing else (`Response.Answers`). Only the operations that
create a hold read back what the contract returned: a word for the success and a word for the number
of the hold (`holdResults`). The plan of an operation says what to fetch and how to read it
(`Plan.Consistent`), and since both come from the same place, no call returns data undecoded, misses
its record, or looks up a function that the interface lacks. That part holds with every ledger
(`Dispatcher.Sound`).
-/

namespace TokenDesk

variable {κ σ τ : Type}

/-- Whether an operation creates a hold, for the caller or, by a controller, for another holder. -/
def Operation.createsHold : Operation → Bool
  | .createHold | .createHoldByController => true
  | _ => false

/-! ## What a contract returns for a new hold -/

/-- The results of creating a hold: whether it succeeded, and the number of the hold. -/
def holdResults (data : Bytes) : List Abi.Value :=
  [.bool (Bytes.toNat (data.take 32) != 0), .uint 256 (Bytes.toNat ((data.drop 32).take 32))]

/-- The name of a type that is one word. -/
def Abi.TypeName.word? : TypeName → Option String
  | .plain name => some name
  | _ => none

theorem Abi.TypeName.eq_plain {t : TypeName} {name : String} (word : t.word? = some name) :
    t = .plain name := by
  cases t with
  | plain other =>
    cases word
    rfl
  | tuple parts => cases word
  | array item size => cases word

/-- Data that holds two words decodes to their values, whatever follows, and shorter data does not
decode. -/
theorem Abi.Function.decodeOutputs_eq {f : Function} (outputs : f.outputs = [.plain "bool",
    .plain "uint256"]) (data : Bytes) :
    f.decodeOutputs data =
      if 64 ≤ data.length then .ok (holdResults data) else .error .overrun := by
  have flag : plainType "bool" = .ok .bool := by cbv
  have word : plainType "uint256" = .ok (.uint 256) := by cbv
  unfold decodeOutputs
  rw [outputs]
  by_cases long : 64 ≤ data.length
  · have first : wordAt data 0 = .ok (data.take 32, 32) := by
      rw [wordAt, List.drop_zero, List.length_take, if_pos (by omega)]
    have second : wordAt data 32 = .ok ((data.drop 32).take 32, 64) := by
      rw [wordAt, List.length_take, List.length_drop, if_pos (by omega)]
    rw [if_pos long]
    simp only [decodeNamed, TypeName.resolve, flag, word, decodeAt, first, second, bind,
      Except.bind, pure, Except.pure, holdResults]
  · rw [if_neg long]
    have second : wordAt data 32 = .error .overrun := by
      rw [wordAt, List.length_take, List.length_drop, if_neg (by omega)]
    by_cases short : 32 ≤ data.length
    · have first : wordAt data 0 = .ok (data.take 32, 32) := by
        rw [wordAt, List.drop_zero, List.length_take, if_pos (by omega)]
      simp only [decodeNamed, TypeName.resolve, flag, word, decodeAt, first, second, bind,
        Except.bind, pure, Except.pure]
    · have first : wordAt data 0 = .error .overrun := by
        rw [wordAt, List.drop_zero, List.length_take, if_neg (by omega)]
      simp only [decodeNamed, TypeName.resolve, flag, decodeAt, first, bind, Except.bind]

/-- What is wrong with data that does not hold two words. -/
def tooShort (function : String) (data : Bytes) : ResponseFault :=
  if data.isEmpty then .emptyData function else .undecodable function .overrun

/-- A format that reads the results of creating a hold, and refuses data that is too short. -/
def ReturnFormat.ReadsHold (format : ReturnFormat) : Prop :=
  ∀ data, format.decode data =
    if 64 ≤ data.length then .ok (holdResults data) else .error (tooShort format.function data)

/-- The two signatures are read, and both functions return a truth value and a word. -/
theorem Contract.returnSignatures_outputs :
    ∀ function ∈ ["createHold", "createHoldByController"],
      ((Abi.Interface.read returnSignatures).bind fun interface =>
        (interface.find? function).map fun f => f.outputs.map Abi.TypeName.word?) =
          some [some "bool", some "uint256"] := by
  decide +kernel

theorem Contract.returnFormat_readsHold {function : String}
    (creates : function ∈ ["createHold", "createHoldByController"]) :
    ∃ format, returnFormat function = .ok format ∧ format.ReadsHold := by
  obtain ⟨interface, known, listed⟩ :=
    Option.bind_eq_some_iff.mp (returnSignatures_outputs function creates)
  obtain ⟨f, found, words⟩ := Option.map_eq_some_iff.mp listed
  have made : returnFormat function = .ok ⟨function, interface⟩ := by
    unfold returnFormat
    split
    · rename_i other read
      cases read.symm.trans known
      rfl
    · rename_i unread
      cases unread.symm.trans known
  refine ⟨⟨function, interface⟩, made, fun data => ?_⟩
  have outputs : f.outputs = [.plain "bool", .plain "uint256"] := by
    obtain ⟨first, rest, split, flag, others⟩ := List.map_eq_cons_iff.mp words
    obtain ⟨second, none, split', word, ended⟩ := List.map_eq_cons_iff.mp others
    rw [split, split', List.map_eq_nil_iff.mp ended, Abi.TypeName.eq_plain flag,
      Abi.TypeName.eq_plain word]
  unfold ReturnFormat.decode
  by_cases empty : data.isEmpty
  · rw [if_pos empty, if_neg (by rw [List.isEmpty_iff.mp empty]; decide), tooShort, if_pos empty]
  · rw [if_neg empty, found]
    dsimp only
    rw [Abi.Function.decodeOutputs_eq outputs data]
    by_cases long : 64 ≤ data.length
    · rw [if_pos long, if_pos long]
      rfl
    · rw [if_neg long, if_neg long, tooShort, if_neg empty]
      rfl

/-! ## Plans -/

/-- What is fetched fits how it is read: the record and the results of the hold where one is
created, and the receipt alone everywhere else. -/
def Plan.Consistent (plan : Plan) (operation : Operation) : Prop :=
  if operation.createsHold then
    plan.response = .fullRecord ∧ ∃ format, plan.format = some format ∧ format.ReadsHold
  else plan.response = .receiptOnly ∧ plan.format = none

theorem Native.not_createsHold {token : Token} {request : Request} {body : NativeBody}
    (built : Native.build token request = .ok body) : request.operation.createsHold = false := by
  cases request with
  | createHold hold => cases built
  | createHoldByController source hold => cases built
  | _ => rfl

theorem Contract.function_of_build {token : Token} {request : Request} {call : ContractCall}
    (built : Contract.build token request = .ok call) :
    ∃ entry, entryPoint? request.operation = some entry ∧ call.function = entry.method.name := by
  unfold Contract.build at built
  split at built
  · cases built
  · rename_i entry known
    refine ⟨entry, known, ?_⟩
    cases target : destination token request with
    | error e => rw [target] at built; cases built
    | ok contract =>
      cases given : arguments token request with
      | error e => rw [target, given] at built; cases built
      | ok values =>
        rw [target, given] at built
        cases built
        rfl

/-- A call that creates a hold is one of the two whose results are known. -/
theorem Contract.function_of_createsHold {token : Token} {request : Request} {call : ContractCall}
    (built : Contract.build token request = .ok call)
    (creates : request.operation.createsHold = true) :
    call.function ∈ ["createHold", "createHoldByController"] := by
  obtain ⟨entry, known, function⟩ := function_of_build built
  rw [function]
  cases operation : request.operation with
  | createHold =>
    rw [operation] at known
    cases known
    exact List.mem_cons_self
  | createHoldByController =>
    rw [operation] at known
    cases known
    exact List.mem_cons_of_mem _ List.mem_cons_self
  | _ =>
    rw [operation] at creates
    cases creates

theorem Plan.ofCall_of_createsHold {operation : Operation} {call : ContractCall}
    {format : ReturnFormat} (creates : operation.createsHold = true)
    (known : Contract.returnFormat call.function = .ok format) :
    Plan.ofCall operation call = .ok ⟨.contract call, .fullRecord, some format⟩ := by
  cases operation with
  | createHold => rw [Plan.ofCall, known]; rfl
  | createHoldByController => rw [Plan.ofCall, known]; rfl
  | _ => cases creates

theorem Plan.ofCall_of_not_createsHold {operation : Operation} {call : ContractCall}
    (keeps : ¬operation.createsHold = true) :
    Plan.ofCall operation call = .ok ⟨.contract call, .receiptOnly, none⟩ := by
  unfold Plan.ofCall
  split
  · exact (keeps rfl).elim
  · exact (keeps rfl).elim
  · rfl

theorem Plan.consistent_ofCall {operation : Operation} {call : ContractCall} {plan : Plan}
    (named : operation.createsHold = true →
      call.function ∈ ["createHold", "createHoldByController"])
    (planned : Plan.ofCall operation call = .ok plan) : plan.Consistent operation := by
  unfold Plan.Consistent
  by_cases creates : operation.createsHold = true
  · obtain ⟨format, known, reads⟩ := Contract.returnFormat_readsHold (named creates)
    rw [Plan.ofCall_of_createsHold creates known] at planned
    cases planned
    rw [if_pos creates]
    exact ⟨rfl, format, rfl, reads⟩
  · rw [Plan.ofCall_of_not_createsHold creates] at planned
    cases planned
    rw [if_neg creates]
    exact ⟨rfl, rfl⟩

theorem Surface.consistent_of_plan {surface : Surface} {token : Token} {request : Request}
    {plan : Plan} (planned : surface.plan token request = .ok plan) :
    plan.Consistent request.operation := by
  cases surface with
  | native =>
    simp only [Surface.plan] at planned
    cases built : Native.build token request with
    | error e => rw [built] at planned; cases planned
    | ok body =>
      rw [built] at planned
      cases planned
      unfold Plan.Consistent
      rw [Native.not_createsHold built]
      exact ⟨rfl, rfl⟩
  | contract =>
    simp only [Surface.plan] at planned
    cases built : Contract.build token request with
    | error e => rw [built] at planned; cases planned
    | ok call =>
      rw [built] at planned
      exact Plan.consistent_ofCall (Contract.function_of_createsHold built) planned

/-! ## Settlements -/

/-- The record of a new hold gives the hold's results, or is found too short. -/
theorem Settlement.response_of_readsHold {found : Record} {format : ReturnFormat}
    (settled : found.receipt.status = .success) (reads : format.ReadsHold) :
    (Settlement.record found).response .fullRecord (some format) =
      if 64 ≤ (found.returned.getD []).length then
        .ok (.success found.receipt.transaction (.decoded (holdResults (found.returned.getD []))))
      else
        .error ⟨found.receipt.transaction, tooShort format.function (found.returned.getD [])⟩ := by
  by_cases long : 64 ≤ (found.returned.getD []).length
  · have payload : found.payload (some format) =
        .ok (.decoded (holdResults (found.returned.getD []))) := by
      rw [Record.payload, reads, if_pos long]
      rfl
    rw [if_pos long]
    exact (Comes.read settled payload).eq
  · have fault : found.payload (some format) =
        .error (tooShort format.function (found.returned.getD [])) := by
      rw [Record.payload, reads, if_neg long]
      rfl
    rw [if_neg long]
    exact (Comes.unread settled fault).eq

/-- A fault is worded behind the id of its transaction. -/
theorem ResponseError.message_eq (e : ResponseError) :
    ∃ wording, e.message = e.transaction.toString ++ wording :=
  ⟨_, String.append_assoc⟩

/-! ## What a response has to be -/

/-- A response that is a failure of a kind, with a text in its message. -/
def Response.FailsAs (response : Response) (kind : FailureKind) (text : String) : Prop :=
  ∃ failure front back, response.failure? = some failure ∧ failure.kind = kind ∧
    failure.message = front ++ text ++ back

theorem Settlement.failsAs_failed (settlement : Settlement) (code : String) :
    (Response.failure (settlement.failure code)).FailsAs .settlementFailed code :=
  ⟨settlement.failure code, "transaction settled with status ", "", rfl, rfl, by
    rw [String.append_empty]
    rfl⟩

/-- What the response to a successful transaction is: for a new hold the two words that the contract
returned, if it did, and for everything else the success alone. -/
def Response.Reports (response : Response) (operation : Operation) (id : TransactionId)
    (data : Bytes) : Prop :=
  if operation.createsHold then
    if 64 ≤ data.length then response = .success id (.decoded (holdResults data))
    else response.FailsAs .invalidResponse id.toString
  else response = .success id .settled

/-- What the response to a submitted call is, by what becomes of every transaction. -/
def Response.Answers (response : Response) (operation : Operation) (id : TransactionId) :
    LedgerOutcome → Prop
  | .submitError reason | .receiptError reason => response.FailsAs .networkSubmissionFailed reason
  | .settlementFailure code => response.FailsAs .settlementFailed code
  | .success returned => response.Reports operation id (returned.getD [])

/-- What the ledger in memory says when it is asked how a transaction settled. -/
def MemoryLedger.settlement (l : MemoryLedger) (kind : ResponseKind) (id : TransactionId) :
    Except LedgerError Settlement :=
  match kind with
  | .receiptOnly => (l.receipt id).map .receipt
  | .fullRecord => (l.record id).map .record

namespace Dispatcher

/-- What is fetched as a record is one. -/
theorem of_fetch_fullRecord {ledger : Ledger τ} {handle : TransactionId} {l : τ}
    {settlement : Settlement}
    (fetched : (fetch ledger .fullRecord handle l).1.answer = some (.ok settlement)) :
    ∃ found, settlement = .record found := by
  simp only [fetch, Wait.map, Option.map_eq_some_iff] at fetched
  obtain ⟨answer, -, mapped⟩ := fetched
  cases answer with
  | error e => cases mapped
  | ok found =>
    cases mapped
    exact ⟨found, rfl⟩

/-! ## Calls with any ledger -/

variable {d : Dispatcher} {desk : Desk κ σ τ} {token : Token} {request : Request}
  {id : TransactionId} {t : Timeline} {s : DeskState κ σ τ}

/-- What no outcome of a call is: data that nobody decoded, a receipt in place of a record, or a
function that the interface does not have. -/
structure Sound (result : Except DispatchError Response) : Prop where
  decoded : ∀ response data, result = .ok response → response.payload? ≠ some (.raw data)
  recorded : ∀ id, result ≠ .error (.response ⟨id, .missingRecord⟩)
  known : ∀ id function, result ≠ .error (.response ⟨id, .unknownFunction function⟩)

theorem sound_of_error {e : DispatchError} (early : ∀ cause, e ≠ .response cause) :
    Sound (.error e) where
  decoded response data ended := by cases ended
  recorded id ended := early _ (Except.error.inj ended)
  known id function ended := early _ (Except.error.inj ended)

theorem sound_of_response {response : Response}
    (decoded : ∀ data, response.payload? ≠ some (.raw data)) :
    Sound (.ok response) where
  decoded other data ended := by
    cases ended
    exact decoded data
  recorded id ended := by cases ended
  known id function ended := by cases ended

theorem sound_of_tooShort (id : TransactionId) (function : String) (data : Bytes) :
    Sound (.error (.response ⟨id, tooShort function data⟩)) where
  decoded response data ended := by cases ended
  recorded other ended := by
    simp only [Except.error.injEq, DispatchError.response.injEq, ResponseError.mk.injEq, tooShort]
      at ended
    split at ended <;> cases ended.2
  known other function' ended := by
    simp only [Except.error.injEq, DispatchError.response.injEq, ResponseError.mk.injEq, tooShort]
      at ended
    split at ended <;> cases ended.2

/-- A settlement that was fetched and is read as a consistent plan says. -/
theorem sound_of_consistent {plan : Plan} {operation : Operation} {ledger : Ledger τ}
    {handle : TransactionId} {l : τ} {settlement : Settlement}
    (consistent : plan.Consistent operation)
    (fetched : (fetch ledger plan.response handle l).1.answer = some (.ok settlement)) :
    Sound ((settlement.response plan.response plan.format).mapError .response) := by
  cases status : settlement.toReceipt.status with
  | failed code =>
    rw [Settlement.response_of_failed status]
    exact sound_of_response fun data raw => by cases raw
  | success =>
    unfold Plan.Consistent at consistent
    split at consistent
    · obtain ⟨kind, format, known, reads⟩ := consistent
      rw [kind] at fetched ⊢
      obtain ⟨found, rfl⟩ := of_fetch_fullRecord fetched
      rw [known, Settlement.response_of_readsHold status reads]
      split
      · exact sound_of_response fun data raw => by cases raw
      · exact sound_of_tooShort _ _ _
    · rw [consistent.1, Settlement.response_of_receiptOnly status]
      exact sound_of_response fun data raw => by cases raw

theorem sound_of_plan {capabilities : List Capability} {e : DispatchError}
    (refused : d.plan capabilities token request = .error e) : Sound (.error e) := by
  unfold Dispatcher.plan at refused
  split at refused
  · cases refused
    exact sound_of_error (by simp)
  · split at refused
    · rename_i surface _ _
      cases built : surface.plan token request with
      | error cause =>
        rw [built] at refused
        cases refused
        exact sound_of_error (by simp)
      | ok plan => rw [built] at refused; cases refused
    · cases refused
      exact sound_of_error (by simp)

theorem sound_of_submit {plan : Plan} {artifact : Artifact} {before : List Action}
    {operation : Operation} (consistent : plan.Consistent operation)
    {result : Except DispatchError Response}
    (ended : (submit desk plan artifact before t s).result = some result) : Sound result := by
  unfold submit at ended
  dsimp only at ended
  split at ended
  · cases ended
  · cases ended
  · cases ended
    exact sound_of_error (by simp)
  · split at ended
    · cases ended
    · cases ended
      exact sound_of_error (by simp)
    · cases ended
      exact sound_of_error (by simp)
    · rename_i raced
      cases ended
      exact sound_of_consistent consistent (Timeline.of_race_answered raced).1

/-- No call, with whatever ledger, ends in one of the ways that `Sound` excludes. -/
theorem sound_of_run {result : Except DispatchError Response}
    (ended : (d.run desk token request id t s).result = some result) : Sound result := by
  unfold run at ended
  split at ended
  · cases ended
  · cases ended
    exact sound_of_error (by simp)
  · cases ended
    exact sound_of_error (by simp)
  · split at ended
    · rename_i refused
      cases ended
      exact sound_of_plan refused
    · rename_i plan planned
      obtain ⟨surface, -, -, built⟩ := plan_eq_ok_iff.mp planned
      unfold signAndSubmit at ended
      dsimp only at ended
      split at ended
      · cases ended
      · cases ended
        exact sound_of_error (by simp)
      · split at ended
        · cases ended
          exact sound_of_error (by simp)
        · exact sound_of_submit (Surface.consistent_of_plan built) ended

/-! ## Submitted calls with the ledger in memory -/

theorem fetch_memory (kind : ResponseKind) (handle : TransactionId) (l : MemoryLedger) :
    fetch MemoryLedger.ledger kind handle l = (.now (l.settlement kind handle), l) := by
  cases kind with
  | receiptOnly => rfl
  | fullRecord => rfl

theorem race_memory (live : t.isCancelled = false) (kind : ResponseKind) (handle : TransactionId)
    (l : MemoryLedger) :
    t.race (fetch MemoryLedger.ledger kind handle) l =
      (.answered (l.settlement kind handle) (t.advance t.now), l) :=
  Timeline.race_of_prompt live (fetch_memory kind handle l)

/-- A submission that is taken without a cancellation is answered at once, by the settlement. -/
theorem submit_of_taken {desk : Desk κ σ MemoryLedger} (memory : desk.ledger = MemoryLedger.ledger)
    {plan : Plan} {artifact : Artifact} {before : List Action} {s : DeskState κ σ MemoryLedger}
    (live : t.isCancelled = false) {l : MemoryLedger}
    (taken : s.ledger.submit artifact = (.ok artifact.transaction, l)) :
    (submit desk plan artifact before t s).result =
      some (match l.settlement plan.response artifact.transaction with
        | .error e => .error (.ledger e)
        | .ok settlement =>
          (settlement.response plan.response plan.format).mapError .response) := by
  have handed : MemoryLedger.ledger.submit artifact s.ledger =
      (.now (.ok artifact.transaction), l) := by
    simp only [MemoryLedger.ledger, taken]
  unfold submit
  rw [memory, handed]
  simp only [Timeline.await, Wait.now]
  have prompt := race_memory (t := t.afterAnswer (Wait.now
    (Except.ok artifact.transaction : Except LedgerError TransactionId))) live plan.response
    artifact.transaction l
  simp only [Wait.now] at prompt
  rw [prompt]
  cases l.settlement plan.response artifact.transaction with
  | error e => rfl
  | ok settlement => rfl

/-- A submitted call that ends in an error fails as the error says. -/
theorem failsAs_of_error {e : DispatchError} {kind : FailureKind} {front text : String}
    (submitted : TransactionId) (kinds : e.kind = kind) (worded : e.message = front ++ text) :
    (conclude (some submitted) (.error e)).FailsAs kind text :=
  ⟨_, front, "", rfl, kinds, by rw [String.append_empty]; exact worded⟩

theorem failsAs_of_status {settlement : Settlement} {code : String} {kind : ResponseKind}
    {format : Option ReturnFormat} (submitted : TransactionId)
    (failed : settlement.toReceipt.status = .failed code) :
    (conclude (some submitted) ((settlement.response kind format).mapError .response)).FailsAs
      .settlementFailed code := by
  rw [Settlement.response_of_failed failed]
  exact Settlement.failsAs_failed settlement code

theorem reports_of_success {plan : Plan} {operation : Operation}
    (consistent : plan.Consistent operation) (l : MemoryLedger) (id : TransactionId)
    {returned : Option Bytes} (settles : l.outcome = .success returned) :
    ∃ settlement, l.settlement plan.response id = .ok settlement ∧
      (conclude (some id)
        ((settlement.response plan.response plan.format).mapError .response)).Reports
          operation id (returned.getD []) := by
  unfold Response.Reports
  unfold Plan.Consistent at consistent
  split at consistent
  · rename_i creates
    obtain ⟨kind, format, known, reads⟩ := consistent
    refine ⟨.record ⟨⟨id, .success⟩, returned⟩, ?_, ?_⟩
    · simp only [kind, MemoryLedger.settlement, MemoryLedger.record, settles]
      rfl
    · rw [if_pos creates, kind, known, Settlement.response_of_readsHold rfl reads]
      split
      · rfl
      · obtain ⟨wording, worded⟩ :=
          ResponseError.message_eq ⟨id, tooShort format.function (returned.getD [])⟩
        exact ⟨_, "", wording, rfl, rfl, by rw [String.empty_append]; exact worded⟩
  · rename_i creates
    refine ⟨.receipt ⟨id, .success⟩, ?_, ?_⟩
    · simp only [consistent.1, MemoryLedger.settlement, MemoryLedger.receipt, settles]
      rfl
    · rw [if_neg creates, consistent.1, Settlement.response_of_receiptOnly rfl]
      rfl

theorem submit_answers {desk : Desk κ σ MemoryLedger} (memory : desk.ledger = MemoryLedger.ledger)
    {plan : Plan} (artifact : Artifact) (before : List Action) (s : DeskState κ σ MemoryLedger)
    {operation : Operation} (consistent : plan.Consistent operation)
    (live : t.isCancelled = false) :
    ∃ result, (submit desk plan artifact before t s).result = some result ∧
      (conclude (some artifact.transaction) result).Answers operation artifact.transaction
        s.ledger.outcome := by
  rcases s with ⟨lookup, signer, outcome, submissions, submitted⟩
  cases outcome with
  | submitError reason =>
    refine ⟨.error (.ledger (.submit reason)), ?_, failsAs_of_error _ rfl rfl⟩
    unfold submit
    rw [memory]
    rfl
  | receiptError reason =>
    refine ⟨_, submit_of_taken memory live rfl, ?_⟩
    cases plan.response with
    | receiptOnly => exact failsAs_of_error _ rfl rfl
    | fullRecord => exact failsAs_of_error _ rfl rfl
  | settlementFailure code =>
    refine ⟨_, submit_of_taken memory live rfl, ?_⟩
    cases plan.response with
    | receiptOnly => exact failsAs_of_status _ rfl
    | fullRecord => exact failsAs_of_status _ rfl
  | success returned =>
    refine ⟨_, submit_of_taken memory live rfl, ?_⟩
    obtain ⟨settlement, found, reports⟩ := reports_of_success consistent
      ⟨.success returned, submissions + 1, submitted ++ [artifact]⟩ artifact.transaction rfl
    rw [found]
    exact reports

/-- A link changes neither what succeeded nor how something failed. -/
theorem answers_linked {response : Response} {operation : Operation} {id : TransactionId}
    {outcome : LedgerOutcome} (answers : response.Answers operation id outcome) :
    (d.linked response).Answers operation id outcome := by
  have fails : ∀ kind text, response.FailsAs kind text → (d.linked response).FailsAs kind text := by
    rintro kind text ⟨failure, front, back, failed, kinds, worded⟩
    unfold linked
    split
    · exact ⟨failure, front, back, failed, kinds, worded⟩
    · split
      · cases response with
        | success id payload => cases failed
        | failure cause =>
          cases failed
          exact ⟨_, front, back, rfl, kinds, worded⟩
      · exact ⟨failure, front, back, failed, kinds, worded⟩
  cases outcome with
  | submitError reason => exact fails _ _ answers
  | receiptError reason => exact fails _ _ answers
  | settlementFailure code => exact fails _ _ answers
  | success returned =>
    change response.Reports _ _ _ at answers
    change (d.linked response).Reports _ _ _
    unfold Response.Reports at answers ⊢
    split at answers
    · rename_i creates
      rw [if_pos creates]
      split at answers
      · rename_i long
        rw [if_pos long, answers]
        rfl
      · rename_i short
        rw [if_neg short]
        exact fails _ _ answers
    · rename_i creates
      rw [if_neg creates, answers]
      rfl

theorem payload_linked (response : Response) :
    (d.linked response).payload? = response.payload? := by
  unfold linked
  split
  · rfl
  · split
    · cases response with
      | success id payload => rfl
      | failure cause => rfl
    · rfl

/-- A call that submits something was not cancelled until then, and its plan is consistent. -/
theorem of_submissions {run : CallReport κ σ τ (Except DispatchError Response)}
    (course : Course d desk token request id t s run) (submitted : run.submissions ≠ []) :
    ∃ plan artifact before time state, plan.Consistent request.operation ∧
      artifact.transaction = id ∧ state.ledger = s.ledger ∧ time.isCancelled = false ∧
      run = submit desk plan artifact before time state := by
  cases course with
  | unsigned _ _ => exact (submitted rfl).elim
  | unsubmitted _ _ _ => exact (submitted rfl).elim
  | submitted a authorized =>
    exact ⟨a.plan, _, _, _, a.signedState id, Surface.consistent_of_plan a.built, rfl, rfl,
      authorized.2, rfl⟩

/-- **Outcome.** A submitted call answers as its operation and the ledger's outcome ask, a failed
status is a failure whatever else was fetched, and no call returns data undecoded, misses its record
or decodes the results of a function that the interface does not have. -/
theorem execute_answers (d : Dispatcher) (desk : Desk κ σ MemoryLedger) (token : Token)
    (request : Request) (id : TransactionId) (t : Timeline) (s : DeskState κ σ MemoryLedger)
    (memory : desk.ledger = MemoryLedger.ledger) :
    ((d.execute desk token request id t s).submissions ≠ [] →
      ∃ response, (d.execute desk token request id t s).result = some response ∧
        response.Answers request.operation id s.ledger.outcome) ∧
    (∀ (settlement : Settlement) (code : String) (kind : ResponseKind)
        (format : Option ReturnFormat), settlement.toReceipt.status = .failed code →
      ∃ response, settlement.response kind format = .ok response ∧
        response.FailsAs .settlementFailed code) ∧
    (∀ result, (d.run desk token request id t s).result = some result → Sound result) ∧
    ∀ response, (d.execute desk token request id t s).result = some response →
      ∀ data, response.payload? ≠ some (.raw data) := by
  refine ⟨?_, ?_, fun result => sound_of_run, ?_⟩
  · intro submitted
    obtain ⟨plan, artifact, before, time, state, consistent, rfl, same, live, ran⟩ :=
      of_submissions (run_course d desk token request id t s) submitted
    obtain ⟨result, ended, answers⟩ :=
      submit_answers memory artifact before state consistent live
    have handed := (submit_submission desk plan artifact before time state).submitted
    rw [← ran] at ended handed
    refine ⟨d.linked (conclude (some artifact.transaction) result), ?_, ?_⟩
    · rw [← handed]
      exact congrArg (Option.map _) ended
    · rw [← same]
      exact answers_linked answers
  · intro settlement code kind format failed
    exact ⟨_, Settlement.response_of_failed failed kind format, settlement.failsAs_failed code⟩
  · intro response ended data raw
    obtain ⟨result, found, rfl⟩ := Option.map_eq_some_iff.mp ended
    rw [payload_linked] at raw
    cases result with
    | error e => cases raw
    | ok response => exact (sound_of_run found).decoded response data rfl raw

/-- A desk that may create holds by contract; its signer hands the payload back as the signature. -/
def holdingDesk : Desk Unit Unit MemoryLedger where
  capabilities _ _ lookup := (.now (.ok [⟨.createHold, .contract⟩]), lookup)
  signer := ⟨.localKey, fun payload t s => ⟨some (.ok (.signature payload)), t, s⟩⟩
  ledger := MemoryLedger.ledger

/-- A new hold whose contract returned a true word, the number 7 and one byte more. -/
theorem execute_answers_createHold :
    let site : Url := ⟨"https".toList, [], [], some "hashscan.io".toList, none, .segments [[]],
      none, none⟩
    let d : Dispatcher := ⟨⟨0, 0, 2⟩, ⟨site, .testnet⟩, defaultMaxFee⟩
    let token : Token := ⟨⟨0, 0, 7⟩, some ⟨0, 0, 9⟩, ⟨0, 0, 8⟩, 6⟩
    let hold : Hold := ⟨Amount.zero 6, ⟨0, 0, 3⟩, ⟨1900000000, 0, by decide⟩, none, [1, 2]⟩
    let id : TransactionId := ⟨⟨0, 0, 2⟩, 1700000000, 5⟩
    let data : Bytes := Bytes.ofNat 32 1 ++ Bytes.ofNat 32 7 ++ [255]
    let s : DeskState Unit Unit MemoryLedger := ⟨(), (), .ofOutcome (.success (some data))⟩
    let t : Timeline := .start (some 5) fun _ => false
    let report := d.execute holdingDesk token (.createHold hold) id t s
    holdingDesk.ledger = MemoryLedger.ledger ∧ report.submissions ≠ [] ∧
      report.result = some (.success id (.decoded [.bool true, .uint 256 7])) := by
  intro site d token hold id data s t report
  have submitted : report.submissions.isEmpty = false := by decide +kernel
  have asked : report.submissions ≠ [] := by
    intro empty
    rw [empty] at submitted
    cases submitted
  obtain ⟨response, ended, answers⟩ :=
    (execute_answers d holdingDesk token (.createHold hold) id t s rfl).1 asked
  have success : Bytes.toNat (data.take 32) = 1 := by decide +kernel
  have number : Bytes.toNat ((data.drop 32).take 32) = 7 := by decide +kernel
  have results : holdResults data = [.bool true, .uint 256 7] := by
    rw [holdResults, success, number]
    rfl
  have decoded : response = .success id (.decoded (holdResults data)) := answers
  rw [results] at decoded
  exact ⟨rfl, asked, ended.trans (congrArg some decoded)⟩

end Dispatcher

end TokenDesk
