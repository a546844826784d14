import TokenDesk.Proofs.Build.Terms
import TokenDesk.Proofs.Dispatch.Outcome

/-!
Settlements as the caller sees them.

What a settlement comes to depends on its status, on what was to be fetched and on what was fetched,
in this order (`Settlement.Normalizes`). A format that comes with a plan reads two words and no more
(`ReturnFormat.ReadsResults`). The second one is the number of the new hold: a later call that refers
to the hold carries the word as it was returned (`Contract.holdWord_of_build`).
-/

namespace TokenDesk

open Abi (Value encodeAll)

/-! ## Words -/

/-- The results of creating a hold, as a contract encodes them. -/
theorem encodeAll_results (b : Bool) (n : Nat) :
    encodeAll [.bool b, .uint 256 n] = Abi.word (if b then 1 else 0) ++ Abi.word n := by
  simp [encodeAll, Abi.assemble, Abi.valueParts, Abi.heads, Abi.tails, Value.isDynamic,
    Value.encode]

theorem holdResults_encodeAll (b : Bool) {n : Nat} (small : n < 2 ^ 256) :
    holdResults (encodeAll [.bool b, .uint 256 n]) = [.bool b, .uint 256 n] := by
  have fits : n < Bytes.span 32 := Nat.lt_of_lt_of_le small (by decide +kernel)
  have success : (Bytes.toNat (Abi.word (if b then 1 else 0)) != 0) = b := by
    rw [Abi.toNat_word (by cases b <;> decide +kernel)]
    cases b <;> rfl
  have size : (Abi.word (if b then 1 else 0)).length = 32 := Abi.length_word _
  have rest : (Abi.word n).take 32 = Abi.word n := List.take_of_length_le (Abi.length_word n).le
  rw [encodeAll_results, holdResults, List.take_left' size, List.drop_left' size, rest,
    Abi.toNat_word fits, success]

/-- Only the first two words count. -/
theorem holdResults_take (data : Bytes) : holdResults (data.take 64) = holdResults data := by
  rw [holdResults, holdResults, List.take_take, List.drop_take, List.take_take]
  rfl

/-! ## The hold that a call refers to -/

/-- The word behind the selector and the holder. -/
def ContractCall.holdWord (call : ContractCall) : Bytes := (call.calldata.drop 36).take 32

namespace Contract

variable {token : Token} {request : Request} {call : ContractCall} {hold : HoldRef}

/-- The holder's address and the number of the hold come first. -/
theorem encodeAll_holdRef (refers : request.holdRef? = some hold) :
    ∃ rest, encodeAll request.parameters =
      Bytes.padLeft 32 hold.tokenHolder.address ++ (Abi.word hold.holdId.toNat ++ rest) := by
  have first (vs : List Value) : ∃ rest, encodeAll (hold.parameter :: vs) =
      Bytes.padLeft 32 hold.tokenHolder.address ++ (Abi.word hold.holdId.toNat ++ rest) := by
    simp [HoldRef.parameter, encodeAll, Abi.assemble, Abi.valueParts, Abi.heads, Abi.tails,
      Value.isDynamic, Abi.anyDynamicValue, Value.encode, List.append_assoc]
  cases request <;> cases refers
  all_goals exact first _

theorem holdWord_of_build (refers : request.holdRef? = some hold)
    (built : build token request = .ok call) :
    call.holdWord = Abi.word hold.holdId.toNat := by
  obtain ⟨entry, contract, -, -, -, -, rfl⟩ := of_build built
  obtain ⟨rest, encoded⟩ := encodeAll_holdRef refers
  have holder : (Bytes.padLeft 32 hold.tokenHolder.address).length = 32 :=
    Bytes.length_padLeft (by rw [EntityId.length_address]; decide)
  have front : (Abi.selector entry.method.signature ++
      Bytes.padLeft 32 hold.tokenHolder.address).length = 36 := by
    rw [List.length_append, length_selector, holder]
  rw [ContractCall.holdWord, Abi.Method.calldata, encoded, ← List.append_assoc,
    List.drop_left' front, List.take_left' (Abi.length_word _)]

/-- A reference to a hold is built if the token has a manager and its amounts can be counted. -/
theorem exists_build_of_holdRef (refers : request.holdRef? = some hold) {manager : EntityId}
    (managed : token.manager = some manager)
    (counted : ∀ amount ∈ request.amounts, ∃ n, token.units amount = .ok n) :
    ∃ call, build token request = .ok call := by
  cases request <;> cases refers
  case executeHold recipient amount =>
    obtain ⟨n, units⟩ := counted amount List.mem_cons_self
    simp only [build, destination, arguments, managed, units]
    exact ⟨_, rfl⟩
  case releaseHold amount =>
    obtain ⟨n, units⟩ := counted amount List.mem_cons_self
    simp only [build, destination, arguments, managed, units]
    exact ⟨_, rfl⟩
  case reclaimHold =>
    simp only [build, destination, arguments, managed]
    exact ⟨_, rfl⟩

end Contract

/-! ## Settlements of any format -/

namespace Settlement

/-- An outcome about a transaction: the response or the error carries its id. -/
def Concerns (id : TransactionId) : Except ResponseError Response → Prop
  | .ok response => response.id = some id
  | .error e => e.transaction = id

theorem Comes.concerns {s : Settlement} {kind : ResponseKind} {format : Option ReturnFormat}
    {outcome : Except ResponseError Response} (comes : s.Comes kind format outcome) :
    Concerns s.toReceipt.transaction outcome := by
  cases comes with
  | failed _ => rfl
  | receiptOnly _ => rfl
  | unrecorded _ => rfl
  | read _ _ => rfl
  | unread _ _ => rfl

/-- What a settlement comes to, in order of precedence. -/
structure Normalizes (s : Settlement) : Prop where
  /-- A failed status is a failure with its code, whatever was fetched or asked for. -/
  failed : ∀ code, s.toReceipt.status = .failed code → ∀ kind format,
    s.response kind format = .ok (.failure ⟨.settlementFailed,
      "transaction settled with status " ++ code, some s.toReceipt.transaction, none⟩)
  /-- If only the receipt is asked for, a success is all there is to say. -/
  receiptOnly : s.toReceipt.status = .success → ∀ format,
    s.response .receiptOnly format = .ok (.success s.toReceipt.transaction .settled)
  /-- A record that is asked for has to be there. -/
  unrecorded : ∀ receipt, s = .receipt receipt → receipt.status = .success → ∀ format,
    s.response .fullRecord format = .error ⟨receipt.transaction, .missingRecord⟩
  /-- Data that nobody asked to decode stays as it is. -/
  raw : ∀ found data, s = .record found → found.receipt.status = .success →
    found.returned = some data →
    s.response .fullRecord none = .ok (.success found.receipt.transaction (.raw data))
  silent : ∀ found, s = .record found → found.receipt.status = .success →
    found.returned = none →
    s.response .fullRecord none = .ok (.success found.receipt.transaction .settled)
  /-- Response or error, it is about the transaction of the receipt. -/
  concerns : ∀ kind format, Concerns s.toReceipt.transaction (s.response kind format)

theorem normalizes (s : Settlement) : s.Normalizes where
  failed code failed kind format := response_of_failed failed kind format
  receiptOnly settled format := response_of_receiptOnly settled format
  unrecorded receipt same settled format := by
    rw [same]
    exact (Comes.unrecorded settled).eq
  raw found data same settled returned := by
    have payload : found.payload none = .ok (.raw data) := by rw [Record.payload, returned]; rfl
    rw [same]
    exact (Comes.read settled payload).eq
  silent found same settled returned := by
    have payload : found.payload none = .ok .settled := by rw [Record.payload, returned]; rfl
    rw [same]
    exact (Comes.read settled payload).eq
  concerns kind format := (s.comes_response kind format).concerns

end Settlement

/-! ## The results of creating a hold -/

/-- The response to a record of a success that is read by a format. -/
def ReturnFormat.respond (format : ReturnFormat) (id : TransactionId) (returned : Option Bytes) :
    Except ResponseError Response :=
  (Settlement.record ⟨⟨id, .success⟩, returned⟩).response .fullRecord (some format)

/-- How a format reads the results of creating a hold. -/
structure ReturnFormat.ReadsResults (format : ReturnFormat) : Prop where
  /-- No data is no answer. -/
  empty : ∀ id returned, returned = none ∨ returned = some [] →
    format.respond id returned = .error ⟨id, .emptyData format.function⟩
  /-- Less than two words do not decode. -/
  short : ∀ id data, 1 ≤ data.length → data.length ≤ 63 →
    format.respond id (some data) = .error ⟨id, .undecodable format.function .overrun⟩
  /-- Two words do, whatever follows. -/
  long : ∀ id data, 64 ≤ data.length →
    format.respond id (some data) = .ok (.success id (.decoded
      [.bool (Bytes.toNat (data.take 32) != 0),
        .uint 256 (Bytes.toNat ((data.drop 32).take 32))]))
  /-- The first 64 bytes decide. -/
  front : ∀ id data data', 64 ≤ data.length → 64 ≤ data'.length → data.take 64 = data'.take 64 →
    format.respond id (some data) = format.respond id (some data')
  /-- The function is one of the interface. -/
  known : ∀ (s : Settlement) kind id function,
    s.response kind (some format) ≠ .error ⟨id, .unknownFunction function⟩
  /-- What a contract encodes is what is decoded. -/
  encoded : ∀ id b n, n < 2 ^ 256 → format.respond id (some (encodeAll [.bool b, .uint 256 n])) =
    .ok (.success id (.decoded [.bool b, .uint 256 n]))
  /-- A call that refers to the hold carries the word that was returned, and it can be built if the
  token has a manager and its amounts can be counted. -/
  carried : ∀ id data b n, format.respond id (some data) =
      .ok (.success id (.decoded [.bool b, .uint 256 n])) →
    ∀ token request hold, Request.holdRef? request = some hold → hold.holdId.toNat = n →
      (∀ call, Contract.build token request = .ok call →
        call.holdWord = (data.drop 32).take 32) ∧
      ∀ manager, token.manager = some manager →
        (∀ amount ∈ request.amounts, ∃ units, token.units amount = .ok units) →
        ∃ call, Contract.build token request = .ok call

namespace ReturnFormat.ReadsHold

variable {format : ReturnFormat}

theorem respond_eq (reads : format.ReadsHold) (id : TransactionId) (returned : Option Bytes) :
    format.respond id returned =
      if 64 ≤ (returned.getD []).length then
        .ok (.success id (.decoded (holdResults (returned.getD []))))
      else .error ⟨id, tooShort format.function (returned.getD [])⟩ :=
  Settlement.response_of_readsHold rfl reads

/-- Data that was read is two words long at least, and the second one is the number. -/
theorem of_respond (reads : format.ReadsHold) {id : TransactionId} {data : Bytes} {b : Bool}
    {n : Nat} (responded : format.respond id (some data) =
      .ok (.success id (.decoded [.bool b, .uint 256 n]))) :
    64 ≤ data.length ∧ Bytes.toNat ((data.drop 32).take 32) = n := by
  rw [reads.respond_eq] at responded
  split at responded
  · rename_i long
    simp only [Option.getD_some, Except.ok.injEq, Response.success.injEq, Payload.decoded.injEq,
      holdResults, List.cons.injEq, Value.uint.injEq, true_and, and_true] at responded
    exact ⟨long, responded.2⟩
  · cases responded

/-- The only faults are those of data that is too short. -/
theorem tooShort_of_payload (reads : format.ReadsHold) {found : Record} {fault : ResponseFault}
    (unread : found.payload (some format) = .error fault) :
    fault = tooShort format.function (found.returned.getD []) := by
  rw [Record.payload, reads] at unread
  split at unread
  · cases unread
  · cases unread
    rfl

theorem ne_unknownFunction (reads : format.ReadsHold) (s : Settlement) (kind : ResponseKind)
    (id : TransactionId) (function : String) :
    s.response kind (some format) ≠ .error ⟨id, .unknownFunction function⟩ := by
  intro unknown
  have comes := s.comes_response kind (some format)
  rw [unknown] at comes
  cases comes with
  | unread _ unread =>
    have short := reads.tooShort_of_payload unread
    unfold tooShort at short
    split at short <;> cases short

theorem readsResults (reads : format.ReadsHold) : format.ReadsResults where
  empty id returned missing := by
    rw [reads.respond_eq]
    rcases missing with rfl | rfl
    · rfl
    · rfl
  short id data some_byte few := by
    have occupied : ¬ data.isEmpty = true := by
      intro empty
      rw [List.isEmpty_iff.mp empty] at some_byte
      cases some_byte
    rw [reads.respond_eq, Option.getD_some, if_neg (by omega), tooShort, if_neg occupied]
  long id data long := by
    rw [reads.respond_eq, Option.getD_some, if_pos long]
    rfl
  front id data data' long long' same := by
    rw [reads.respond_eq, reads.respond_eq, Option.getD_some, Option.getD_some, if_pos long,
      if_pos long', ← holdResults_take data, same, holdResults_take]
  known := reads.ne_unknownFunction
  encoded id b n small := by
    have long : 64 ≤ (encodeAll [.bool b, .uint 256 n]).length := by
      rw [encodeAll_results, List.length_append, Abi.length_word, Abi.length_word]
    rw [reads.respond_eq, Option.getD_some, if_pos long, holdResults_encodeAll b small]
  carried id data b n responded token request hold refers numbered := by
    obtain ⟨long, number⟩ := reads.of_respond responded
    refine ⟨fun call built => ?_, fun manager => Contract.exists_build_of_holdRef refers⟩
    have size : ((data.drop 32).take 32).length = 32 := by
      rw [List.length_take, List.length_drop]
      omega
    rw [Contract.holdWord_of_build refers built, numbered, ← number, Abi.word,
      Bytes.ofNat_toNat size]

end ReturnFormat.ReadsHold

/-! ## Normalization -/

/-- A call that creates a hold is planned with a format. -/
theorem Surface.contract_plan_of_createsHold {token : Token} {request : Request}
    {call : ContractCall} (built : Contract.build token request = .ok call)
    (creates : request.operation.createsHold = true) :
    ∃ format, contract.plan token request = .ok ⟨.contract call, .fullRecord, some format⟩ := by
  obtain ⟨format, known, -⟩ :=
    Contract.returnFormat_readsHold (Contract.function_of_createsHold built creates)
  refine ⟨format, ?_⟩
  simp only [plan, built]
  exact Plan.ofCall_of_createsHold creates known

/-- **Normalization.** A settlement comes to what its status, the kind of fetching and the format
make of it, in this order, and always tells its transaction. Every format that a plan attaches reads
the record of a new hold, exactly. -/
theorem Settlement.normalization :
    (∀ s : Settlement, s.Normalizes) ∧
    ∀ (surface : Surface) (token : Token) (request : Request) (plan : Plan) (format : ReturnFormat),
      surface.plan token request = .ok plan → plan.format = some format →
      plan.response = .fullRecord ∧ format.ReadsResults := by
  refine ⟨Settlement.normalizes, fun surface token request plan format planned attached => ?_⟩
  have consistent := Surface.consistent_of_plan planned
  unfold Plan.Consistent at consistent
  split at consistent
  · obtain ⟨record, format', known, reads⟩ := consistent
    cases known.symm.trans attached
    exact ⟨record, reads.readsResults⟩
  · rw [consistent.2] at attached
    cases attached

/-- The hold with the number 7, from the data that its creation returned to the call that takes it
back. -/
theorem Settlement.normalization_reclaimedHold :
    let token : Token := ⟨⟨0, 0, 7⟩, some ⟨0, 0, 9⟩, ⟨0, 0, 8⟩, 6⟩
    let hold : Hold := ⟨Amount.zero 6, ⟨0, 0, 3⟩, ⟨1900000000, 0, by decide⟩, none, [1, 2]⟩
    let id : TransactionId := ⟨⟨0, 0, 2⟩, 1700000000, 5⟩
    let data : Bytes := encodeAll [.bool true, .uint 256 7] ++ [255]
    ∃ plan format, Surface.contract.plan token (.createHold hold) = .ok plan ∧
      plan.format = some format ∧
      format.respond id (some data) = .ok (.success id (.decoded [.bool true, .uint 256 7])) ∧
      ∃ call, Contract.build token (.reclaimHold ⟨⟨0, 0, 3⟩, 7⟩) = .ok call ∧
        call.holdWord = (data.drop 32).take 32 := by
  intro token hold id data
  have succeeds : (Contract.build token (.createHold hold)).isOk = true := by decide +kernel
  cases made : Contract.build token (.createHold hold) with
  | error e =>
    rw [made] at succeeds
    cases succeeds
  | ok created =>
    obtain ⟨format, planned⟩ := Surface.contract_plan_of_createsHold made rfl
    obtain ⟨-, reads⟩ := Settlement.normalization.2 _ _ _ _ _ planned rfl
    have small : 7 < 2 ^ 256 := by decide
    have responded : format.respond id (some data) =
        .ok (.success id (.decoded [.bool true, .uint 256 7])) := by
      rw [reads.front id data (encodeAll [.bool true, .uint 256 7]) (by decide +kernel)
        (by decide +kernel) (by decide +kernel), reads.encoded id true 7 small]
    obtain ⟨carries, builds⟩ := reads.carried id data true 7 responded token
      (.reclaimHold ⟨⟨0, 0, 3⟩, 7⟩) _ rfl rfl
    obtain ⟨call, built⟩ := builds _ rfl fun amount member => by cases member
    exact ⟨_, format, planned, rfl, responded, call, built, carries call built⟩

end TokenDesk
