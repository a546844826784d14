import TokenDesk.Response

/-!
What a settlement comes to.

The status comes first, then what was to be fetched, then what was fetched, and only the record of a
success is read. `Settlement.Comes` has one rule for each of these cases. What comes about by a rule
is the response (`Settlement.Comes.eq`), and every response does (`Settlement.comes_response`).
-/

namespace TokenDesk

namespace Settlement

/-- The failure that a transaction settled with a code. -/
def failure (settlement : Settlement) (code : String) : Failure :=
  (Failure.ofMessage .settlementFailed ("transaction settled with status " ++ code)).withTransaction
    settlement.toReceipt.transaction

/-- The rules by which a settlement comes to a response or to an error. -/
inductive Comes :
    Settlement → ResponseKind → Option ReturnFormat → Except ResponseError Response → Prop
  | failed {s : Settlement} {kind : ResponseKind} {format : Option ReturnFormat} {code : String} :
    s.toReceipt.status = .failed code → Comes s kind format (.ok (.failure (s.failure code)))
  | receiptOnly {s : Settlement} {format : Option ReturnFormat} : s.toReceipt.status = .success →
    Comes s .receiptOnly format (.ok (.success s.toReceipt.transaction .settled))
  | unrecorded {receipt : Receipt} {format : Option ReturnFormat} : receipt.status = .success →
    Comes (.receipt receipt) .fullRecord format (.error ⟨receipt.transaction, .missingRecord⟩)
  | read {found : Record} {format : Option ReturnFormat} {payload : Payload} :
    found.receipt.status = .success → found.payload format = .ok payload →
    Comes (.record found) .fullRecord format (.ok (.success found.receipt.transaction payload))
  | unread {found : Record} {format : Option ReturnFormat} {fault : ResponseFault} :
    found.receipt.status = .success → found.payload format = .error fault →
    Comes (.record found) .fullRecord format (.error ⟨found.receipt.transaction, fault⟩)

variable {s : Settlement} {kind : ResponseKind} {format : Option ReturnFormat}

theorem Comes.eq {outcome : Except ResponseError Response} (comes : s.Comes kind format outcome) :
    s.response kind format = outcome := by
  cases comes with
  | failed status =>
    simp only [response, status]
    rfl
  | receiptOnly status => simp only [response, status]
  | unrecorded status => simp only [response, toReceipt, status]
  | read status payload => simp only [response, toReceipt, status, payload]
  | unread status fault => simp only [response, toReceipt, status, fault]

theorem exists_comes (s : Settlement) (kind : ResponseKind) (format : Option ReturnFormat) :
    ∃ outcome, s.Comes kind format outcome := by
  cases status : s.toReceipt.status with
  | failed code => exact ⟨_, .failed status⟩
  | success =>
    cases kind with
    | receiptOnly => exact ⟨_, .receiptOnly status⟩
    | fullRecord =>
      cases s with
      | receipt receipt => exact ⟨_, .unrecorded status⟩
      | record found =>
        cases payload : found.payload format with
        | ok payload' => exact ⟨_, .read status payload⟩
        | error fault => exact ⟨_, .unread status payload⟩

/-- Every response comes about by one of the rules. -/
theorem comes_response (s : Settlement) (kind : ResponseKind) (format : Option ReturnFormat) :
    s.Comes kind format (s.response kind format) := by
  obtain ⟨outcome, comes⟩ := s.exists_comes kind format
  rw [comes.eq]
  exact comes

/-- A failed status is a failure, whatever was fetched and however it was to be read. -/
theorem response_of_failed {code : String} (failed : s.toReceipt.status = .failed code)
    (kind : ResponseKind) (format : Option ReturnFormat) :
    s.response kind format = .ok (.failure (s.failure code)) := (Comes.failed failed).eq

theorem response_of_receiptOnly (settled : s.toReceipt.status = .success)
    (format : Option ReturnFormat) :
    s.response .receiptOnly format = .ok (.success s.toReceipt.transaction .settled) :=
  (Comes.receiptOnly settled).eq

end Settlement

end TokenDesk
