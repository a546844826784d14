import TokenDesk.Proofs.Text.Grammar
import TokenDesk.Proofs.Wire.Record
import TokenDesk.Wire.Scalar

/-!
Transaction ids made for instants, and the way back from their texts.

An id takes over the nanoseconds of its instant, and these may go on past the end of their second,
as they do within a leap second. The readers end there. So an id is read back from its text, alone
or on the wire, if and only if the nanoseconds of its instant end with their second
(`TransactionId.ofInstant_readBack_iff`). Otherwise the text has a tenth digit, and both readers
refuse it (`TransactionId.ofInstant_lost`).
-/

namespace TokenDesk

open Json (toDocument)

namespace TransactionId

/-- The nanoseconds of an instant, past the end of its second too, are those of its ids. -/
theorem nanos_ofInstant (payer : EntityId) (t : Calendar.Instant) :
    (ofInstant payer t).nanos.toNat = t.nanos := by
  obtain ⟨-, -, short⟩ := Calendar.isInstant_iff.mp t.valid
  have small : t.nanos < 2 ^ 32 := by omega
  exact UInt32.toNat_ofNat_of_lt' small

theorem read_toString (id : TransactionId) :
    read id.toString = if id.nanos.toNat < 1_000_000_000 then .ok id
      else .error (.transaction id.toString) := by
  unfold read
  rw [toString, String.toList_ofList, ofText?_text]
  by_cases small : id.nanos.toNat < 1_000_000_000
  · rw [if_pos small, if_pos small]
  · rw [if_neg small, if_neg small]

end TransactionId

/-- On the wire an id is read as its text is. -/
theorem Wire.decodeText_ofTransactionId (id : TransactionId) :
    decodeText transactionId (ofTransactionId id).chars =
      (TransactionId.read id.toString).mapError .id := by
  have fits : Json.Fits 0 (ofTransactionId id) := trivial
  rw [decodeText_chars fits]
  unfold transactionId ofTransactionId
  simp only [toDocument, string, characters, Except.map, String.ofList_toList, bind, Except.bind]
  cases TransactionId.read id.toString with
  | ok id' => rfl
  | error cause => rfl

namespace TransactionId

/-- **Ids of instants.** -/
theorem ofInstant_readBack_iff (payer : EntityId) (t : Calendar.Instant) :
    (read (ofInstant payer t).toString = .ok (ofInstant payer t) ↔ t.nanos < 1_000_000_000) ∧
    (Wire.decodeText Wire.transactionId (Wire.ofTransactionId (ofInstant payer t)).chars =
      .ok (ofInstant payer t) ↔ t.nanos < 1_000_000_000) := by
  rw [Wire.decodeText_ofTransactionId, read_toString, nanos_ofInstant]
  by_cases small : t.nanos < 1_000_000_000
  · simp [small, Except.mapError]
  · simp [small, Except.mapError]

/-- The last second of the first minute of 1970, as a leap second begins in it. -/
theorem ofInstant_lost :
    ∃ (payer : EntityId) (t : Calendar.Instant), t.seconds = 59 ∧ t.nanos = 1_000_000_000 ∧
      (ofInstant payer t).toString = "0.0.2@59.1000000000" ∧
      read (ofInstant payer t).toString = .error (.transaction "0.0.2@59.1000000000") ∧
      Wire.decodeText Wire.transactionId (Wire.ofTransactionId (ofInstant payer t)).chars =
        .error (.id (.transaction "0.0.2@59.1000000000")) := by
  have written : (ofInstant ⟨0, 0, 2⟩ ⟨59, 1_000_000_000, by decide⟩).toString =
      "0.0.2@59.1000000000" := by decide +kernel
  have refused := read_toString (ofInstant ⟨0, 0, 2⟩ ⟨59, 1_000_000_000, by decide⟩)
  rw [nanos_ofInstant, if_neg (by decide), written] at refused
  refine ⟨⟨0, 0, 2⟩, ⟨59, 1_000_000_000, by decide⟩, rfl, rfl, written, ?_, ?_⟩
  · rw [written, refused]
  · rw [Wire.decodeText_ofTransactionId, written, refused]
    rfl

end TransactionId

end TokenDesk
