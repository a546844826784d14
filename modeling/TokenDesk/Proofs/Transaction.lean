import TokenDesk.Proofs.Json.Unambiguous
import TokenDesk.Proofs.Text.WrittenIds
import TokenDesk.Transaction

/-!
What gets signed is one transaction. The bytes determine the text, the text the JSON value, and the
value the transaction (`Unsigned.bytes_eq_iff`): its surface and its type are named in the value,
and every field stands under a name of its own. So one signature never authorizes two transactions.
-/

namespace TokenDesk

namespace Transaction

theorem ofId_inj {id id' : EntityId} : ofId id = ofId id' ↔ id = id' :=
  ⟨fun same => EntityId.toString_injective (Json.text.inj same), congrArg ofId⟩

theorem ofUnits_inj {n n' : Int64} : ofUnits n = ofUnits n' ↔ n = n' :=
  ⟨fun same => Int64.toInt_inj.mp (Json.int.inj same), congrArg ofUnits⟩

/-- An absent token is written as null, which is no id. -/
theorem elim_ofId_inj {id id' : Option EntityId} :
    id.elim .null ofId = id'.elim .null ofId ↔ id = id' := by
  refine ⟨fun same => ?_, fun same => by rw [same]⟩
  cases id with
  | none =>
    cases id' with
    | none => rfl
    | some id' => cases same
  | some id =>
    cases id' with
    | none => cases same
    | some id' => rw [ofId_inj.mp same]

theorem ofAdjustment_injective : Function.Injective ofAdjustment := by
  rintro ⟨account, amount⟩ ⟨account', amount'⟩ same
  simpa [ofAdjustment, ofId_inj, ofUnits_inj] using same

theorem ofFee_injective : Function.Injective ofFee := by
  intro fee fee' same
  cases fee with
  | fixed amount denominatingToken collector exempt =>
    cases fee' with
    | fixed amount' denominatingToken' collector' exempt' =>
      simpa [ofFee, ofId_inj, ofUnits_inj, elim_ofId_inj] using same
    | fractional => simp [ofFee] at same
  | fractional numerator denominator minimum maximum net collector exempt =>
    cases fee' with
    | fixed => simp [ofFee] at same
    | fractional numerator' denominator' minimum' maximum' net' collector' exempt' =>
      simpa [ofFee, ofId_inj, ofUnits_inj] using same

/-- The name of a native body's type stands first among its members, and every type has a name of
its own. -/
theorem ofNative_injective : Function.Injective ofNative := by
  intro body body' same
  -- Two different types already differ in the first member, and bodies of one type field by field.
  cases body <;> cases body' <;>
    simp [ofNative, ofId_inj, ofUnits_inj, ofFee_injective.list_map.eq_iff,
      ofAdjustment_injective.list_map.eq_iff] at same ⊢ <;> exact same

theorem ofCall_injective : Function.Injective ofCall := by
  rintro ⟨contract, function, gas, calldata⟩ ⟨contract', function', gas', calldata'⟩ same
  simpa [ofCall, ofId_inj, Json.nat, Text.hexString_injective.eq_iff] using same

/-- No native body is written like a call of a contract. -/
theorem ofBody_injective : Function.Injective ofBody := by
  intro body body' same
  cases body with
  | native body =>
    cases body' with
    | native body' =>
      have members := (List.cons.inj (Json.object.inj same)).2
      rw [ofNative_injective members]
    | contract call' => simp [ofBody] at same
  | contract call =>
    cases body' with
    | native body' => simp [ofBody] at same
    | contract call' =>
      have members := (List.cons.inj (Json.object.inj same)).2
      rw [ofCall_injective members]

end Transaction

namespace Unsigned

theorem toJson_injective : Function.Injective toJson := by
  rintro ⟨id, maxFee, body⟩ ⟨id', maxFee', body'⟩ same
  simpa [toJson, Json.nat, TransactionId.toString_injective.eq_iff, UInt64.toNat_inj,
    Transaction.ofBody_injective.eq_iff] using same

/-- **Unambiguity.** Two transactions are signed as the same bytes only if they are the same: payer,
start and fee bound, surface and type, and every field. Bodies, lists of fees and lists of
adjustments are each determined by their own text. -/
theorem bytes_eq_iff :
    (∀ u u' : Unsigned, u.bytes = u'.bytes ↔ u = u') ∧
    (∀ body body' : Body, (Transaction.ofBody body).chars = (Transaction.ofBody body').chars ↔
      body = body') ∧
    (∀ fees fees' : List FeeTerms, (Json.array (fees.map Transaction.ofFee)).chars =
      (Json.array (fees'.map Transaction.ofFee)).chars ↔ fees = fees') ∧
    ∀ adjustments adjustments' : List Adjustment,
      (Json.array (adjustments.map Transaction.ofAdjustment)).chars =
        (Json.array (adjustments'.map Transaction.ofAdjustment)).chars ↔
          adjustments = adjustments' := by
  refine ⟨fun u u' => ⟨fun same => ?_, congrArg bytes⟩, fun body body' => ?_, fun fees fees' => ?_,
    fun adjustments adjustments' => ?_⟩
  · exact toJson_injective (Json.chars_injective (Text.utf8_injective same))
  · rw [Json.chars_injective.eq_iff, Transaction.ofBody_injective.eq_iff]
  · rw [Json.chars_injective.eq_iff, Json.array.injEq,
      (Transaction.ofFee_injective.list_map).eq_iff]
  · rw [Json.chars_injective.eq_iff, Json.array.injEq,
      (Transaction.ofAdjustment_injective.list_map).eq_iff]

end Unsigned

end TokenDesk
