import TokenDesk.Proofs.Amount.Gate
import TokenDesk.Proofs.Calendar.Texts
import TokenDesk.Proofs.Decimal.Written
import TokenDesk.Proofs.Text.WrittenIds
import TokenDesk.Proofs.Wire.Record

/-!
Ids, amounts, instants, byte strings and numbers on the wire. What is written for each of them is
decoded as it was, an amount if it came through the gate and an instant if a clock shows it. Every
amount that is decoded came through the gate (`accepted_of_amount`), and every instant is one that a
clock shows (`isOnClock_of_instant`).
-/

namespace TokenDesk.Wire

open Json (Document toDocument)

/-! ## Numbers -/

theorem integer_int {low high i : Int} (range : low ≤ i ∧ i ≤ high) :
    integer low high (Json.int i).toDocument = .ok i :=
  if_pos range

theorem natural_nat {bits n : Nat} (small : n < 2 ^ bits) :
    natural bits (Json.nat n).toDocument = .ok n := by
  have bounded : (n : Int) ≤ (2 ^ bits - 1 : Nat) := Int.ofNat_le.mpr (Nat.le_pred_of_lt small)
  unfold natural Json.nat
  rw [integer_int ⟨Int.natCast_nonneg n, bounded⟩]
  rfl

theorem uint8_nat (n : UInt8) : uint8 (Json.nat n.toNat).toDocument = .ok n := by
  unfold uint8
  rw [natural_nat n.toNat_lt]
  exact congrArg Except.ok UInt8.ofNat_toNat

theorem uint64_nat (n : UInt64) : uint64 (Json.nat n.toNat).toDocument = .ok n := by
  unfold uint64
  rw [natural_nat n.toNat_lt]
  exact congrArg Except.ok UInt64.ofNat_toNat

theorem int64_int (n : Int64) : int64 (Json.int n.toInt).toDocument = .ok n := by
  have read := integer_int (i := n.toInt) ⟨n.minValue_le_toInt, n.toInt_le⟩
  unfold int64
  rw [read]
  exact congrArg Except.ok (Int64.ofInt_toInt n)

theorem bool_bool (b : Bool) : bool (Json.bool b).toDocument = .ok b := rfl

/-! ## Numbers in range -/

theorem inRange_of_int64 (n : Int64) : Json.InRange n.toInt := by
  have low := n.minValue_le_toInt
  have high := n.toInt_le
  have size : UInt64.size = 18446744073709551616 := rfl
  have least : Int64.minValue.toInt = -9223372036854775808 := rfl
  have greatest : Int64.maxValue.toInt = 9223372036854775807 := rfl
  unfold Json.InRange
  omega

theorem inRange_of_uint64 (n : UInt64) : Json.InRange n.toNat := by
  have high : n.toNat < UInt64.size := n.toNat_lt
  unfold Json.InRange
  omega

theorem inRange_of_uint8 (n : UInt8) : Json.InRange n.toNat := by
  have high := n.toNat_lt
  have size : UInt64.size = 18446744073709551616 := rfl
  unfold Json.InRange
  omega

/-! ## Texts -/

theorem entity_ofEntity (id : EntityId) : entity (ofEntity id).toDocument = .ok id := by
  have read : EntityId.read id.toString = .ok id := by
    unfold EntityId.read EntityId.toString
    rw [String.toList_ofList, EntityId.ofText?_text]
  unfold entity ofEntity
  simp only [toDocument, string, characters, Except.map, String.ofList_toList, bind, Except.bind,
    read]

theorem optional_ofEntity? (id : Option EntityId) :
    optional entity (ofEntity? id).toDocument = .ok id := by
  cases id with
  | none => rfl
  | some id =>
    have read := entity_ofEntity id
    change (entity (ofEntity id).toDocument).map some = _
    rw [read]
    rfl

theorem instant_ofInstant {t : Calendar.Instant} (shown : t.isOnClock = true) :
    instant (ofInstant t).toDocument = .ok t := by
  unfold instant ofInstant
  simp only [toDocument, characters, String.toList_ofList, bind, Except.bind,
    Calendar.Instant.read_text_of_isOnClock shown]

/-- Every instant that is decoded is one that a clock shows. -/
theorem isOnClock_of_instant {d : Document} {t : Calendar.Instant} (decoded : instant d = .ok t) :
    t.isOnClock = true := by
  obtain ⟨cs, -, decoded⟩ := of_bind_ok decoded
  split at decoded
  · rename_i read
    cases decoded
    exact Calendar.Instant.isOnClock_of_read read
  · cases decoded

theorem bytes_ofBytes (b : Bytes) : bytes (ofBytes b).toDocument = .ok b := by
  unfold ofBytes
  rw [toDocument, bytes, Text.readHex_hexString]

/-! ## Amounts -/

theorem decimal_text (d : Decimal) : decimal (Json.text d.toString).toDocument = .ok d := by
  unfold decimal Decimal.toString
  simp only [toDocument, characters, String.toList_ofList, bind, Except.bind, Decimal.read_text]

theorem read_of_decimal {cs : List Char} {d : Decimal}
    (decoded : decimal (Json.text (String.ofList cs)).toDocument = .ok d) :
    Decimal.read cs = .ok d := by
  unfold decimal at decoded
  simp only [toDocument, characters, String.toList_ofList, bind, Except.bind] at decoded
  split at decoded
  · rename_i value read
    cases decoded
    exact read
  · cases decoded

/-- The value of a written amount is put through the gate again. -/
theorem amount_toDocument (a : Amount) : amount (ofAmount a).toDocument =
    (Amount.ofDecimal a.value a.decimals).mapError .amount := by
  have opened : record ["value", "decimals"] (ofAmount a).toDocument =
      .ok (Record.ofMembers [("value", .text a.toString), ("decimals", .nat a.decimals.toNat)]) :=
    record_object (by simp)
  have value : (Record.ofMembers [("value", .text a.toString),
      ("decimals", .nat a.decimals.toNat)]).field 0 decimal = .value a.value :=
    field_ofMembers rfl (decimal_text a.value)
  have decimals : (Record.ofMembers [("value", .text a.toString),
      ("decimals", .nat a.decimals.toNat)]).field 1 uint8 = .value a.decimals :=
    field_ofMembers rfl (uint8_nat a.decimals)
  unfold amount
  rw [opened]
  simp only [bind, Except.bind, value, decimals, Reading.map_value, Reading.seq_value,
    settle_ofMembers]
  cases Amount.ofDecimal a.value a.decimals with
  | ok b => rfl
  | error cause => rfl

/-- An amount that came through the gate is decoded as it was. -/
theorem amount_ofAmount {a : Amount} (accepted : a.Accepted) :
    amount (ofAmount a).toDocument = .ok a := by
  rw [amount_toDocument, accepted.ofDecimal_value, mapError_ok]

/-- Every amount that is decoded came through the gate. -/
theorem accepted_of_amount {d : Document} {a : Amount} (decoded : amount d = .ok a) :
    a.Accepted := by
  obtain ⟨r, -, decoded⟩ := of_bind_ok decoded
  obtain ⟨⟨value, decimals⟩, -, passed⟩ := of_bind_ok decoded
  dsimp only at passed
  split at passed
  · rename_i b gate
    cases passed
    exact Amount.accepted_of_ofDecimal gate
  · cases passed

end TokenDesk.Wire
