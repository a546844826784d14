import Mathlib.Data.UInt
import Mathlib.Logic.ExistsUnique
import Mathlib.Logic.Function.Basic
import TokenDesk.EntityId
import TokenDesk.Proofs.Bytes

/-!
Ids and addresses are two forms of one thing.

Read as a number, an address has the parts of its id as digits (`toNat_address`), so addresses are
ordered as the ids are (`compare_eq`). `ofAddress` takes an address apart at the places where its
parts meet, and every string of twenty bytes is the address of the id that this gives
(`address_ofAddress`). The main statement is `addresses_embed`.
-/

namespace TokenDesk

namespace EntityId

theorem length_address (id : EntityId) : id.address.length = 20 := by
  simp only [address, List.length_append, Bytes.length_ofNat]

/-! ## Parts -/

theorem shard_lt (id : EntityId) : id.shard.toNat < Bytes.span 4 := id.shard.toNat_lt

theorem realm_lt (id : EntityId) : id.realm.toNat < Bytes.span 8 := id.realm.toNat_lt

theorem num_lt (id : EntityId) : id.num.toNat < Bytes.span 8 := id.num.toNat_lt

/-- The id that an address is made from. -/
def ofAddress (bytes : Bytes) : EntityId where
  shard := .ofNat (Bytes.toNat (bytes.take 4))
  realm := .ofNat (Bytes.toNat ((bytes.drop 4).take 8))
  num := .ofNat (Bytes.toNat (bytes.drop 12))

theorem ofAddress_address (id : EntityId) : ofAddress id.address = id := by
  have shard : id.address.take 4 = Bytes.ofNat 4 id.shard.toNat := by
    rw [address, List.append_assoc, List.take_left' (Bytes.length_ofNat 4 _)]
  have realm : (id.address.drop 4).take 8 = Bytes.ofNat 8 id.realm.toNat := by
    rw [address, List.append_assoc, List.drop_left' (Bytes.length_ofNat 4 _),
      List.take_left' (Bytes.length_ofNat 8 _)]
  have num : id.address.drop 12 = Bytes.ofNat 8 id.num.toNat := by
    rw [address, List.drop_left' (by simp only [List.length_append, Bytes.length_ofNat])]
  rw [ofAddress, shard, realm, num, Bytes.toNat_ofNat, Bytes.toNat_ofNat, Bytes.toNat_ofNat,
    Nat.mod_eq_of_lt id.shard_lt, Nat.mod_eq_of_lt id.realm_lt, Nat.mod_eq_of_lt id.num_lt,
    UInt32.ofNat_toNat, UInt64.ofNat_toNat, UInt64.ofNat_toNat]

theorem address_injective : Function.Injective EntityId.address :=
  Function.LeftInverse.injective ofAddress_address

/-- Any twenty bytes are an address. -/
theorem address_ofAddress {bytes : Bytes} (size : bytes.length = 20) :
    (ofAddress bytes).address = bytes := by
  have shard_size : (bytes.take 4).length = 4 := by
    rw [List.length_take, size]
    rfl
  have realm_size : ((bytes.drop 4).take 8).length = 8 := by
    rw [List.length_take, List.length_drop, size]
    rfl
  have num_size : (bytes.drop 12).length = 8 := by
    rw [List.length_drop, size]
  have shard := Bytes.toNat_lt_span (bytes.take 4)
  have realm := Bytes.toNat_lt_span ((bytes.drop 4).take 8)
  have num := Bytes.toNat_lt_span (bytes.drop 12)
  rw [shard_size] at shard
  rw [realm_size] at realm
  rw [num_size] at num
  have behind : (bytes.drop 4).drop 8 = bytes.drop 12 := List.drop_drop
  rw [address, ofAddress, UInt32.toNat_ofNat_of_lt' shard, UInt64.toNat_ofNat_of_lt' realm,
    UInt64.toNat_ofNat_of_lt' num, Bytes.ofNat_toNat shard_size, Bytes.ofNat_toNat realm_size,
    Bytes.ofNat_toNat num_size, List.append_assoc, ← behind, List.take_append_drop,
    List.take_append_drop]

/-! ## Order -/

/-- The parts of an id are the digits of its address. -/
theorem toNat_address (id : EntityId) :
    Bytes.toNat id.address =
      (id.shard.toNat * Bytes.span 8 + id.realm.toNat) * Bytes.span 8 + id.num.toNat := by
  rw [address, Bytes.toNat_append, Bytes.toNat_append, Bytes.length_ofNat, Bytes.length_ofNat,
    Bytes.toNat_ofNat, Bytes.toNat_ofNat, Bytes.toNat_ofNat, Nat.mod_eq_of_lt id.shard_lt,
    Nat.mod_eq_of_lt id.realm_lt, Nat.mod_eq_of_lt id.num_lt]

/-- Ids are compared as the numbers that their addresses are. -/
theorem compare_eq (a b : EntityId) :
    a.compare b = Ord.compare (Bytes.toNat a.address) (Bytes.toNat b.address) := by
  rw [toNat_address, toNat_address, compare_digits _ _ a.num_lt b.num_lt,
    compare_digits _ _ a.realm_lt b.realm_lt, compare, UInt32.compare_eq_toNat_compare_toNat,
    UInt64.compare_eq_toNat_compare_toNat, UInt64.compare_eq_toNat_compare_toNat]

theorem compare_eq_lt_iff (a b : EntityId) : a.compare b = .lt ↔ a.address < b.address := by
  rw [compare_eq, Nat.compare_eq_lt,
    Bytes.lt_iff_toNat_lt (a.length_address.trans b.length_address.symm)]

/-- **Addresses embed ids.** Ids are in the order of their addresses, byte by byte. Different ids
have different addresses, the parts of an id are found in its address, and a byte string is the
address of exactly one id if and only if it has twenty bytes. -/
theorem addresses_embed :
    (∀ a b : EntityId, a.compare b = .lt ↔ a.address < b.address) ∧
      (∀ a b : EntityId, a.address = b.address ↔ a = b) ∧
      (∀ id : EntityId, ofAddress id.address = id) ∧
      ∀ bytes : Bytes, bytes.length = 20 ↔ ∃! id : EntityId, id.address = bytes := by
  refine ⟨compare_eq_lt_iff, fun a b => address_injective.eq_iff, ofAddress_address, ?_⟩
  intro bytes
  constructor
  · intro size
    refine ⟨ofAddress bytes, address_ofAddress size, ?_⟩
    intro id named
    rw [← named, ofAddress_address]
  · intro named
    obtain ⟨id, rfl, -⟩ := named
    exact id.length_address

end EntityId

end TokenDesk
