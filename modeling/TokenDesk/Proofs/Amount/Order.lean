import Mathlib.Order.Compare
import TokenDesk.Proofs.Amount.Form

/-!
The order of amounts.

Amounts are ordered by the numbers that they are and then by their decimals (`Amount.compare_eq`).
This order is total, and amounts are equal in it exactly if they are the same. With the same
decimals it is the order of the base units. A list of amounts that came through the gate is put into
it by inserting one after the other, and without repetitions what comes out is strictly increasing;
it holds what the list held, and does not depend on how the list was arranged
(`Amount.amounts_ordered`).
-/

namespace TokenDesk

/-- Decimals without a sign are compared by their mantissas, once the one with fewer digits behind
the point has as many. If it has no room for them, it is the greater. -/
theorem Decimal.compareValues_of_scale_le {a b : Decimal} (unsigned : a.negative = false)
    (unsigned' : b.negative = false) (shorter : a.scale ≤ b.scale) :
    a.compareValues b = if a.mantissa * 10 ^ (b.scale - a.scale) < limit then
      Ord.compare (a.mantissa * 10 ^ (b.scale - a.scale)) b.mantissa else .gt := by
  have split : a.mantissa * 10 ^ b.scale =
      a.mantissa * 10 ^ (b.scale - a.scale) * 10 ^ a.scale := by
    rw [mul_assoc, ← pow_add, Nat.sub_add_cancel shorter]
  have mantissas : a.compareValues b =
      Ord.compare (a.mantissa * 10 ^ (b.scale - a.scale)) b.mantissa := by
    dsimp only [compareValues]
    rw [unsigned, unsigned', if_neg Bool.false_ne_true, if_neg Bool.false_ne_true, split,
      ← cmp_eq_compare, ← cmp_eq_compare, Int.natCast_strictMono.cmp_map_eq,
      cmp_mul_pos_right (by positivity)]
  rw [mantissas]
  split_ifs with room
  · rfl
  · rw [Nat.compare_eq_gt]
    exact Nat.lt_of_lt_of_le b.mantissa_lt (Nat.le_of_not_lt room)

namespace Amount

variable {a b c : Amount} {amounts : List Amount}

/-! ## The order -/

/-- The value counts first and the decimals second. -/
theorem compare_eq (a b : Amount) : a.compare b =
    (Ord.compare a.value.toRat b.value.toRat).then (Ord.compare a.decimals b.decimals) := by
  rw [compare, Decimal.compareValues_eq]

theorem compare_eq_compareLex : compare =
    compareLex (compareOn fun a => a.value.toRat) (compareOn Amount.decimals) := by
  funext a b
  exact compare_eq a b

instance : Std.TransCmp compare := by
  rw [compare_eq_compareLex]
  infer_instance

/-- Amounts are equal in the order exactly if they are the same. -/
theorem compare_eq_iff_same : a.compare b = .eq ↔ a.same b = true := by
  rw [compare_eq, Ordering.then_eq_eq, compare_eq_iff_eq, Std.LawfulEqCmp.compare_eq_iff_eq,
    same_iff]

theorem Accepted.compare_eq_iff (first : a.Accepted) (second : b.Accepted) :
    a.compare b = .eq ↔ a = b := by
  rw [compare_eq_iff_same]
  refine ⟨first.eq_of_same second, fun same => ?_⟩
  rw [← same, same_iff]
  exact ⟨rfl, rfl⟩

/-- With the same decimals, amounts are ordered as their base units are. -/
theorem compare_of_decimals (same : a.decimals = b.decimals) :
    a.compare b = Ord.compare a.baseUnits b.baseUnits := by
  have power : (0 : ℚ) < 10 ^ b.decimals.toNat := by positivity
  rw [compare_eq, same, Std.compare_self, Ordering.then_eq, ← cmp_eq_compare, ← cmp_eq_compare,
    ← cmp_mul_pos_right power, ← baseUnits_eq b, ← same, ← baseUnits_eq a,
    Nat.strictMono_cast.cmp_map_eq]

/-! ## Sorting -/

theorem perm_insertSorted (a : Amount) (amounts : List Amount) :
    (insertSorted a amounts).Perm (a :: amounts) := by
  induction amounts with
  | nil => exact .refl _
  | cons b rest ih =>
    rw [insertSorted]
    split
    · exact (ih.cons b).trans (.swap a b rest)
    · exact .refl _

theorem perm_sort (amounts : List Amount) : (sort amounts).Perm amounts := by
  induction amounts with
  | nil => exact .refl _
  | cons a rest ih => exact (perm_insertSorted a (sort rest)).trans (ih.cons a)

/-- Putting an amount into its place keeps a list in order. -/
theorem pairwise_insertSorted (a : Amount)
    (ordered : amounts.Pairwise fun b c => (b.compare c).isLE) :
    (insertSorted a amounts).Pairwise fun b c => (b.compare c).isLE := by
  induction amounts with
  | nil => exact List.pairwise_singleton _ a
  | cons b rest ih =>
    obtain ⟨least, ordered⟩ := List.pairwise_cons.mp ordered
    rw [insertSorted]
    split
    · rename_i above
      refine List.pairwise_cons.mpr ⟨fun c member => ?_, ih ordered⟩
      rcases List.mem_cons.mp ((perm_insertSorted a rest).mem_iff.mp member) with rfl | later
      · exact Ordering.isLE_of_eq_lt (Std.OrientedCmp.gt_iff_lt.mp (beq_iff_eq.mp above))
      · exact least c later
    · rename_i below
      have first : (a.compare b).isLE := Ordering.isLE_iff_ne_gt.mpr fun above =>
        below (beq_iff_eq.mpr above)
      refine List.pairwise_cons.mpr ⟨fun c member => ?_, List.pairwise_cons.mpr ⟨least, ordered⟩⟩
      rcases List.mem_cons.mp member with rfl | later
      · exact first
      · exact Std.TransCmp.isLE_trans first (least c later)

theorem pairwise_sort (amounts : List Amount) :
    (sort amounts).Pairwise fun a b => (a.compare b).isLE := by
  induction amounts with
  | nil => exact .nil
  | cons a rest ih => exact pairwise_insertSorted a ih

/-! ## Repetitions -/

theorem mem_of_mem_dedup (member : a ∈ dedup amounts) : a ∈ amounts := by
  induction amounts using dedup.induct with
  | case1 b c rest same ih =>
    rw [dedup, if_pos same] at member
    rcases List.mem_cons.mp (ih member) with rfl | later
    · exact List.mem_cons_self
    · exact List.mem_cons_of_mem _ (List.mem_cons_of_mem _ later)
  | case2 b c rest other ih =>
    rw [dedup, if_neg other] at member
    rcases List.mem_cons.mp member with rfl | later
    · exact List.mem_cons_self
    · exact List.mem_cons_of_mem _ (ih later)
  | case3 short none => rwa [dedup.eq_2 short none] at member

/-- What is left out of a list is in it once more. -/
theorem exists_mem_dedup (member : a ∈ amounts) : ∃ b ∈ dedup amounts, b.compare a = .eq := by
  induction amounts using dedup.induct generalizing a with
  | case1 b c rest same ih =>
    rw [dedup, if_pos same]
    -- the amount left out is the same as the first one, and so as the one that is kept for it
    rcases List.mem_cons.mp member with rfl | member
    · exact ih List.mem_cons_self
    rcases List.mem_cons.mp member with rfl | later
    · obtain ⟨d, kept, first⟩ := ih List.mem_cons_self
      exact ⟨d, kept, Std.TransCmp.eq_trans first (compare_eq_iff_same.mpr same)⟩
    · exact ih (List.mem_cons_of_mem _ later)
  | case2 b c rest other ih =>
    rw [dedup, if_neg other]
    rcases List.mem_cons.mp member with rfl | later
    · exact ⟨a, List.mem_cons_self, Std.ReflCmp.compare_self⟩
    · obtain ⟨d, kept, equal⟩ := ih later
      exact ⟨d, List.mem_cons_of_mem _ kept, equal⟩
  | case3 short none =>
    rw [dedup.eq_2 short none]
    exact ⟨a, member, Std.ReflCmp.compare_self⟩

/-- Without repetitions, a list in order is strictly increasing. -/
theorem pairwise_dedup (ordered : amounts.Pairwise fun a b => (a.compare b).isLE) :
    (dedup amounts).Pairwise fun a b => a.compare b = .lt := by
  induction amounts using dedup.induct with
  | case1 b c rest same ih =>
    rw [dedup, if_pos same]
    exact ih (ordered.sublist ((List.sublist_cons_self c rest).cons_cons b))
  | case2 b c rest other ih =>
    rw [dedup, if_neg other]
    obtain ⟨least, ordered⟩ := List.pairwise_cons.mp ordered
    have below : b.compare c = .lt := by
      rcases Ordering.isLE_iff_eq_lt_or_eq_eq.mp (least c List.mem_cons_self) with below | equal
      · exact below
      · exact absurd (compare_eq_iff_same.mp equal) other
    refine List.pairwise_cons.mpr ⟨fun d member => ?_, ih ordered⟩
    rcases List.mem_cons.mp (mem_of_mem_dedup member) with rfl | later
    · exact below
    · exact Std.TransCmp.lt_of_lt_of_isLE below ((List.pairwise_cons.mp ordered).1 d later)
  | case3 short none =>
    rw [dedup.eq_2 short none]
    cases short with
    | nil => exact .nil
    | cons b rest =>
      cases rest with
      | nil => exact List.pairwise_singleton _ b
      | cons c rest => exact absurd rfl (none b c rest)

/-- However amounts that came through the gate are arranged, they are put into one order. -/
theorem sort_eq_of_perm {other : List Amount} (accepted : ∀ a ∈ amounts, a.Accepted)
    (arranged : other.Perm amounts) : sort other = sort amounts := by
  have same : (sort other).Perm (sort amounts) :=
    (perm_sort other).trans (arranged.trans (perm_sort amounts).symm)
  refine same.eq_of_pairwise (fun a b first second up down => ?_) (pairwise_sort other)
    (pairwise_sort amounts)
  have first_accepted := accepted a
    (arranged.mem_iff.mp ((perm_sort other).mem_iff.mp first))
  have second_accepted := accepted b ((perm_sort amounts).mem_iff.mp second)
  exact (first_accepted.compare_eq_iff second_accepted).mp (Std.OrientedCmp.isLE_antisymm up down)

/-- The laws of the order. -/
structure TotallyOrdered : Prop where
  /-- The value counts first and the decimals second. -/
  lexicographic : ∀ a b : Amount, a.compare b =
    (Ord.compare a.value.toRat b.value.toRat).then (Ord.compare a.decimals b.decimals)
  eq_iff_same : ∀ a b : Amount, a.compare b = .eq ↔ a.same b = true
  swap : ∀ a b : Amount, b.compare a = (a.compare b).swap
  total : ∀ a b : Amount, (a.compare b).isLE ∨ (b.compare a).isLE
  trans : ∀ a b c : Amount, (a.compare b).isLE → (b.compare c).isLE → (a.compare c).isLE
  antisymm : ∀ a b : Amount, a.Accepted → b.Accepted → (a.compare b).isLE → (b.compare a).isLE →
    a = b
  units : ∀ (a b : Amount) (m n : Int64), a.decimals = b.decimals → a.units = .ok m →
    b.units = .ok n → a.compare b = Ord.compare m.toInt n.toInt
  /-- No number of more than 96 bits is needed to tell which value is the greater. -/
  within : ∀ a b : Amount, a.value.scale ≤ b.value.scale →
    a.value.compareValues b.value =
      if a.value.mantissa * 10 ^ (b.value.scale - a.value.scale) < Decimal.limit then
        Ord.compare (a.value.mantissa * 10 ^ (b.value.scale - a.value.scale)) b.value.mantissa
      else .gt

/-- What becomes of a list of amounts that is sorted and freed of repetitions. -/
structure Sorts (amounts : List Amount) : Prop where
  increasing : (dedup (sort amounts)).Pairwise fun a b => a.compare b = .lt
  mem_iff : ∀ a, a ∈ dedup (sort amounts) ↔ a ∈ amounts
  arrangement : ∀ other : List Amount, other.Perm amounts →
    dedup (sort other) = dedup (sort amounts)

theorem totallyOrdered : TotallyOrdered where
  lexicographic := compare_eq
  eq_iff_same a b := compare_eq_iff_same
  swap a b := Std.OrientedCmp.eq_swap
  total a b := by
    have swap : b.compare a = (a.compare b).swap := Std.OrientedCmp.eq_swap
    rw [swap]
    cases a.compare b <;> decide
  trans a b c := Std.TransCmp.isLE_trans
  antisymm a b first second up down :=
    (first.compare_eq_iff second).mp (Std.OrientedCmp.isLE_antisymm up down)
  units a b m n same first second := by
    rw [compare_of_decimals same, toInt_of_units first, toInt_of_units second, ← cmp_eq_compare,
      ← cmp_eq_compare, Int.natCast_strictMono.cmp_map_eq]
  within a b := Decimal.compareValues_of_scale_le a.unsigned b.unsigned

theorem mem_dedup_sort (accepted : ∀ a ∈ amounts, a.Accepted) (a : Amount) :
    a ∈ dedup (sort amounts) ↔ a ∈ amounts := by
  constructor
  · intro kept
    exact (perm_sort amounts).mem_iff.mp (mem_of_mem_dedup kept)
  · intro member
    obtain ⟨b, kept, equal⟩ := exists_mem_dedup ((perm_sort amounts).mem_iff.mpr member)
    have known : b ∈ amounts := (perm_sort amounts).mem_iff.mp (mem_of_mem_dedup kept)
    rwa [← ((accepted b known).compare_eq_iff (accepted a member)).mp equal]

/-- **Amounts are ordered.** The order of amounts is total and agrees with equality and with base
units, and sorting by it gives one strictly increasing list for every arrangement. -/
theorem amounts_ordered : TotallyOrdered ∧
    ∀ amounts : List Amount, (∀ a ∈ amounts, a.Accepted) → Sorts amounts := by
  refine ⟨totallyOrdered, fun amounts accepted => ?_⟩
  exact ⟨pairwise_dedup (pairwise_sort amounts), mem_dedup_sort accepted,
    fun other arranged => congrArg dedup (sort_eq_of_perm accepted arranged)⟩

/-- One token, counted with two decimals and with three, and an amount that has no room for any
digit behind the point. -/
theorem amounts_ordered_three :
    let two : Amount := ⟨⟨false, 100, 2, by decide, by decide, by decide⟩, 2, rfl, by decide⟩
    let three : Amount := ⟨⟨false, 1000, 3, by decide, by decide, by decide⟩, 3, rfl, by decide⟩
    let most : Amount := ⟨⟨false, 79228162514264337593543950335, 0, by decide, by decide,
      by decide⟩, 2, rfl, by decide⟩
    (∀ a ∈ [most, three, two, two], a.Accepted) ∧
      dedup (sort [most, three, two, two]) = [two, three, most] ∧
      dedup (sort [two, most, two, three]) = [two, three, most] ∧
      two.compare three = .lt ∧ two.same three = false ∧ three.compare most = .lt := by
  intro two three most
  have gate : ∀ a ∈ [most, three, two, two], ofDecimal a.value a.decimals = .ok a := by
    decide +kernel
  have accepted : ∀ a ∈ [most, three, two, two], a.Accepted := fun a member =>
    accepted_of_ofDecimal (gate a member)
  obtain ⟨ordered, sorts⟩ := amounts_ordered
  have sorted : sort [most, three, two, two] = [two, two, three, most] := by decide +kernel
  have least : two.compare three = .lt := by decide +kernel
  have greatest : three.compare most = .lt := by decide +kernel
  have unequal {a b : Amount} (below : a.compare b = .lt) : ¬a.same b = true := fun same => by
    rw [(ordered.eq_iff_same a b).mpr same] at below
    cases below
  have freed : dedup (sort [most, three, two, two]) = [two, three, most] := by
    have twice : two.same two = true := by decide +kernel
    rw [sorted, dedup, if_pos twice, dedup, if_neg (unequal least), dedup,
      if_neg (unequal greatest), dedup.eq_2 [most] (by simp)]
  have arranged : List.Perm [two, most, two, three] [most, three, two, two] := by decide +kernel
  refine ⟨accepted, freed, ((sorts _ accepted).arrangement _ arranged).trans freed, least, ?_,
    greatest⟩
  exact Bool.eq_false_of_not_eq_true (unequal least)

end Amount

end TokenDesk
