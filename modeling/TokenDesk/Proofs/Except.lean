import Mathlib.Data.List.Forall2

/-!
Results that took several steps. A step that may fail is followed by others only if it did not, so
each step of a result that was reached had a result of its own.
-/

namespace TokenDesk

variable {ε ε' α β : Type}

theorem exists_of_isOk {x : Except ε α} (succeeds : x.isOk = true) : ∃ a, x = .ok a := by
  cases x with
  | error e => cases succeeds
  | ok a => exact ⟨a, rfl⟩

theorem toOption_eq_some_iff {x : Except ε α} {a : α} : x.toOption = some a ↔ x = .ok a := by
  cases x with
  | error e => exact iff_of_false nofun nofun
  | ok b => exact ⟨fun same => congrArg Except.ok (Option.some.inj same), fun same =>
      congrArg some (Except.ok.inj same)⟩

theorem isSome_toOption (x : Except ε α) : x.toOption.isSome = x.isOk := by
  cases x <;> rfl

/-- A result that took two steps. -/
theorem of_bind_ok {x : Except ε α} {f : α → Except ε β} {b : β}
    (done : x >>= f = .ok b) : ∃ a, x = .ok a ∧ f a = .ok b := by
  cases x with
  | error e => cases done
  | ok a => exact ⟨a, rfl, done⟩

/-- A failure of two steps is one of the first step, or of the second after a result. -/
theorem of_bind_error {x : Except ε α} {f : α → Except ε β} {e : ε}
    (failed : x >>= f = .error e) : x = .error e ∨ ∃ a, x = .ok a ∧ f a = .error e := by
  cases x with
  | error e' => exact .inl (congrArg Except.error (Except.error.inj failed))
  | ok a => exact .inr ⟨a, rfl, failed⟩

theorem of_bind_pure_error {x : Except ε α} {f : α → β} {e : ε}
    (failed : (x >>= fun a => pure (f a)) = .error e) : x = .error e := by
  rcases of_bind_error failed with failed | ⟨a, -, returned⟩
  · exact failed
  · cases returned

theorem bind_pure_eq_error_iff {x : Except ε α} {f : α → β} {e : ε} :
    (x >>= fun a => pure (f a)) = .error e ↔ x = .error e := by
  refine ⟨of_bind_pure_error, fun failed => ?_⟩
  rw [failed]
  rfl

theorem of_map_ok {x : Except ε α} {f : α → β} {b : β} (done : x.map f = .ok b) :
    ∃ a, x = .ok a ∧ f a = b := by
  cases x with
  | error e => cases done
  | ok a => exact ⟨a, rfl, Except.ok.inj done⟩

theorem mapError_error (e : ε) (f : ε → ε') :
    (Except.error e : Except ε α).mapError f = .error (f e) := rfl

theorem mapError_ok (a : α) (f : ε → ε') : (Except.ok a : Except ε α).mapError f = .ok a := rfl

theorem of_mapError_ok {x : Except ε α} {f : ε → ε'} {a : α}
    (done : x.mapError f = .ok a) : x = .ok a := by
  cases x with
  | error e => cases done
  | ok b => exact congrArg Except.ok (Except.ok.inj done)

theorem of_mapError_error {x : Except ε α} {f : ε → ε'} {e' : ε'}
    (failed : x.mapError f = .error e') : ∃ e, x = .error e ∧ f e = e' := by
  cases x with
  | error e => exact ⟨e, rfl, Except.error.inj failed⟩
  | ok a => cases failed

theorem mapError_eq_ok_iff {x : Except ε α} {f : ε → ε'} {a : α} :
    x.mapError f = .ok a ↔ x = .ok a :=
  ⟨of_mapError_ok, fun same => by rw [same, mapError_ok]⟩

/-- Each item took its step, and the results are those of the items in order. -/
theorem mapM_eq_ok_iff {items : List α} {f : α → Except ε β} {results : List β} :
    items.mapM f = .ok results ↔ List.Forall₂ (fun a b => f a = .ok b) items results := by
  induction items generalizing results with
  | nil =>
    rw [List.mapM_nil, List.forall₂_nil_left_iff]
    exact ⟨fun done => (Except.ok.inj done).symm, fun none => congrArg Except.ok none.symm⟩
  | cons a items ih =>
    rw [List.mapM_cons]
    constructor
    · intro done
      obtain ⟨first, head, done⟩ := of_bind_ok done
      obtain ⟨others, tail, done⟩ := of_bind_ok done
      cases done
      exact .cons head (ih.mp tail)
    · intro each
      obtain ⟨first, others, head, tail, rfl⟩ := List.forall₂_cons_left_iff.mp each
      rw [head, ih.mpr tail]
      rfl

theorem of_mapM_ok {items : List α} {f : α → Except ε β} {results : List β}
    (done : items.mapM f = .ok results) : ∀ b ∈ results, ∃ a, f a = .ok b := by
  have each := mapM_eq_ok_iff.mp done
  clear done
  induction each with
  | nil => exact List.forall_mem_nil _
  | cons head _ ih => exact List.forall_mem_cons.mpr ⟨⟨_, head⟩, ih⟩

/-- What takes one step for each item fails at the first that fails. -/
theorem mapM_eq_error_iff {items : List α} {f : α → Except ε β} {e : ε} :
    items.mapM f = .error e ↔ ∃ front a back, items = front ++ a :: back ∧
      (∀ b ∈ front, ∃ result, f b = .ok result) ∧ f a = .error e := by
  induction items with
  | nil =>
    refine iff_of_false nofun ?_
    rintro ⟨front, a, back, split, -⟩
    exact List.append_ne_nil_of_right_ne_nil front (List.cons_ne_nil a back) split.symm
  | cons a items ih =>
    rw [List.mapM_cons]
    constructor
    · intro failed
      rcases of_bind_error failed with here | ⟨first, head, failed⟩
      · exact ⟨[], a, items, rfl, List.forall_mem_nil _, here⟩
      · obtain ⟨front, b, back, rfl, passed, later⟩ := ih.mp (of_bind_pure_error failed)
        exact ⟨a :: front, b, back, rfl, List.forall_mem_cons.mpr ⟨⟨first, head⟩, passed⟩, later⟩
    · rintro ⟨front, b, back, split, passed, failed⟩
      cases front with
      | nil =>
        cases split
        rw [failed]
        rfl
      | cons c front =>
        cases split
        obtain ⟨⟨first, head⟩, others⟩ := List.forall_mem_cons.mp passed
        rw [head, ih.mpr ⟨front, b, back, rfl, others, failed⟩]
        rfl

theorem exists_mapM_ok_iff {items : List α} {f : α → Except ε β} :
    (∃ results, items.mapM f = .ok results) ↔ ∀ a ∈ items, ∃ b, f a = .ok b := by
  simp only [mapM_eq_ok_iff]
  induction items with
  | nil => exact iff_of_true ⟨[], .nil⟩ (List.forall_mem_nil _)
  | cons a items ih =>
    rw [List.forall_mem_cons, ← ih]
    constructor
    · intro ⟨_, each⟩
      obtain ⟨first, others, head, tail, -⟩ := List.forall₂_cons_left_iff.mp each
      exact ⟨⟨first, head⟩, others, tail⟩
    · intro ⟨⟨first, head⟩, others, tail⟩
      exact ⟨first :: others, .cons head tail⟩

theorem of_mapM_error {items : List α} {f : α → Except ε β} {e : ε}
    (failed : items.mapM f = .error e) : ∃ a ∈ items, f a = .error e := by
  obtain ⟨front, a, back, rfl, -, here⟩ := mapM_eq_error_iff.mp failed
  exact ⟨a, List.mem_append_right front List.mem_cons_self, here⟩

end TokenDesk
