import Mathlib.Data.List.Nodup
import TokenDesk.Proofs.Except
import TokenDesk.Proofs.Json.Reading
import TokenDesk.Wire.Request

/-!
Records that were written are decoded field by field. An object with the fields of a record, in
their order, is opened as the record that has each of them at its place (`record_object`); a field
decodes if its value does; and a tagged value is taken apart into its variant and the other members
(`tagged_object`). In the other direction, what a record gives was made of decoded fields.
-/

namespace TokenDesk.Wire

open Json (Document toDocument toMembers)

variable {α β γ : Type}

/-! ## Texts -/

/-- The text of a value that fits is decoded like the value. -/
theorem decodeText_chars {depth : Nat} {j : Json} (fits : Json.Fits depth j)
    (decode : Document → Outcome α) : decodeText decode j.chars = decode j.toDocument := by
  unfold decodeText
  rw [Json.read_chars fits]
  dsimp only
  cases decode j.toDocument with
  | ok a => rfl
  | error fault => rfl

/-- What is decoded from a text is decoded from its document. -/
theorem decode_of_decodeText {decode : Document → Outcome α} {text : List Char} {a : α}
    (decoded : decodeText decode text = .ok a) : decode (Json.read text).1 = .ok a := by
  unfold decodeText at decoded
  dsimp only at decoded
  split at decoded
  · rename_i b found
    split at decoded
    · rw [found, decoded]
    · cases decoded
  · cases decoded

/-! ## Objects -/

/-- The record that an object with these members is, the fields being theirs. -/
def Record.ofMembers (members : List (String × Json)) : Record :=
  ⟨members.zipIdx.map fun (member, i) => some (i, member.2.toDocument), none, members.length⟩

theorem memberDefect_toMembers {fields : List String} {seen : List (List Char)} {place : Nat}
    {members : List (String × Json)} (known : ∀ m ∈ members, m.1 ∈ fields)
    (fresh : ∀ m ∈ members, m.1.toList ∉ seen) (distinct : (members.map Prod.fst).Nodup) :
    memberDefect fields seen place (toMembers members) = none := by
  induction members generalizing seen place with
  | nil => rfl
  | cons member members ih =>
    obtain ⟨key, value⟩ := member
    have found : (fields.any fun f => f.toList = key.toList) = true :=
      List.any_eq_true.mpr ⟨key, known (key, value) List.mem_cons_self, by simp⟩
    have unseen : seen.contains key.toList = false := by
      simpa using fresh (key, value) List.mem_cons_self
    rw [List.map_cons, List.nodup_cons] at distinct
    rw [toMembers, memberDefect, if_pos found, unseen]
    refine ih (fun m member => known m (List.mem_cons_of_mem _ member)) ?_ distinct.2
    intro m member again
    rcases List.mem_cons.mp again with same | before
    · exact distinct.1 (List.mem_map.mpr ⟨m, member, String.toList_injective same⟩)
    · exact fresh m (List.mem_cons_of_mem _ member) before

theorem findMember_toMembers {place i : Nat} {members : List (String × Json)}
    (distinct : (members.map Prod.fst).Nodup) (below : i < members.length) :
    findMember members[i].1.toList place (toMembers members) =
      some (place + i, members[i].2.toDocument) := by
  induction members generalizing place i with
  | nil => cases below
  | cons member members ih =>
    obtain ⟨key, value⟩ := member
    rw [List.map_cons, List.nodup_cons] at distinct
    cases i with
    | zero => simp [toMembers, findMember]
    | succ i =>
      have inside : i < members.length := Nat.lt_of_succ_lt_succ below
      have other : key.toList ≠ members[i].1.toList := fun same =>
        distinct.1 (List.mem_map.mpr
          ⟨members[i], List.getElem_mem inside, (String.toList_injective same).symm⟩)
      have rest : findMember members[i].1.toList (place + 1) (toMembers members) =
          some (place + 1 + i, members[i].2.toDocument) := ih distinct.2 inside
      simp only [toMembers, findMember, List.getElem_cons_succ, Option.some.injEq, other,
        ↓reduceIte, rest]
      simp
      omega

theorem length_toMembers (members : List (String × Json)) :
    (toMembers members).length = members.length := by
  induction members with
  | nil => rfl
  | cons member members ih =>
    obtain ⟨key, value⟩ := member
    rw [toMembers, List.length_cons, List.length_cons, ih]

/-- An object with distinct keys is opened as the record of its members. -/
theorem record_object {members : List (String × Json)} (distinct : (members.map Prod.fst).Nodup) :
    record (members.map Prod.fst) (Json.object members).toDocument =
      .ok (Record.ofMembers members) := by
  have sound : memberDefect (members.map Prod.fst) [] 0 (toMembers members) = none :=
    memberDefect_toMembers (fun _ member => List.mem_map_of_mem member) (by simp) distinct
  have slots : (members.map Prod.fst).map (fun f => findMember f.toList 0 (toMembers members)) =
      members.zipIdx.map fun (member, i) => some (i, member.2.toDocument) := by
    apply List.ext_getElem
    · simp
    · intro i below _
      have inside : i < members.length := by simpa using below
      simp [findMember_toMembers distinct inside]
  rw [toDocument, record, slots, sound, length_toMembers]
  rfl

/-! ## Fields -/

theorem slots_ofMembers {members : List (String × Json)} {i : Nat} {key : String} {j : Json}
    (place : members[i]? = some (key, j)) :
    (Record.ofMembers members).slots[i]? = some (some (i, j.toDocument)) := by
  simp [Record.ofMembers, List.getElem?_zipIdx, place]

theorem field_ofMembers {members : List (String × Json)} {i : Nat} {key : String} {j : Json}
    {decode : Document → Outcome α} {a : α} (place : members[i]? = some (key, j))
    (decoded : decode j.toDocument = .ok a) :
    (Record.ofMembers members).field i decode = .value a := by
  unfold Record.field
  rw [slots_ofMembers place]
  simp only [decoded]

theorem decoded_of_field_ofMembers {members : List (String × Json)} {i : Nat} {key : String}
    {j : Json} {decode : Document → Outcome α} {a : α} (place : members[i]? = some (key, j))
    (read : (Record.ofMembers members).field i decode = .value a) :
    decode j.toDocument = .ok a := by
  unfold Record.field at read
  rw [slots_ofMembers place] at read
  dsimp only at read
  split at read
  · rename_i b decoded
    cases read
    exact decoded
  · cases read

theorem field?_ofMembers {members : List (String × Json)} {i : Nat} {key : String} {j : Json}
    {decode : Document → Outcome α} {a : Option α} (place : members[i]? = some (key, j))
    (decoded : optional decode j.toDocument = .ok a) :
    (Record.ofMembers members).field? i decode = .value a := by
  unfold Record.field?
  rw [slots_ofMembers place]
  exact field_ofMembers place decoded

@[simp] theorem Reading.map_value (f : α → β) (a : α) : f <$> Reading.value a = .value (f a) := rfl

@[simp] theorem Reading.seq_value (f : α → β) (a : α) :
    Reading.value f <*> Reading.value a = .value (f a) := rfl

/-- The record of an object is not at fault. -/
@[simp] theorem settle_ofMembers (members : List (String × Json)) (a : α) :
    (Record.ofMembers members).settle (.value a) = .ok a := rfl

/-! ## Members in any order -/

/-- The document of an object whose keys are whole texts. -/
def ofNamed (members : List (String × Document)) : Document :=
  .object (members.map fun (key, value) => (some key.toList, value)) true

/-- Members that a record can be made of: no key comes twice, and every value is JSON to its end. -/
structure WellFormed (members : List (String × Document)) : Prop where
  distinct : (members.map Prod.fst).Nodup
  whole : ∀ m ∈ members, m.2.complete = true

theorem memberDefect_ofNamed {fields : List String} {seen : List (List Char)} {place : Nat}
    {members : List (String × Document)} (formed : WellFormed members)
    (fresh : ∀ m ∈ members, m.1.toList ∉ seen) :
    memberDefect fields seen place
      (members.map fun (key, value) => (some key.toList, value)) = none := by
  induction members generalizing seen place with
  | nil => rfl
  | cons member members ih =>
    obtain ⟨key, value⟩ := member
    obtain ⟨distinct, whole⟩ := formed
    rw [List.map_cons, List.nodup_cons] at distinct
    have rest : WellFormed members :=
      ⟨distinct.2, fun m member => whole m (List.mem_cons_of_mem _ member)⟩
    have unseen : seen.contains key.toList = false := by
      simpa using fresh (key, value) List.mem_cons_self
    rw [List.map_cons, memberDefect]
    split
    · rw [unseen]
      refine ih rest ?_
      intro m member again
      rcases List.mem_cons.mp again with same | before
      · exact distinct.1 (List.mem_map.mpr ⟨m, member, String.toList_injective same⟩)
      · exact fresh m (List.mem_cons_of_mem _ member) before
    · rw [whole (key, value) List.mem_cons_self]
      exact ih rest fun m member => fresh m (List.mem_cons_of_mem _ member)

theorem findMember_ofNamed (field : String) (place : Nat) (members : List (String × Document)) :
    (findMember field.toList place
      (members.map fun (key, value) => (some key.toList, value))).map Prod.snd =
        members.lookup field := by
  induction members generalizing place with
  | nil => rfl
  | cons member members ih =>
    obtain ⟨key, value⟩ := member
    rw [List.map_cons, findMember, List.lookup_cons]
    by_cases same : field = key
    · rw [same, if_pos rfl, beq_self_eq_true]
      rfl
    · have other : ¬some key.toList = some field.toList := fun equal =>
        same (String.toList_injective (Option.some.inj equal)).symm
      rw [if_neg other, ih, beq_false_of_ne same]

/-- An object is opened as a record without a fault whose fields are looked up by their names. -/
theorem record_ofNamed {members : List (String × Document)} (formed : WellFormed members)
    (fields : List String) : ∃ r, record fields (ofNamed members) = .ok r ∧ r.defect = none ∧
      ∀ (i : Nat) (field : String), fields[i]? = some field →
        r.slots[i]?.map (Option.map Prod.snd) = some (members.lookup field) := by
  have sound : memberDefect fields [] 0
      (members.map fun (key, value) => (some key.toList, value)) = none :=
    memberDefect_ofNamed formed (by simp)
  refine ⟨_, rfl, ?_, ?_⟩
  · simp only [sound]
    rfl
  · intro i field place
    rw [List.getElem?_map, place, Option.map_some, Option.map_some, findMember_ofNamed]

section

variable {r : Record} {i : Nat} {d : Document} {decode : Document → Outcome α}

theorem field_of_slot {a : α} (slot : r.slots[i]?.map (Option.map Prod.snd) = some (some d))
    (decoded : decode d = .ok a) : r.field i decode = .value a := by
  obtain ⟨found, known, value⟩ := Option.map_eq_some_iff.mp slot
  obtain ⟨⟨place, e⟩, rfl, rfl⟩ := Option.map_eq_some_iff.mp value
  simp only [Record.field, known, decoded]

theorem field?_of_empty (slot : r.slots[i]?.map (Option.map Prod.snd) = some none) :
    r.field? i decode = .value none := by
  obtain ⟨found, known, value⟩ := Option.map_eq_some_iff.mp slot
  rw [Option.map_eq_none_iff] at value
  simp only [Record.field?, known, value]

theorem field?_of_slot {a : Option α}
    (slot : r.slots[i]?.map (Option.map Prod.snd) = some (some d))
    (decoded : optional decode d = .ok a) : r.field? i decode = .value a := by
  have found := field_of_slot slot decoded
  obtain ⟨_, known, value⟩ := Option.map_eq_some_iff.mp slot
  obtain ⟨_, rfl, -⟩ := Option.map_eq_some_iff.mp value
  simpa only [Record.field?, known] using found

theorem settle_of_sound {a : α} (sound : r.defect = none) : r.settle (.value a) = .ok a := by
  unfold Record.settle
  rw [sound]

end

/-! ## What was decoded -/

theorem value_of_settle {r : Record} {reading : Reading α} {a : α}
    (settled : r.settle reading = .ok a) : reading = .value a := by
  unfold Record.settle at settled
  split at settled
  · cases settled
    rfl
  · cases settled
  · cases settled
  · split at settled
    · cases settled
    · cases settled

theorem value_of_seq {r : Reading (α → β)} {s : Reading α} {b : β} (read : r <*> s = .value b) :
    ∃ f a, r = .value f ∧ s = .value a ∧ f a = b := by
  cases r with
  | value f =>
    cases s with
    | value a => exact ⟨f, a, rfl, rfl, Reading.value.inj read⟩
    | fault place cause => cases read
  | fault place cause =>
    cases s with
    | value a => cases read
    | fault place' cause' =>
      change (if place' < place then .fault place' cause' else .fault place cause) =
        Reading.value b at read
      split at read
      · cases read
      · cases read

theorem value_of_map {f : α → β} {r : Reading α} {b : β} (read : f <$> r = .value b) :
    ∃ a, r = .value a ∧ f a = b := by
  cases r with
  | value a => exact ⟨a, rfl, Reading.value.inj read⟩
  | fault place cause => cases read

theorem decoded_of_field {r : Record} {i : Nat} {decode : Document → Outcome α} {a : α}
    (read : r.field i decode = .value a) : ∃ d, decode d = .ok a := by
  unfold Record.field at read
  split at read
  · rename_i d _
    split at read
    · rename_i b decoded
      cases read
      exact ⟨d, decoded⟩
    · cases read
  · cases read

/-! ## Lists -/

/-- A written list is decoded, if its items are. -/
theorem list_array {encode : α → Json} {decode : Document → Outcome α} {items : List α}
    (each : ∀ a ∈ items, decode (encode a).toDocument = .ok a) :
    list decode (Json.array (items.map encode)).toDocument = .ok items := by
  have all : (Json.toDocuments (items.map encode)).mapM decode = .ok items := by
    induction items with
    | nil => rfl
    | cons a items ih =>
      rw [List.map_cons, Json.toDocuments, List.mapM_cons, each a List.mem_cons_self,
        ih fun b member => each b (List.mem_cons_of_mem _ member)]
      rfl
  rw [toDocument, list, all]
  rfl

/-- The items of a decoded list were decoded. -/
theorem decoded_of_list {decode : Document → Outcome α} {d : Document} {items : List α}
    (decoded : list decode d = .ok items) : ∀ a ∈ items, ∃ d, decode d = .ok a := by
  unfold list at decoded
  split at decoded
  · obtain ⟨values, each, closed⟩ := of_bind_ok decoded
    split at closed
    · cases closed
      exact of_mapM_ok each
    · cases closed
  · cases decoded

/-! ## Small records -/

theorem record1_object {make : α → γ} {name : String} {decode : Document → Outcome α} {j : Json}
    {a : α} (decoded : decode j.toDocument = .ok a) :
    record1 make name decode (Json.object [(name, j)]).toDocument = .ok (make a) := by
  have opened : record [name] (Json.object [(name, j)]).toDocument =
      .ok (Record.ofMembers [(name, j)]) := record_object (by simp)
  have field : (Record.ofMembers [(name, j)]).field 0 decode = .value a :=
    field_ofMembers rfl decoded
  unfold record1
  rw [opened]
  simp only [bind, Except.bind, field, Reading.map_value, settle_ofMembers]

theorem record2_object {make : α → β → γ} {name name' : String} {decode : Document → Outcome α}
    {decode' : Document → Outcome β} {j j' : Json} {a : α} {b : β} (other : name ≠ name')
    (decoded : decode j.toDocument = .ok a) (decoded' : decode' j'.toDocument = .ok b) :
    record2 make name decode name' decode' (Json.object [(name, j), (name', j')]).toDocument =
      .ok (make a b) := by
  have opened : record [name, name'] (Json.object [(name, j), (name', j')]).toDocument =
      .ok (Record.ofMembers [(name, j), (name', j')]) := record_object (by simpa using other)
  have field : (Record.ofMembers [(name, j), (name', j')]).field 0 decode = .value a :=
    field_ofMembers rfl decoded
  have field' : (Record.ofMembers [(name, j), (name', j')]).field 1 decode' = .value b :=
    field_ofMembers rfl decoded'
  unfold record2
  rw [opened]
  simp only [bind, Except.bind, field, field', Reading.map_value, Reading.seq_value,
    settle_ofMembers]

theorem decoded_of_record1 {make : α → γ} {name : String} {decode : Document → Outcome α}
    {d : Document} {c : γ} (decoded : record1 make name decode d = .ok c) :
    ∃ a, (∃ d, decode d = .ok a) ∧ make a = c := by
  obtain ⟨r, -, settled⟩ := of_bind_ok decoded
  obtain ⟨a, read, made⟩ := value_of_map (value_of_settle settled)
  exact ⟨a, decoded_of_field read, made⟩

theorem decoded_of_record2 {make : α → β → γ} {name name' : String}
    {decode : Document → Outcome α} {decode' : Document → Outcome β} {d : Document} {c : γ}
    (decoded : record2 make name decode name' decode' d = .ok c) :
    ∃ a b, (∃ d, decode d = .ok a) ∧ (∃ d, decode' d = .ok b) ∧ make a b = c := by
  obtain ⟨r, -, settled⟩ := of_bind_ok decoded
  obtain ⟨f, b, front, read', made⟩ := value_of_seq (value_of_settle settled)
  obtain ⟨a, read, rfl⟩ := value_of_map front
  exact ⟨a, b, decoded_of_field read, decoded_of_field read', made⟩

/-! ## Names and tags -/

/-- A name is that of one thing, if the names differ. -/
theorem named_name {all : List α} {name : α → String} {a : α} (member : a ∈ all)
    (distinct : (all.map name).Nodup) : named all name (name a).toList = .ok a := by
  have found : all.find? (fun b => (name b).toList = (name a).toList) = some a := by
    cases first : all.find? (fun b => (name b).toList = (name a).toList) with
    | none =>
      have missing := List.find?_eq_none.mp first a member
      simp at missing
    | some b =>
      have same := List.find?_some first
      exact congrArg some (List.inj_on_of_nodup_map distinct (List.mem_of_find?_eq_some first)
        member (String.toList_injective (by simpa using same)))
  unfold named
  rw [found]

theorem filter_toMembers_same {tag : String} {members : List (String × Json)}
    (others : ∀ m ∈ members, m.1 ≠ tag) :
    (toMembers members).filter (fun (key, _) => key = some tag.toList) = [] := by
  induction members with
  | nil => rfl
  | cons member members ih =>
    obtain ⟨key, value⟩ := member
    have other : key.toList ≠ tag.toList := fun same =>
      others (key, value) List.mem_cons_self (String.toList_injective same)
    rw [toMembers, List.filter_cons_of_neg (by simpa using other),
      ih fun m member => others m (List.mem_cons_of_mem _ member)]

theorem filter_toMembers_other {tag : String} {members : List (String × Json)}
    (others : ∀ m ∈ members, m.1 ≠ tag) :
    (toMembers members).filter (fun (key, _) => key ≠ some tag.toList) = toMembers members := by
  induction members with
  | nil => rfl
  | cons member members ih =>
    obtain ⟨key, value⟩ := member
    have other : key.toList ≠ tag.toList := fun same =>
      others (key, value) List.mem_cons_self (String.toList_injective same)
    rw [toMembers, List.filter_cons_of_pos (by simpa using other),
      ih fun m member => others m (List.mem_cons_of_mem _ member)]

/-- A value with its tag in front is taken apart into the variant and the other members. -/
theorem tagged_object {pass : Pass} {tag : String} {all : List α} {name : α → String} {a : α}
    {members : List (String × Json)} (member : a ∈ all) (distinct : (all.map name).Nodup)
    (others : ∀ m ∈ members, m.1 ≠ tag)
    (fits : Json.Fits maxDepth (.object ((tag, .text (name a)) :: members))) :
    tagged pass tag all name (Json.object ((tag, .text (name a)) :: members)).toDocument =
      .ok (a, (Json.object members).toDocument) := by
  have value := Json.isValue_toDocument fits
  have first : (toMembers ((tag, .text (name a)) :: members)).filter
      (fun (key, _) => key = some tag.toList) =
        [(some tag.toList, .text (some (name a).toList))] := by
    rw [toMembers, List.filter_cons_of_pos (by simp), filter_toMembers_same others, toDocument]
  have rest : (toMembers ((tag, .text (name a)) :: members)).filter
      (fun (key, _) => key ≠ some tag.toList) = toMembers members := by
    rw [toMembers, List.filter_cons_of_neg (by simp), filter_toMembers_other others]
  unfold tagged
  rw [value, Bool.not_true, Bool.and_false, if_neg Bool.false_ne_true]
  simp only [toDocument, first, rest, variant, named_name member distinct]
  rfl

end TokenDesk.Wire
