import TokenDesk.Proofs.Signing.Dfns.Replies

/-!
Signatures with nothing in them.

A text of a signature may be there and still say nothing: it is blank if marks of the base are all
it holds (`Blank`). A whole signature that is blank is malformed. A blank component is filled up
with zeros like any short one, so a signature is made of it whenever the other component can be read
(`Material.Padded`), and of absent material in no other way (`Material.reportsAbsence_iff`). What a
provider's run gives is reconstructed from what the provider handed out (`of_signCustodial_ok`), and
so the same holds of runs (`absence_reported`).
-/

namespace TokenDesk.Signing

open Dfns (Half Joins joins_reconstruct)

/-! ## Blank texts -/

/-- A text of marks of the base only. The last of them may be a capital. -/
inductive Blank : List Char → Prop
  | empty : Blank []
  | capital : Blank ['0', 'X']
  | mark {rest : List Char} : Blank rest → Blank ('0' :: 'x' :: rest)

/-- A text with at least one byte behind its marks. -/
def HoldsByte (text : String) : Prop :=
  ∃ first rest, Text.bytesOfDigits (Material.digits text) = some (first :: rest)

theorem eq_nil_or_capital {text : List Char} (none : Text.dropHexMark text = []) :
    text = [] ∨ text = ['0', 'x'] ∨ text = ['0', 'X'] := by
  unfold Text.dropHexMark at none
  split at none
  · exact .inr (.inl (by rw [none]))
  · exact .inr (.inr (by rw [none]))
  · exact .inl none

theorem dropHexMark_dropHexMarks_eq_nil_iff (text : List Char) :
    Text.dropHexMark (Text.dropHexMarks text) = [] ↔ Blank text := by
  constructor
  · intro none
    induction text using Text.dropHexMarks.induct with
    | case1 rest ih => exact .mark (ih none)
    | case2 text unmarked =>
      rw [Text.dropHexMarks.eq_2 text unmarked] at none
      rcases eq_nil_or_capital none with rfl | rfl | rfl
      · exact .empty
      · exact .mark .empty
      · exact .capital
  · intro blank
    induction blank with
    | empty => rfl
    | capital => rfl
    | mark _ ih => exact ih

namespace Material

theorem digits_eq_nil_iff {text : String} : digits text = [] ↔ Blank text.toList :=
  dropHexMark_dropHexMarks_eq_nil_iff text.toList

theorem bytesOfDigits_of_blank {text : String} (blank : Blank text.toList) :
    Text.bytesOfDigits (digits text) = some [] := by
  rw [digits_eq_nil_iff.mpr blank]
  rfl

/-- Hexadecimal text that is not blank writes a byte. -/
theorem holdsByte_of_read {text : String} {bytes : Bytes}
    (read : Text.bytesOfDigits (digits text) = some bytes) (unblank : ¬Blank text.toList) :
    HoldsByte text := by
  cases bytes with
  | cons first rest => exact ⟨first, rest, read⟩
  | nil =>
    rw [Text.bytesOfDigits_eq_some_iff] at read
    exact absurd (digits_eq_nil_iff.mp (List.map_eq_nil_iff.mp read)) unblank

/-- A blank component is read as zeros. -/
theorem half_of_blank {text : String} {half : Bytes} (blank : Blank text.toList)
    (is : Half text half) : half = List.replicate 32 0 := by
  obtain ⟨short, read, -, rfl⟩ := is
  rw [bytesOfDigits_of_blank blank] at read
  cases read
  rfl

/-! ## Reconstruction -/

/-- The texts of a signature. -/
def fields : Material → List String
  | components r s => [r, s]
  | whole signature => [signature]

/-- Absent material is no signature. -/
structure ReportsAbsence (material : Material) : Prop where
  /-- What is reconstructed had a byte in each of its texts. -/
  present : ∀ bytes, material.reconstruct = .ok bytes → ∀ field ∈ material.fields, HoldsByte field
  absent : ∀ field ∈ material.fields, Blank field.toList →
    ∃ fault, material.reconstruct = .error (.malformedSignature fault)

/-- Two components that can both be read as 32 bytes, although one of them is blank. -/
def Padded : Material → Prop
  | components r s =>
    (Blank r.toList ∨ Blank s.toList) ∧ (∃ front, Half r front) ∧ ∃ back, Half s back
  | whole _ => False

variable {r s : String} {bytes : Bytes}

theorem reportsAbsence_whole (signature : String) : (whole signature).ReportsAbsence := by
  constructor
  · intro bytes done field member
    cases List.mem_singleton.mp member
    obtain ⟨read, digits, done⟩ := of_bind_ok done
    refine holdsByte_of_read (readBytes_eq_ok_iff.mp digits) fun blank => ?_
    rw [readBytes_eq_ok_iff.mpr (bytesOfDigits_of_blank blank)] at digits
    cases digits
    cases done
  · intro field member blank
    cases List.mem_singleton.mp member
    refine ⟨.emptySignature, ?_⟩
    rw [reconstruct, readBytes_eq_ok_iff.mpr (bytesOfDigits_of_blank blank)]
    rfl

theorem halves_of_reconstruct (done : (components r s).reconstruct = .ok bytes) :
    ∃ front back, Half r front ∧ Half s back ∧ bytes = front ++ back := by
  have joins := joins_reconstruct r s
  rw [done] at joins
  cases joins with
  | signature first second => exact ⟨_, _, first, second, rfl⟩

theorem not_padded_of_reports (reports : (components r s).ReportsAbsence) :
    ¬(components r s).Padded := by
  rintro ⟨blank, front, back⟩
  have absent : ∃ fault, (components r s).reconstruct = .error (.malformedSignature fault) := by
    rcases blank with blank | blank
    · exact reports.absent r List.mem_cons_self blank
    · exact reports.absent s (List.mem_cons_of_mem _ List.mem_cons_self) blank
  obtain ⟨fault, failed⟩ := absent
  have joins := joins_reconstruct r s
  rw [failed] at joins
  cases joins with
  | malformed _ unreadable =>
    rcases unreadable with none | none
    · exact none front
    · exact none back

theorem reportsAbsence_of_not_padded (unpadded : ¬(components r s).Padded) :
    (components r s).ReportsAbsence := by
  -- Both halves of what is reconstructed were read, so neither was blank.
  have unblank {bytes : Bytes} (done : (components r s).reconstruct = .ok bytes) :
      ¬(Blank r.toList ∨ Blank s.toList) := by
    obtain ⟨front, back, first, second, -⟩ := halves_of_reconstruct done
    exact fun blank => unpadded ⟨blank, ⟨front, first⟩, back, second⟩
  constructor
  · intro bytes done field member
    obtain ⟨front, back, ⟨short, read, -⟩, ⟨short', read', -⟩, -⟩ := halves_of_reconstruct done
    obtain ⟨first, second⟩ := not_or.mp (unblank done)
    rcases List.mem_pair.mp member with rfl | rfl
    · exact holdsByte_of_read read first
    · exact holdsByte_of_read read' second
  · intro field member blank
    have either : Blank r.toList ∨ Blank s.toList := by
      rcases List.mem_pair.mp member with rfl | rfl
      · exact .inl blank
      · exact .inr blank
    have joins := joins_reconstruct r s
    cases result : (components r s).reconstruct with
    | ok bytes => exact absurd either (unblank result)
    | error e =>
      rw [result] at joins
      cases joins with
      | malformed fault _ => exact ⟨fault, rfl⟩

/-- Absence is reported unless components are filled up. -/
theorem reportsAbsence_iff (material : Material) : material.ReportsAbsence ↔ ¬material.Padded := by
  cases material with
  | components r s => exact ⟨not_padded_of_reports, reportsAbsence_of_not_padded⟩
  | whole signature => exact iff_of_true (reportsAbsence_whole signature) not_false

/-- What is reconstructed from components has zeros in the place of a blank one. -/
theorem zeros_of_blank (done : (components r s).reconstruct = .ok bytes) :
    (Blank r.toList → bytes.take 32 = List.replicate 32 0) ∧
      (Blank s.toList → bytes.drop 32 = List.replicate 32 0) := by
  obtain ⟨front, back, first, second, rfl⟩ := halves_of_reconstruct done
  have size : front.length = 32 := by
    obtain ⟨short, -, fits, rfl⟩ := first
    exact Bytes.length_padLeft fits
  rw [List.take_left' size, List.drop_left' size]
  exact ⟨fun blank => half_of_blank blank first, fun blank => half_of_blank blank second⟩

end Material

/-! ## Runs -/

variable {σ : Type} {provider : Provider σ} {config : PollConfig} {t : Timeline} {s : σ}

/-- The provider answers a status query with this signature, at some time. -/
def Provider.HandsOut (provider : Provider σ) (material : Material) : Prop :=
  ∃ request s, (provider.status request s).1.answer = some (.ok (.signed material))

/-- Only an answer with a signature makes the polling end with one. -/
theorem answer_of_advance {poller next : Poller} {material : Material}
    {answer : Except ProviderError (RemoteStatus Material)}
    (signed : poller.advance (observe answer).1 = (.signed material, next)) :
    answer = .ok (.signed material) := by
  have state : (poller.advance (observe answer).1).1 = .signed material := by rw [signed]
  unfold observe at state
  split at state
  · rename_i status
    unfold Poller.advance at state
    cases status with
    | pending =>
      dsimp only at state
      split at state
      · cases state
      · cases state
    | signed _ =>
      cases state
      rfl
    | failed reason => cases state
  · split at state
    · cases state
    · unfold Poller.advance at state
      dsimp only at state
      split at state
      · cases state
      · cases state

/-- What the polling ends with is a signature that the provider handed out. -/
theorem handsOut_of_pollFrom {interval began left : Nat} {poller : Poller}
    {last : Option String} {material : Material}
    (done : (pollFrom provider interval began left poller last t s).result = some (.ok material)) :
    provider.HandsOut material := by
  induction left generalizing poller last t s with
  | zero => cases done
  | succ left ih =>
    -- A round that is not waited for to the end gives no signature. Otherwise its answer is one, or
    -- the signature comes from a later round.
    unfold pollFrom at done
    split at done
    · cases done
    · cases done
    · split at done
      · cases done
      · cases done
      · rename_i asked
        dsimp only at done
        split at done
        · rename_i signed
          cases done
          refine ⟨_, _, (Timeline.of_race_answered asked).1.trans ?_⟩
          rw [answer_of_advance signed]
        · cases done
        · cases done
        · exact ih done

/-- What a run gives is reconstructed from what the provider handed out. -/
theorem of_signCustodial_ok {payload bytes : Bytes}
    (done : (signCustodial provider config payload t s).result = some (.ok bytes)) :
    ∃ material, provider.HandsOut material ∧ material.reconstruct = .ok bytes := by
  unfold signCustodial at done
  split at done
  · cases done
  · split at done
    · cases done
    · cases done
    · cases done
    · obtain ⟨polled, ended, reconstructed⟩ := Option.map_eq_some_iff.mp done
      obtain ⟨material, rfl, reconstructed⟩ := of_bind_ok reconstructed
      exact ⟨material, handsOut_of_pollFrom ended, reconstructed⟩

/-- What becomes of absent material, and of a run of a provider that may hand it out. -/
structure TreatsAbsence (provider : Provider σ) (run : Run σ (Except Error Bytes)) : Prop where
  reports_iff : ∀ material : Material, material.ReportsAbsence ↔ ¬material.Padded
  zeros : ∀ r s bytes, (Material.components r s).reconstruct = .ok bytes →
    (Blank r.toList → bytes.take 32 = List.replicate 32 0) ∧
      (Blank s.toList → bytes.drop 32 = List.replicate 32 0)
  origin : ∀ bytes, run.result = some (.ok bytes) → ∃ material, provider.HandsOut material ∧
    material.reconstruct = .ok bytes ∧
    (¬material.Padded → ∀ field ∈ material.fields, HoldsByte field)

/-- **Absence is reported.** Absent material is no signature, neither by itself nor in a run of the
provider that hands it out, unless it is a blank component beside one that can be read; there it
counts as zeros. -/
theorem absence_reported (provider : Provider σ) (config : PollConfig) (payload : Bytes)
    (t : Timeline) (s : σ) :
    TreatsAbsence provider (signCustodial provider config payload t s) where
  reports_iff := Material.reportsAbsence_iff
  zeros _ _ _ := Material.zeros_of_blank
  origin bytes done := by
    obtain ⟨material, out, reconstructed⟩ := of_signCustodial_ok done
    refine ⟨material, out, reconstructed, fun unpadded => ?_⟩
    exact ((Material.reportsAbsence_iff material).mpr unpadded).present bytes reconstructed

/-- A provider that signs at once, with the same material whatever it is asked. -/
def signsWith (material : Material) : Respondent where
  name := "custodian"
  creation := .ok "request"
  creationDelay := 0
  answer _ := .ok (.signed material)
  delay _ := 0

theorem eq_of_handsOut_signsWith {material other : Material}
    (out : (signsWith material).provider.HandsOut other) : other = material := by
  obtain ⟨_, _, same⟩ := out
  cases same
  rfl

/-- Components of one byte each are short, but neither is blank. -/
theorem absence_reported_short :
    let material : Material := .components "01" "0x02"
    let bytes : Bytes := List.replicate 31 0 ++ [1] ++ List.replicate 31 0 ++ [2]
    let run := signCustodial (signsWith material).provider .standard [7]
      (.start none fun _ => true) []
    run.result = some (.ok bytes) ∧ material.reconstruct = .ok bytes ∧ material.ReportsAbsence ∧
      ∀ field ∈ material.fields, HoldsByte field := by
  intro material bytes run
  have done : run.result = some (.ok bytes) := by decide +kernel
  have treats := absence_reported (signsWith material).provider .standard [7]
    (.start none fun _ => true) []
  obtain ⟨other, out, reconstructed, present⟩ := treats.origin bytes done
  cases eq_of_handsOut_signsWith out
  have unpadded : ¬material.Padded := by
    rintro ⟨blank, -⟩
    obtain ⟨first, second⟩ := treats.zeros _ _ bytes reconstructed
    rcases blank with blank | blank
    · exact absurd (first blank) (by decide)
    · exact absurd (second blank) (by decide)
  exact ⟨done, reconstructed, (treats.reports_iff material).mpr unpadded, present unpadded⟩

/-- Two empty components are 64 zeros, and a run returns them as the signature. -/
theorem absence_lost :
    let material : Material := .components "" ""
    (∀ field ∈ material.fields, Blank field.toList ∧ ¬HoldsByte field) ∧
      material.reconstruct = .ok (List.replicate 64 0) ∧ ¬material.ReportsAbsence ∧
      (signCustodial (signsWith material).provider .standard [7] (.start none fun _ => true)
        []).result = some (.ok (List.replicate 64 0)) := by
  intro material
  have done : material.reconstruct = .ok (List.replicate 64 0) := by decide +kernel
  have blank : Blank "".toList := .empty
  refine ⟨?_, done, ?_, by decide +kernel⟩
  · intro field member
    have empty : field = "" := by
      rcases List.mem_pair.mp member with rfl | rfl
      · rfl
      · rfl
    subst empty
    refine ⟨blank, ?_⟩
    rintro ⟨first, rest, read⟩
    rw [Material.bytesOfDigits_of_blank blank] at read
    cases read
  · intro reports
    obtain ⟨fault, failed⟩ := reports.absent "" List.mem_cons_self blank
    rw [done] at failed
    cases failed

end TokenDesk.Signing
