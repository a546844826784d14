import Mathlib.Data.List.TakeWhile
import TokenDesk.Proofs.Except
import TokenDesk.Proofs.Text.Hex
import TokenDesk.Url.Resolve

/-!
Paths that are read once more.

Reading a path encodes characters, splits at slashes and resolves dot segments. What comes out is
settled (`Settled`): its segments hold no slash and nothing that has to be encoded, and none of them
is a dot segment, not even an encoded one. So reading the text of settled segments changes nothing
(`readSegments_settled`), and every address that was read has settled segments, and a host as well
where the rules of the web hold (`normal_of_read`).
-/

namespace TokenDesk.Url

/-! ## Encoded characters -/

/-- Characters that are written as they are, where the marks of a set are encoded. -/
def IsPlain (marks : String) (c : Char) : Prop := isControl c = false ∧ c ∉ marks.toList

instance (marks : String) (c : Char) : Decidable (IsPlain marks c) :=
  inferInstanceAs (Decidable (_ ∧ _))

theorem percentEncode_of_plain {marks : String} {text : List Char}
    (plain : ∀ c ∈ text, IsPlain marks c) : percentEncode marks text = text := by
  induction text with
  | nil => rfl
  | cons c text ih =>
    obtain ⟨shown, unmarked⟩ := plain c List.mem_cons_self
    have kept := ih fun d member => plain d (List.mem_cons_of_mem c member)
    have other : (isControl c || marks.toList.contains c) = false := by
      rw [shown, Bool.false_or, List.contains_eq_mem, decide_eq_false unmarked]
    unfold percentEncode at kept ⊢
    rw [List.flatMap_cons, kept, other]
    rfl

/-- The characters that stand for encoded bytes: a percent sign and upper-case digits. -/
theorem mem_percentByte {b : UInt8} {c : Char} (member : c ∈ percentByte b) :
    c = '%' ∨ ∃ n < 16, c = Text.upperHexDigit n := by
  obtain ⟨high, low⟩ := Text.halves_lt b
  simp only [percentByte, List.mem_cons, List.not_mem_nil, or_false] at member
  rcases member with percent | digit | digit
  · exact .inl percent
  · exact .inr ⟨_, high, digit⟩
  · exact .inr ⟨_, low, digit⟩

/-- Neither a percent sign nor a digit is encoded, or a slash. -/
theorem plain_of_mem_percentByte {b : UInt8} {c : Char} (member : c ∈ percentByte b)
    (special : Bool) : IsPlain pathMarks c ∧ isSlash special c = false := by
  rcases mem_percentByte member with rfl | ⟨n, small, rfl⟩
  · revert special
    decide
  · interval_cases n <;> revert special <;> decide

/-- Encoding leaves nothing to encode, and brings no slash. -/
theorem plain_of_mem_percentEncode {special : Bool} {text : List Char}
    (slashless : ∀ c ∈ text, isSlash special c = false) {c : Char}
    (member : c ∈ percentEncode pathMarks text) :
    IsPlain pathMarks c ∧ isSlash special c = false := by
  obtain ⟨d, source, written⟩ := List.mem_flatMap.mp member
  split at written
  · obtain ⟨b, -, encoded⟩ := List.mem_flatMap.mp written
    exact plain_of_mem_percentByte encoded special
  · rename_i other
    cases List.mem_singleton.mp written
    rw [Bool.or_eq_true, not_or, Bool.not_eq_true, List.contains_eq_mem,
      decide_eq_true_eq] at other
    exact ⟨other, slashless c source⟩

/-! ## Settled segments -/

/-- A segment that stays what it is when the path is read again. -/
structure Settled (special : Bool) (segment : List Char) : Prop where
  plain : ∀ c ∈ segment, IsPlain pathMarks c
  slashless : ∀ c ∈ segment, isSlash special c = false
  not_single : plainDots segment ≠ ['.']
  not_double : plainDots segment ≠ ['.', '.']

/-- Only the characters of an encoded point are lost where points are decoded. -/
theorem mem_plainDots {text : List Char} {c : Char} (member : c ∈ text)
    (other : c ∉ ['%', '2', 'e', 'E']) : c ∈ plainDots text := by
  simp only [List.mem_cons, List.not_mem_nil, or_false, not_or] at other
  obtain ⟨percent, two, lower, upper⟩ := other
  induction text using plainDots.induct with
  | case1 rest ih | case2 rest ih =>
    simp only [List.mem_cons, percent, two, lower, upper, false_or] at member
    rw [plainDots]
    exact List.mem_cons_of_mem _ (ih member)
  | case3 d rest _ _ ih =>
    rw [plainDots]
    · rcases List.mem_cons.mp member with rfl | later
      · exact List.mem_cons_self
      · exact List.mem_cons_of_mem _ (ih later)
    · assumption
    · assumption
  | case4 => cases member

theorem settled_nil (special : Bool) : Settled special [] where
  plain := nofun
  slashless := nofun
  not_single := nofun
  not_double := nofun

variable {special : Bool} {parts more : List (List Char)} {segment text : List Char}

theorem Settled.addSegment (settled : Settled special segment) (parts : List (List Char))
    (last : Bool) : Url.addSegment parts segment last = parts ++ [segment] := by
  rw [Url.addSegment, if_neg settled.not_double, if_neg settled.not_single]

theorem Settled.percentEncode (settled : Settled special segment) :
    Url.percentEncode pathMarks segment = segment :=
  percentEncode_of_plain settled.plain

/-- A segment that ends at a slash; `read` is the reverse of what has been read of it. -/
theorem readSegments_append (slashless : ∀ c ∈ segment, isSlash special c = false)
    (read rest : List Char) :
    readSegments special parts read (segment ++ '/' :: rest) =
      readSegments special
        (addSegment parts (percentEncode pathMarks (read.reverse ++ segment)) false) [] rest := by
  have slash : isSlash special '/' = true := rfl
  induction segment generalizing read with
  | nil => rw [List.nil_append, List.append_nil, readSegments, if_pos slash]
  | cons c segment ih =>
    have other := slashless c List.mem_cons_self
    rw [List.cons_append, readSegments, other, if_neg Bool.false_ne_true,
      ih fun d member => slashless d (List.mem_cons_of_mem c member)]
    rw [List.reverse_cons, List.append_assoc, List.singleton_append]

/-- A segment that ends with the path. -/
theorem readSegments_last (slashless : ∀ c ∈ segment, isSlash special c = false)
    (read : List Char) :
    readSegments special parts read segment =
      addSegment parts (percentEncode pathMarks (read.reverse ++ segment)) true := by
  induction segment generalizing read with
  | nil => rw [List.append_nil, readSegments]
  | cons c segment ih =>
    have other := slashless c List.mem_cons_self
    rw [readSegments, other, if_neg Bool.false_ne_true,
      ih fun d member => slashless d (List.mem_cons_of_mem c member)]
    rw [List.reverse_cons, List.append_assoc, List.singleton_append]

/-- Settled segments are read as they are, behind those that are there. -/
theorem readSegments_settled (first : Settled special segment)
    (others : ∀ s ∈ more, Settled special s) :
    readSegments special parts [] (segment ++ segmentText more) = parts ++ segment :: more := by
  induction more generalizing parts segment with
  | nil =>
    have empty : segmentText [] = [] := rfl
    rw [empty, List.append_nil, readSegments_last first.slashless, List.reverse_nil,
      List.nil_append, first.percentEncode, first.addSegment]
  | cons next more ih =>
    have front : segmentText (next :: more) = '/' :: (next ++ segmentText more) := rfl
    rw [front, readSegments_append first.slashless, List.reverse_nil, List.nil_append,
      first.percentEncode, first.addSegment,
      ih (others next List.mem_cons_self) fun s member => others s (List.mem_cons_of_mem _ member),
      List.append_assoc, List.singleton_append]

theorem readPath_settled (filled : parts ≠ []) (settled : ∀ s ∈ parts, Settled special s) :
    readPath special (segmentText parts) = parts := by
  obtain ⟨first, others, rfl⟩ := List.exists_cons_of_ne_nil filled
  have front : segmentText (first :: others) = '/' :: (first ++ segmentText others) := rfl
  have slash : isSlash special '/' = true := rfl
  rw [front, readPath, if_pos slash]
  exact readSegments_settled (settled first List.mem_cons_self)
    fun s member => settled s (List.mem_cons_of_mem _ member)

/-! ## What is read is settled -/

/-- What is added to a path is encoded first. -/
theorem settled_of_addSegment (settled : ∀ s ∈ parts, Settled special s)
    (slashless : ∀ c ∈ segment, isSlash special c = false) {last : Bool} {s : List Char}
    (member : s ∈ addSegment parts (percentEncode pathMarks segment) last) :
    Settled special s := by
  have kept : ∀ t ∈ parts.dropLast, Settled special t :=
    fun t earlier => settled t (List.dropLast_subset parts earlier)
  have ended {front : List (List Char)} (all : ∀ t ∈ front, Settled special t)
      (member : s ∈ front ++ [[]]) : Settled special s := by
    rcases List.mem_append.mp member with earlier | here
    · exact all s earlier
    · cases List.mem_singleton.mp here
      exact settled_nil special
  unfold addSegment at member
  split at member
  · split at member
    · exact ended kept member
    · exact kept s member
  · rename_i notDouble
    split at member
    · split at member
      · exact ended settled member
      · exact settled s member
    · rename_i notSingle
      rcases List.mem_append.mp member with earlier | here
      · exact settled s earlier
      · cases List.mem_singleton.mp here
        have plain := fun c => plain_of_mem_percentEncode (c := c) slashless
        exact ⟨fun c inside => (plain c inside).1, fun c inside => (plain c inside).2, notSingle,
          notDouble⟩

theorem settled_of_readSegments (settled : ∀ s ∈ parts, Settled special s)
    (slashless : ∀ c ∈ segment, isSlash special c = false) {s : List Char}
    (member : s ∈ readSegments special parts segment text) : Settled special s := by
  have reversed {segment : List Char} (slashless : ∀ c ∈ segment, isSlash special c = false) :
      ∀ c ∈ segment.reverse, isSlash special c = false :=
    fun c inside => slashless c (List.mem_reverse.mp inside)
  induction text generalizing parts segment with
  | nil => exact settled_of_addSegment settled (reversed slashless) member
  | cons c text ih =>
    unfold readSegments at member
    dsimp only at member
    split at member
    · refine ih (fun t => ?_) (List.forall_mem_nil _) member
      exact settled_of_addSegment settled (reversed slashless)
    · rename_i other
      refine ih settled ?_ member
      intro d inside
      rcases List.mem_cons.mp inside with rfl | earlier
      · exact eq_false_of_ne_true other
      · exact slashless d earlier

theorem settled_of_readPath {s : List Char} (member : s ∈ readPath special text) :
    Settled special s := by
  have started {text : List Char} (member : s ∈ readSegments special [] [] text) :
      Settled special s := 
      settled_of_readSegments (List.forall_mem_nil _) (List.forall_mem_nil _) member
  unfold readPath at member
  split at member
  · split at member
    · cases List.mem_singleton.mp member
      exact settled_nil special
    · cases member
  · split at member
    · exact started member
    · exact started member

/-! ## Addresses in normal form -/

/-- What reading an address makes sure of. -/
structure Normal (u : Url) : Prop where
  settled : ∀ parts, u.path = .segments parts → ∀ s ∈ parts, Settled (isSpecial u.scheme) s
  /-- Where the rules of the web hold, there is a host, and the path is made of segments. -/
  host : isSpecial u.scheme = true → ∃ host, u.host = some host
  segments : isSpecial u.scheme = true → ∃ parts, u.path = .segments parts

theorem normal_of_host {u : Url} {host path : List Char} (named : u.host = some host)
    (read : u.path = .segments (readPath (isSpecial u.scheme) path)) : u.Normal where
  settled parts segments s member := by
    cases read.symm.trans segments
    exact settled_of_readPath member
  host _ := ⟨host, named⟩
  segments _ := ⟨_, read⟩

theorem normal_of_readAfterSlashes {scheme text : List Char} {u : Url}
    (done : readAfterSlashes scheme text = .ok u) : u.Normal := by
  obtain ⟨authority, -, done⟩ := of_bind_ok done
  cases done
  exact normal_of_host rfl rfl

theorem normal_of_readFile {text : List Char} {u : Url} (done : readFile text = .ok u) :
    u.Normal := by
  unfold readFile at done
  dsimp only at done
  split at done
  · split at done
    · split at done
      · cases done
        exact normal_of_host rfl rfl
      · split at done
        · cases done
          exact normal_of_host rfl rfl
        · obtain ⟨host, -, done⟩ := of_bind_ok done
          cases done
          exact normal_of_host rfl rfl
    · cases done
      exact normal_of_host rfl rfl
  · cases done
    exact normal_of_host rfl rfl

theorem normal_of_readAfterScheme {scheme text : List Char} {u : Url}
    (done : readAfterScheme scheme text = .ok u) : u.Normal := by
  unfold readAfterScheme at done
  split at done
  · exact normal_of_readFile done
  · split at done
    · exact normal_of_readAfterSlashes done
    · rename_i other
      split at done
      · exact normal_of_readAfterSlashes done
      · dsimp only at done
        cases done
        refine ⟨fun parts segments s member => ?_, fun special => absurd special other,
          fun special => absurd special other⟩
        dsimp only at segments ⊢
        split at segments
        · cases segments
          rw [eq_false_of_ne_true other]
          exact settled_of_readSegments (List.forall_mem_nil _) (List.forall_mem_nil _) member
        · cases segments

/-- An address that was read is in normal form. -/
theorem normal_of_read {text : List Char} {u : Url} (done : read text = .ok u) : u.Normal := by
  unfold read at done
  split at done
  · exact normal_of_readAfterScheme done
  · cases done

/-! ## Settled paths of other addresses -/

theorem IsPlain.visible {c : Char} (plain : IsPlain pathMarks c) : 0x20 < c.toNat := by
  obtain ⟨shown, unmarked⟩ := plain
  have space : c ≠ ' ' := by
    rintro rfl
    exact unmarked (by decide)
  have other : c.toNat ≠ 0x20 := fun code => space (Char.toNat_inj.mp code)
  simp only [isControl, Bool.or_eq_false_iff, decide_eq_false_iff_not] at shown
  omega

theorem IsPlain.ne {c mark : Char} (plain : IsPlain pathMarks c) (marks : mark ∈ pathMarks.toList) :
    c ≠ mark := by
  rintro rfl
  exact plain.2 marks

theorem plain_of_mem_segmentText (settled : ∀ s ∈ parts, Settled special s) {c : Char}
    (member : c ∈ segmentText parts) : IsPlain pathMarks c := by
  obtain ⟨s, part, inside⟩ := List.mem_flatMap.mp member
  rcases List.mem_cons.mp inside with rfl | inside
  · exact ⟨by decide, by decide⟩
  · exact (settled s part).plain c inside

theorem withoutBreaks_of_visible (visible : ∀ c ∈ text, 0x20 < c.toNat) :
    withoutBreaks text = text := by
  refine List.filter_eq_self.mpr fun c member => ?_
  have code := visible c member
  have other (mark : Char) (low : mark.toNat ≤ 0x20) : (c ≠ mark) = True := by
    rw [eq_iff_iff, iff_true]
    rintro rfl
    omega
  simp only [other '\t' (by decide), other '\n' (by decide), other '\r' (by decide), decide_true,
    Bool.and_true]

theorem cleaned_of_visible (visible : ∀ c ∈ text, 0x20 < c.toNat) : cleaned text = text := by
  have trimmed {cs : List Char} (visible : ∀ c ∈ cs, 0x20 < c.toNat) :
      cs.dropWhile (fun c => decide (c.toNat ≤ 0x20)) = cs := by
    cases cs with
    | nil => rfl
    | cons c cs =>
      have shown := Nat.not_le.mpr (visible c List.mem_cons_self)
      rw [List.dropWhile_cons, decide_eq_false shown, if_neg Bool.false_ne_true]
  have back : ∀ c ∈ text.reverse, 0x20 < c.toNat :=
    fun c member => visible c (List.mem_reverse.mp member)
  unfold cleaned
  dsimp only
  rw [trimmed visible, trimmed back, List.reverse_reverse, withoutBreaks_of_visible visible]

theorem splitBefore_of_unmarked {isMark : Char → Bool} (unmarked : ∀ c ∈ text, isMark c = false) :
    splitBefore isMark text = (text, []) := by
  have passed : ∀ c ∈ text, (!isMark c) = true := by
    intro c member
    rw [unmarked c member]
    rfl
  rw [splitBefore, List.takeWhile_eq_self_iff.mpr passed, List.dropWhile_eq_nil_iff.mpr passed]

/-- A text without marks is a path and nothing else. -/
theorem readEnding_of_plain (plain : ∀ c ∈ text, IsPlain pathMarks c) :
    readEnding special text = (text, none, none) := by
  have unmarked (mark : Char) (marks : mark ∈ pathMarks.toList) :
      ∀ c ∈ text, decide (c = mark) = false :=
    fun c member => decide_eq_false ((plain c member).ne marks)
  rw [readEnding, splitBefore_of_unmarked (unmarked '#' (by decide))]
  dsimp only
  rw [splitBefore_of_unmarked (unmarked '?' (by decide))]
  rfl

/-- An address gets settled segments as they are. -/
theorem withPath_of_settled {u : Url} {old : List (List Char)} (path : u.path = .segments old)
    (filled : parts ≠ []) (settled : ∀ s ∈ parts, Settled (isSpecial u.scheme) s) :
    u.withPath (segmentText parts) = { u with path := .segments parts } := by
  have visible : ∀ c ∈ segmentText parts, 0x20 < c.toNat :=
    fun c member => (plain_of_mem_segmentText settled member).visible
  unfold withPath
  rw [path]
  dsimp only
  rw [withoutBreaks_of_visible visible, readPath_settled filled settled]

/-- Settled segments lead on as they are, in the place of the last segment of the base. -/
theorem follow_of_settled {base : Url} (path : base.path = .segments parts)
    (first : Settled (isSpecial base.scheme) segment)
    (others : ∀ s ∈ more, Settled (isSpecial base.scheme) s) :
    base.follow (segment ++ segmentText more) =
      .ok { base with
        path := .segments (parts.dropLast ++ segment :: more)
        query := none
        fragment := none } := by
  have plain : ∀ c ∈ segment ++ segmentText more, IsPlain pathMarks c := by
    intro c member
    rcases List.mem_append.mp member with here | later
    · exact first.plain c here
    · exact plain_of_mem_segmentText others later
  rw [follow, path]
  dsimp only
  rw [cleaned_of_visible fun c member => (plain c member).visible, readEnding_of_plain plain]
  dsimp only
  rw [readSegments_settled first others]

end TokenDesk.Url
