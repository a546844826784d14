import TokenDesk.Calendar.Read
import TokenDesk.Proofs.Calendar.Days
import TokenDesk.Proofs.Text.Numerals

/-!
Written instants are read back. Each number is written with as many digits as are read, or ends in
front of a mark; the year has a sign where it has more than four digits; and a leap second is
written as the sixtieth and read as the last one with more nanoseconds. Nanoseconds past the end of
any other second are written as the next second, and so they are read (`Instant.read_text`): the
instants that are read back as they were are those that a clock shows
(`Instant.read_text_eq_self_iff`).
-/

namespace TokenDesk

namespace Text

theorem isBlank_digit {c : Char} (digit : isDigit c = true) : isBlank c = false := by
  have range := isDigit_iff.mp digit
  unfold isBlank
  simp
  omega

theorem dropBlanks_cons {c : Char} (visible : isBlank c = false) (rest : List Char) :
    dropBlanks (c :: rest) = c :: rest :=
  List.dropWhile_cons_of_neg (by simp [visible])

theorem dropBlanks_digits {digits : List Char} (filled : digits ≠ [])
    (all : ∀ c ∈ digits, isDigit c = true) (rest : List Char) :
    dropBlanks (digits ++ rest) = digits ++ rest := by
  obtain ⟨c, tail, rfl⟩ := List.exists_cons_of_ne_nil filled
  exact dropBlanks_cons (isBlank_digit (all c List.mem_cons_self)) _

end Text

namespace Calendar

/-! ## Numbers -/

/-- A run of digits is taken whole, if no more digits are taken or none follow. -/
theorem takeDigits_append {most : Nat} {digits rest : List Char} (filled : digits ≠ [])
    (all : ∀ c ∈ digits, Text.isDigit c = true) (short : digits.length ≤ most)
    (ends : digits.length = most ∨ Text.NoDigit rest) :
    takeDigits most (digits ++ rest) = some (Text.digitsValue digits, rest) := by
  have stops : Text.NoDigit (rest.take (most - digits.length)) := by
    rcases ends with full | ends
    · rw [full, Nat.sub_self, List.take_zero]
      exact Text.noDigit_nil
    · intro c first
      cases taken : most - digits.length with
      | zero => simp [taken] at first
      | succ k =>
        cases rest with
        | nil => simp [taken] at first
        | cons d rest =>
          rw [taken] at first
          exact ends c first
  have run : ((digits ++ rest).take most).takeWhile Text.isDigit = digits := by
    rw [List.take_append, List.take_of_length_le short, Text.takeWhile_digits all stops]
  unfold takeDigits
  simp only [run, List.isEmpty_eq_false_iff.mpr filled, Bool.false_eq_true, ↓reduceIte,
    List.drop_left]

theorem takeDigits_paddedNumeral {width n : Nat} (positive : 0 < width) (small : n < 10 ^ width)
    (rest : List Char) :
    takeDigits width (Text.paddedNumeral width n ++ rest) = some (n, rest) := by
  have length := Text.length_paddedNumeral_of_lt positive small
  rw [takeDigits_append (Text.paddedNumeral_ne_nil width n)
    (fun _ => Text.isDigit_of_mem_paddedNumeral) length.le (.inl length),
    Text.digitsValue_paddedNumeral]

theorem takeField_paddedNumeral {n : Nat} (small : n < 100) (rest : List Char) :
    takeField 2 (Text.paddedNumeral 2 n ++ rest) = some (n, rest) := by
  unfold takeField
  rw [Text.dropBlanks_digits (Text.paddedNumeral_ne_nil 2 n)
    (fun _ => Text.isDigit_of_mem_paddedNumeral), takeDigits_paddedNumeral (by decide) small]

theorem takeMark_cons {mark : Char} (visible : Text.isBlank mark = false) (rest : List Char) :
    takeMark mark (mark :: rest) = some rest := by
  unfold takeMark
  rw [Text.dropBlanks_cons visible]
  exact if_pos rfl

/-- A year is taken up to the hyphen after it. -/
theorem takeYear_yearText (year : Int) (rest : List Char) :
    takeYear (yearText year ++ '-' :: rest) = some (year, '-' :: rest) := by
  have hyphen : Text.NoDigit ('-' :: rest) := Text.noDigit_cons (by decide)
  have all : ∀ c ∈ Text.paddedNumeral 4 year.natAbs, Text.isDigit c = true :=
    fun _ => Text.isDigit_of_mem_paddedNumeral
  have filled := Text.paddedNumeral_ne_nil 4 year.natAbs
  have long : takeDigits (Text.paddedNumeral 4 year.natAbs ++ '-' :: rest).length
      (Text.paddedNumeral 4 year.natAbs ++ '-' :: rest) = some (year.natAbs, '-' :: rest) := by
    rw [takeDigits_append filled all (by simp) (.inr hyphen), Text.digitsValue_paddedNumeral]
  unfold yearText
  split
  · rename_i range
    have taken : takeDigits 4 (Text.paddedNumeral 4 year.natAbs ++ '-' :: rest) =
        some (year.natAbs, '-' :: rest) :=
      takeDigits_paddedNumeral (by decide) (by omega) _
    obtain ⟨c, digits, begins⟩ := List.exists_cons_of_ne_nil filled
    have digit := all c (by rw [begins]; exact List.mem_cons_self)
    unfold takeYear
    rw [Text.dropBlanks_digits filled all]
    split
    · rename_i same
      rw [begins] at same
      exact (Text.ne_of_isDigit digit (by decide) (List.cons.inj same).1).elim
    · rename_i same
      rw [begins] at same
      exact (Text.ne_of_isDigit digit (by decide) (List.cons.inj same).1).elim
    · rw [taken]
      simp
      omega
  · rename_i outside
    by_cases negative : year < 0
    · have visible : Text.isBlank '-' = false := by decide
      unfold takeYear
      rw [if_pos negative, List.cons_append, Text.dropBlanks_cons visible]
      simp only [long, Option.map_some, Option.some.injEq, Prod.mk.injEq, and_true]
      omega
    · have visible : Text.isBlank '+' = false := by decide
      unfold takeYear
      rw [if_neg negative, List.cons_append, Text.dropBlanks_cons visible]
      simp only [long, Option.map_some, Option.some.injEq, Prod.mk.injEq, and_true]
      omega

/-! ## Nanoseconds and the offset -/

/-- Digits behind the point count from the first place on. -/
theorem takeNanos_paddedNumeral {width n : Nat} (positive : 0 < width) (short : width ≤ 9)
    (small : n < 10 ^ width) {rest : List Char} (ends : Text.NoDigit rest) :
    takeNanos ('.' :: (Text.paddedNumeral width n ++ rest)) =
      some (n * 10 ^ (9 - width), rest) := by
  have length := Text.length_paddedNumeral_of_lt positive small
  have taken : takeDigits 9 (Text.paddedNumeral width n ++ rest) = some (n, rest) := by
    rw [takeDigits_append (Text.paddedNumeral_ne_nil width n)
      (fun _ => Text.isDigit_of_mem_paddedNumeral) (by omega) (.inr ends),
      Text.digitsValue_paddedNumeral]
  have count : (Text.paddedNumeral width n ++ rest).length - rest.length = width := by
    rw [List.length_append, length]
    omega
  have stopped : rest.dropWhile Text.isDigit = rest :=
    Text.dropWhile_digits (by simp : ∀ c ∈ ([] : List Char), Text.isDigit c = true) ends
  simp only [takeNanos, taken, count, stopped, bind, Option.bind, pure]

/-- The written fraction of a second is the part of the nanoseconds below a second. -/
theorem takeNanos_fractionText (nanos : Nat) (rest : List Char) :
    takeNanos (Instant.fractionText nanos ++ 'Z' :: rest) =
      some (nanos % 1_000_000_000, 'Z' :: rest) := by
  have ends : Text.NoDigit ('Z' :: rest) := Text.noDigit_cons (by decide)
  unfold Instant.fractionText
  dsimp only
  split
  · rename_i zero
    rw [zero]
    rfl
  split
  · rw [List.cons_append, takeNanos_paddedNumeral (by decide) (by decide) (by omega) ends]
    congr 2
    omega
  split
  · rw [List.cons_append, takeNanos_paddedNumeral (by decide) (by decide) (by omega) ends]
    congr 2
    omega
  · rw [List.cons_append, takeNanos_paddedNumeral (by decide) (by decide) (by omega) ends]
    congr 2
    omega

/-! ## Instants -/

/-- The number of a day fits in two digits of its month. -/
theorem day_lt {d : Date} (here : d.exists = true) : d.month < 100 ∧ d.day < 100 := by
  unfold Date.exists at here
  simp only [Bool.and_eq_true, decide_eq_true_eq] at here
  have most : daysInMonth d.year d.month ≤ 31 := by
    unfold daysInMonth
    split
    · split
      · decide
      · decide
    · decide
    · decide
    · decide
    · decide
    · decide
  omega

/-- An instant lies on a day of the calendar. -/
theorem Instant.exists_date (t : Instant) : t.date.exists = true := by
  obtain ⟨early, late, -⟩ := isInstant_iff.mp t.valid
  unfold firstSecond at early
  unfold lastSecond at late
  exact exists_ofDays (by omega) (by omega)

namespace Instant

variable {t : Instant}

theorem isOnClock_iff : t.isOnClock = true ↔ t.nanos < 1_000_000_000 ∨ t.seconds % 60 = 59 := by
  simp [isOnClock]

theorem ofParts?_self (shown : t.isOnClock = true) : ofParts? t.seconds t.nanos = some t := by
  unfold ofParts?
  rw [dif_pos t.valid]
  exact if_pos shown

theorem isOnClock_of_ofParts? {seconds : Int} {nanos : Nat}
    (made : ofParts? seconds nanos = some t) : t.isOnClock = true := by
  unfold ofParts? at made
  dsimp only at made
  split at made
  · split at made
    · rename_i shown
      cases made
      exact shown
    · cases made
  · cases made

/-- The second and the nanoseconds as they are written give the instant; the sixtieth second is a
leap second. -/
theorem ofParts?_read (shown : t.isOnClock = true) {s second : Nat} (s_eq : t.secondOfDay = s)
    (second_eq : s % 60 + t.nanos / 1_000_000_000 = second) :
    ofParts? (t.date.toDays * 86400 +
        ((s / 3600 * 3600 + s / 60 % 60 * 60 + (if second == 60 then 59 else second) : Nat) : Int) -
        0)
      (if second == 60 then t.nanos % 1_000_000_000 + 1_000_000_000
        else t.nanos % 1_000_000_000) = some t := by
  have clock := isOnClock_iff.mp shown
  obtain ⟨-, -, short⟩ := isInstant_iff.mp t.valid
  have seconds : t.date.toDays * 86400 + t.secondOfDay = t.seconds := by
    unfold date secondOfDay
    rw [toDays_ofDays]
    omega
  have within : ((s : Int) % 60) = t.seconds % 60 := by
    rw [← s_eq]
    unfold secondOfDay
    omega
  rw [← ofParts?_self shown]
  by_cases leap : second = 60
  · rw [if_pos (beq_iff_eq.mpr leap), if_pos (beq_iff_eq.mpr leap)]
    congr 1
    · omega
    · omega
  · rw [if_neg (by simpa using leap), if_neg (by simpa using leap)]
    congr 1
    · omega
    · omega

/-- A written instant that a clock shows is read back, also within a leap second. -/
theorem read_text_of_isOnClock (shown : t.isOnClock = true) : read t.text = some t := by
  have here := t.exists_date
  obtain ⟨month, day⟩ := day_lt here
  have clock := isOnClock_iff.mp shown
  obtain ⟨-, -, short⟩ := isInstant_iff.mp t.valid
  have range : t.secondOfDay < 86400 := by
    unfold secondOfDay
    omega
  have sixty : t.secondOfDay % 60 + t.nanos / 1_000_000_000 ≤ 60 := by
    omega
  have hour : t.secondOfDay / 3600 < 24 := by omega
  have minute : t.secondOfDay / 60 % 60 < 60 := by omega
  have hyphen : Text.isBlank '-' = false := by decide
  have colon : Text.isBlank ':' = false := by decide
  have offset : takeOffset (Text.dropBlanks ['Z']) = some (0, []) := by decide
  unfold text Date.text timeText
  simp only [List.append_assoc, List.cons_append]
  unfold read
  rw [takeYear_yearText]
  simp only [bind, Option.bind, takeMark_cons hyphen, takeField_paddedNumeral month,
    takeField_paddedNumeral day, true_or, ↓reduceIte,
    takeField_paddedNumeral (show t.secondOfDay / 3600 < 100 by omega), takeMark_cons colon,
    takeField_paddedNumeral (show t.secondOfDay / 60 % 60 < 100 by omega),
    takeField_paddedNumeral
      (show t.secondOfDay % 60 + t.nanos / 1_000_000_000 < 100 by omega),
    takeNanos_fractionText, offset]
  rw [if_neg (by decide), if_neg (by simp [here]; omega), if_neg (by decide)]
  exact ofParts?_read shown rfl rfl

/-! ## What the text of an instant names -/

/-- Past the end of a second that is not the last of a minute there is a next one. -/
theorem isInstant_next (past : ¬t.isOnClock = true) :
    isInstant (t.seconds + 1) (t.nanos - 1_000_000_000) = true := by
  have off := mt isOnClock_iff.mpr past
  obtain ⟨early, late, short⟩ := isInstant_iff.mp t.valid
  -- The calendar ends with the last second of a minute.
  have more : t.seconds + 1 ≤ lastSecond := by
    unfold lastSecond at late ⊢
    omega
  exact isInstant_iff.mpr ⟨by omega, more, by omega⟩

/-- The instant that a text names: nanoseconds past the end of a second count into the next, unless
they are those of a leap second. -/
def asWritten (t : Instant) : Instant :=
  if shown : t.isOnClock = true then t
  else ⟨t.seconds + 1, t.nanos - 1_000_000_000, isInstant_next shown⟩

theorem asWritten_of_isOnClock (shown : t.isOnClock = true) : t.asWritten = t := dif_pos shown

theorem isOnClock_asWritten (t : Instant) : t.asWritten.isOnClock = true := by
  unfold asWritten
  split
  · assumption
  · obtain ⟨-, -, short⟩ := isInstant_iff.mp t.valid
    exact isOnClock_iff.mpr (.inl (by dsimp only; omega))

theorem asWritten_eq_self_iff : t.asWritten = t ↔ t.isOnClock = true :=
  ⟨fun same => same ▸ t.isOnClock_asWritten, asWritten_of_isOnClock⟩

theorem fractionText_add (nanos : Nat) :
    fractionText (nanos + 1_000_000_000) = fractionText nanos := by
  unfold fractionText
  rw [Nat.add_mod_right]

/-- One second later and as many nanoseconds less is written alike, within a minute. -/
theorem text_eq_of_next {u : Instant} (next : u.seconds = t.seconds + 1)
    (carried : t.nanos = u.nanos + 1_000_000_000) (inside : t.seconds % 60 ≠ 59) :
    u.text = t.text := by
  have date_eq : u.date = t.date := by
    unfold date
    congr 1
    omega
  have later : u.secondOfDay = t.secondOfDay + 1 := by
    unfold secondOfDay
    omega
  have short : t.secondOfDay % 60 ≠ 59 := by
    unfold secondOfDay
    omega
  have hour : u.secondOfDay / 3600 = t.secondOfDay / 3600 := by omega
  have minute : u.secondOfDay / 60 % 60 = t.secondOfDay / 60 % 60 := by omega
  have second : u.secondOfDay % 60 + u.nanos / 1_000_000_000 =
      t.secondOfDay % 60 + t.nanos / 1_000_000_000 := by omega
  unfold text timeText
  dsimp only
  rw [date_eq, hour, minute, second, carried, fractionText_add]

/-- The instant that a text names has this text as well. -/
theorem text_asWritten (t : Instant) : t.asWritten.text = t.text := by
  unfold asWritten
  split
  · rfl
  · rename_i past
    have off := mt isOnClock_iff.mpr past
    exact text_eq_of_next rfl (by dsimp only; omega) (by omega)

/-- A written instant is read as the one that its text names. -/
theorem read_text (t : Instant) : read t.text = some t.asWritten := by
  rw [← t.text_asWritten]
  exact read_text_of_isOnClock t.isOnClock_asWritten

/-- The instants that are read back as they were are those that a clock shows. -/
theorem read_text_eq_self_iff : read t.text = some t ↔ t.isOnClock = true := by
  rw [read_text, Option.some.injEq, asWritten_eq_self_iff]

/-- What is read is an instant that a clock shows. -/
theorem isOnClock_of_read {cs : List Char} (done : read cs = some t) : t.isOnClock = true := by
  unfold read at done
  obtain ⟨⟨year, _⟩, -, done⟩ := Option.bind_eq_some_iff.mp done
  obtain ⟨_, -, done⟩ := Option.bind_eq_some_iff.mp done
  obtain ⟨⟨month, _⟩, -, done⟩ := Option.bind_eq_some_iff.mp done
  obtain ⟨_, -, done⟩ := Option.bind_eq_some_iff.mp done
  obtain ⟨⟨day, _⟩, -, done⟩ := Option.bind_eq_some_iff.mp done
  dsimp only at done
  split at done
  · split at done
    · obtain ⟨_, -, done⟩ := Option.bind_eq_some_iff.mp done
      obtain ⟨⟨hour, _⟩, -, done⟩ := Option.bind_eq_some_iff.mp done
      obtain ⟨_, -, done⟩ := Option.bind_eq_some_iff.mp done
      obtain ⟨⟨minute, _⟩, -, done⟩ := Option.bind_eq_some_iff.mp done
      obtain ⟨_, -, done⟩ := Option.bind_eq_some_iff.mp done
      obtain ⟨⟨second, _⟩, -, done⟩ := Option.bind_eq_some_iff.mp done
      obtain ⟨⟨nanos, _⟩, -, done⟩ := Option.bind_eq_some_iff.mp done
      obtain ⟨⟨offset, _⟩, -, done⟩ := Option.bind_eq_some_iff.mp done
      dsimp only at done
      split at done
      · cases done
      split at done
      · cases done
      split at done
      · cases done
      exact isOnClock_of_ofParts? done
    · cases done
  · cases done

end Instant

end Calendar

end TokenDesk
