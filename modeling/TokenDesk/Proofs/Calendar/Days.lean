import Mathlib.Tactic.IntervalCases
import TokenDesk.Calendar.Instant

/-!
Days and their numbers. A number of days splits into an era of 400 years, a year of the era, and a
day of that year, which begins in March (`ofDays_split`). The day of the calendar found so has the
number it was found from (`toDays_ofDays`), and it exists, if its number lies between those of the
first and the last day that an instant can have (`exists_ofDays`).
-/

namespace TokenDesk.Calendar

/-! ## The year of an era -/

/-- The days of an era before the given one of its years. -/
def daysBefore (yearOfEra : Int) : Int := 365 * yearOfEra + yearOfEra / 4 - yearOfEra / 100

def yearOfEra (dayOfEra : Int) : Int :=
  (dayOfEra - dayOfEra / 1460 + dayOfEra / 36524 - dayOfEra / 146096) / 365

variable {day : Int}

theorem yearOfEra_range (low : 0 ≤ day) (high : day < 146097) :
    0 ≤ yearOfEra day ∧ yearOfEra day ≤ 399 := by
  unfold yearOfEra
  omega

/-- A day belongs to its year: it is not before the year's first day and not after its last. -/
theorem daysBefore_yearOfEra (low : 0 ≤ day) (high : day < 146097) :
    daysBefore (yearOfEra day) ≤ day ∧ day ≤ daysBefore (yearOfEra day) + 365 := by
  obtain ⟨first, last⟩ := yearOfEra_range low high
  unfold daysBefore
  generalize found : yearOfEra day = year at *
  unfold yearOfEra at found
  have centuries : day / 36524 = 0 ∨ day / 36524 = 1 ∨ day / 36524 = 2 ∨ day / 36524 = 3 ∨
      day / 36524 = 4 := by omega
  have centuriesOfYear : year / 100 = 0 ∨ year / 100 = 1 ∨ year / 100 = 2 ∨ year / 100 = 3 := by
    omega
  rcases centuries with known | known | known | known | known <;>
    rcases centuriesOfYear with known' | known' | known' | known' <;>
    rw [known] at found <;> rw [known'] <;> omega

/-- Only a year that ends with a leap day has a last day more than others. -/
theorem leap_of_last_day (low : 0 ≤ day) (high : day < 146097)
    (last : day = daysBefore (yearOfEra day) + 365) :
    (yearOfEra day + 1) % 4 = 0 ∧
      ((yearOfEra day + 1) % 100 ≠ 0 ∨ (yearOfEra day + 1) % 400 = 0) := by
  obtain ⟨first, final⟩ := yearOfEra_range low high
  unfold daysBefore at last
  generalize found : yearOfEra day = year at *
  unfold yearOfEra at found
  have fourth : (year + 1) % 4 = 0 := by
    by_cases third : year % 4 = 3
    · omega
    · have fours : day / 1460 = year / 4 := by omega
      have centuries : day / 36524 = year / 100 := by omega
      omega
  refine ⟨fourth, ?_⟩
  by_cases century : year % 100 = 99
  · by_cases ending : year = 399
    · omega
    · have fours : year / 4 = 25 * (year / 100) + 24 := by omega
      have whole : day = 36524 * (year / 100) + 36524 := by omega
      have centuries : day / 36524 = year / 100 + 1 := by omega
      have fours' : day / 1460 = year / 4 + 1 := by omega
      omega
  · omega

/-! ## Days of the calendar -/

/-- A number of days in parts: the era, the year of the era, the month from March on, and the day of
the month; and the day of the calendar with these parts. -/
structure Split (days era year month day : Int) : Prop where
  year_range : 0 ≤ year ∧ year ≤ 399
  month_range : 0 ≤ month ∧ month ≤ 11
  day_range : 1 ≤ day ∧ (153 * month + 2) / 5 + day ≤ (153 * (month + 1) + 2) / 5
  days_eq : days + 719468 = era * 146097 + daysBefore year + (153 * month + 2) / 5 + day - 1
  last_day : (153 * month + 2) / 5 + day ≤ 365 ∨
    (153 * month + 2) / 5 + day = 366 ∧ (year + 1) % 4 = 0 ∧
      ((year + 1) % 100 ≠ 0 ∨ (year + 1) % 400 = 0)
  date_eq : Date.ofDays days = ⟨if month < 10 then year + era * 400 else year + era * 400 + 1,
    if month < 10 then (month + 3).toNat else (month - 9).toNat, day.toNat⟩

theorem ofDays_split (days : Int) : ∃ era year month day, Split days era year month day := by
  have low : 0 ≤ (days + 719468) % 146097 := by omega
  have high : (days + 719468) % 146097 < 146097 := by omega
  obtain ⟨range, range'⟩ := yearOfEra_range low high
  obtain ⟨start, stop⟩ := daysBefore_yearOfEra low high
  have leap := leap_of_last_day low high
  generalize known : (days + 719468) % 146097 = dayOfEra at *
  generalize found : yearOfEra dayOfEra = year at *
  obtain ⟨dayOfYear, position⟩ : ∃ d, d = dayOfEra - daysBefore year := ⟨_, rfl⟩
  obtain ⟨month, month_eq⟩ : ∃ m, m = (5 * dayOfYear + 2) / 153 := ⟨_, rfl⟩
  refine ⟨(days + 719468) / 146097, year, month, dayOfYear - (153 * month + 2) / 5 + 1,
    ⟨range, range'⟩, by omega, by omega, by omega, ?_, ?_⟩
  · by_cases final : dayOfYear = 365
    · exact .inr ⟨by omega, leap (by omega)⟩
    · exact .inl (by omega)
  · have year_known : (dayOfEra - dayOfEra / 1460 + dayOfEra / 36524 - dayOfEra / 146096) / 365 =
        year := found
    have day_known : dayOfEra - (365 * year + year / 4 - year / 100) = dayOfYear := position.symm
    unfold Date.ofDays
    simp only [known, year_known, day_known, ← month_eq]
    by_cases early : month < 10
    · have spring : ¬ month + 3 ≤ 2 := by omega
      simp only [if_pos early, if_neg spring]
    · have winter : month - 9 ≤ 2 := by omega
      simp only [if_neg early, if_pos winter]

/-- The day found for a number of days has this number. -/
theorem toDays_ofDays (days : Int) : (Date.ofDays days).toDays = days := by
  obtain ⟨era, year, month, day, split⟩ := ofDays_split days
  obtain ⟨⟨first, last⟩, ⟨march, february⟩, ⟨start, stop⟩, counted, -, date⟩ := split
  unfold daysBefore at counted
  rw [date]
  unfold Date.toDays
  by_cases early : month < 10
  · have spring : ¬ (month + 3).toNat ≤ 2 := by omega
    have era_known : (year + era * 400) / 400 = era := by omega
    have year_known : (year + era * 400) % 400 = year := by omega
    have month_known : (((month + 3).toNat : Int) + 9) % 12 = month := by omega
    have day_known : (day.toNat : Int) = day := by omega
    simp only [if_pos early, if_neg spring, era_known, year_known, month_known, day_known]
    omega
  · have winter : (month - 9).toNat ≤ 2 := by omega
    have era_known : (year + era * 400 + 1 - 1) / 400 = era := by omega
    have year_known : (year + era * 400 + 1 - 1) % 400 = year := by omega
    have month_known : (((month - 9).toNat : Int) + 9) % 12 = month := by omega
    have day_known : (day.toNat : Int) = day := by omega
    simp only [if_neg early, if_pos winter, era_known, year_known, month_known, day_known]
    omega

/-- A month has the day, also in its year. -/
theorem day_le_daysInMonth {days era year month day : Int} (split : Split days era year month day) :
    (Date.ofDays days).day ≤ daysInMonth (Date.ofDays days).year (Date.ofDays days).month := by
  obtain ⟨-, ⟨march, february⟩, ⟨start, stop⟩, -, last, date⟩ := split
  rw [date]
  by_cases end_of_year : month = 11
  · subst end_of_year
    have leap_iff : isLeapYear (year + era * 400 + 1) = true ↔
        (year + 1) % 4 = 0 ∧ ((year + 1) % 100 ≠ 0 ∨ (year + 1) % 400 = 0) := by
      unfold isLeapYear
      simp only [Bool.and_eq_true, Bool.or_eq_true, beq_iff_eq, bne_iff_ne]
      omega
    change day.toNat ≤ if isLeapYear (year + era * 400 + 1) then 29 else 28
    rcases last with common | ⟨final, leap⟩
    · split
      · omega
      · omega
    · rw [if_pos (leap_iff.mpr leap)]
      omega
  · have others : month ≤ 10 := by omega
    clear last
    interval_cases month <;> simp [daysInMonth] <;> omega

/-- The day found for a number of days exists, if it lies in the years of the calendar. -/
theorem exists_ofDays {days : Int} (low : (Date.mk firstYear 1 1).toDays ≤ days)
    (high : days ≤ (Date.mk lastYear 12 31).toDays) : (Date.ofDays days).exists = true := by
  obtain ⟨era, year, month, day, split⟩ := ofDays_split days
  have within := day_le_daysInMonth split
  obtain ⟨⟨first, last⟩, ⟨march, february⟩, ⟨start, stop⟩, counted, final, date⟩ := split
  have earliest : (Date.mk firstYear 1 1).toDays = -96465292 := by decide
  have latest : (Date.mk lastYear 12 31).toDays = 95026236 := by decide
  unfold daysBefore at counted
  rw [earliest] at low
  rw [latest] at high
  have eras : -656 ≤ era ∧ era ≤ 655 := by omega
  -- only the first and the last era are cut off
  have lowest : era = -656 → 256 ≤ year ∧ (year = 256 → 10 ≤ month) := by
    rintro rfl
    omega
  have highest : era = 655 → year ≤ 142 ∧ (year = 142 → month < 10) := by
    rintro rfl
    omega
  rw [date] at within ⊢
  unfold Date.exists firstYear lastYear
  simp only [Bool.and_eq_true, decide_eq_true_eq]
  simp only at within
  by_cases early : month < 10
  · simp only [if_pos early] at within ⊢
    omega
  · simp only [if_neg early] at within ⊢
    omega

end TokenDesk.Calendar
