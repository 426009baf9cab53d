import Mathlib.Tactic.IntervalCases
import Voucher.Calendar

/-! Day numbers and dates are two names for the same days. Years are counted from March, so the leap
day comes last, and a cycle of 400 years is told apart into centuries, four-year spans and years. -/
namespace Voucher.Calendar

/-- The days of a cycle before one of its years. -/
def daysBefore (year : Nat) : Nat := year * 365 + year / 4 - year / 100

/-- The year of a cycle that a day lies in. -/
def yearOf (day : Nat) : Nat := (day - day / 1460 + day / 36524 - day / 146096) / 365

/-- A year of a cycle has a day; the last of 366 days is there in leap years only. -/
structure Within (year day : Nat) : Prop where
  yearLt : year < 400
  dayLe : day ≤ 365
  leap : day = 365 → year % 4 = 3 ∧ (year % 100 ≠ 99 ∨ year = 399)

/-- The days before a year by its century, its four-year span and its place within that. -/
theorem daysBefore_eq {century span year : Nat} (inSpan : span ≤ 24) (inYear : year ≤ 3) :
    daysBefore (100 * century + 4 * span + year) = 36524 * century + 1461 * span + 365 * year := by
  unfold daysBefore
  omega

/-- Every day of a cycle lies in one of its years. -/
theorem exists_within {day : Nat} (cycle : day < 146097) :
    ∃ year rest, Within year rest ∧ day = daysBefore year + rest := by
  obtain ⟨century, inCentury⟩ : ∃ c, c = min (day / 36524) 3 := ⟨_, rfl⟩
  obtain ⟨span, inSpan⟩ : ∃ q, q = (day - 36524 * century) / 1461 := ⟨_, rfl⟩
  obtain ⟨year, inYear⟩ : ∃ k, k = min ((day - 36524 * century - 1461 * span) / 365) 3 := ⟨_, rfl⟩
  have before : daysBefore (100 * century + 4 * span + year) =
      36524 * century + 1461 * span + 365 * year :=
    daysBefore_eq (by omega) (by omega)
  refine ⟨100 * century + 4 * span + year, day - 36524 * century - 1461 * span - 365 * year,
    ⟨?_, ?_, ?_⟩, ?_⟩
  · omega
  · omega
  · omega
  · omega

/-- The year is found from the day alone. -/
theorem yearOf_eq {year rest : Nat} (within : Within year rest) :
    yearOf (daysBefore year + rest) = year := by
  obtain ⟨century, span, k, inSpan, inYear, rfl⟩ :
      ∃ century span k, span ≤ 24 ∧ k ≤ 3 ∧ year = 100 * century + 4 * span + k :=
    ⟨year / 100, year % 100 / 4, year % 4, by omega, by omega, by omega⟩
  obtain ⟨bound, last, leap⟩ := within
  have inCycle : century ≤ 3 := by omega
  have leapDay : rest = 365 → k = 3 ∧ (span ≠ 24 ∨ century = 3) := by omega
  clear bound leap
  rw [daysBefore_eq inSpan inYear]
  have leapDays : (36524 * century + 1461 * span + 365 * k + rest) / 1460 =
      25 * century + span + (24 * century + span + 365 * k + rest) / 1460 := by
    omega
  obtain ⟨extra, drift⟩ : ∃ e, e = (24 * century + span + 365 * k + rest) / 1460 := ⟨_, rfl⟩
  unfold yearOf
  rw [leapDays, ← drift]
  by_cases final : century = 3 ∧ span = 24 ∧ k = 3 ∧ rest = 365
  · obtain ⟨rfl, rfl, rfl, rfl⟩ := final
    omega
  · have inCentury : 1461 * span + 365 * k + rest < 36524 := by
      omega
    have centuries : (36524 * century + 1461 * span + 365 * k + rest) / 36524 = century := by
      omega
    have cycles : (36524 * century + 1461 * span + 365 * k + rest) / 146096 = 0 := by
      omega
    rw [centuries, cycles]
    omega

/-- The date of a day of a year of a cycle. -/
def Date.ofCycle (cycle : Int) (year day : Nat) : Date :=
  let monthFromMarch := (5 * day + 2) / 153
  let month := if monthFromMarch < 10 then monthFromMarch + 3 else monthFromMarch - 9
  ⟨if month ≤ 2 then (year : Int) + cycle * 400 + 1 else (year : Int) + cycle * 400, month,
    day - (153 * monthFromMarch + 2) / 5 + 1⟩

/-- Every day number is a day of a year of a cycle, and its date is that day's. -/
theorem Date.ofDayNumber_cases (n : Int) : ∃ (cycle : Int) (year day : Nat), Within year day ∧
    n = cycle * 146097 + ((daysBefore year + day : Nat) : Int) - 719468 ∧
      ofDayNumber n = ofCycle cycle year day := by
  obtain ⟨cycle, inCycle⟩ : ∃ cycle, cycle = Int.fdiv (n + 719468) 146097 := ⟨_, rfl⟩
  have bounds : 0 ≤ n + 719468 - cycle * 146097 ∧ n + 719468 - cycle * 146097 < 146097 := by
    rw [inCycle, Int.fdiv_eq_ediv_of_nonneg _ (by decide)]
    omega
  obtain ⟨year, day, within, split⟩ :=
    exists_within (show (n + 719468 - cycle * 146097).toNat < 146097 by omega)
  refine ⟨cycle, year, day, within, by omega, ?_⟩
  have found : yearOf (n + 719468 - cycle * 146097).toNat = year := by rw [split, yearOf_eq within]
  have rest : (n + 719468 - cycle * 146097).toNat - (365 * year + year / 4 - year / 100) = day := by
    rw [split]
    unfold daysBefore
    omega
  unfold yearOf at found
  simp only [ofDayNumber, ← inCycle, found, rest, ofCycle]

theorem Date.dayNumber_ofCycle (cycle : Int) {year day : Nat} (within : Within year day) :
    (ofCycle cycle year day).dayNumber = cycle * 146097 +
    ((daysBefore year + day : Nat) : Int) - 719468 := by
  obtain ⟨bound, last, -⟩ := within
  obtain ⟨month, counted⟩ : ∃ m, m = (5 * day + 2) / 153 := ⟨_, rfl⟩
  have inCycle : Int.fdiv ((year : Int) + cycle * 400) 400 = cycle := by
    rw [Int.fdiv_eq_ediv_of_nonneg _ (by decide)]
    omega
  have inYear : ((year : Int) + cycle * 400 - cycle * 400).toNat = year := by omega
  have dayBack : (153 * month + 2) / 5 + (day - (153 * month + 2) / 5 + 1) - 1 = day := by omega
  unfold dayNumber ofCycle daysBefore
  simp only [← counted]
  by_cases early : month < 10
  · have late : ¬ month + 3 ≤ 2 := by omega
    have back : month + 3 - 3 = month := by omega
    simp only [if_pos early, if_neg late, if_pos (Nat.lt_of_not_le late), inCycle, inYear, back,
      dayBack]
  · have next : month - 9 ≤ 2 := by omega
    have back : month - 9 + 9 = month := by omega
    have last : (year : Int) + cycle * 400 + 1 - 1 = (year : Int) + cycle * 400 := by omega
    simp only [if_neg early, if_pos next, if_neg (Nat.not_lt_of_le next), last, inCycle, inYear,
      back, dayBack]

theorem isLeap_ofCycle (cycle : Int) {year : Nat} (fourth : year % 4 = 3)
    (century : year % 100 ≠ 99 ∨ year = 399) : isLeap ((year : Int) + cycle * 400 + 1) = true := by
  simp only [isLeap, Bool.and_eq_true, Bool.or_eq_true, beq_iff_eq, bne_iff_ne]
  omega

theorem Date.isDay_ofCycle (cycle : Int) {year day : Nat} (within : Within year day) :
    isDay (ofCycle cycle year day).year (ofCycle cycle year day).month
      (ofCycle cycle year day).day = true := by
  obtain ⟨-, last, leap⟩ := within
  obtain ⟨month, counted⟩ : ∃ m, m = (5 * day + 2) / 153 := ⟨_, rfl⟩
  have months : month ≤ 11 := by omega
  unfold ofCycle
  simp only [← counted]
  by_cases february : month = 11
  · subst february
    have length : 28 ≤ daysInMonth ((year : Int) + cycle * 400 + 1) 2 := by
      simp only [daysInMonth]
      split <;> decide
    have longer : day = 365 → daysInMonth ((year : Int) + cycle * 400 + 1) 2 = 29 := by
      intro final
      obtain ⟨fourth, century⟩ := leap final
      simp only [daysInMonth, isLeap_ofCycle cycle fourth century, if_true]
    simp [isDay]
    omega
  · interval_cases month <;> simp [isDay, daysInMonth] <;> omega

/-- The date of a day number is a day that the calendar has. -/
theorem Date.isDay_ofDayNumber (n : Int) :
    isDay (ofDayNumber n).year (ofDayNumber n).month (ofDayNumber n).day = true := by
  obtain ⟨cycle, year, day, within, -, date⟩ := ofDayNumber_cases n
  rw [date]
  exact isDay_ofCycle cycle within

@[simp] theorem Date.dayNumber_ofDayNumber (n : Int) : (ofDayNumber n).dayNumber = n := by
  obtain ⟨cycle, year, day, within, split, date⟩ := ofDayNumber_cases n
  rw [date, dayNumber_ofCycle cycle within]
  exact split.symm

/-- A day of the Gregorian calendar. Every fourth year is a leap year, but of the years that end a
century only every fourth. -/
structure Gregorian (year month day : Nat) : Prop where
  inYear : 1 ≤ month ∧ month ≤ 12
  first : 1 ≤ day
  long : month ∈ [1, 3, 5, 7, 8, 10, 12] → day ≤ 31
  short : month ∈ [4, 6, 9, 11] → day ≤ 30
  february : month = 2 → day ≤ 29
  leap : month = 2 → day = 29 → 4 ∣ year ∧ (100 ∣ year → 400 ∣ year)

theorem isLeap_iff {year : Nat} : isLeap year = true ↔ 4 ∣ year ∧ (100 ∣ year → 400 ∣ year) := by
  simp only [isLeap, Bool.and_eq_true, Bool.or_eq_true, beq_iff_eq, bne_iff_ne]
  omega

theorem le_daysInMonth_iff {year month day : Nat} (low : 1 ≤ month) (high : month ≤ 12) :
    day ≤ daysInMonth year month ↔
      (month ∈ [1, 3, 5, 7, 8, 10, 12] → day ≤ 31) ∧ (month ∈ [4, 6, 9, 11] → day ≤ 30) ∧
        (month = 2 → day ≤ 29) ∧ (month = 2 → day = 29 → 4 ∣ year ∧ (100 ∣ year → 400 ∣ year)) := by
  by_cases february : month = 2
  · subst february
    have length : daysInMonth year 2 = if isLeap year then 29 else 28 := rfl
    by_cases leap : isLeap year = true
    · rw [length, if_pos leap]
      constructor
      · intro last
        exact ⟨by simp, by simp, fun _ => last, fun _ _ => isLeap_iff.mp leap⟩
      · rintro ⟨-, -, last, -⟩
        exact last rfl
    · rw [length, if_neg leap]
      constructor
      · intro last
        exact ⟨by simp, by simp, fun _ => by omega, fun _ _ => by omega⟩
      · rintro ⟨-, -, last, final⟩
        have within := last rfl
        have common : day ≠ 29 := fun same => leap (isLeap_iff.mpr (final rfl same))
        omega
  · interval_cases month <;> simp [daysInMonth] at february ⊢

theorem isDay_iff {year month day : Nat} :
    isDay year month day = true ↔ Gregorian year month day := by
  simp only [isDay, Bool.and_eq_true, decide_eq_true_eq]
  constructor
  · rintro ⟨⟨month, first⟩, last⟩
    obtain ⟨long, short, february, leap⟩ := (le_daysInMonth_iff month.1 month.2).mp last
    exact ⟨month, first, long, short, february, leap⟩
  · rintro ⟨month, first, long, short, february, leap⟩
    exact ⟨⟨month, first⟩, (le_daysInMonth_iff month.1 month.2).mpr ⟨long, short, february, leap⟩⟩

end Voucher.Calendar
