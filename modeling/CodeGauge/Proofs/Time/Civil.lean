/-
Module: CodeGauge.Proofs.Time.Civil
Purpose: The date of a day number is a date of the calendar, and has that day number.
Main exports:
  Date.Valid, Date.valid_ofDayNumber, Date.dayNumber_ofDayNumber
-/
import CodeGauge.Time.Civil
import Mathlib.Tactic.IntervalCases

namespace CodeGauge.Time.Date

/-!
A cycle of 400 years that begin in March is cut into centuries of 36524 days, these into blocks of four
years and 1461 days, and these into years of 365 days, where the last part of each may have one day
more.  Counted so, the conversion between days and dates is linear but for the months, and the months
are twelve cases.
-/

/-- Day `n` of the cycle is a day of a year of a block of four years of a century.  A leap day ends the
last year of its block, unless the block is the last one of a century that is not the last one. -/
structure Counts (n century block year day : Int) : Prop where
  sum : n = 36524 * century + 1461 * block + 365 * year + day
  centuryRange : 0 ≤ century ∧ century ≤ 3
  blockRange : 0 ≤ block ∧ block ≤ 24
  yearRange : 0 ≤ year ∧ year ≤ 3
  dayNonneg : 0 ≤ day
  dayRange : day ≤ 364 ∨ day = 365 ∧ year = 3 ∧ (block ≤ 23 ∨ century = 3)

theorem exists_counts {n : Int} (nonneg : 0 ≤ n) (below : n < 146097) :
    ∃ century block year day, Counts n century block year day := by
  by_cases lastDay : n = 146096
  · exact ⟨3, 24, 3, 365, by constructor <;> omega⟩
  by_cases leapDay : n % 36524 % 1461 = 1460
  · exact ⟨n / 36524, n % 36524 / 1461, 3, 365, by constructor <;> omega⟩
  · exact ⟨n / 36524, n % 36524 / 1461, n % 36524 % 1461 / 365, n % 36524 % 1461 % 365,
      by constructor <;> omega⟩

section Counting

variable {n century block year day : Int}

/-- The year of the cycle, as the conversion finds it. -/
theorem Counts.yearOfCycle (counts : Counts n century block year day) :
    (n - n / 1460 + n / 36524 - n / 146096) / 365 = 100 * century + 4 * block + year := by
  obtain ⟨sum, centuryRange, blockRange, yearRange, dayNonneg, dayRange⟩ := counts
  by_cases lastDay : n = 146096
  · have : century = 3 ∧ block = 24 ∧ year = 3 := by omega
    omega
  have withinCentury : 1461 * block + 365 * year + day < 36524 := by omega
  have cycles : n / 146096 = 0 := by omega
  have centuries : n / 36524 = century := by omega
  rw [cycles, centuries]
  -- the quotient by 1460 is one too large at the end of a block, where a day is subtracted for it
  by_cases carry : 1460 ≤ 24 * century + block + 365 * year + day
  · have blocks : n / 1460 = 25 * century + block + 1 := by omega
    rw [blocks]
    omega
  · have blocks : n / 1460 = 25 * century + block := by omega
    rw [blocks]
    omega

/-- The days before a year of the cycle. -/
theorem Counts.daysBefore (counts : Counts n century block year day) :
    365 * (100 * century + 4 * block + year) + (100 * century + 4 * block + year) / 4
      - (100 * century + 4 * block + year) / 100 = n - day := by
  obtain ⟨sum, centuryRange, blockRange, yearRange, -, -⟩ := counts
  have fours : (100 * century + 4 * block + year) / 4 = 25 * century + block := by omega
  have hundreds : (100 * century + 4 * block + year) / 100 = century := by omega
  omega

end Counting

/-- The date of a day of a year that begins in March. -/
def ofMarch (marchYear dayOfYear : Int) : Date :=
  let monthFromMarch := (5 * dayOfYear + 2) / 153
  let month := if monthFromMarch < 10 then monthFromMarch + 3 else monthFromMarch - 9
  ⟨marchYear + (if month ≤ 2 then 1 else 0), month.toNat,
    (dayOfYear - (153 * monthFromMarch + 2) / 5 + 1).toNat⟩

/-- A day number counted from the first of March of the year zero. -/
theorem exists_shifted (days : Int) : ∃ cycle n : Int,
    days + 719468 = 146097 * cycle + n ∧ 0 ≤ n ∧ n < 146097 ∧
      (days + 719468).fdiv 146097 = cycle ∧ (days + 719468).fmod 146097 = n := by
  refine ⟨(days + 719468) / 146097, (days + 719468) % 146097, by omega, by omega, by omega, ?_, ?_⟩
  · exact Int.fdiv_eq_ediv_of_nonneg _ (by decide)
  · exact Int.fmod_eq_emod_of_nonneg _ (by decide)

theorem exists_ofMarch (days : Int) : ∃ cycle n century block year day : Int,
    days + 719468 = 146097 * cycle + n ∧ Counts n century block year day ∧
      ofDayNumber days = ofMarch (100 * century + 4 * block + year + cycle * 400) day := by
  obtain ⟨cycle, n, shifted, nonneg, below, quotient, remainder⟩ := exists_shifted days
  obtain ⟨century, block, year, day, counts⟩ := exists_counts nonneg below
  refine ⟨cycle, n, century, block, year, day, shifted, counts, ?_⟩
  have dayOfYear : n - (365 * (100 * century + 4 * block + year)
      + (100 * century + 4 * block + year) / 4 - (100 * century + 4 * block + year) / 100) = day := by
    rw [counts.daysBefore]
    omega
  simp only [ofDayNumber, ofMarch, quotient, remainder, counts.yearOfCycle, dayOfYear]

/-- A date that the calendar has. -/
structure Valid (d : Date) : Prop where
  month_pos : 1 ≤ d.month
  month_le : d.month ≤ 12
  day_pos : 1 ≤ d.day
  day_le : d.day ≤ daysInMonth d.year d.month

theorem isLeapYear_iff (year : Int) :
    isLeapYear year = true ↔ year % 4 = 0 ∧ (year % 100 ≠ 0 ∨ year % 400 = 0) := by
  simp [isLeapYear]

theorem Counts.isLeapYear {n century block year day : Int} (counts : Counts n century block year day)
    (leapDay : day = 365) (cycle : Int) :
    isLeapYear (100 * century + 4 * block + year + cycle * 400 + 1) = true := by
  obtain ⟨-, centuryRange, blockRange, -, -, dayRange⟩ := counts
  rw [isLeapYear_iff]
  omega

section March

variable {marchYear day : Int}

/-- The months of a year that begins in March are numbered from zero to eleven. -/
theorem monthFromMarch_range (nonneg : 0 ≤ day) (le : day ≤ 365) :
    0 ≤ (5 * day + 2) / 153 ∧ (5 * day + 2) / 153 ≤ 11 := by
  omega

theorem valid_ofMarch (nonneg : 0 ≤ day) (le : day ≤ 365)
    (leap : day = 365 → isLeapYear (marchYear + 1) = true) : (ofMarch marchYear day).Valid := by
  obtain ⟨low, high⟩ := monthFromMarch_range nonneg le
  unfold ofMarch
  generalize monthEq : (5 * day + 2) / 153 = month at low high
  refine ⟨?_, ?_, ?_, ?_⟩
  · dsimp only
    split <;> omega
  · dsimp only
    split <;> omega
  · dsimp only
    omega
  · by_cases february : month = 11
    · subst february
      by_cases isLeap : isLeapYear (marchYear + 1) = true
      · simp [daysInMonth, isLeap]
        omega
      · have ordinary : day ≠ 365 := fun leapDay => isLeap (leap leapDay)
        simp [daysInMonth, isLeap]
        omega
    · have before : month ≤ 10 := by omega
      interval_cases month <;> simp [daysInMonth] <;> omega

theorem dayNumber_ofMarch (nonneg : 0 ≤ day) (le : day ≤ 365) :
    (ofMarch marchYear day).dayNumber =
      marchYear / 400 * 146097 + (marchYear % 400 * 365 + marchYear % 400 / 4
        - marchYear % 400 / 100 + day) - 719468 := by
  obtain ⟨low, high⟩ := monthFromMarch_range nonneg le
  have yearEq : (if (ofMarch marchYear day).month ≤ 2 then (ofMarch marchYear day).year - 1
      else (ofMarch marchYear day).year) = marchYear := by
    simp only [ofMarch]
    split <;> split <;> omega
  have monthEq : ((ofMarch marchYear day).month + 9 : Int) % 12 = (5 * day + 2) / 153 := by
    simp only [ofMarch]
    split <;> omega
  have dayEq : ((ofMarch marchYear day).day : Int) =
      day - (153 * ((5 * day + 2) / 153) + 2) / 5 + 1 := by
    simp only [ofMarch]
    omega
  simp only [dayNumber, yearEq, monthEq, dayEq]
  rw [Int.fdiv_eq_ediv_of_nonneg _ (by decide), Int.fmod_eq_emod_of_nonneg _ (by decide)]
  omega

end March

theorem valid_ofDayNumber (days : Int) : (ofDayNumber days).Valid := by
  obtain ⟨cycle, n, century, block, year, day, -, counts, dateEq⟩ := exists_ofMarch days
  rw [dateEq]
  have le : day ≤ 365 := by
    have := counts.dayRange
    omega
  exact valid_ofMarch counts.dayNonneg le fun leapDay => counts.isLeapYear leapDay cycle

/-- A day number is the one of its date. -/
theorem dayNumber_ofDayNumber (days : Int) : (ofDayNumber days).dayNumber = days := by
  obtain ⟨cycle, n, century, block, year, day, shifted, counts, dateEq⟩ := exists_ofMarch days
  have before := counts.daysBefore
  obtain ⟨sum, centuryRange, blockRange, yearRange, nonneg, dayRange⟩ := counts
  have quotient : (100 * century + 4 * block + year + cycle * 400) / 400 = cycle := by omega
  have remainder : (100 * century + 4 * block + year + cycle * 400) % 400 =
      100 * century + 4 * block + year := by omega
  rw [dateEq, dayNumber_ofMarch nonneg (by omega), quotient, remainder]
  omega

end CodeGauge.Time.Date
