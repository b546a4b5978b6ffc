/-
Module: CodeGauge.Proofs.Time.Order
Purpose: The texts by which the run history orders instants compare as the instants do, and read back.
Main exports:
  Date.dayNumber_lt_iff, Timestamp.Before, Timestamp.sortText_lt_iff, Timestamp.readSortText?_sortText
-/
import CodeGauge.Proofs.Time.Timestamp
import Mathlib.Data.Int.ConditionallyCompleteOrder
import Mathlib.Order.Monotone.Basic

namespace CodeGauge.Time

/-!
The text of an instant is a row of numbers, each in a field of fixed width, with the same marks between
them.  So two texts compare as the rows of their numbers do, from the left, and this is the order of the
instants: months follow one another without a gap, days count up within a month, and seconds within a day.
-/

/-! ### Dates -/

namespace Date

/-- The number of the first day of a month, where months are numbered on from the first month of the year
zero. -/
def monthStart (month : Int) : Int := dayNumber ⟨month / 12, (month % 12).toNat + 1, 1⟩

/-- The day number is linear in the day. -/
theorem dayNumber_eq (d : Date) : d.dayNumber = dayNumber ⟨d.year, d.month, 1⟩ + d.day - 1 := by
  simp only [dayNumber]
  omega

/-- A month starts where the month before it ends. -/
theorem monthStart_succ (month : Int) :
    monthStart (month + 1) =
      monthStart month + daysInMonth (month / 12) ((month % 12).toNat + 1) := by
  obtain ⟨year, number, isMonth, low, high⟩ : ∃ year number : Int, month = 12 * year + number ∧
      0 ≤ number ∧ number < 12 := ⟨month / 12, month % 12, by omega, by omega, by omega⟩
  have quotient : month / 12 = year := by omega
  have remainder : month % 12 = number := by omega
  simp only [monthStart, quotient, remainder]
  by_cases december : number = 11
  · have quotient' : (month + 1) / 12 = year + 1 := by omega
    have remainder' : (month + 1) % 12 = 0 := by omega
    rw [quotient', remainder', december]
    simp [dayNumber, daysInMonth, Int.fdiv_eq_ediv_of_nonneg, Int.fmod_eq_emod_of_nonneg]
    omega
  · have quotient' : (month + 1) / 12 = year := by omega
    have remainder' : (month + 1) % 12 = number + 1 := by omega
    have before : number ≤ 10 := by omega
    rw [quotient', remainder']
    by_cases february : number = 1
    · subst february
      by_cases leap : isLeapYear year = true
      · have rule := (isLeapYear_iff year).mp leap
        simp [dayNumber, daysInMonth, leap, Int.fdiv_eq_ediv_of_nonneg, Int.fmod_eq_emod_of_nonneg]
        omega
      · have rule := mt (isLeapYear_iff year).mpr leap
        simp [dayNumber, daysInMonth, leap, Int.fdiv_eq_ediv_of_nonneg, Int.fmod_eq_emod_of_nonneg]
        omega
    · clear quotient quotient' remainder remainder' isMonth high december
      interval_cases number
      all_goals first
        | exact absurd rfl february
        | simp [dayNumber, daysInMonth]
          omega

theorem daysInMonth_pos (year : Int) (month : Nat) : 0 < daysInMonth year month := by
  unfold daysInMonth
  split_ifs <;> decide

theorem monthStart_strictMono : StrictMono monthStart := by
  apply strictMono_int_of_lt_succ
  intro month
  have some := daysInMonth_pos (month / 12) ((month % 12).toNat + 1)
  rw [monthStart_succ]
  omega

/-- The number of the month of a date. -/
def monthNumber (d : Date) : Int := 12 * d.year + d.month - 1

theorem Valid.month_fields {d : Date} (valid : d.Valid) :
    d.monthNumber / 12 = d.year ∧ (d.monthNumber % 12).toNat + 1 = d.month := by
  have low := valid.month_pos
  have high := valid.month_le
  rw [monthNumber]
  omega

theorem Valid.dayNumber_eq_monthStart {d : Date} (valid : d.Valid) :
    d.dayNumber = monthStart d.monthNumber + d.day - 1 := by
  obtain ⟨year, month⟩ := valid.month_fields
  rw [dayNumber_eq, monthStart, year, month]

/-- A date is in front of the month after its own. -/
theorem Valid.dayNumber_lt_monthStart {d : Date} (valid : d.Valid) :
    d.dayNumber < monthStart (d.monthNumber + 1) := by
  obtain ⟨year, month⟩ := valid.month_fields
  have inMonth := valid.day_le
  rw [monthStart_succ, valid.dayNumber_eq_monthStart, year, month]
  omega

theorem Valid.dayNumber_lt_of_month {d e : Date} (valid : d.Valid) (valid' : e.Valid)
    (before : d.monthNumber < e.monthNumber) : d.dayNumber < e.dayNumber := by
  have positive := valid'.day_pos
  calc d.dayNumber
    _ < monthStart (d.monthNumber + 1) := valid.dayNumber_lt_monthStart
    _ ≤ monthStart e.monthNumber := monthStart_strictMono.monotone (by omega)
    _ ≤ e.dayNumber := by
        rw [valid'.dayNumber_eq_monthStart]
        omega

/-- Dates are numbered in the order of year, month and day. -/
theorem Valid.dayNumber_lt_iff {d e : Date} (valid : d.Valid) (valid' : e.Valid) :
    d.dayNumber < e.dayNumber ↔
      d.year < e.year ∨ d.year = e.year ∧ (d.month < e.month ∨ d.month = e.month ∧ d.day < e.day) := by
  have low := valid.month_pos
  have high := valid.month_le
  have low' := valid'.month_pos
  have high' := valid'.month_le
  rcases lt_trichotomy d.monthNumber e.monthNumber with before | same | behind
  · have less := valid.dayNumber_lt_of_month valid' before
    simp only [less, true_iff]
    rw [monthNumber, monthNumber] at before
    omega
  · rw [valid.dayNumber_eq_monthStart, valid'.dayNumber_eq_monthStart, same]
    rw [monthNumber, monthNumber] at same
    omega
  · have more := valid'.dayNumber_lt_of_month valid behind
    rw [monthNumber, monthNumber] at behind
    omega

end Date

/-! ### Fields of fixed width -/

/-- Where two texts begin with fields of one width, the fields decide, and what is behind them if they are
equal. -/
theorem lt_append_iff {field other : List Char} (same : field.length = other.length)
    (rest rest' : List Char) :
    field ++ rest < other ++ rest' ↔ field < other ∨ field = other ∧ rest < rest' := by
  induction field generalizing other with
  | nil =>
    obtain rfl : other = [] := List.length_eq_zero_iff.mp same.symm
    simp
  | cons c field ih =>
    cases other with
    | nil => exact nomatch same
    | cons d other =>
      rw [List.cons_append, List.cons_append, List.cons_lt_cons_iff, List.cons_lt_cons_iff,
        ih (Nat.succ.inj same), List.cons.injEq]
      tauto

namespace Timestamp

theorem digitsValue_cons (c : Char) (digits : List Char) :
    digitsValue (c :: digits) = 10 ^ digits.length * (c.toNat - 48) + digitsValue digits := by
  rw [digitsValue_eq_ofDigitChars, digitsValue_eq_ofDigitChars, Nat.ofDigitChars_cons,
    Nat.ofDigitChars_eq_ofDigitChars_zero, Nat.mul_zero, Nat.zero_add]
  rfl

theorem digitsValue_lt {digits : List Char} (areDigits : ∀ c ∈ digits, c.isDigit = true) :
    digitsValue digits < 10 ^ digits.length := by
  induction digits with
  | nil => decide
  | cons c digits ih =>
    have behind := ih fun d member => areDigits d (List.mem_cons_of_mem c member)
    have small : c.toNat ≤ 57 := (Char.isDigit_iff_toNat.mp (areDigits c List.mem_cons_self)).2
    have front : 10 ^ digits.length * (c.toNat - 48) ≤ 10 ^ digits.length * 9 :=
      Nat.mul_le_mul_left _ (by omega)
    rw [digitsValue_cons, List.length_cons, Nat.pow_succ]
    omega

/-- Fields of digits compare as the numbers that they are. -/
theorem lt_iff_digitsValue_lt {field other : List Char} (same : field.length = other.length)
    (areDigits : ∀ c ∈ field, c.isDigit = true) (areDigits' : ∀ c ∈ other, c.isDigit = true) :
    field < other ↔ digitsValue field < digitsValue other := by
  induction field generalizing other with
  | nil =>
    obtain rfl : other = [] := List.length_eq_zero_iff.mp same.symm
    simp
  | cons c field ih =>
    cases other with
    | nil => exact nomatch same
    | cons d other =>
      have length : field.length = other.length := Nat.succ.inj same
      have tail : ∀ e ∈ field, e.isDigit = true := fun e member => areDigits e (List.mem_cons_of_mem c member)
      have tail' : ∀ e ∈ other, e.isDigit = true := fun e member =>
        areDigits' e (List.mem_cons_of_mem d member)
      have low : 48 ≤ c.toNat := (Char.isDigit_iff_toNat.mp (areDigits c List.mem_cons_self)).1
      have low' : 48 ≤ d.toNat := (Char.isDigit_iff_toNat.mp (areDigits' d List.mem_cons_self)).1
      have below := digitsValue_lt tail
      have below' := digitsValue_lt tail'
      rw [List.cons_lt_cons_iff, ih length tail tail', digitsValue_cons, digitsValue_cons, length]
      rw [length] at below
      rcases Nat.lt_trichotomy c.toNat d.toNat with less | equal | more
      · have scaled : 10 ^ other.length * (c.toNat - 48 + 1) ≤ 10 ^ other.length * (d.toNat - 48) :=
          Nat.mul_le_mul_left _ (by omega)
        rw [Nat.mul_add, Nat.mul_one] at scaled
        exact iff_of_true (Or.inl less) (by omega)
      · obtain rfl := Char.toNat_inj.mp equal
        simp
      · have scaled : 10 ^ other.length * (d.toNat - 48 + 1) ≤ 10 ^ other.length * (c.toNat - 48) :=
          Nat.mul_le_mul_left _ (by omega)
        rw [Nat.mul_add, Nat.mul_one] at scaled
        refine iff_of_false ?_ (by omega)
        rintro (less | ⟨rfl, -⟩)
        · exact Nat.lt_asymm more less
        · exact Nat.lt_irrefl _ more

/-- Two texts that begin with a number of one width. -/
theorem padded_append_lt_iff {width n m : Nat} (positive : 0 < width) (below : n < 10 ^ width)
    (below' : m < 10 ^ width) (rest rest' : List Char) :
    padded width n ++ rest < padded width m ++ rest' ↔ n < m ∨ n = m ∧ rest < rest' := by
  have length := length_padded positive below
  have length' := length_padded positive below'
  have injective : padded width n = padded width m ↔ n = m := by
    constructor
    · intro same
      rw [← digitsValue_padded width n, same, digitsValue_padded]
    · intro same
      rw [same]
  rw [lt_append_iff (length.trans length'.symm), injective,
    lt_iff_digitsValue_lt (length.trans length'.symm) (fun c => isDigit_of_mem_padded)
      (fun c => isDigit_of_mem_padded), digitsValue_padded, digitsValue_padded]

/-! ### Instants -/

/-- An instant is in front of another one. -/
def Before (t u : Timestamp) : Prop :=
  t.seconds < u.seconds ∨ t.seconds = u.seconds ∧ t.nanos < u.nanos

instance (t u : Timestamp) : Decidable (t.Before u) :=
  inferInstanceAs (Decidable (_ ∨ _ ∧ _))

/-- Instants of which none is in front of the other are one instant. -/
theorem toUtc_eq_of_not_before {t u : Timestamp} (notBefore : ¬ t.Before u) (notBehind : ¬ u.Before t) :
    t.toUtc = u.toUtc := by
  rw [Before, Fin.lt_def] at notBefore notBehind
  have seconds : t.seconds = u.seconds := by omega
  have nanos : t.nanos = u.nanos := Fin.ext (by omega)
  rw [toUtc, toUtc, seconds, nanos]

/-- The seconds of an instant are those of its date and of its time of day. -/
theorem seconds_eq (t : Timestamp) :
    t.seconds + t.offset = t.date.dayNumber * 86400 + t.secondOfDay := by
  have dayNumber : t.date.dayNumber = (t.seconds + t.offset).fdiv 86400 := Date.dayNumber_ofDayNumber _
  rw [dayNumber, secondOfDay, Int.fdiv_eq_ediv_of_nonneg _ (by decide),
    Int.fmod_eq_emod_of_nonneg _ (by decide)]
  omega

/-- The fields of an instant fit into their widths. -/
theorem field_bounds (t : Timestamp) : t.date.month < 10 ^ 2 ∧ t.date.day < 10 ^ 2 ∧
    t.secondOfDay / 3600 < 10 ^ 2 ∧ t.secondOfDay / 60 % 60 < 10 ^ 2 ∧ t.secondOfDay % 60 < 10 ^ 2 := by
  have small := secondOfDay_lt t
  have valid : t.date.Valid := Date.valid_ofDayNumber _
  have month := valid.month_le
  have day := valid.day_le
  have longest : daysInMonth t.date.year t.date.month ≤ 31 := by
    rw [daysInMonth]
    split_ifs <;> omega
  omega

/-- Texts that begin with a date and a time of day compare as the local seconds do, and what is behind them
if these are equal. -/
theorem dateTimeText_append_lt_iff {t u : Timestamp} (plain : t.hasPlainYear = true)
    (plain' : u.hasPlainYear = true) (rest rest' : List Char) :
    t.dateTimeText ++ rest < u.dateTimeText ++ rest' ↔
      t.seconds + t.offset < u.seconds + u.offset ∨
        t.seconds + t.offset = u.seconds + u.offset ∧ rest < rest' := by
  obtain ⟨year, isYear, below, yearIs⟩ := exists_yearText plain
  obtain ⟨year', isYear', below', yearIs'⟩ := exists_yearText plain'
  obtain ⟨month, day, hour, minute, second⟩ := field_bounds t
  obtain ⟨month', day', hour', minute', second'⟩ := field_bounds u
  have valid : t.date.Valid := Date.valid_ofDayNumber _
  have valid' : u.date.Valid := Date.valid_ofDayNumber _
  have dates := valid.dayNumber_lt_iff valid'
  have dates' := valid'.dayNumber_lt_iff valid
  have small := secondOfDay_lt t
  have small' := secondOfDay_lt u
  have fields : t.dateTimeText ++ rest < u.dateTimeText ++ rest' ↔
      t.date.dayNumber < u.date.dayNumber ∨ t.date.dayNumber = u.date.dayNumber ∧
        (t.secondOfDay < u.secondOfDay ∨ t.secondOfDay = u.secondOfDay ∧ rest < rest') := by
    simp only [dateTimeText, yearIs, yearIs', List.append_assoc, List.cons_append]
    rw [padded_append_lt_iff (by decide) below below', List.cons_lt_cons_self,
      padded_append_lt_iff (by decide) month month', List.cons_lt_cons_self,
      padded_append_lt_iff (by decide) day day', List.cons_lt_cons_self,
      padded_append_lt_iff (by decide) hour hour', List.cons_lt_cons_self,
      padded_append_lt_iff (by decide) minute minute', List.cons_lt_cons_self,
      padded_append_lt_iff (by decide) second second']
    clear month day hour minute second month' day' hour' minute' second'
    by_cases behind : rest < rest' <;> simp only [behind, and_true, and_false, or_false] <;> omega
  rw [fields, seconds_eq, seconds_eq]
  by_cases behind : rest < rest' <;> simp only [behind, and_true, and_false, or_false] <;> omega

/-- The texts of instants of years with four digits compare as the instants do. -/
theorem sortText_lt_iff {t u : Timestamp} (plain : t.toUtc.hasPlainYear = true)
    (plain' : u.toUtc.hasPlainYear = true) : t.sortText < u.sortText ↔ t.Before u := by
  have seconds : ∀ v : Timestamp, v.toUtc.seconds + v.toUtc.offset = v.seconds := fun v => Int.add_zero _
  rw [String.lt_iff, sortText, sortText, String.toList_ofList, String.toList_ofList, List.append_assoc,
    List.append_assoc, dateTimeText_append_lt_iff plain plain', seconds, seconds, List.cons_append,
    List.cons_append, List.cons_lt_cons_self, padded_append_lt_iff (by decide) t.nanos.isLt u.nanos.isLt,
    Before, Fin.lt_def]
  simp

/-- A text of the run history reads as its instant, with offset zero. -/
theorem readSortText?_sortText {t : Timestamp} (plain : t.toUtc.hasPlainYear = true) :
    readSortText? t.sortText = some t.toUtc := by
  have nanos : Nanos.ofNat t.nanos = t.nanos := Fin.ofNat_val_eq_self _
  have seconds : t.toUtc.seconds + t.toUtc.offset = t.seconds := Int.add_zero _
  simp only [readSortText?, sortText, String.toList_ofList, List.append_assoc,
    dateTime?_dateTimeText plain, Option.bind_eq_bind, Option.bind_some, List.cons_append, expect?, if_true,
    digits?_padded (by decide : 0 < 9) t.nanos.isLt, nanos, seconds, Option.pure_def]
  rfl

end Timestamp

end CodeGauge.Time
