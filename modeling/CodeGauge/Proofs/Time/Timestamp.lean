/-
Module: CodeGauge.Proofs.Time.Timestamp
Purpose: The precise text of an instant reads back as the instant with its offset.
Main exports:
  Timestamp.dateTime?_dateTimeText, Timestamp.read?_writePrecise
-/
import CodeGauge.Time.Timestamp
import CodeGauge.Proofs.Text.Digits
import CodeGauge.Proofs.Time.Civil

namespace CodeGauge.Time.Timestamp

open CodeGauge.Text

/-!
Every field of the text has a fixed width, but for the fraction, which loses the zeros at its end.  A
field of fixed width is read by its width alone, so a text is read field by field, and what is left to
show is that the local date and time of day are those of the instant.
-/

/-! ### Fields of fixed width -/

theorem digitsValue_eq_ofDigitChars (cs : List Char) : digitsValue cs = Nat.ofDigitChars 10 cs 0 :=
  Text.foldl_digits_eq cs

theorem length_padded {width n : Nat} (positive : 0 < width) (below : n < 10 ^ width) :
    (padded width n).length = width := by
  have short := (Nat.length_toDigits_le_iff (by decide : 1 < 10) positive).mpr below
  rw [padded, List.length_append, List.length_replicate]
  omega

theorem isDigit_of_mem_padded {width n : Nat} {c : Char} (member : c ∈ padded width n) :
    c.isDigit = true := by
  rcases List.mem_append.mp member with zero | digit
  · rw [List.eq_of_mem_replicate zero]
    rfl
  · exact isDigit_of_mem_toDigits digit

theorem digitsValue_padded (width n : Nat) : digitsValue (padded width n) = n := by
  rw [digitsValue_eq_ofDigitChars, padded, Nat.ofDigitChars_append, Nat.ofDigitChars_replicate_zero,
    Nat.mul_zero, Nat.ofDigitChars_ten_toDigits]

theorem digits?_padded {width n : Nat} (positive : 0 < width) (below : n < 10 ^ width)
    (rest : List Char) : digits? width (padded width n ++ rest) = some (n, rest) := by
  have length := length_padded positive below
  have front : (padded width n ++ rest).take width = padded width n := by
    rw [List.take_append_of_le_length (by omega), List.take_of_length_le (by omega)]
  have behind : (padded width n ++ rest).drop width = rest := by
    rw [List.drop_append_of_le_length (by omega), List.drop_of_length_le (by omega), List.nil_append]
  have digits : (padded width n).all Char.isDigit = true :=
    List.all_eq_true.mpr fun c => isDigit_of_mem_padded
  rw [digits?, front, behind, digitsValue_padded, if_pos ⟨length, digits⟩]

theorem hour?_padded {hour : Nat} (below : hour < 24) (rest : List Char) :
    hour? (padded 2 hour ++ rest) = some (hour, rest) := by
  rw [hour?, digits?_padded (by decide) (by omega)]

/-! ### Date and time of day -/

theorem secondOfDay_lt (t : Timestamp) : t.secondOfDay < 86400 := by
  rw [secondOfDay, Int.fmod_eq_emod_of_nonneg _ (by decide)]
  omega

/-- The date and the time of day of an instant are those of its local seconds. -/
theorem localSeconds?_fields {t : Timestamp} {year : Nat} (isYear : t.date.year = year) :
    localSeconds? year t.date.month t.date.day (t.secondOfDay / 3600) (t.secondOfDay / 60 % 60)
      (t.secondOfDay % 60) = some (t.seconds + t.offset) := by
  have small := secondOfDay_lt t
  have valid : t.date.Valid := Date.valid_ofDayNumber _
  have dayNumber : Date.dayNumber ⟨year, t.date.month, t.date.day⟩
      = (t.seconds + t.offset).fdiv 86400 := by
    rw [← isYear]
    exact Date.dayNumber_ofDayNumber _
  have seconds : t.secondOfDay / 3600 * 3600 + t.secondOfDay / 60 % 60 * 60 + t.secondOfDay % 60
      = t.secondOfDay := by omega
  have split : (t.seconds + t.offset).fdiv 86400 * 86400 + t.secondOfDay = t.seconds + t.offset := by
    rw [secondOfDay, Int.fdiv_eq_ediv_of_nonneg _ (by decide), Int.fmod_eq_emod_of_nonneg _ (by decide)]
    omega
  have dayRange := valid.day_le
  rw [isYear] at dayRange
  rw [localSeconds?, if_pos ⟨valid.month_pos, valid.month_le, valid.day_pos, dayRange, by omega, by omega,
    by omega⟩, seconds, dayNumber, split]

/-- A year of at most four digits is written without a sign. -/
theorem exists_yearText {t : Timestamp} (plain : t.hasPlainYear = true) :
    ∃ year : Nat, t.date.year = year ∧ year < 10 ^ 4 ∧ yearText t.date.year = padded 4 year := by
  rw [hasPlainYear, Bool.and_eq_true, decide_eq_true_eq, decide_eq_true_eq] at plain
  refine ⟨t.date.year.natAbs, by omega, by omega, ?_⟩
  rw [yearText, if_neg (by omega)]

theorem dateTime?_dateTimeText {t : Timestamp} (plain : t.hasPlainYear = true) (rest : List Char) :
    dateTime? (t.dateTimeText ++ rest) = some (t.seconds + t.offset, rest) := by
  obtain ⟨year, isYear, yearBelow, yearIs⟩ := exists_yearText plain
  have small := secondOfDay_lt t
  have valid : t.date.Valid := Date.valid_ofDayNumber _
  have monthBelow : t.date.month < 10 ^ 2 := by have := valid.month_le; omega
  have dayBelow : t.date.day < 10 ^ 2 := by
    have := valid.day_le
    have : daysInMonth t.date.year t.date.month ≤ 31 := by rw [daysInMonth]; split_ifs <;> omega
    omega
  have minuteBelow : t.secondOfDay / 60 % 60 < 10 ^ 2 := by omega
  have secondBelow : t.secondOfDay % 60 < 10 ^ 2 := by omega
  simp only [dateTime?, dateTimeText, yearIs, List.append_assoc, List.cons_append, Option.bind_eq_bind,
    Option.bind_some, expect?, if_true, digits?_padded, yearBelow, monthBelow, dayBelow, minuteBelow,
    secondBelow, hour?_padded (show t.secondOfDay / 3600 < 24 by omega), localSeconds?_fields isYear,
    Nat.zero_lt_succ, Option.pure_def]

/-! ### The fraction -/

/-- Digits without the zeros at their end, with as many zeros as were taken away. -/
theorem exists_dropTrailing (digits : List Char) : ∃ zeros,
    digits = (digits.reverse.dropWhile (fun c => c == '0')).reverse ++ List.replicate zeros '0' := by
  refine ⟨(digits.reverse.takeWhile (fun c => c == '0')).length, ?_⟩
  have zeros : digits.reverse.takeWhile (fun c => c == '0')
      = List.replicate (digits.reverse.takeWhile (fun c => c == '0')).length '0' :=
    List.eq_replicate_of_mem fun c member => by simpa using List.all_eq_true.mp List.all_takeWhile c member
  have parts := List.takeWhile_append_dropWhile (p := fun c => c == '0') (l := digits.reverse)
  calc digits = digits.reverse.reverse := (List.reverse_reverse digits).symm
    _ = (digits.reverse.takeWhile (fun c => c == '0')
          ++ digits.reverse.dropWhile (fun c => c == '0')).reverse := by rw [parts]
    _ = (digits.reverse.dropWhile (fun c => c == '0')).reverse
          ++ List.replicate (digits.reverse.takeWhile (fun c => c == '0')).length '0' := by
        rw [List.reverse_append, zeros, List.reverse_replicate, List.length_replicate]

/-- What may stand behind a fraction that is not written: no digit and no mark of a fraction. -/
def EndsFraction (rest : List Char) : Prop :=
  ∀ c, rest.head? = some c → c.isDigit = false ∧ c ≠ '.' ∧ c ≠ ','

theorem EndsFraction.digits {rest : List Char} (ends : EndsFraction rest) : EndsDigits rest :=
  fun c first => (ends c first).1

theorem fraction_of_endsFraction {rest : List Char} (ends : EndsFraction rest) :
    fraction rest = (0, rest) := by
  match rest with
  | [] => rfl
  | [_] => rfl
  | mark :: d :: more =>
    obtain ⟨-, noPoint, noComma⟩ := ends mark rfl
    simp [fraction, noPoint, noComma]

theorem fraction_fractionText {nanos : Nat} (below : nanos < 10 ^ 9) {rest : List Char}
    (ends : EndsFraction rest) : fraction (fractionText nanos ++ rest) = (nanos, rest) := by
  rw [fractionText]
  split
  · next none => rw [none, List.nil_append, fraction_of_endsFraction ends]
  next some =>
  obtain ⟨zeros, parts⟩ := exists_dropTrailing (padded 9 nanos)
  generalize ((padded 9 nanos).reverse.dropWhile (fun c => c == '0')).reverse = kept at parts ⊢
  have length : kept.length + zeros = 9 := by
    rw [← List.length_replicate (n := zeros) (a := '0'), ← List.length_append, ← parts,
      length_padded (by decide) below]
  have value : digitsValue kept * 10 ^ zeros = nanos := by
    have whole := digitsValue_padded 9 nanos
    rw [parts, digitsValue_eq_ofDigitChars, Nat.ofDigitChars_append, Nat.ofDigitChars_replicate_zero,
      ← digitsValue_eq_ofDigitChars] at whole
    rw [Nat.mul_comm, whole]
  have digits : ∀ c ∈ kept, c.isDigit = true := fun c member =>
    isDigit_of_mem_padded (by rw [parts]; exact List.mem_append_left _ member)
  cases kept with
  | nil => exact absurd (by simpa [digitsValue] using value.symm) some
  | cons d more =>
    have run := takeWhile_isDigit_append digits ends.digits
    have behind := dropWhile_isDigit_append digits ends.digits
    have first : d.isDigit = true := digits d List.mem_cons_self
    have whole : (d :: more).take 9 = d :: more := List.take_of_length_le (by omega)
    have missing : 9 - (d :: more).length = zeros := by omega
    rw [List.cons_append, List.cons_append, fraction, if_pos (by simp [first]), ← List.cons_append,
      run, behind]
    simp only [whole, missing, Nat.pow_eq, value]

/-! ### The offset -/

theorem endsFraction_offsetText (t : Timestamp) : EndsFraction t.offsetText := by
  intro c first
  rw [offsetText] at first
  split at first
  · obtain rfl := Option.some.inj first
    decide
  · have sign : (if t.offset.tdiv 60 < 0 then '-' else '+') = c := Option.some.inj first
    split at sign <;> (subst sign; decide)

/-- A sign with hours and minutes reads as that many seconds. -/
theorem offset?_signed (sign : Char) {minutes : Nat} (below : minutes / 60 < 24) :
    offset? (sign :: padded 2 (minutes / 60) ++ ':' :: padded 2 (minutes % 60))
      = if sign = '+' then some (60 * (minutes : Int))
        else if sign = '-' then some (-(60 * (minutes : Int))) else none := by
  have hours := digits?_padded (by decide : 0 < 2) (show minutes / 60 < 10 ^ 2 by omega)
    (':' :: padded 2 (minutes % 60))
  have last := digits?_padded (by decide : 0 < 2) (show minutes % 60 < 10 ^ 2 by omega) []
  rw [List.append_nil] at last
  have seconds : (((minutes / 60 : Nat) : Int) * 60 + ((minutes % 60 : Nat) : Int)) * 60
      = 60 * (minutes : Int) := by omega
  rw [List.cons_append, offset?]
  · simp only [hours, Option.bind_eq_bind, Option.bind_some, expect?, if_true, last]
    rw [if_pos (by simp; omega), seconds]
  · intro _ nothing
    exact List.cons_ne_nil _ _ (List.append_eq_nil_iff.mp nothing).2

theorem offset?_offsetText {t : Timestamp} (plain : t.hasPlainOffset = true)
    (whole : 60 ∣ t.offset) : offset? t.offsetText = some t.offset := by
  rw [hasPlainOffset, decide_eq_true_eq] at plain
  obtain ⟨minutes, isMinutes⟩ := whole
  have inMinutes : t.offset.tdiv 60 = minutes := by
    rw [isMinutes, Int.mul_tdiv_cancel_left minutes (by decide)]
  rw [offsetText]
  split
  · next none => rw [none]; rfl
  next some =>
  simp only [inMinutes]
  rw [offset?_signed _ (by omega)]
  split
  · next negative =>
    rw [if_neg (by decide), if_pos rfl]
    congr 1
    omega
  · next positive =>
    rw [if_pos rfl]
    congr 1
    omega

/-- Reading undoes writing, for an offset of whole minutes. -/
theorem read?_writePrecise {t : Timestamp} (plainYear : t.hasPlainYear = true)
    (plainOffset : t.hasPlainOffset = true) (minutes : 60 ∣ t.offset) :
    read? t.writePrecise = some t := by
  have nanos : Nanos.ofNat t.nanos = t.nanos := by
    rw [Nanos.ofNat]
    exact Fin.ofNat_val_eq_self _ 
  simp only [read?, writePrecise, String.toList_ofList, List.append_assoc,
    dateTime?_dateTimeText plainYear, Option.bind_eq_bind, Option.bind_some,
    fraction_fractionText t.nanos.isLt (endsFraction_offsetText t),
    offset?_offsetText plainOffset minutes, Option.pure_def, nanos]
  rw [Int.add_sub_cancel]

end CodeGauge.Time.Timestamp
