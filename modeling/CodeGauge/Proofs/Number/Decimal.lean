/-
Module: CodeGauge.Proofs.Number.Decimal
Purpose: The text of a finite number, in any style, reads back as the number.
Main exports:
  Binary64.ofDecimal_shortest, Numeral, Numeral.text, Binary64.exists_write_eq,
  Binary64.read?_write
-/
import CodeGauge.Number.Decimal
import CodeGauge.Proofs.Number.Binary64
import CodeGauge.Proofs.Text.Digits

namespace CodeGauge.Number

open CodeGauge.Text

/-!
A text of a number is described by its parts, whatever its style: digits before the point, digits
behind it, and an exponent.  Writing is shown to give such parts with the value of the shortest
decimal, and reading to give the value of the parts.
-/

namespace Binary64

/-! ### The shortest decimal -/

/-- A decimal that is found for a number reads as the number. -/
theorem ofDecimal_of_withDigits? {x : Binary64} {num den count : Nat} {d : Decimal}
    (found : withDigits? x num den count = some d) : ofDecimal false d.digits d.exponent = x := by
  simp only [withDigits?, Bool.and_eq_true, beq_iff_eq] at found
  generalize decimalPower num den - ((count : Int) - 1) = power at found
  split at found
  · next both =>
    obtain rfl := Option.some.inj found
    rcases roundDiv_eq_or (tenNum num power) (tenDen den power) with down | up
    · rw [down]; exact both.1
    · rw [up]; exact both.2
  split at found
  · next below => obtain rfl := Option.some.inj found; exact below
  split at found
  · next above => obtain rfl := Option.some.inj found; exact above
  · exact absurd found (Option.some_ne_none d).symm

theorem ofDecimal_firstReading {x : Binary64} {num : Nat}
    (exact : ofDecimal false (num * Nat.pow 5 1074) (-1074) = x) (den tries count : Nat) :
    ofDecimal false (firstReading x num den tries count).digits
      (firstReading x num den tries count).exponent = x := by
  induction tries generalizing count with
  | zero => exact exact
  | succ tries ih =>
    rw [firstReading]
    split
    · next found => exact ofDecimal_of_withDigits? found
    · exact ih (count + 1)

/-- A number over a power of two is a decimal with as many places. -/
theorem ofDecimal_scaled {places : Nat} (isUnit : unit = 2 ^ places) (x : Binary64) :
    ofDecimal false (x.scaled * Nat.pow 5 places) (-places) = ofMagnitude false x.magnitudeBits := by
  rw [← ratioMagnitude_scaled, ofDecimal_eq_ofRatio, ofRatio_eq_ofMagnitude]
  refine congrArg (ofMagnitude false) (ratioMagnitude_congr (Nat.pow_pos (by decide)) unit_pos ?_)
  rw [isUnit, Nat.pow_eq, show (-(places : Int)).toNat = 0 by omega,
    show (- -(places : Int)).toNat = places by omega, pow_zero, Nat.mul_one, Nat.mul_assoc, ← Nat.mul_pow]

/-- The exact decimal of a number reads as the number. -/
theorem ofDecimal_exact (x : Binary64) :
    ofDecimal false (x.scaled * Nat.pow 5 1074) (-1074) = ofMagnitude false x.magnitudeBits := by
  obtain ⟨places, isPlaces, isUnit⟩ := exists_unit_eq
  have exponent : -(places : Int) = -1074 := by omega
  rw [← exponent, ← isPlaces]
  exact ofDecimal_scaled isUnit x

theorem ofDecimal_strip (negative : Bool) (fuel : Nat) (d : Decimal) :
    ofDecimal negative (d.strip fuel).digits (d.strip fuel).exponent
      = ofDecimal negative d.digits d.exponent := by
  induction fuel generalizing d with
  | zero => rfl
  | succ fuel ih =>
    rw [Decimal.strip]
    split
    · next zero =>
      have digits : d.digits / 10 * 10 ^ 1 = d.digits := by omega
      rw [ih, ← digits, ofDecimal_mul_pow, digits]
      rfl
    · rfl

/-- The shortest decimal of a finite number reads as the number, once its sign is put on. -/
theorem ofDecimal_shortest {x : Binary64} (finite : x.isFinite = true) :
    ofDecimal x.isNegative x.shortest.digits x.shortest.exponent = x := by
  have unsigned : ofDecimal false x.shortest.digits x.shortest.exponent
      = ofMagnitude false x.magnitudeBits := by
    rw [shortest]
    split
    · next zero =>
      have : x.magnitudeBits = 0 := by have := scaled_pos_iff x; omega
      rw [this]
      rfl
    · rw [ofDecimal_strip, ofDecimal_firstReading (ofDecimal_exact x)]
  rw [ofDecimal_of_unsigned unsigned, ofMagnitude_magnitudeBits finite]

end Binary64

/-! ### Texts by their parts -/

/-- A run of at least one digit. -/
structure IsNumber (digits : List Char) : Prop where
  nonempty : digits ≠ []
  digits : ∀ c ∈ digits, c.isDigit = true

theorem isNumber_toDigits (n : Nat) : IsNumber (Nat.toDigits 10 n) :=
  ⟨Nat.toDigits_ne_nil, fun _ => isDigit_of_mem_toDigits⟩

namespace IsNumber

variable {digits : List Char} (number : IsNumber digits) (zeros : Nat)

include number

theorem append_zeros : IsNumber (digits ++ List.replicate zeros '0') := by
  refine ⟨by simp [number.nonempty], fun c member => ?_⟩
  rcases List.mem_append.mp member with digit | zero
  · exact number.digits c digit
  · rw [List.eq_of_mem_replicate zero]
    rfl

theorem zeros_append : IsNumber (List.replicate zeros '0' ++ digits) := by
  refine ⟨by simp [number.nonempty], fun c member => ?_⟩
  rcases List.mem_append.mp member with zero | digit
  · rw [List.eq_of_mem_replicate zero]
    rfl
  · exact number.digits c digit

end IsNumber

/-- The parts of a decimal text without a sign. -/
structure Numeral where
  whole : List Char
  /-- The digits behind the point, which is left out if there are none. -/
  fraction : List Char
  /-- Whether the exponent is negative, and its digits. -/
  exponent : Option (Bool × List Char)
  isWhole : IsNumber whole
  /-- A zero does not stand before other digits of the whole part. -/
  plainWhole : whole = ['0'] ∨ whole.head? ≠ some '0'
  fractionDigits : ∀ c ∈ fraction, c.isDigit = true
  isExponent : ∀ e ∈ exponent, IsNumber e.2

namespace Numeral

/-- The point and the digits behind it. -/
def fractionText (n : Numeral) : List Char :=
  if n.fraction = [] then [] else '.' :: n.fraction

/-- The exponent with its mark and its sign. -/
def exponentText (n : Numeral) : List Char :=
  match n.exponent with
  | none => []
  | some (negative, digits) => 'e' :: (if negative then '-' else '+') :: digits

/-- The text that the parts make. -/
def text (n : Numeral) : List Char := n.whole ++ n.fractionText ++ n.exponentText

/-- The exponent as a number; it is zero if none is written. -/
def power (n : Numeral) : Int :=
  match n.exponent with
  | none => 0
  | some (negative, digits) =>
    if negative then -(Binary64.digitsValue digits : Int) else Binary64.digitsValue digits

/-- The decimal that the parts spell. -/
def value (n : Numeral) : Decimal :=
  ⟨Binary64.digitsValue (n.whole ++ n.fraction), n.power - n.fraction.length⟩

theorem endsDigits_exponentText (n : Numeral) : EndsDigits n.exponentText := by
  rw [exponentText]
  split
  · exact endsDigits_nil
  · exact endsDigits_cons (by decide)

theorem endsDigits_behindWhole (n : Numeral) : EndsDigits (n.fractionText ++ n.exponentText) := by
  rw [fractionText]
  split
  · exact endsDigits_exponentText n
  · exact endsDigits_cons (by decide)

/-- A text begins with a digit. -/
theorem exists_text_cons (n : Numeral) : ∃ c rest, n.text = c :: rest ∧ c.isDigit = true := by
  obtain ⟨c, rest, front⟩ := List.exists_cons_of_ne_nil n.isWhole.nonempty
  refine ⟨c, rest ++ n.fractionText ++ n.exponentText, ?_, n.isWhole.digits c (by simp [front])⟩
  rw [text, front, List.cons_append, List.cons_append]

end Numeral

namespace Binary64

open Numeral

/-! ### Reading -/

theorem digitsValue_eq_ofDigitChars (cs : List Char) : digitsValue cs = Nat.ofDigitChars 10 cs 0 :=
  Text.foldl_digits_eq cs

theorem digitsValue_toDigits (n : Nat) : digitsValue (Nat.toDigits 10 n) = n := by
  rw [digitsValue_eq_ofDigitChars, Nat.ofDigitChars_ten_toDigits]

/-- Zeros at the front do not count. -/
theorem digitsValue_zeros_append (zeros : Nat) (cs : List Char) :
    digitsValue (List.replicate zeros '0' ++ cs) = digitsValue cs := by
  rw [digitsValue_eq_ofDigitChars, Nat.ofDigitChars_append, Nat.ofDigitChars_replicate_zero,
    Nat.mul_zero, ← digitsValue_eq_ofDigitChars]

/-- Zeros at the end are factors of ten. -/
theorem digitsValue_append_zeros (cs : List Char) (zeros : Nat) :
    digitsValue (cs ++ List.replicate zeros '0') = digitsValue cs * 10 ^ zeros := by
  rw [digitsValue_eq_ofDigitChars, Nat.ofDigitChars_append, Nat.ofDigitChars_replicate_zero,
    Nat.mul_comm, ← digitsValue_eq_ofDigitChars]

theorem readExponent?_sign {digits : List Char} (number : IsNumber digits) (negative : Bool) :
    readExponent? ((if negative then '-' else '+') :: digits)
      = some (if negative then -(digitsValue digits : Int) else digitsValue digits) := by
  have some : (!digits.isEmpty && digits.all Char.isDigit) = true := by
    simp [number.nonempty, List.all_eq_true.mpr number.digits]
  cases negative
  · exact if_pos some
  · exact if_pos some

/-- A text reads as the value of its parts. -/
theorem readUnsigned?_text (negative : Bool) (n : Numeral) :
    readUnsigned? negative n.text = some (ofDecimal negative n.value.digits n.value.exponent) := by
  have whole := takeWhile_isDigit_append n.isWhole.digits n.endsDigits_behindWhole
  have behindWhole := dropWhile_isDigit_append n.isWhole.digits n.endsDigits_behindWhole
  have fraction := takeWhile_isDigit_append n.fractionDigits n.endsDigits_exponentText
  have behind := dropWhile_isDigit_append n.fractionDigits n.endsDigits_exponentText
  have nonempty : n.whole.isEmpty = false := by simp [n.isWhole.nonempty]
  rw [text, List.append_assoc]
  simp only [readUnsigned?, whole, behindWhole, nonempty, Bool.false_and, value, power]
  cases exponent : n.exponent with
  | none =>
    have noText : n.exponentText = [] := by rw [exponentText, exponent]
    rw [noText, List.append_nil] at fraction behind
    by_cases none : n.fraction = []
    · simp [noText, fractionText, none]
    · simp [noText, fractionText, none, fraction, behind]
  | some e =>
    have isText : n.exponentText = 'e' :: (if e.1 then '-' else '+') :: e.2 := by
      rw [exponentText, exponent]
    have reads := readExponent?_sign (n.isExponent e exponent) e.1
    rw [isText] at fraction behind
    by_cases none : n.fraction = []
    · simp [isText, fractionText, none, reads]
    · simp [isText, fractionText, none, fraction, behind, reads]

theorem toLower_of_isDigit {c : Char} (digit : c.isDigit = true) : c.toLower = c := by
  simp only [Char.isDigit, ge_iff_le, Bool.and_eq_true, decide_eq_true_eq] at digit
  refine dif_neg ?_
  rintro ⟨letter, -⟩
  exact absurd (UInt32.le_trans letter digit.2) (by decide)

/-- A text that begins with a digit is no word, in any letter case. -/
theorem lower_text_ne (n : Numeral) {word : String}
    (letter : word.toList.head?.any Char.isDigit = false) :
    (String.ofList (n.text.map Char.toLower) == word) = false := by
  obtain ⟨c, rest, front, digit⟩ := n.exists_text_cons
  rw [front, beq_eq_false_iff_ne]
  rintro rfl
  simp [toLower_of_isDigit digit, digit] at letter

theorem readWord?_text (negative : Bool) (n : Numeral) : readWord? negative n.text = none := by
  rw [readWord?, lower_text_ne n (by decide), lower_text_ne n (by decide)]
  rfl

/-- A text with a sign reads as the value of its parts with that sign. -/
theorem read?_signed (negative : Bool) (n : Numeral) :
    read? (String.ofList (if negative then '-' :: n.text else n.text))
      = some (ofDecimal negative n.value.digits n.value.exponent) := by
  cases negative with
  | true =>
    rw [if_pos rfl, read?, String.toList_ofList]
    simp only [readWord?_text, readUnsigned?_text, Option.orElse_none]
  | false =>
    obtain ⟨c, rest, front, digit⟩ := n.exists_text_cons
    have noMinus : c ≠ '-' := by rintro rfl; exact absurd digit (by decide)
    have noPlus : c ≠ '+' := by rintro rfl; exact absurd digit (by decide)
    rw [if_neg (by decide), read?, String.toList_ofList]
    split
    · next sign => exact absurd (List.cons.inj (front.symm.trans sign)).1 noMinus
    · next sign => exact absurd (List.cons.inj (front.symm.trans sign)).1 noPlus
    · rw [lower_text_ne n (by decide), readWord?_text, readUnsigned?_text]
      rfl

/-! ### Writing -/

/-- The parts of a text spell a decimal, up to zeros. -/
def Spells (n : Numeral) (d : Decimal) : Prop :=
  ∀ negative, ofDecimal negative n.value.digits n.value.exponent
    = ofDecimal negative d.digits d.exponent

/-- Digits with a point before the last `places` of them, and an exponent. -/
def pointed {digits : List Char} {places : Nat} (number : IsNumber digits)
    (plain : digits.head? ≠ some '0') (inside : places < digits.length)
    (exponent : Option (Bool × List Char)) (isExponent : ∀ e ∈ exponent, IsNumber e.2) : Numeral where
  whole := digits.take (digits.length - places)
  fraction := digits.drop (digits.length - places)
  exponent
  isWhole := by
    refine ⟨?_, fun c member => number.digits c (List.mem_of_mem_take member)⟩
    intro none
    have := congrArg List.length none
    rw [List.length_take, List.length_nil] at this
    omega
  plainWhole := Or.inr (by rwa [List.head?_take, if_neg (by omega)])
  fractionDigits c member := number.digits c (List.mem_of_mem_drop member)
  isExponent

theorem value_pointed {digits : List Char} {places : Nat} (number : IsNumber digits)
    (plain : digits.head? ≠ some '0') (inside : places < digits.length)
    (exponent : Option (Bool × List Char)) (isExponent : ∀ e ∈ exponent, IsNumber e.2) :
    (pointed number plain inside exponent isExponent).value
      = ⟨digitsValue digits, (pointed number plain inside exponent isExponent).power - places⟩ := by
  have length : digits.length - (digits.length - places) = places := by omega
  simp only [Numeral.value, pointed, List.take_append_drop, List.length_drop, length]

theorem exists_positional (d : Decimal) : ∃ n : Numeral, n.text = d.positional ∧ Spells n d := by
  by_cases zero : d.digits = 0
  · refine ⟨⟨['0'], [], none, ⟨by simp, by simp⟩, Or.inl rfl, by simp, by simp⟩, ?_, ?_⟩
    · simp [text, fractionText, exponentText, Decimal.positional, zero]
    · intro negative
      simp [Numeral.value, digitsValue, zero, ofDecimal]
  obtain ⟨digits, isDigits⟩ : ∃ digits, Nat.toDigits 10 d.digits = digits := ⟨_, rfl⟩
  have number : IsNumber digits := isDigits ▸ isNumber_toDigits d.digits
  have plain : digits.head? ≠ some '0' := isDigits ▸ head?_toDigits_ne zero
  have value : digitsValue digits = d.digits := isDigits ▸ digitsValue_toDigits d.digits
  simp only [Decimal.positional, Decimal.digitChars, isDigits, if_neg zero]
  by_cases integral : 0 ≤ d.exponent
  · rw [if_pos integral]
    refine ⟨⟨digits ++ List.replicate d.exponent.toNat '0', [], none, number.append_zeros _,
      Or.inr (by rwa [List.head?_append_of_ne_nil _ number.nonempty]), by simp, by simp⟩, ?_, ?_⟩
    · simp [text, fractionText, exponentText]
    · intro negative
      have exponent : (0 : Int) + d.exponent.toNat = d.exponent := by omega
      simp only [Numeral.value, Numeral.power, List.append_nil, List.length_nil, digitsValue_append_zeros,
        value, ofDecimal_mul_pow, Int.sub_zero, Nat.cast_zero, exponent]
  rw [if_neg integral]
  generalize isPlaces : (-d.exponent).toNat = places
  split
  · next inside =>
    refine ⟨pointed number plain inside none (by simp), ?_, ?_⟩
    · have some : digits.drop (digits.length - places) ≠ [] := by
        rw [Ne, List.drop_eq_nil_iff]
        omega
      simp [text, fractionText, exponentText, pointed, some]
    · intro negative
      rw [value_pointed, value]
      congr 1
      simp only [Numeral.power, pointed]
      omega
  · next outside =>
    refine ⟨⟨['0'], List.replicate (places - digits.length) '0' ++ digits, none, ⟨by simp, by simp⟩,
      Or.inl rfl, (number.zeros_append _).digits, by simp⟩, ?_, ?_⟩
    · simp [text, fractionText, exponentText, number.nonempty]
    · intro negative
      have zeros :
          digitsValue ('0' :: (List.replicate (places - digits.length) '0' ++ digits)) = d.digits := by
        rw [← value, ← List.cons_append, ← List.replicate_succ, digitsValue_zeros_append]
      simp only [Numeral.value, Numeral.power, List.singleton_append, zeros, List.length_append,
        List.length_replicate]
      congr 1
      omega

theorem exists_exponential (width : Nat) {d : Decimal} (nonzero : d.digits ≠ 0) :
    ∃ n : Numeral, n.text = d.exponential width ∧ Spells n d := by
  obtain ⟨digits, isDigits⟩ : ∃ digits, Nat.toDigits 10 d.digits = digits := ⟨_, rfl⟩
  have number : IsNumber digits := isDigits ▸ isNumber_toDigits d.digits
  have plain : digits.head? ≠ some '0' := isDigits ▸ head?_toDigits_ne nonzero
  have value : digitsValue digits = d.digits := isDigits ▸ digitsValue_toDigits d.digits
  have some : 0 < digits.length := List.length_pos_iff.mpr number.nonempty
  simp only [Decimal.exponential, Decimal.leading, Decimal.digitChars, isDigits]
  generalize isPower : d.exponent + (digits.length : Int) - 1 = power
  refine ⟨pointed number plain (show digits.length - 1 < digits.length by omega)
    (Option.some (decide (power < 0), List.replicate (width - (Nat.toDigits 10 power.natAbs).length) '0'
      ++ Nat.toDigits 10 power.natAbs)) ?_, ?_, ?_⟩
  · rintro _ ⟨⟩
    exact (isNumber_toDigits _).zeros_append _
  · have one : digits.length - (digits.length - 1) = 1 := by omega
    simp only [text, fractionText, exponentText, pointed, one, List.drop_eq_nil_iff, decide_eq_true_eq,
      List.append_assoc, List.cons_append, List.nil_append]
  · intro negative
    rw [value_pointed, value]
    congr 1
    simp only [Numeral.power, pointed, digitsValue_zeros_append, digitsValue_toDigits]
    by_cases negative : power < 0
    · rw [decide_eq_true negative, if_pos rfl]
      omega
    · rw [decide_eq_false negative, if_neg (by decide)]
      omega

/-- Whatever its style, the text of a finite number spells the number. -/
theorem exists_write_eq {x : Binary64} (finite : x.isFinite = true) (style : NumberStyle) :
    ∃ n : Numeral, x.write style = String.ofList (if x.isNegative then '-' :: n.text else n.text)
      ∧ ofDecimal x.isNegative n.value.digits n.value.exponent = x := by
  have range : x.magnitudeBits < infiniteBits := by simpa [isFinite] using finite
  have number : x.isNaN = false := by simp [isNaN]; omega
  have bounded : x.isInfinite = false := by simp [isInfinite]; omega
  simp only [write, number, bounded, Bool.false_eq_true, if_false]
  by_cases isPositional : x.shortest.digits = 0 ∨
      (style.leastPositional ≤ x.shortest.leading ∧ x.shortest.leading < style.firstExponential)
  · obtain ⟨n, isText, spells⟩ := exists_positional x.shortest
    exact ⟨n, by rw [if_pos isPositional, isText], (spells _).trans (ofDecimal_shortest finite)⟩
  · obtain ⟨n, isText, spells⟩ := exists_exponential style.exponentWidth
      (fun zero => isPositional (Or.inl zero))
    exact ⟨n, by rw [if_neg isPositional, isText], (spells _).trans (ofDecimal_shortest finite)⟩

/-- Reading undoes writing. -/
theorem read?_write {x : Binary64} (finite : x.isFinite = true) (style : NumberStyle) :
    read? (x.write style) = some x := by
  obtain ⟨n, isText, spells⟩ := exists_write_eq finite style
  rw [isText, read?_signed, spells]

end Binary64

end CodeGauge.Number
