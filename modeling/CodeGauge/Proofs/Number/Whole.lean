/-
Module: CodeGauge.Proofs.Number.Whole
Purpose: A finite number that is read from digits is a whole number, and is written with digits alone.
Main exports:
  Binary64.scaled_eq_of_magnitudeBits, Binary64.unit_dvd_scaled_ofDecimal,
  Binary64.shortest_exponent_nonneg, Binary64.leading_lt, Binary64.exists_write_whole
-/
import CodeGauge.Proofs.Number.Decimal

namespace CodeGauge.Number

open CodeGauge.Text

/-!
The number nearest to a natural number is this number itself or, where it has more bits than are kept, one
that ends in binary zeros: a whole number in both cases.  The search for the shortest decimal of a whole
number tries more and more digits, and at the last of its digits before the point it finds the number
itself.  So the shortest decimal has no digit behind the point, and it is short enough to be written
without an exponent.
-/

namespace Binary64

/-! ### Numbers by their magnitude -/

theorem magnitudeBits_ofMagnitude (magnitude : Nat) :
    (ofMagnitude false magnitude).magnitudeBits = min magnitude infiniteBits := by
  have small : infiniteBits < signUnit := by decide
  have fits : signUnit < 2 ^ 64 := by decide
  rw [ofMagnitude, magnitudeBits, if_neg Bool.false_ne_true, UInt64.toNat_ofNat',
    Nat.mod_eq_of_lt (show min magnitude infiniteBits < 2 ^ 64 by omega), Nat.mod_eq_of_lt (by omega)]

theorem isNegative_ofMagnitude (magnitude : Nat) : (ofMagnitude false magnitude).isNegative = false := by
  have small : infiniteBits < signUnit := by decide
  have fits : signUnit < 2 ^ 64 := by decide
  rw [Bool.eq_false_iff, Ne, isNegative_iff, ofMagnitude, if_neg Bool.false_ne_true, UInt64.toNat_ofNat',
    Nat.mod_eq_of_lt (by omega)]
  omega

/-- The kept bits and their place are the value of the number, also where the bits carry over into the
next place. -/
theorem scaled_eq_of_magnitudeBits {x : Binary64} {place kept : Nat}
    (magnitude : x.magnitudeBits = place * exponentUnit + kept) (bound : kept ≤ 2 * exponentUnit)
    (least : place = 0 ∨ exponentUnit ≤ kept) : x.scaled = kept * 2 ^ place := by
  have positive : 0 < exponentUnit := by decide
  have bits (count more : Nat) (shape : x.magnitudeBits = count * exponentUnit + more)
      (small : more < exponentUnit) : x.exponentBits = count ∧ x.magnitudeBits % exponentUnit = more := by
    rw [exponentBits, shape, Nat.mul_comm, Nat.mul_add_div positive, Nat.mul_add_mod,
      Nat.div_eq_of_lt small, Nat.mod_eq_of_lt small]
    exact ⟨rfl, rfl⟩
  rw [scaled, significand, position, Nat.pow_eq]
  rcases Nat.lt_or_ge kept exponentUnit with few | enough
  · obtain rfl : place = 0 := least.resolve_right (by omega)
    obtain ⟨exponent, -⟩ := bits 0 kept magnitude few
    rw [exponent, if_pos rfl, magnitude, Nat.zero_mul, Nat.zero_add]
  rcases Nat.lt_or_ge kept (2 * exponentUnit) with below | full
  · obtain ⟨exponent, rest⟩ := bits (place + 1) (kept - exponentUnit)
      (by rw [magnitude, Nat.succ_mul]; omega) (by omega)
    rw [exponent, rest, if_neg (Nat.succ_ne_zero place), Nat.add_sub_cancel, Nat.sub_add_cancel enough]
  · obtain rfl : kept = 2 * exponentUnit := by omega
    obtain ⟨exponent, rest⟩ := bits (place + 2) 0
      (by rw [magnitude, Nat.add_mul, Nat.add_zero]) positive
    rw [exponent, rest, if_neg (by omega), Nat.zero_add, show place + 2 - 1 = place + 1 from rfl, pow_succ]
    ring

/-! ### Numbers read from digits are whole -/

/-- A rounded natural number keeps its bits above the point. -/
theorem unit_dvd_roundDiv {n place : Nat} :
    unit ∣ roundDiv (n * unit) (1 * 2 ^ place) * 2 ^ place := by
  obtain ⟨places, -, isUnit⟩ := exists_unit_eq
  rw [isUnit, Nat.one_mul]
  rcases Nat.le_total place places with low | high
  · -- down to the kept place nothing is rounded
    obtain ⟨more, rfl⟩ := Nat.exists_eq_add_of_le low
    have exact : n * 2 ^ (place + more) = n * 2 ^ more * 2 ^ place := by rw [pow_add]; ring
    rw [exact, roundDiv_mul_cancel (Nat.two_pow_pos place), ← exact]
    exact Nat.dvd_mul_left _ n
  · exact Dvd.dvd.mul_left (pow_dvd_pow 2 high) _

theorem ofDecimal_nat (n : Nat) : ofDecimal false n 0 = ofMagnitude false (ratioMagnitude n 1) := by
  rw [ofDecimal_eq_ofRatio, ofRatio_eq_ofMagnitude]
  simp

/-- The finite number nearest to a natural number is a whole number. -/
theorem unit_dvd_scaled_ofDecimal {n : Nat} (finite : (ofDecimal false n 0).isFinite = true) :
    unit ∣ (ofDecimal false n 0).scaled := by
  have magnitude := magnitudeBits_ofMagnitude (ratioMagnitude n 1)
  rw [← ofDecimal_nat] at magnitude
  rw [isFinite, decide_eq_true_eq] at finite
  rw [show min (ratioMagnitude n 1) infiniteBits = ratioMagnitude n 1 by omega] at magnitude
  rcases Nat.eq_zero_or_pos n with rfl | positive
  · have none : ¬ 0 < (ofDecimal false 0 0).scaled := by
      rw [scaled_pos_iff, magnitude]
      decide
    rw [Nat.eq_zero_of_not_pos none]
    exact Nat.dvd_zero unit
  · have kept := isKept_keptPosition positive Nat.one_pos
    rw [ratioMagnitude_of_isKept positive Nat.one_pos kept] at magnitude
    have size := roundDiv_eq_or (n * unit) (1 * 2 ^ keptPosition n 1)
    have below := kept.below
    have least := kept.least
    rw [scaled_eq_of_magnitudeBits magnitude (by omega) (by omega)]
    exact unit_dvd_roundDiv

/-! ### The shortest decimal of a whole number -/

theorem exponent_le_strip (fuel : Nat) (d : Decimal) : d.exponent ≤ (d.strip fuel).exponent := by
  induction fuel generalizing d with
  | zero => exact Int.le_refl _
  | succ fuel ih =>
    rw [Decimal.strip]
    split
    · have later := ih ⟨d.digits / 10, d.exponent + 1⟩
      dsimp only at later
      omega
    · exact Int.le_refl _

/-- All zeros at the end of the digits are dropped, if there is fuel for them. -/
theorem exponent_add_le_strip {fuel zeros : Nat} (enough : zeros ≤ fuel) {d : Decimal}
    (nonzero : d.digits ≠ 0) (ends : 10 ^ zeros ∣ d.digits) :
    d.exponent + zeros ≤ (d.strip fuel).exponent := by
  induction fuel generalizing zeros d with
  | zero =>
    obtain rfl : zeros = 0 := by omega
    exact Int.le_of_eq (Int.add_zero _)
  | succ fuel ih =>
    cases zeros with
    | zero =>
      rw [Int.natCast_zero, Int.add_zero]
      exact exponent_le_strip (fuel + 1) d
    | succ zeros =>
      obtain ⟨n, isDigits⟩ := ends
      have tenfold : d.digits = 10 * (10 ^ zeros * n) := by rw [isDigits, pow_succ]; ring
      have tenth : d.digits / 10 = 10 ^ zeros * n := by omega
      rw [Decimal.strip, if_pos ⟨by omega, nonzero⟩]
      have later : d.exponent + 1 + zeros ≤ (Decimal.strip fuel ⟨d.digits / 10, d.exponent + 1⟩).exponent :=
        ih (by omega) (show d.digits / 10 ≠ 0 by omega) ⟨n, tenth⟩
      omega

/-- The leading digit of a number from one on stands before the point. -/
theorem decimalPower_nonneg {num den : Nat} (above : den ≤ num) :
    0 ≤ decimalPower num den := by
  have logs : Nat.log2 den ≤ Nat.log2 num := by
    rw [Nat.log2_eq_log_two, Nat.log2_eq_log_two]
    exact Nat.log_mono_right above
  rw [decimalPower]
  generalize isGuess : (((num.log2 : Int) - den.log2) * 30103).fdiv 100000 = guess
  have nonneg : 0 ≤ guess := by
    rw [← isGuess]
    exact Int.fdiv_nonneg (by omega) (by decide)
  split
  · omega
  split
  · exact nonneg
  · next below =>
    rcases Int.lt_or_eq_of_le nonneg with some | none
    · omega
    · exfalso
      apply below
      rw [← none]
      simpa [tenDen, tenNum] using above

/-- With the digits before the point a whole number is found. -/
theorem withDigits?_whole {x : Binary64} {whole den count : Nat} (positive : 0 < den)
    (reads : ofDecimal false whole 0 = x) (atPoint : decimalPower (whole * den) den = (count : Int) - 1) :
    ∃ d, withDigits? x (whole * den) den count = some d := by
  have below : tenNum (whole * den) 0 / tenDen den 0 = whole := by
    simp [tenNum, tenDen, Nat.mul_div_cancel _ positive]
  rw [withDigits?, atPoint, Int.sub_self, below, reads, beq_self_eq_true, Bool.true_and]
  split
  · exact ⟨_, rfl⟩
  · exact ⟨_, rfl⟩

theorem exponent_withDigits? {x : Binary64} {num den count : Nat} {d : Decimal}
    (found : withDigits? x num den count = some d) :
    d.exponent = decimalPower num den - ((count : Int) - 1) := by
  rw [withDigits?] at found
  split at found
  · cases found; rfl
  split at found
  · cases found; rfl
  split at found
  · cases found; rfl
  · cases found

/-- As long as no more digits are tried than stand before the point, what is found has none behind it. -/
theorem exponent_firstReading {x : Binary64} {whole den tries count : Nat} (positive : 0 < den)
    (reads : ofDecimal false whole 0 = x)
    (before : (count : Int) - 1 ≤ decimalPower (whole * den) den) :
    0 ≤ (firstReading x (whole * den) den tries count).exponent ∨
      firstReading x (whole * den) den tries count = ⟨whole * den * Nat.pow 5 1074, -1074⟩ := by
  induction tries generalizing count with
  | zero => exact Or.inr rfl
  | succ tries ih =>
    rw [firstReading]
    split
    · next d found =>
      rw [exponent_withDigits? found]
      exact Or.inl (by omega)
    · next nothing =>
      apply ih
      have notYet : decimalPower (whole * den) den ≠ (count : Int) - 1 := by
        intro atPoint
        obtain ⟨d, found⟩ := withDigits?_whole positive reads atPoint
        rw [nothing] at found
        cases found
      push_cast
      omega

/-- The shortest decimal of a whole number has no digit behind the point. -/
theorem shortest_exponent_nonneg {x : Binary64} (whole : unit ∣ x.scaled) : 0 ≤ x.shortest.exponent := by
  rw [shortest]
  split
  · exact Int.le_refl 0
  next nonzero =>
  obtain ⟨n, isWhole⟩ := whole
  rw [Nat.mul_comm] at isWhole
  have nPos : 0 < n := by
    rcases Nat.eq_zero_or_pos n with rfl | positive
    · rw [Nat.zero_mul] at isWhole
      exact absurd isWhole nonzero
    · exact positive
  have reads : ofDecimal false n 0 = ofMagnitude false x.magnitudeBits := by
    rw [ofDecimal_nat, ← ratioMagnitude_scaled x]
    refine congrArg (ofMagnitude false) (ratioMagnitude_congr Nat.one_pos unit_pos ?_)
    rw [isWhole, Nat.mul_one]
  have before : ((1 : Nat) : Int) - 1 ≤ decimalPower (n * unit) unit :=
    decimalPower_nonneg (Nat.le_mul_of_pos_left unit nPos)
  rw [isWhole]
  rcases exponent_firstReading unit_pos reads before with nonneg | exact
  · exact nonneg.trans (exponent_le_strip 1100 _)
  · -- the exact decimal of a whole number has a zero at each of its places
    rw [exact]
    obtain ⟨places, isPlaces, isUnit⟩ := exists_unit_eq
    have zeros : 10 ^ places ∣ n * unit * Nat.pow 5 places := by
      rw [isUnit, Nat.pow_eq, Nat.mul_assoc, ← Nat.mul_pow]
      exact Nat.dvd_mul_left _ n
    have some : n * unit * Nat.pow 5 places ≠ 0 :=
      Nat.mul_ne_zero (Nat.mul_ne_zero (by omega) (by have := unit_pos; omega))
        (Nat.pow_pos (by decide)).ne'
    have exponent : (-1074 : Int) = -(places : Int) := by omega
    rw [exponent, ← isPlaces]
    have dropped := exponent_add_le_strip (show places ≤ 1100 by omega)
      (d := ⟨n * unit * Nat.pow 5 places, -(places : Int)⟩) some zeros
    dsimp only at dropped
    omega

/-! ### Writing a whole number -/

/-- The leading digit of a finite number stands below the last place that is written without an
exponent. -/
theorem leading_lt {d : Decimal} {bound : Nat} (many : 1024 ≤ bound) (whole : 0 ≤ d.exponent)
    (finite : (ofDecimal false d.digits d.exponent).isFinite = true) (nonzero : d.digits ≠ 0) :
    d.leading < bound := by
  by_contra above
  obtain ⟨zeros, isExponent⟩ := Int.eq_ofNat_of_zero_le whole
  obtain ⟨length, isLength⟩ : ∃ length, (Nat.toDigits 10 d.digits).length = length + 1 :=
    Nat.exists_eq_succ_of_ne_zero (List.length_pos_iff.mpr Nat.toDigits_ne_nil).ne'
  have digits : 10 ^ length ≤ d.digits := by
    rcases Nat.eq_zero_or_pos length with rfl | positive
    · rw [pow_zero]
      omega
    · by_contra fewer
      have short := (Nat.length_toDigits_le_iff (by decide) positive).mpr (Nat.lt_of_not_le fewer)
      omega
  rw [Decimal.leading, Decimal.digitChars, isLength, isExponent] at above
  have large : 1 * 2 ^ (length + zeros) ≤ d.digits * 10 ^ zeros :=
    calc 1 * 2 ^ (length + zeros) ≤ 10 ^ (length + zeros) := by
          rw [Nat.one_mul]
          exact Nat.pow_le_pow_left (by decide) _
      _ = 10 ^ length * 10 ^ zeros := pow_add ..
      _ ≤ d.digits * 10 ^ zeros := Nat.mul_le_mul_right _ digits
  have infinite : infiniteBits ≤ ratioMagnitude (d.digits * 10 ^ zeros) 1 :=
    infiniteBits_le_ratioMagnitude Nat.one_pos (by push_cast at above; omega) large
  rw [ofDecimal_eq_ofRatio, isExponent, show ((zeros : Int)).toNat = zeros by omega,
    show (-(zeros : Int)).toNat = 0 by omega, pow_zero, ofRatio_eq_ofMagnitude, isFinite,
    decide_eq_true_eq, magnitudeBits_ofMagnitude] at finite
  omega

/-- A finite number that is read from digits is written with digits alone, and is read from these. -/
theorem exists_write_whole {n : Nat} (finite : (ofDecimal false n 0).isFinite = true) :
    ∃ digits : List Char, (ofDecimal false n 0).write plainStyle = String.ofList digits ∧
      IsNumber digits ∧ ofDigits digits = ofDecimal false n 0 := by
  have positive : (ofDecimal false n 0).isNegative = false := by
    rw [ofDecimal_nat]
    exact isNegative_ofMagnitude _
  have whole := shortest_exponent_nonneg (unit_dvd_scaled_ofDecimal finite)
  have reads := ofDecimal_shortest finite
  generalize ofDecimal false n 0 = x at *
  rw [positive] at reads
  have range : x.magnitudeBits < infiniteBits := by simpa [isFinite] using finite
  have number : x.isNaN = false := by simp [isNaN]; omega
  have bounded : x.isInfinite = false := by simp [isInfinite]; omega
  have isPositional : x.shortest.digits = 0 ∨
      (plainStyle.leastPositional ≤ x.shortest.leading ∧
        x.shortest.leading < plainStyle.firstExponential) := by
    by_cases zero : x.shortest.digits = 0
    · exact Or.inl zero
    · refine Or.inr ⟨?_, leading_lt (by decide) whole (by rw [reads]; exact finite) zero⟩
      rw [Decimal.leading, plainStyle]
      dsimp only
      omega
  refine ⟨x.shortest.positional, ?_, ?_, ?_⟩
  · simp only [write, number, bounded, positive, Bool.false_eq_true, if_false, if_pos isPositional]
  · rw [Decimal.positional]
    split
    · exact ⟨by simp, by simp⟩
    · exact (isNumber_toDigits _).append_zeros _
  · rw [ofDigits, Decimal.positional]
    split
    · next zero =>
      rw [zero] at reads
      rw [← reads, ofDecimal, ofDecimal, if_pos rfl]
      rfl
    · have value : ofDecimal false (x.shortest.digits * 10 ^ x.shortest.exponent.toNat) 0 = x := by
        rw [ofDecimal_mul_pow, Int.zero_add, Int.toNat_of_nonneg whole, reads]
      rw [digitsValue_append_zeros, Decimal.digitChars, digitsValue_toDigits, value]

end Binary64

end CodeGauge.Number
