/-
Module: CodeGauge.Proofs.Number.Binary64
Purpose: Rounding to a double depends on the quotient alone, and a double rounds to itself.
Main exports:
  Binary64.IsKept, Binary64.ratioMagnitude, Binary64.ratioMagnitude_congr,
  Binary64.ratioMagnitude_scaled, Binary64.ofDecimal_eq_ofRatio, Binary64.ofDecimal_mul_pow
-/
import CodeGauge.Number.Binary64
import Mathlib.Data.Nat.Log
import Mathlib.Tactic.Ring

namespace CodeGauge.Number

/-!
The place of the last bit that is kept is found from two binary logarithms, but it has a description
that mentions the quotient alone: it is the only one at which at most 53 bits are kept, and no fewer
unless it is the smallest place there is.  Everything else about rounding follows from that.
-/

/-! ### Rounded quotients -/

theorem roundDiv_mul_right {k : Nat} (positive : 0 < k) (num den : Nat) :
    roundDiv (num * k) (den * k) = roundDiv num den := by
  have left : 2 * (num % den * k) < den * k ↔ 2 * (num % den) < den := by
    rw [← Nat.mul_assoc, Nat.mul_lt_mul_right positive]
  have right : den * k < 2 * (num % den * k) ↔ den < 2 * (num % den) := by
    rw [← Nat.mul_assoc, Nat.mul_lt_mul_right positive]
  simp only [roundDiv, Nat.mul_div_mul_right _ _ positive, Nat.mul_mod_mul_right, left, right]

theorem roundDiv_mul_cancel {den : Nat} (positive : 0 < den) (n : Nat) : roundDiv (n * den) den = n := by
  simp [roundDiv, Nat.mul_div_cancel _ positive, positive]

theorem roundDiv_eq_or (num den : Nat) :
    roundDiv num den = num / den ∨ roundDiv num den = num / den + 1 := by
  simp only [roundDiv]
  split_ifs <;> simp

theorem roundDiv_eq_zero {num den : Nat} (small : 2 * num < den) : roundDiv num den = 0 := by
  have below : num < den := by omega
  simp [roundDiv, Nat.mod_eq_of_lt below, Nat.div_eq_of_lt below, small]

namespace Binary64

/-! ### The place of the last kept bit -/

/-- The unit as a power of a variable, so that no tactic computes it. -/
theorem exists_unit_eq : ∃ places, places = 1074 ∧ unit = 2 ^ places := by
  unfold unit
  generalize 1074 = places
  exact ⟨places, rfl, Nat.pow_eq⟩

theorem unit_pos : 0 < unit := by
  obtain ⟨places, -, isUnit⟩ := exists_unit_eq
  rw [isUnit]
  exact Nat.two_pow_pos places

theorem exponentUnit_eq : exponentUnit = 2 ^ 52 := rfl

/-- At a place `num / den` keeps at most 53 bits, and no fewer unless the place is the smallest. -/
structure IsKept (num den place : Nat) : Prop where
  below : num * unit / (den * 2 ^ place) < 2 * exponentUnit
  least : place = 0 ∨ exponentUnit ≤ num * unit / (den * 2 ^ place)

theorem IsKept.le {num den p q : Nat} (positive : 0 < den) (isP : IsKept num den p)
    (isQ : IsKept num den q) : q ≤ p := by
  by_contra above
  have enough : exponentUnit * (den * 2 ^ q) ≤ num * unit :=
    (Nat.le_div_iff_mul_le (Nat.mul_pos positive (Nat.two_pow_pos q))).mp
      (isQ.least.resolve_left (by omega))
  have few : num * unit < 2 * exponentUnit * (den * 2 ^ p) :=
    (Nat.div_lt_iff_lt_mul (Nat.mul_pos positive (Nat.two_pow_pos p))).mp isP.below
  have double : 2 ^ (p + 1) ≤ 2 ^ q := Nat.pow_le_pow_right (by decide) (by omega)
  have : exponentUnit * (den * 2 ^ (p + 1)) ≤ exponentUnit * (den * 2 ^ q) :=
    Nat.mul_le_mul_left _ (Nat.mul_le_mul_left _ double)
  rw [pow_succ] at this
  have : exponentUnit * (den * (2 ^ p * 2)) = 2 * exponentUnit * (den * 2 ^ p) := by ring
  omega

theorem IsKept.unique {num den p q : Nat} (positive : 0 < den) (isP : IsKept num den p)
    (isQ : IsKept num den q) : p = q :=
  Nat.le_antisymm (isQ.le positive isP) (isP.le positive isQ)

/-- The place below keeps one bit more. -/
theorem IsKept.below_of_few {num den place : Nat}
    (few : num * unit / (den * 2 ^ (place + 1)) < exponentUnit)
    (enough : exponentUnit ≤ 2 * (num * unit / (den * 2 ^ (place + 1)))) :
    IsKept num den place := by
  have halves : num * unit / (den * 2 ^ (place + 1)) = num * unit / (den * 2 ^ place) / 2 := by
    rw [pow_succ, ← Nat.mul_assoc, Nat.div_div_eq_div_mul]
  rw [halves] at few enough
  exact ⟨by omega, Or.inr (by omega)⟩

theorem isKept_keptPosition {num den : Nat} (numPos : 0 < num) (denPos : 0 < den) :
    IsKept num den (keptPosition num den) := by
  have numLow := Nat.log2_self_le (n := num) (by omega)
  have numHigh := @Nat.lt_log2_self num
  have denLow := Nat.log2_self_le (n := den) (by omega)
  have denHigh := @Nat.lt_log2_self den
  rw [keptPosition]
  generalize num.log2 = a at *
  generalize den.log2 = b at *
  simp only [Nat.pow_eq]
  generalize isGuess : a + 1074 - (b + 52) = guess
  obtain ⟨places, isPlaces, isUnit⟩ := exists_unit_eq
  have placePos : 0 < den * 2 ^ guess := Nat.mul_pos denPos (Nat.two_pow_pos guess)
  have below : num * unit / (den * 2 ^ guess) < 2 * exponentUnit := by
    rw [Nat.div_lt_iff_lt_mul placePos, isUnit, exponentUnit_eq]
    calc num * 2 ^ places < 2 ^ (a + 1) * 2 ^ places :=
          Nat.mul_lt_mul_of_pos_right numHigh (Nat.two_pow_pos _)
      _ = 2 ^ (a + 1 + places) := (pow_add ..).symm
      _ ≤ 2 ^ (1 + 52 + (b + guess)) := Nat.pow_le_pow_right (by decide) (by omega)
      _ = 2 ^ 1 * 2 ^ 52 * (2 ^ b * 2 ^ guess) := by rw [pow_add, pow_add 2 1, pow_add 2 b]
      _ ≤ 2 * 2 ^ 52 * (den * 2 ^ guess) :=
        Nat.mul_le_mul_left _ (Nat.mul_le_mul_right _ denLow)
  split
  · next few =>
    cases guess with
    | zero => exact ⟨below, Or.inl rfl⟩
    | succ guess =>
      refine IsKept.below_of_few few ?_
      -- at a guess above zero the logarithms tell that at most one bit is missing
      have half : 2 ^ 51 ≤ num * unit / (den * 2 ^ (guess + 1)) := by
        rw [Nat.le_div_iff_mul_le placePos, isUnit]
        calc 2 ^ 51 * (den * 2 ^ (guess + 1)) ≤ 2 ^ 51 * (2 ^ (b + 1) * 2 ^ (guess + 1)) :=
              Nat.mul_le_mul_left _ (Nat.mul_le_mul_right _ denHigh.le)
          _ = 2 ^ (51 + (b + 1 + (guess + 1))) := by rw [pow_add 2 51, pow_add 2 (b + 1)]
          _ = 2 ^ (a + places) := congrArg (2 ^ ·) (by omega)
          _ = 2 ^ a * 2 ^ places := pow_add ..
          _ ≤ num * 2 ^ places := Nat.mul_le_mul_right _ numLow
      rw [Nat.add_sub_cancel, exponentUnit_eq]
      omega
  · next enough => exact ⟨below, Or.inr (by omega)⟩

theorem isKept_mul_right {k : Nat} (positive : 0 < k) (num den place : Nat) :
    IsKept (num * k) (den * k) place ↔ IsKept num den place := by
  have same : num * k * unit / (den * k * 2 ^ place) = num * unit / (den * 2 ^ place) := by
    rw [Nat.mul_right_comm, Nat.mul_right_comm den, Nat.mul_div_mul_right _ _ positive]
  constructor <;> intro kept
  · exact ⟨same ▸ kept.below, same ▸ kept.least⟩
  · exact ⟨by rw [same]; exact kept.below, by rw [same]; exact kept.least⟩

theorem keptPosition_mul_right {k num den : Nat} (positive : 0 < k) (numPos : 0 < num)
    (denPos : 0 < den) : keptPosition (num * k) (den * k) = keptPosition num den :=
  have kept := isKept_keptPosition (Nat.mul_pos numPos positive) (Nat.mul_pos denPos positive)
  ((isKept_mul_right positive ..).mp kept).unique denPos (isKept_keptPosition numPos denPos)

/-! ### Magnitudes of quotients -/

/-- The magnitude bits of the number nearest to `num / den`, before they are cut at the infinite
ones. -/
def ratioMagnitude (num den : Nat) : Nat :=
  if num = 0 ∨ den = 0 then 0
  else keptPosition num den * exponentUnit
    + roundDiv (num * unit) (den * 2 ^ keptPosition num den)

theorem ofRatio_eq_ofMagnitude (negative : Bool) (num den : Nat) :
    ofRatio negative num den = ofMagnitude negative (ratioMagnitude num den) := by
  rw [ofRatio, ratioMagnitude]
  split <;> rfl

theorem ratioMagnitude_mul_right {k : Nat} (positive : 0 < k) (num den : Nat) :
    ratioMagnitude (num * k) (den * k) = ratioMagnitude num den := by
  by_cases none : num = 0 ∨ den = 0
  · rcases none with rfl | rfl <;> simp [ratioMagnitude]
  have numPos : 0 < num := by omega
  have denPos : 0 < den := by omega
  have some : ¬(num * k = 0 ∨ den * k = 0) := by
    have := Nat.mul_pos numPos positive
    have := Nat.mul_pos denPos positive
    omega
  rw [ratioMagnitude, ratioMagnitude, if_neg some, if_neg none,
    keptPosition_mul_right positive numPos denPos, Nat.mul_right_comm num, Nat.mul_right_comm den,
    roundDiv_mul_right positive]

/-- Equal quotients have equal magnitudes. -/
theorem ratioMagnitude_congr {num den num' den' : Nat} (denPos : 0 < den) (denPos' : 0 < den')
    (same : num * den' = num' * den) : ratioMagnitude num den = ratioMagnitude num' den' := by
  rw [← ratioMagnitude_mul_right denPos' num den, same, Nat.mul_comm den,
    ratioMagnitude_mul_right denPos]

theorem ratioMagnitude_of_isKept {num den place : Nat} (numPos : 0 < num) (denPos : 0 < den)
    (kept : IsKept num den place) :
    ratioMagnitude num den = place * exponentUnit + roundDiv (num * unit) (den * 2 ^ place) := by
  rw [ratioMagnitude, if_neg (by omega), (isKept_keptPosition numPos denPos).unique denPos kept]

/-- A quotient above the largest number is infinite. -/
theorem infiniteBits_le_ratioMagnitude {num den : Nat} (denPos : 0 < den)
    {bits : Nat} (many : 1024 ≤ bits) (large : den * 2 ^ bits ≤ num) :
    infiniteBits ≤ ratioMagnitude num den := by
  have numPos : 0 < num := (Nat.mul_pos denPos (Nat.two_pow_pos _)).trans_le large
  obtain ⟨places, isPlaces, isUnit⟩ := exists_unit_eq
  have kept := isKept_keptPosition numPos denPos
  rw [ratioMagnitude_of_isKept numPos denPos kept]
  generalize keptPosition num den = place at kept ⊢
  have high : 2046 ≤ place := by
    have few : num * unit < 2 * exponentUnit * (den * 2 ^ place) :=
      (Nat.div_lt_iff_lt_mul (Nat.mul_pos denPos (Nat.two_pow_pos _))).mp kept.below
    have powers : den * 2 ^ (bits + places) < den * 2 ^ (53 + place) :=
      calc den * 2 ^ (bits + places) = den * 2 ^ bits * unit := by rw [isUnit, pow_add, Nat.mul_assoc]
        _ ≤ num * unit := Nat.mul_le_mul_right _ large
        _ < 2 * exponentUnit * (den * 2 ^ place) := few
        _ = den * 2 ^ (53 + place) := by rw [exponentUnit_eq, pow_add 2 53]; ring
    have := (Nat.pow_lt_pow_iff_right (by decide : 1 < 2)).mp (Nat.lt_of_mul_lt_mul_left powers)
    omega
  have top : exponentUnit ≤ roundDiv (num * unit) (den * 2 ^ place) := by
    have := kept.least.resolve_left (by omega)
    rcases roundDiv_eq_or (num * unit) (den * 2 ^ place) with down | up <;> omega
  have places : 2046 * exponentUnit ≤ place * exponentUnit := Nat.mul_le_mul_right _ high
  have : infiniteBits = 2046 * exponentUnit + exponentUnit := rfl
  omega

/-- A quotient below half the smallest positive number is zero. -/
theorem ratioMagnitude_eq_zero {num den : Nat} (small : 2 * (num * unit) < den) :
    ratioMagnitude num den = 0 := by
  rcases Nat.eq_zero_or_pos num with rfl | numPos
  · simp [ratioMagnitude]
  have kept : IsKept num den 0 := by
    refine ⟨?_, Or.inl rfl⟩
    rw [Nat.div_eq_of_lt (by omega)]
    decide
  rw [ratioMagnitude_of_isKept numPos (by omega) kept, roundDiv_eq_zero (by omega)]
  omega

/-! ### Numbers and their magnitudes -/

theorem ofMagnitude_congr {m n : Nat} (same : min m infiniteBits = min n infiniteBits)
    (negative : Bool) : ofMagnitude negative m = ofMagnitude negative n := by
  rw [ofMagnitude, ofMagnitude, same]

theorem min_eq_of_ofMagnitude_eq {m n : Nat} (same : ofMagnitude false m = ofMagnitude false n) :
    min m infiniteBits = min n infiniteBits := by
  have bits := congrArg (fun x => x.bits.toNat) same
  have small : infiniteBits < 2 ^ 64 := by decide
  simp only [ofMagnitude, Bool.false_eq_true, if_false, UInt64.toNat_ofNat'] at bits
  rwa [Nat.mod_eq_of_lt (by omega), Nat.mod_eq_of_lt (by omega)] at bits

theorem isNegative_iff (x : Binary64) : x.isNegative = true ↔ signUnit ≤ x.bits.toNat := by
  rw [isNegative, decide_eq_true_eq, UInt64.le_iff_toNat_le]
  rfl

/-- A finite number is its sign and its magnitude. -/
theorem ofMagnitude_magnitudeBits {x : Binary64} (finite : x.isFinite = true) :
    ofMagnitude x.isNegative x.magnitudeBits = x := by
  rw [isFinite, decide_eq_true_eq] at finite
  have value : (if x.isNegative then signUnit + x.magnitudeBits else x.magnitudeBits)
      = x.bits.toNat := by
    have range := x.bits.toNat_lt
    have negative := isNegative_iff x
    rw [magnitudeBits, signUnit] at *
    split
    · next isNegative => have := negative.mp isNegative; omega
    · next isPositive => have := mt negative.mpr isPositive; omega
  rw [ofMagnitude, Nat.min_eq_left finite.le, value, UInt64.ofNat_toNat]

theorem significand_lt (x : Binary64) : x.significand < 2 * exponentUnit := by
  rw [significand, exponentBits, exponentUnit]
  split <;> omega

theorem position_eq_zero_or (x : Binary64) : x.position = 0 ∨ exponentUnit ≤ x.significand := by
  rw [position, significand]
  split <;> omega

/-- The exponent bits are the place of the significand with its leading one added. -/
theorem position_add_significand (x : Binary64) :
    x.position * exponentUnit + x.significand = x.magnitudeBits := by
  rw [position, significand, exponentBits, exponentUnit]
  split <;> omega

theorem scaled_pos_iff (x : Binary64) : 0 < x.scaled ↔ 0 < x.magnitudeBits := by
  rw [scaled, Nat.pow_eq, Nat.mul_pos_iff_of_pos_right (Nat.two_pow_pos _), significand, exponentBits]
  split
  · rfl
  · next normal =>
    have : exponentUnit ≤ x.magnitudeBits := by
      by_contra below
      exact normal (Nat.div_eq_of_lt (by omega))
    rw [exponentUnit] at *
    omega

/-- The value of a finite number rounds to the number. -/
theorem ratioMagnitude_scaled (x : Binary64) : ratioMagnitude x.scaled unit = x.magnitudeBits := by
  rcases Nat.eq_zero_or_pos x.scaled with none | positive
  · have : x.magnitudeBits = 0 := by have := scaled_pos_iff x; omega
    rw [none, this]
    rfl
  have value : x.scaled * unit = x.significand * (unit * 2 ^ x.position) := by
    rw [scaled, Nat.pow_eq]
    ring
  have denPos : 0 < unit * 2 ^ x.position := Nat.mul_pos unit_pos (Nat.two_pow_pos _)
  have kept : IsKept x.scaled unit x.position := by
    constructor
    · rw [value, Nat.mul_div_cancel _ denPos]
      exact significand_lt x
    · rw [value, Nat.mul_div_cancel _ denPos]
      exact position_eq_zero_or x
  rw [ratioMagnitude_of_isKept positive unit_pos kept, value, roundDiv_mul_cancel denPos]
  exact position_add_significand x

/-! ### Decimals -/

/-- The number nearest to a decimal is the number nearest to its value, also where the power of ten is
not computed. -/
theorem ofDecimal_eq_ofRatio (negative : Bool) (digits : Nat) (exponent : Int) :
    ofDecimal negative digits exponent
      = ofRatio negative (digits * 10 ^ exponent.toNat) (10 ^ (-exponent).toNat) := by
  rw [ofDecimal]
  split
  · next none => rw [none, Nat.zero_mul, ofRatio, if_pos (Or.inl rfl)]
  next some =>
  split
  · next large =>
    rw [ofRatio_eq_ofMagnitude]
    refine ofMagnitude_congr ?_ negative
    obtain ⟨bits, isBits⟩ : ∃ bits, bits = exponent.toNat := ⟨_, rfl⟩
    have above : infiniteBits ≤ ratioMagnitude (digits * 10 ^ exponent.toNat) (10 ^ (-exponent).toNat) := by
      refine infiniteBits_le_ratioMagnitude (Nat.pow_pos (by decide)) (show 1024 ≤ 3 * bits by omega) ?_
      rw [show (-exponent).toNat = 0 by omega, pow_zero, Nat.one_mul, pow_mul, ← isBits]
      calc 8 ^ bits ≤ 10 ^ bits := Nat.pow_le_pow_left (by decide) bits
        _ ≤ digits * 10 ^ bits := Nat.le_mul_of_pos_left _ (by omega)
    omega
  split
  · next small =>
    rw [ofRatio_eq_ofMagnitude, ratioMagnitude_eq_zero]
    obtain ⟨places, isPlaces, isUnit⟩ := exists_unit_eq
    have few := @Nat.lt_log2_self digits
    generalize isCount : (-exponent).toNat = count
    rw [show exponent.toNat = 0 by omega, pow_zero, Nat.mul_one, isUnit]
    generalize digits.log2 = bits at *
    calc 2 * (digits * 2 ^ places) < 2 * (2 ^ (bits + 1) * 2 ^ places) := by
          have := Nat.mul_lt_mul_of_pos_right few (Nat.two_pow_pos places)
          omega
      _ = 2 ^ (1 + (bits + 1 + places)) := by rw [pow_add 2 1, pow_add 2 (bits + 1), pow_one]
      _ ≤ 2 ^ count := Nat.pow_le_pow_right (by decide) (by omega)
      _ ≤ 10 ^ count := Nat.pow_le_pow_left (by decide) count
  split
  · next whole =>
    rw [show (-exponent).toNat = 0 by omega, Nat.pow_zero, Nat.pow_eq]
  · next fraction =>
    rw [show exponent.toNat = 0 by omega, Nat.pow_zero, Nat.mul_one, Nat.pow_eq]

/-- Zeros at the end of the digits count as places. -/
theorem ofDecimal_mul_pow (negative : Bool) (digits zeros : Nat) (exponent : Int) :
    ofDecimal negative (digits * 10 ^ zeros) exponent = ofDecimal negative digits (exponent + zeros) := by
  rw [ofDecimal_eq_ofRatio, ofDecimal_eq_ofRatio, ofRatio_eq_ofMagnitude, ofRatio_eq_ofMagnitude]
  congr 1
  refine ratioMagnitude_congr (Nat.pow_pos (by decide)) (Nat.pow_pos (by decide)) ?_
  have places : zeros + exponent.toNat + (-(exponent + zeros)).toNat
      = (exponent + zeros).toNat + (-exponent).toNat := by omega
  calc digits * 10 ^ zeros * 10 ^ exponent.toNat * 10 ^ (-(exponent + zeros)).toNat
      = digits * 10 ^ (zeros + exponent.toNat + (-(exponent + zeros)).toNat) := by
        rw [pow_add, pow_add]
        ring
    _ = digits * 10 ^ (exponent + zeros).toNat * 10 ^ (-exponent).toNat := by
        rw [places, pow_add]
        ring

/-- The sign is put on afterwards. -/
theorem ofDecimal_of_unsigned {digits : Nat} {exponent : Int} {magnitude : Nat}
    (unsigned : ofDecimal false digits exponent = ofMagnitude false magnitude) (negative : Bool) :
    ofDecimal negative digits exponent = ofMagnitude negative magnitude := by
  rw [ofDecimal_eq_ofRatio, ofRatio_eq_ofMagnitude] at unsigned ⊢
  exact ofMagnitude_congr (min_eq_of_ofMagnitude_eq unsigned) negative

end Binary64

end CodeGauge.Number
