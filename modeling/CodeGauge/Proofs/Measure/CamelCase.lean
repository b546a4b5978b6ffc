/-
Module: CodeGauge.Proofs.Measure.CamelCase
Purpose: The one pass that decides the naming rule accepts the language of a regular expression, and this
  language is told by the letters of a name and their neighbours.
Main exports:
  camelCasePattern, LowerCamel, continuation_eq_passed, isCamelCase_iff_pattern, continuesCamelCase_iff,
  isCamelCase_iff_lowerCamel, lowerCamel_decode_iff, isCamelCase_language
-/
import CodeGauge.Measure.CamelCase
import CodeGauge.Proofs.Text.CharacterClass
import CodeGauge.Proofs.Text.Utf8
import Mathlib.Computability.RegularExpressions
import Mathlib.Data.List.Chain

/-- Sets of words over characters, under a name apart from the `Language` of a source file. -/
abbrev Computability.Words : Type := Language Char

namespace CodeGauge.Measure

open CodeGauge.Text Computability

/-!
The rule is written as the pattern `^[a-z][a-z0-9]*([A-Z][a-z0-9]+)*[A-Za-z0-9]?$`, which can read most
names in several ways: a letter at the end belongs to the last group or to the optional tail.  The pass
keeps one bit instead.  Both are solutions of one equation between languages, which says what may follow a
first character; such an equation has no second solution.
-/

/-! ### The pattern -/

/-- The characters from the first to the last one. -/
def charRange (first last : Char) : List Char :=
  (List.range' first.toNat (last.toNat + 1 - first.toNat)).map Char.ofNat

/-- One of some characters. -/
def oneOf (chars : List Char) : RegularExpression Char := (chars.map .char).sum

/-- The class `[a-z0-9]`. -/
def smallOrDigit : RegularExpression Char := oneOf (charRange 'a' 'z' ++ charRange '0' '9')

/-- The class `[A-Z]`. -/
def capital : RegularExpression Char := oneOf (charRange 'A' 'Z')

/-- The class `[A-Za-z0-9]`. -/
def letterOrDigit : RegularExpression Char :=
  oneOf (charRange 'A' 'Z' ++ charRange 'a' 'z' ++ charRange '0' '9')

/-- What follows the first character of a name: `[a-z0-9]*([A-Z][a-z0-9]+)*[A-Za-z0-9]?`. -/
def continuation : RegularExpression Char :=
  smallOrDigit.star * ((capital * (smallOrDigit * smallOrDigit.star)).star * (1 + letterOrDigit))

/-- The pattern `[a-z][a-z0-9]*([A-Z][a-z0-9]+)*[A-Za-z0-9]?`, which a whole name has to match. -/
def camelCasePattern : RegularExpression Char := oneOf (charRange 'a' 'z') * continuation

/-! ### Characters -/

theorem mem_charRange {first last c : Char} (below : last.toNat < 0xD800) :
    c ∈ charRange first last ↔ first.toNat ≤ c.toNat ∧ c.toNat ≤ last.toNat := by
  simp only [charRange, List.mem_map, List.mem_range'_1]
  constructor
  · rintro ⟨n, range, rfl⟩
    rw [Utf8.toNat_ofNat_char (Or.inl (by omega))]
    omega
  · intro range
    exact ⟨c.toNat, by omega, Char.ofNat_toNat c⟩

theorem isSmall_iff {c : Char} : isSmall c = true ↔ 97 ≤ c.toNat ∧ c.toNat ≤ 122 := by
  simp [isSmall, Char.le_def, UInt32.le_iff_toNat_le]

theorem isCapital_iff {c : Char} : isCapital c = true ↔ 65 ≤ c.toNat ∧ c.toNat ≤ 90 := by
  simp [isCapital, Char.le_def, UInt32.le_iff_toNat_le]

theorem mem_small_iff {c : Char} : c ∈ charRange 'a' 'z' ↔ isSmall c = true := by
  rw [mem_charRange (by decide), isSmall_iff]
  rfl

theorem mem_capital_iff {c : Char} : c ∈ charRange 'A' 'Z' ↔ isCapital c = true := by
  rw [mem_charRange (by decide), isCapital_iff]
  rfl

theorem mem_digit_iff {c : Char} : c ∈ charRange '0' '9' ↔ isAsciiDigit c = true := by
  rw [mem_charRange (by decide), isAsciiDigit_iff]
  rfl

/-! ### Languages -/

theorem mem_oneOf_iff {chars word : List Char} :
    word ∈ (oneOf chars).matches' ↔ ∃ c ∈ chars, word = [c] := by
  induction chars with
  | nil => simp [oneOf, Language.notMem_zero]
  | cons c chars ih =>
      have split : (oneOf (c :: chars)).matches' = {[c]} + (oneOf chars).matches' := by
        simp [oneOf]
      have single : word ∈ ({[c]} : Words) ↔ word = [c] := Iff.rfl
      rw [split, Language.mem_add, ih, single]
      simp

/-- A word begins with one of some characters. -/
theorem cons_mem_oneOf_mul_iff {chars word : List Char} {c : Char} {rest : Words} :
    c :: word ∈ (oneOf chars).matches' * rest ↔ c ∈ chars ∧ word ∈ rest := by
  rw [Language.mem_mul]
  simp only [mem_oneOf_iff]
  constructor
  · rintro ⟨_, ⟨d, member, rfl⟩, word, inRest, wordEq⟩
    obtain ⟨rfl, rfl⟩ := List.cons.inj wordEq
    exact ⟨member, inRest⟩
  · rintro ⟨member, inRest⟩
    exact ⟨[c], ⟨c, member, rfl⟩, word, inRest, rfl⟩

theorem nil_notMem_oneOf_mul {chars : List Char} {rest : Words} :
    [] ∉ (oneOf chars).matches' * rest := by
  rw [Language.mem_mul]
  simp only [mem_oneOf_iff]
  rintro ⟨_, ⟨c, -, rfl⟩, word, -, wordEq⟩
  cases wordEq

/-! ### The equation -/

/-- The words that a name may go on with, behind a capital or behind anything else. -/
def passed (afterCapital : Bool) : Words := {word | continuesCamelCase afterCapital word = true}

theorem mem_passed_iff {afterCapital : Bool} {word : List Char} :
    word ∈ passed afterCapital ↔ continuesCamelCase afterCapital word = true := Iff.rfl

/-- What a name may consist of behind its first character before it may go on in the same way: a small
letter or digit, or one with a capital in front. -/
def stride : Words :=
  smallOrDigit.matches' + capital.matches' * smallOrDigit.matches'

theorem nil_notMem_stride : [] ∉ stride := by
  have noSmall : [] ∉ smallOrDigit.matches' := by simp [smallOrDigit, mem_oneOf_iff]
  rw [stride, Language.mem_add]
  exact not_or.2 ⟨noSmall, nil_notMem_oneOf_mul⟩

/-- The pattern solves the equation. -/
theorem continuation_eq :
    continuation.matches' = stride * continuation.matches' + (1 + letterOrDigit.matches') := by
  -- the two stars of the pattern are unrolled once each, the outer one first
  let small := smallOrDigit.matches'
  let group := capital.matches' * (small * small∗)
  let tail := group∗ * (1 + letterOrDigit.matches')
  have whole : continuation.matches' = small∗ * tail := rfl
  have front : small∗ * tail = tail + small * (small∗ * tail) := by
    calc small∗ * tail = (1 + small * small∗) * tail := by
          rw [Language.one_add_self_mul_kstar_eq_kstar]
      _ = tail + small * (small∗ * tail) := by rw [add_mul, one_mul, mul_assoc]
  have behind : tail = (1 + letterOrDigit.matches') + capital.matches' * (small * (small∗ * tail)) := by
    calc tail = (1 + group * group∗) * (1 + letterOrDigit.matches') := by
          rw [Language.one_add_self_mul_kstar_eq_kstar]
      _ = (1 + letterOrDigit.matches') + group * tail := by rw [add_mul, one_mul, mul_assoc]
      _ = (1 + letterOrDigit.matches') + capital.matches' * (small * (small∗ * tail)) := by
          simp only [group, mul_assoc]
  calc continuation.matches' = tail + small * (small∗ * tail) := whole.trans front
    _ = (1 + letterOrDigit.matches') + capital.matches' * (small * (small∗ * tail)) +
          small * (small∗ * tail) := congrArg (fun l => l + small * (small∗ * tail)) behind
    _ = (small + capital.matches' * small) * (small∗ * tail) + (1 + letterOrDigit.matches') := by
          rw [add_mul, mul_assoc]
          ac_rfl

theorem not_isCapital {c : Char} (small : (isSmall c || isAsciiDigit c) = true) :
    isCapital c = false := by
  rw [Bool.eq_false_iff, ne_eq, isCapital_iff]
  rw [Bool.or_eq_true, isSmall_iff, isAsciiDigit_iff] at small
  omega

theorem cons_mem_smallOrDigit_mul_iff {c : Char} {word : List Char} {rest : Words} :
    c :: word ∈ smallOrDigit.matches' * rest ↔
      (isSmall c || isAsciiDigit c) = true ∧ word ∈ rest := by
  rw [smallOrDigit, cons_mem_oneOf_mul_iff, List.mem_append, mem_small_iff, mem_digit_iff,
    Bool.or_eq_true]

/-- Behind a capital a name ends, or it goes on with a small letter or digit. -/
theorem mem_passed_true_iff {word : List Char} :
    word ∈ passed true ↔ word = [] ∨ word ∈ smallOrDigit.matches' * passed false := by
  cases word with
  | nil => simp [mem_passed_iff, continuesCamelCase]
  | cons c rest =>
      rw [mem_passed_iff, continuesCamelCase, cons_mem_smallOrDigit_mul_iff, mem_passed_iff]
      by_cases small : (isSmall c || isAsciiDigit c) = true
      · simp [small]
      · simp [small]

/-- What the pass accepts solves it as well. -/
theorem passed_eq : passed false = stride * passed false + (1 + letterOrDigit.matches') := by
  ext word
  rw [stride, add_mul, mul_assoc, Language.mem_add, Language.mem_add, Language.mem_add,
    Language.mem_one]
  cases word with
  | nil => simp [mem_passed_iff, continuesCamelCase]
  | cons c rest =>
      have ends : c :: rest ∈ letterOrDigit.matches' ↔
          (isCapital c = true ∨ (isSmall c || isAsciiDigit c) = true) ∧ rest = [] := by
        rw [letterOrDigit, mem_oneOf_iff, Bool.or_eq_true]
        simp only [List.mem_append, mem_small_iff, mem_capital_iff, mem_digit_iff, List.cons.injEq]
        constructor
        · rintro ⟨d, member, rfl, rfl⟩
          exact ⟨or_assoc.1 member, rfl⟩
        · rintro ⟨member, rfl⟩
          exact ⟨c, or_assoc.2 member, rfl, rfl⟩
      have empty : [] ∈ passed false := rfl
      rw [cons_mem_smallOrDigit_mul_iff, capital, cons_mem_oneOf_mul_iff, mem_capital_iff, ends,
        mem_passed_iff, continuesCamelCase]
      by_cases small : (isSmall c || isAsciiDigit c) = true
      · rw [if_pos small]
        simp only [small, not_isCapital small, true_and, Bool.false_eq_true, false_and, false_or,
          reduceCtorEq]
        constructor
        · exact fun goesOn => Or.inl (Or.inl goesOn)
        · rintro ((goesOn | contrary) | rfl)
          · exact goesOn
          · exact contrary.elim
          · exact empty
      · rw [if_neg small]
        by_cases isCap : isCapital c = true
        · have behind := @mem_passed_true_iff rest
          rw [mem_passed_iff] at behind
          simp [isCap, small, behind, or_comm]
        · simp [isCap, small]

/-- The pass accepts what the pattern matches behind a first character. -/
theorem continuation_eq_passed : continuation.matches' = passed false := by
  have pattern := (Language.self_eq_mul_add_iff nil_notMem_stride).1 continuation_eq
  have pass := (Language.self_eq_mul_add_iff nil_notMem_stride).1 passed_eq
  exact pattern.trans pass.symm

theorem isCamelCase_iff_pattern (name : String) :
    isCamelCase name = true ↔ name.toList ∈ camelCasePattern.matches' := by
  rw [camelCasePattern, RegularExpression.matches'_mul, continuation_eq_passed, isCamelCase]
  cases name.toList with
  | nil => simp [nil_notMem_oneOf_mul]
  | cons c rest => simp [cons_mem_oneOf_mul_iff, mem_small_iff, mem_passed_iff]

/-! ### The letters of a name -/

/-- A capital letter of ASCII. -/
def IsUpper (c : Char) : Prop := 'A' ≤ c ∧ c ≤ 'Z'

/-- A small letter of ASCII. -/
def IsLower (c : Char) : Prop := 'a' ≤ c ∧ c ≤ 'z'

/-- A name of ASCII letters and digits that begins with a small letter and has no two capitals in a
row. -/
structure LowerCamel (name : List Char) : Prop where
  nonempty : name ≠ []
  plain : ∀ c ∈ name, IsLower c ∨ IsUpper c ∨ ('0' ≤ c ∧ c ≤ '9')
  first : ∀ c ∈ name.head?, IsLower c
  apart : name.IsChain fun c d => ¬ (IsUpper c ∧ IsUpper d)

theorem isCapital_iff_isUpper {c : Char} : isCapital c = true ↔ IsUpper c := by
  simp [isCapital, IsUpper]

theorem isSmall_iff_isLower {c : Char} : isSmall c = true ↔ IsLower c := by
  simp [isSmall, IsLower]

theorem isAsciiDigit_iff_le {c : Char} : isAsciiDigit c = true ↔ '0' ≤ c ∧ c ≤ '9' := by
  simp [isAsciiDigit]

theorem not_isUpper {c : Char} (small : (isSmall c || isAsciiDigit c) = true) : ¬ IsUpper c := by
  rw [← isCapital_iff_isUpper, not_isCapital small]
  exact Bool.false_ne_true

/-- The pass lets characters follow that are letters and digits, with no two capitals in a row; behind a
capital the first of them is none. -/
theorem continuesCamelCase_iff {afterCapital : Bool} {word : List Char} :
    continuesCamelCase afterCapital word = true ↔
      (∀ c ∈ word, IsLower c ∨ IsUpper c ∨ ('0' ≤ c ∧ c ≤ '9')) ∧
        word.IsChain (fun c d => ¬ (IsUpper c ∧ IsUpper d)) ∧
          (afterCapital = true → ∀ c ∈ word.head?, ¬ IsUpper c) := by
  induction word generalizing afterCapital with
  | nil => simp [continuesCamelCase]
  | cons c word ih =>
      rw [continuesCamelCase, List.forall_mem_cons, List.isChain_cons]
      by_cases small : (isSmall c || isAsciiDigit c) = true
      · have noCapital := not_isUpper small
        rw [if_pos small, ih]
        rw [Bool.or_eq_true, isSmall_iff_isLower, isAsciiDigit_iff_le] at small
        simp [small, noCapital]
      · rw [if_neg small]
        rw [Bool.or_eq_true, isSmall_iff_isLower, isAsciiDigit_iff_le, not_or] at small
        by_cases upper : IsUpper c
        · rw [if_pos (isCapital_iff_isUpper.2 upper), Bool.and_eq_true, ih]
          cases afterCapital with
          | true => simp [upper]
          | false => simp [upper, and_comm]
        · rw [if_neg (mt isCapital_iff_isUpper.1 upper)]
          simp [small, upper]

theorem isCamelCase_iff_lowerCamel {name : String} :
    isCamelCase name = true ↔ LowerCamel name.toList := by
  rw [isCamelCase]
  cases name.toList with
  | nil =>
      constructor
      · intro contrary
        cases contrary
      · intro camel
        exact absurd rfl camel.nonempty
  | cons c rest =>
      rw [Bool.and_eq_true, continuesCamelCase_iff]
      constructor
      · rintro ⟨small, plain, apart, -⟩
        have noCapital : ¬ IsUpper c := not_isUpper (by rw [small, Bool.true_or])
        have lower := isSmall_iff_isLower.1 small
        refine ⟨List.cons_ne_nil c rest, ?_, ?_, ?_⟩
        · exact List.forall_mem_cons.2 ⟨Or.inl lower, plain⟩
        · rintro d ⟨⟩
          exact lower
        · exact List.isChain_cons.2 ⟨fun d _ both => noCapital both.1, apart⟩
      · intro camel
        have plain := (List.forall_mem_cons.1 camel.plain).2
        have apart := (List.isChain_cons.1 camel.apart).2
        exact ⟨isSmall_iff_isLower.2 (camel.first c rfl), plain, apart, fun contrary => by cases contrary⟩

/-! ### Names of any bytes -/

theorem LowerCamel.toNat_lt {name : List Char} (camel : LowerCamel name) {c : Char} (member : c ∈ name) :
    c.toNat < 0x80 := by
  have plain := camel.plain c member
  simp only [IsLower, IsUpper, Char.le_def, UInt32.le_iff_toNat_le] at plain
  change 97 ≤ c.toNat ∧ c.toNat ≤ 122 ∨ (65 ≤ c.toNat ∧ c.toNat ≤ 90) ∨ 48 ≤ c.toNat ∧ c.toNat ≤ 57
    at plain
  omega

/-- A name that is read from bytes is in lower camel case if the bytes, each taken for the character of
its number, are. -/
theorem lowerCamel_decode_iff {bytes : Bytes} :
    LowerCamel (Utf8.decode bytes) ↔ LowerCamel (bytes.map fun b => Char.ofNat b.toNat) := by
  constructor
  · intro camel
    have ascii := Utf8.toNat_ascii_of_decode fun c => camel.toNat_lt
    rwa [← Utf8.decode_ascii ascii]
  · intro camel
    have ascii : ∀ b ∈ bytes, b.toNat < 0x80 := by
      intro b member
      have small := camel.toNat_lt (List.mem_map_of_mem member)
      rwa [Utf8.toNat_ofNat_char (Or.inl (Nat.lt_trans b.toNat_lt (by decide)))] at small
    rwa [Utf8.decode_ascii ascii]

/-- The naming rule decides a simple language.  A name passes if and only if it matches the pattern, and
if and only if it is not empty, consists of ASCII letters and digits, begins with a small letter and has no
two capitals in a row; for a name of any bytes the same is said of the bytes. -/
theorem isCamelCase_language :
    (∀ name : String,
      (isCamelCase name = true ↔ name.toList ∈ camelCasePattern.matches') ∧
      (isCamelCase name = true ↔ LowerCamel name.toList)) ∧
    ∀ bytes : Bytes,
      isCamelCase (Utf8.decodeText bytes) = true ↔
        LowerCamel (bytes.map fun b => Char.ofNat b.toNat) := by
  constructor
  · intro name
    exact ⟨isCamelCase_iff_pattern name, isCamelCase_iff_lowerCamel⟩
  · intro bytes
    rw [isCamelCase_iff_lowerCamel, Utf8.decodeText, String.toList_ofList, lowerCamel_decode_iff]

/-- One capital may end a name, two may not. -/
example : isCamelCase "getX" = true ∧ isCamelCase "parseXML" = false := by decide

end CodeGauge.Measure
