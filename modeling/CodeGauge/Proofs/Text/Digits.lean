/-
Module: CodeGauge.Proofs.Text.Digits
Purpose: Runs of decimal digits: where they end, what they are worth, and how those of a number begin.
Main exports:
  EndsDigits, takeWhile_isDigit_append, dropWhile_isDigit_append, foldl_digits_eq, head?_toDigits_ne,
  toList_toString
-/
import Mathlib.Data.List.Basic
import Mathlib.Tactic.IntervalCases

namespace CodeGauge.Text

/-- No digit stands at the front. -/
def EndsDigits (rest : List Char) : Prop := ∀ c, rest.head? = some c → c.isDigit = false

theorem endsDigits_nil : EndsDigits [] := by simp [EndsDigits]

theorem endsDigits_cons {c : Char} {rest : List Char} (other : c.isDigit = false) :
    EndsDigits (c :: rest) := by
  intro d first
  obtain rfl := Option.some.inj first
  exact other

theorem EndsDigits.append {front rest : List Char} (ends : EndsDigits front) (ends' : EndsDigits rest) :
    EndsDigits (front ++ rest) := by
  cases front with
  | nil => exact ends'
  | cons c front => exact endsDigits_cons (ends c rfl)

section Run

variable {run rest : List Char} (digits : ∀ c ∈ run, c.isDigit = true) (ends : EndsDigits rest)

include digits ends

theorem takeWhile_isDigit_append : (run ++ rest).takeWhile Char.isDigit = run := by
  rw [List.takeWhile_append_of_pos digits]
  cases rest with
  | nil => exact List.append_nil run
  | cons c rest => rw [List.takeWhile_cons_of_neg (by simp [ends c rfl]), List.append_nil]

theorem dropWhile_isDigit_append : (run ++ rest).dropWhile Char.isDigit = rest := by
  rw [List.dropWhile_append_of_pos digits]
  cases rest with
  | nil => rfl
  | cons c rest => rw [List.dropWhile_cons_of_neg (by simp [ends c rfl])]

end Run

/-- The value of a run of digits, taken from the left, is the library's. -/
theorem foldl_digits_eq (cs : List Char) :
    cs.foldl (fun n c => n * 10 + (c.toNat - 48)) 0 = Nat.ofDigitChars 10 cs 0 := by
  rw [Nat.ofDigitChars_eq_foldl]
  congr 1
  funext n c
  rw [Nat.mul_comm]
  rfl

theorem isDigit_of_mem_toDigits {n : Nat} {c : Char} (member : c ∈ Nat.toDigits 10 n) :
    c.isDigit = true :=
  Nat.isDigit_of_mem_toDigits (by decide) (by decide) member

/-- The digits of a number other than zero do not begin with a zero. -/
theorem head?_toDigits_ne {n : Nat} (nonzero : n ≠ 0) : (Nat.toDigits 10 n).head? ≠ some '0' := by
  induction n using Nat.strongRecOn with
  | ind n ih =>
    by_cases small : n < 10
    · rw [Nat.toDigits_of_lt_base small]
      have positive : 0 < n := by omega
      interval_cases n <;> decide
    · rw [Nat.toDigits_of_base_le (by decide) (by omega),
        List.head?_append_of_ne_nil _ Nat.toDigits_ne_nil]
      exact ih (n / 10) (by omega) (by omega)

/-- The digits of an integer and its sign. -/
theorem toList_toString (i : Int) :
    (toString i).toList = if i < 0 then '-' :: Nat.toDigits 10 i.natAbs else Nat.toDigits 10 i.natAbs := by
  rw [Int.toString_eq_repr, Int.repr_eq_if]
  by_cases negative : i < 0
  · rw [if_neg (by omega), if_pos negative, show (-i).toNat = i.natAbs by omega]
    simp [Nat.repr_eq_ofList_toDigits]
  · rw [if_pos (by omega), if_neg negative, show i.toNat = i.natAbs by omega]
    simp [Nat.repr_eq_ofList_toDigits]

end CodeGauge.Text
