/-
Module: CodeGauge.Text.CodeRange
Purpose: Membership of a code point in a sorted table of ranges.
Main exports:
  inRanges
-/

namespace CodeGauge.Text

/-!
Character classes are tables of inclusive ranges of code points in increasing order.  Because the
table is sorted, the walk stops at the first range that begins above the code point.
-/

/-- Whether one of the ranges holds `n`, for a table in increasing order. -/
def inRanges : List (Nat × Nat) → Nat → Bool
  | [], _ => false
  | (first, last) :: rest, n =>
      if n < first then false
      else if n ≤ last then true
      else inRanges rest n

@[simp] theorem inRanges_nil (n : Nat) : inRanges [] n = false := rfl

/-- A code point below the first range is in no range. -/
theorem inRanges_of_lt {first last n : Nat} {rest : List (Nat × Nat)} (h : n < first) :
    inRanges ((first, last) :: rest) n = false := by
  simp [inRanges, h]

/-- What the walk finds lies in a range of the table. -/
theorem exists_range_of_inRanges {table : List (Nat × Nat)} {n : Nat}
    (h : inRanges table n = true) : ∃ r ∈ table, r.1 ≤ n ∧ n ≤ r.2 := by
  induction table with
  | nil => simp at h
  | cons r rest ih =>
    obtain ⟨first, last⟩ := r
    rw [inRanges] at h
    by_cases below : n < first
    · simp [below] at h
    · by_cases inside : n ≤ last
      · exact ⟨(first, last), by simp, by simpa using Nat.le_of_not_lt below, inside⟩
      · obtain ⟨r, hr, hn⟩ := ih (by simpa [below, inside] using h)
        exact ⟨r, List.mem_cons_of_mem _ hr, hn⟩

end CodeGauge.Text
