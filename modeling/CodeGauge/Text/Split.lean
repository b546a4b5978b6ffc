/-
Module: CodeGauge.Text.Split
Purpose: Cutting a list, such as a text, at every occurrence of an item.
Main exports:
  split, join, splitText
-/

namespace CodeGauge.Text

/-!
A list with `n` separators has `n + 1` pieces, some of which may be empty.
-/

/-- The pieces between the occurrences of a separator. -/
def split {α : Type} [DecidableEq α] (separator : α) : List α → List (List α)
  | [] => [[]]
  | c :: rest =>
      if c = separator then [] :: split separator rest
      else
        match split separator rest with
        | [] => [[c]]
        | piece :: pieces => (c :: piece) :: pieces

/-- Put a separator between pieces. -/
def join {α : Type} (separator : List α) : List (List α) → List α
  | [] => []
  | [piece] => piece
  | piece :: next :: pieces => piece ++ separator ++ join separator (next :: pieces)

/-- The pieces of a text between the occurrences of a separator. -/
def splitText (separator : Char) (s : String) : List String :=
  (split separator s.toList).map String.ofList

/-- There is always a piece. -/
theorem split_ne_nil {α : Type} [DecidableEq α] (separator : α) (cs : List α) : split separator cs ≠ [] := by
  cases cs with
  | nil => simp [split]
  | cons c rest =>
    rw [split]
    split
    · simp
    · split <;> simp

end CodeGauge.Text
