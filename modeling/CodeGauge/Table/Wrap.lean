/-
Module: CodeGauge.Table.Wrap
Purpose: Breaking a paragraph into lines of even length.
Main exports:
  Plan, plans, wrap
-/
import CodeGauge.Table.Width

namespace CodeGauge.Table

open CodeGauge.Text

/-!
A paragraph is broken at blanks so that the squares of the room left over on all lines but the last one
add up to as little as can be.  A plan for some words says what breaking them costs and how many of
them the first line takes.  Plans are made from the last word to the first, since the words behind the
first line are again words to be broken.
-/

/-- The cheapest way to break some words. -/
structure Plan where
  cost : Int
  count : Nat
deriving DecidableEq, Repr, Inhabited

/-- What a line beyond the limit costs on top. -/
def overflowCost : Int := 100000

/-- The cells that words take on one line. -/
def lineWidth (widths : List Nat) : Nat := widths.foldl (· + ·) 0 + (widths.length - 1)

/-- What a line costs that is not the last one. -/
def lineCost (limit width : Nat) : Int :=
  let room : Int := (limit : Int) - width
  room * room + if limit < width then overflowCost else 0

/-- The cheaper one of the best plan so far and the plan to take `count` words, which are `width` cells
wide, on the first line, and likewise for more words.  The lists hold the width of every word behind
these and the plan for the words from it on. -/
def cheapest (limit : Nat) (best : Plan) (count width : Nat) : List Nat → List Plan → Plan
  | next :: widths, behind :: others =>
      let cost := lineCost limit width + behind.cost
      let better := if cost < best.cost then ⟨cost, count⟩ else best
      cheapest limit better (count + 1) (width + 1 + next) widths others
  | _, _ => best

/-- The plan for a word and the words behind it, given the plans for these. -/
def plan (limit width : Nat) (widths : List Nat) (behind : List Plan) : Plan :=
  if lineWidth (width :: widths) ≤ limit then ⟨0, widths.length + 1⟩
  else cheapest limit ⟨0x7FFFFFFF, 1⟩ 1 width widths behind

/-- The plans for all words, for all but the first one, and so on. -/
def plans (limit : Nat) : List Nat → List Plan
  | [] => []
  | width :: widths =>
      let behind := plans limit widths
      plan limit width widths behind :: behind

/-- Cut words into lines as the plans for the words from each of them on say. -/
def cut : List Plan → List (List Char) → List (List (List Char))
  | plan :: plans, word :: words =>
      (word :: words.take (plan.count - 1))
        :: cut (plans.drop (plan.count - 1)) (words.drop (plan.count - 1))
  | _, _ => []
termination_by _ words => words.length
decreasing_by simp only [List.length_drop, List.length_cons]; omega

/-- Break a paragraph into lines of at most `limit` cells, or as many as the longest word takes. -/
def wrap (limit : Nat) (paragraph : List Char) : List (List Char) :=
  let words := split ' ' paragraph
  let longest := (words.map textWidth).foldl max limit
  (cut (plans longest (words.map textWidth)) words).map (join [' '])

end CodeGauge.Table
