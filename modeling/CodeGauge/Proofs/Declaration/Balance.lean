/-
Module: CodeGauge.Proofs.Declaration.Balance
Purpose: A bracket is closed by the one in front of which a balanced word of brackets ends, and among
  balanced brackets every bracket is closed.
Main exports:
  Balanced, Descends, brackets, closing?_eq_some_iff_descends, BalancedBetween,
  matching?_eq_some_iff_balanced, exists_matching?_of_balanced, matched_iff_balanced
-/
import CodeGauge.Proofs.Declaration.Candidate

namespace CodeGauge.Declaration

open CodeGauge.Source

/-!
The search for a closing bracket keeps a depth and forgets what it has passed.  Balanced words are told by
a grammar, in which no depth occurs.  Between the two stand the words that lead down from a depth: a word
leads down from the depth zero if it is balanced, and from a greater one if a balanced word and a closing
bracket stand in front of a word that leads down from the depth below.  Such words can be read bracket by
bracket, as the search reads them.
-/

/-! ### Words of brackets -/

/-- The balanced words: the empty one, and a balanced word in brackets in front of a balanced word. -/
inductive Balanced (opening closing : Char) : List Char → Prop where
  | empty : Balanced opening closing []
  | nest {inner rest : List Char} (inside : Balanced opening closing inner)
      (behind : Balanced opening closing rest) :
      Balanced opening closing (opening :: (inner ++ closing :: rest))

/-- The words that close as many brackets as the depth says, each behind a balanced word, and are balanced
from there on. -/
inductive Descends (opening closing : Char) : Nat → List Char → Prop where
  | level {word : List Char} (balanced : Balanced opening closing word) :
      Descends opening closing 0 word
  | down {depth : Nat} {front rest : List Char} (balanced : Balanced opening closing front)
      (descends : Descends opening closing depth rest) :
      Descends opening closing (depth + 1) (front ++ closing :: rest)

section Words

variable {opening closing : Char} {depth : Nat} {word : List Char}

theorem balanced_opening (balanced : Balanced opening closing (opening :: word)) :
    ∃ inner rest, word = inner ++ closing :: rest ∧ Balanced opening closing inner ∧
      Balanced opening closing rest := by
  cases balanced with
  | nest inside behind => exact ⟨_, _, rfl, inside, behind⟩

theorem not_balanced_closing (different : opening ≠ closing) :
    ¬ Balanced opening closing (closing :: word) := by
  intro balanced
  generalize wordEq : closing :: word = whole at balanced
  cases balanced with
  | empty => cases wordEq
  | nest inside behind => exact different (List.cons.inj wordEq).1.symm

theorem descends_zero_iff : Descends opening closing 0 word ↔ Balanced opening closing word := by
  constructor
  · intro descends
    cases descends with
    | level balanced => exact balanced
  · exact Descends.level

theorem descends_nil_iff : Descends opening closing depth [] ↔ depth = 0 := by
  constructor
  · intro descends
    generalize wordEq : [] = whole at descends
    cases descends with
    | level balanced => rfl
    | down balanced descends => simp at wordEq
  · rintro rfl
    exact .level .empty

/-- An opening bracket in front adds to the brackets that are closed behind it. -/
theorem descends_opening_iff (different : opening ≠ closing) :
    Descends opening closing depth (opening :: word) ↔ Descends opening closing (depth + 1) word := by
  constructor
  · intro descends
    generalize wordEq : opening :: word = whole at descends
    cases descends with
    | level balanced =>
        subst wordEq
        obtain ⟨inner, rest, rfl, inside, behind⟩ := balanced_opening balanced
        exact .down inside (.level behind)
    | @down depth front rest balanced descends =>
        cases front with
        | nil => exact absurd (List.cons.inj wordEq).1 different
        | cons first front =>
            rw [List.cons_append] at wordEq
            obtain ⟨rfl, rfl⟩ := List.cons.inj wordEq
            obtain ⟨inner, last, rfl, inside, behind⟩ := balanced_opening balanced
            rw [List.append_assoc, List.cons_append]
            exact .down inside (.down behind descends)
  · intro descends
    cases descends with
    | @down depth front rest balanced descends =>
        cases descends with
        | level behind => exact .level (.nest balanced behind)
        | @down depth front' rest behind descends =>
            have whole : opening :: (front ++ closing :: (front' ++ closing :: rest)) =
                (opening :: (front ++ closing :: front')) ++ closing :: rest := by simp
            rw [whole]
            exact .down (.nest balanced behind) descends

/-- A closing bracket in front is one of those that the word closes. -/
theorem descends_closing_iff (different : opening ≠ closing) :
    Descends opening closing depth (closing :: word) ↔
      ∃ below, depth = below + 1 ∧ Descends opening closing below word := by
  constructor
  · intro descends
    generalize wordEq : closing :: word = whole at descends
    cases descends with
    | level balanced =>
        subst wordEq
        exact absurd balanced (not_balanced_closing different)
    | @down depth front rest balanced descends =>
        cases front with
        | nil =>
            obtain ⟨-, rfl⟩ := List.cons.inj wordEq
            exact ⟨depth, rfl, descends⟩
        | cons first front =>
            obtain ⟨rfl, -⟩ := List.cons.inj wordEq
            exact absurd balanced (not_balanced_closing different)
  · rintro ⟨below, rfl, descends⟩
    exact .down .empty descends

end Words

/-! ### Brackets among tokens -/

/-- The brackets of one shape among tokens. -/
def brackets (opening closing : Char) (tokens : List Token) : List Char :=
  tokens.filterMap fun
    | .symbol char _ => if char = opening ∨ char = closing then some char else none
    | _ => none

section Tokens

variable {opening closing : Char} {depth k : Nat} {token : Token} {tokens : List Token}

@[simp] theorem brackets_nil : brackets opening closing [] = [] := rfl

theorem brackets_cons_opening (opens : token.isSymbol opening = true) :
    brackets opening closing (token :: tokens) = opening :: brackets opening closing tokens := by
  obtain ⟨line, rfl⟩ := isSymbol_iff.1 opens
  simp [brackets]

theorem brackets_cons_closing (closes : token.isSymbol closing = true) :
    brackets opening closing (token :: tokens) = closing :: brackets opening closing tokens := by
  obtain ⟨line, rfl⟩ := isSymbol_iff.1 closes
  simp [brackets]

theorem brackets_cons_other (opens : ¬ token.isSymbol opening = true)
    (closes : ¬ token.isSymbol closing = true) :
    brackets opening closing (token :: tokens) = brackets opening closing tokens := by
  cases token with
  | symbol char line =>
      rw [isSymbol_symbol, beq_iff_eq] at opens closes
      simp [brackets, opens, closes]
  | word | number | invalid => rfl

variable (different : opening ≠ closing)

include different

/-- The search stops at the closing bracket in front of which the brackets lead down from its depth. -/
theorem closing?_eq_some_iff_descends :
    closing? opening closing depth tokens = some k ↔
      (∃ token, tokens[k]? = some token ∧ token.isSymbol closing = true) ∧
        Descends opening closing depth (brackets opening closing (tokens.take k)) := by
  induction tokens generalizing depth k with
  | nil => simp [closing?]
  | cons token tokens ih =>
      unfold closing?
      by_cases opens : token.isSymbol opening = true
      · have noClose := not_isSymbol_of_ne different opens
        rw [if_pos opens, Option.map_eq_some_iff]
        cases k with
        | zero => simp [noClose]
        | succ k =>
            simp [ih, brackets_cons_opening opens, descends_opening_iff different]
      · rw [if_neg opens]
        by_cases closes : token.isSymbol closing = true
        · rw [if_pos closes]
          cases depth with
          | zero =>
              cases k with
              | zero => simp [closes, descends_zero_iff, Balanced.empty]
              | succ k =>
                  simp [brackets_cons_closing closes, descends_closing_iff different]
          | succ depth =>
              cases k with
              | zero => simp [descends_nil_iff]
              | succ k =>
                  simp [ih, brackets_cons_closing closes, descends_closing_iff different]
        · rw [if_neg closes, Option.map_eq_some_iff]
          cases k with
          | zero => simp [closes]
          | succ k => simp [ih, brackets_cons_other opens closes]

/-- The search finds a bracket where the brackets lead down from more than its depth. -/
theorem exists_closing?_of_descends {more : Nat}
    (descends : Descends opening closing (more + depth + 1) (brackets opening closing tokens)) :
    ∃ k, closing? opening closing depth tokens = some k := by
  induction tokens generalizing depth with
  | nil => exact absurd (descends_nil_iff.1 descends) (Nat.succ_ne_zero _)
  | cons token tokens ih =>
      unfold closing?
      by_cases opens : token.isSymbol opening = true
      · rw [brackets_cons_opening opens, descends_opening_iff different] at descends
        obtain ⟨k, found⟩ := @ih (depth + 1) descends
        exact ⟨k + 1, by rw [if_pos opens, found, Option.map_some]⟩
      · rw [if_neg opens]
        by_cases closes : token.isSymbol closing = true
        · rw [brackets_cons_closing closes, descends_closing_iff different] at descends
          obtain ⟨below, belowEq, descends⟩ := descends
          cases depth with
          | zero => exact ⟨0, by rw [if_pos closes]⟩
          | succ depth =>
              obtain rfl : below = more + depth + 1 := by omega
              obtain ⟨k, found⟩ := ih descends
              exact ⟨k + 1, by simp only [if_pos closes, found, Option.map_some]⟩
        · rw [brackets_cons_other opens closes] at descends
          obtain ⟨k, found⟩ := ih descends
          exact ⟨k + 1, by rw [if_neg closes, found, Option.map_some]⟩

/-- From every place on, brackets that lead down do so from some depth. -/
theorem descends_drop (descends : Descends opening closing depth (brackets opening closing tokens))
    (count : Nat) : ∃ left, Descends opening closing left (brackets opening closing (tokens.drop count)) := by
  induction tokens generalizing depth count with
  | nil => exact ⟨depth, by rwa [List.drop_nil]⟩
  | cons token tokens ih =>
      cases count with
      | zero => exact ⟨depth, descends⟩
      | succ count =>
          rw [List.drop_succ_cons]
          by_cases opens : token.isSymbol opening = true
          · rw [brackets_cons_opening opens, descends_opening_iff different] at descends
            exact ih descends count
          · by_cases closes : token.isSymbol closing = true
            · rw [brackets_cons_closing closes, descends_closing_iff different] at descends
              obtain ⟨below, -, descends⟩ := descends
              exact ih descends count
            · rw [brackets_cons_other opens closes] at descends
              exact ih descends count

/-! ### The bracket that closes another one -/

/-- A closing bracket stands at `stop`, behind `start`, and the brackets between the two are balanced. -/
structure BalancedBetween (opening closing : Char) (tokens : List Token) (start stop : Nat) : Prop where
  behind : start < stop
  closed : ∃ line, tokens[stop]? = some (.symbol closing line)
  balanced : Balanced opening closing (brackets opening closing ((tokens.take stop).drop (start + 1)))

/-- The bracket that closes the one at an index is the one up to which brackets are balanced. -/
theorem matching?_eq_some_iff_balanced {start stop : Nat} :
    matching? opening closing tokens start = some stop ↔
      BalancedBetween opening closing tokens start stop := by
  rw [matching?, Option.map_eq_some_iff]
  simp only [closing?_eq_some_iff_descends different, descends_zero_iff]
  constructor
  · rintro ⟨k, ⟨⟨token, tokenEq, closes⟩, balanced⟩, rfl⟩
    obtain ⟨line, rfl⟩ := isSymbol_iff.1 closes
    rw [List.getElem?_drop, Nat.add_comm] at tokenEq
    refine ⟨by omega, ⟨line, tokenEq⟩, ?_⟩
    rwa [List.drop_take, Nat.add_sub_cancel]
  · rintro ⟨behind, ⟨line, closed⟩, balanced⟩
    obtain ⟨k, rfl⟩ := Nat.exists_eq_add_of_le' behind
    rw [List.drop_take, Nat.add_sub_cancel] at balanced
    refine ⟨k, ⟨⟨.symbol closing line, ?_, by simp⟩, balanced⟩, rfl⟩
    rw [List.getElem?_drop, Nat.add_comm]
    exact closed

/-- Among balanced brackets every opening one is closed. -/
theorem exists_matching?_of_balanced {start : Nat}
    (balanced : Balanced opening closing (brackets opening closing tokens))
    (found : tokens[start]? = some token) (opens : token.isSymbol opening = true) :
    ∃ stop, matching? opening closing tokens start = some stop := by
  obtain ⟨left, descends⟩ := descends_drop different (.level balanced) start
  rw [drop_of_getElem? found, brackets_cons_opening opens, descends_opening_iff different] at descends
  obtain ⟨k, closed⟩ := @exists_closing?_of_descends opening closing 0 _ different left descends
  exact ⟨k + (start + 1), by rw [matching?, closed, Option.map_some]⟩

/-- Among balanced brackets no opening one stays open. -/
theorem exists_closes_of_balanced {start : Nat}
    (balanced : Balanced opening closing (brackets opening closing tokens))
    (found : tokens[start]? = some token) (opens : token.isSymbol opening = true) :
    ∃ stop < tokens.length, Closes opening closing tokens start stop := by
  obtain ⟨stop, matched⟩ := exists_matching?_of_balanced different balanced found opens
  have closes := (closes_iff_matching? different found opens).2 matched
  exact ⟨stop, closes.inside, closes⟩

end Tokens

/-! ### Candidates among balanced brackets -/

section Candidates

variable {tokens : List Token} {index : Nat}
variable (parentheses : Balanced '(' ')' (brackets '(' ')' tokens))
variable (braces : Balanced '{' '}' (brackets '{' '}' tokens))

include parentheses braces

/-- Neither the parenthesis nor the brace behind an accepted candidate stays open. -/
theorem not_isUnclosed_of_balanced (member : index ∈ candidates tokens)
    (accepted : Accepted tokens index) : ¬ IsUnclosed tokens index := by
  obtain ⟨-, before, text, line, after, neighbours⟩ := mem_candidates_iff.1 member
  have opened := opened_of_accepted ((accepted_iff neighbours).1 accepted)
  rintro (never | ⟨close, -, -, ⟨brace, braceEq, opens⟩, never⟩)
  · obtain ⟨close, inside, closes⟩ :=
      exists_closes_of_balanced (by decide) parentheses neighbours.after_eq opened
    exact never close inside closes
  · obtain ⟨stop, inside, closes⟩ := exists_closes_of_balanced (by decide) braces braceEq opens
    exact never stop inside closes

/-- Among balanced brackets no candidate is unresolved. -/
theorem unresolved_eq_zero : (statistics tokens).unresolved = 0 := by
  rw [unresolved_eq_card, Finset.card_eq_zero, Finset.filter_eq_empty_iff]
  rintro index member ⟨accepted, unclosed⟩
  exact not_isUnclosed_of_balanced parentheses braces member accepted unclosed

/-- An accepted candidate declares a function or is bodiless. -/
theorem outcomeAt?_of_balanced (member : index ∈ candidates tokens) (accepted : Accepted tokens index) :
    (∃ d, outcomeAt? tokens index = some (.declared d)) ∨ outcomeAt? tokens index = some .bodiless := by
  have first := (Finset.mem_Icc.1 (Finset.mem_filter.1 member).1).1
  obtain ⟨outcome, judged⟩ := Option.isSome_iff_exists.1 ((isSome_outcomeAt?_iff first).2 member)
  cases outcome with
  | declared d => exact Or.inl ⟨d, judged⟩
  | bodiless => exact Or.inr judged
  | unresolved =>
      have unclosed := ((outcomeAt?_eq_unresolved_iff first).1 judged).2.2
      exact absurd unclosed (not_isUnclosed_of_balanced parentheses braces member accepted)
  | rejected rule =>
      have charged := ((outcomeAt?_eq_rejected_iff first).1 judged).2
      exact absurd charged.1 (accepted rule rule.mem_all)

end Candidates

/-- A function of the name at an index is found exactly where the candidate there declares one. -/
theorem exists_mem_extract_iff {tokens : List Token} {index : Nat} (first : 1 ≤ index) :
    (∃ d ∈ extract tokens, d.name = index) ↔ ∃ d, outcomeAt? tokens index = some (.declared d) := by
  simp only [mem_extract_iff, outcomeAt?_eq_declared_iff first]
  constructor
  · rintro ⟨d, ⟨name, close, stop, declares, rfl⟩, named⟩
    obtain rfl : name = index := Int.ofNat.inj named
    exact ⟨_, close, stop, declares, rfl⟩
  · rintro ⟨d, close, stop, declares, rfl⟩
    exact ⟨_, ⟨index, close, stop, declares, rfl⟩, rfl⟩

/-- Brackets are matched as in balanced words.  The bracket that closes an opening one is the closing
bracket up to which the brackets of its shape are balanced; there is at most one such, and none is found
only where there is none.  If the parentheses and the braces of all tokens are balanced, then no candidate
is unresolved, and an accepted candidate is found as a function unless it is bodiless. -/
theorem matched_iff_balanced :
    (∀ opening closing : Char, opening ≠ closing → ∀ (tokens : List Token) (start : Nat),
      (∀ stop, matching? opening closing tokens start = some stop ↔
        BalancedBetween opening closing tokens start stop) ∧
      (∀ stop other, BalancedBetween opening closing tokens start stop →
        BalancedBetween opening closing tokens start other → stop = other) ∧
      (matching? opening closing tokens start = none ↔
        ∀ stop, ¬ BalancedBetween opening closing tokens start stop)) ∧
    ∀ tokens : List Token,
      Balanced '(' ')' (brackets '(' ')' tokens) → Balanced '{' '}' (brackets '{' '}' tokens) →
      (statistics tokens).unresolved = 0 ∧
      ∀ index ∈ candidates tokens, Accepted tokens index →
        ((∃ d ∈ extract tokens, d.name = index) ↔ ¬ IsBodiless tokens index) := by
  constructor
  · intro opening closing different tokens start
    have matched (stop : Nat) := @matching?_eq_some_iff_balanced _ _ tokens different start stop
    refine ⟨matched, ?_, ?_⟩
    · intro stop other isStop isOther
      rw [← matched] at isStop isOther
      exact Option.some.inj (isStop.symm.trans isOther)
    · rw [Option.eq_none_iff_forall_ne_some]
      exact forall_congr' fun stop => not_congr (matched stop)
  · intro tokens parentheses braces
    refine ⟨unresolved_eq_zero parentheses braces, ?_⟩
    intro index member accepted
    have first := (Finset.mem_Icc.1 (Finset.mem_filter.1 member).1).1
    have bodiless : outcomeAt? tokens index = some .bodiless ↔ IsBodiless tokens index := by
      rw [outcomeAt?_eq_bodiless_iff first]
      simp only [member, accepted, true_and]
    rw [exists_mem_extract_iff first, ← bodiless]
    constructor
    · rintro ⟨d, declared⟩ noBody
      rw [declared] at noBody
      cases noBody
    · intro hasBody
      exact (outcomeAt?_of_balanced parentheses braces member accepted).resolve_right hasBody

/-- A parameter list and a pair of braces that overlap, behind which a body and a function without one
follow. -/
def crossing : List Token :=
  [.word "void" 1, .word "f" 1, .symbol '(' 1, .symbol '{' 1, .symbol ')' 1, .symbol '{' 1,
    .symbol '}' 1, .symbol '}' 1, .word "int" 2, .word "g" 2, .symbol '(' 2, .symbol ')' 2,
    .symbol ';' 2]

theorem matched_in_crossing :
    ('(' ≠ ')' ∧ BalancedBetween '(' ')' crossing 2 4) ∧
    Balanced '(' ')' (brackets '(' ')' crossing) ∧ Balanced '{' '}' (brackets '{' '}' crossing) ∧
    (statistics crossing).unresolved = 0 ∧
    (1 ∈ candidates crossing ∧ Accepted crossing 1 ∧ ∃ d ∈ extract crossing, d.name = 1) := by
  have different : '(' ≠ ')' := by decide
  have parentheses : Balanced '(' ')' (brackets '(' ')' crossing) :=
    .nest .empty (.nest .empty .empty)
  have braces : Balanced '{' '}' (brackets '{' '}' crossing) := .nest (.nest .empty .empty) .empty
  obtain ⟨resolved, found⟩ := matched_iff_balanced.2 crossing parentheses braces
  have member : 1 ∈ candidates crossing := by decide
  have accepted : Accepted crossing 1 := by decide
  exact ⟨⟨different, ((matched_iff_balanced.1 '(' ')' different crossing 2).1 4).1 rfl⟩,
    parentheses, braces, resolved, member, accepted, (found 1 member accepted).2 (by decide)⟩

end CodeGauge.Declaration
