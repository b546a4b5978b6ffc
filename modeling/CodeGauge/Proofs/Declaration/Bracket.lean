/-
Module: CodeGauge.Proofs.Declaration.Bracket
Purpose: The bracket that closes another one is the first at which as many brackets have closed as
  have opened.
Main exports:
  symbolCount, Closes, closing?_eq_some_iff, closes_iff_matching?, closes_append_iff
-/
import CodeGauge.Declaration.Bracket

namespace CodeGauge.Declaration

open CodeGauge.Source

/-!
The search for a closing bracket keeps a depth.  Its result is described without one: by the numbers
of opening and of closing brackets among the tokens from the first bracket on.  Both numbers are read
off the tokens up to the result alone, so tokens behind it do not matter.
-/

/-- How many of the tokens are the given character. -/
def symbols (char : Char) (tokens : List Token) : Nat :=
  tokens.countP (fun token => token.isSymbol char)

/-- How many of the tokens from index `first` through index `last` are the given character. -/
def symbolCount (char : Char) (tokens : List Token) (first last : Nat) : Nat :=
  symbols char ((tokens.take (last + 1)).drop first)

/-- `stop` is the least index behind `start` such that as many brackets close as open between the two,
both included. -/
structure Closes (opening closing : Char) (tokens : List Token) (start stop : Nat) : Prop where
  behind : start < stop
  inside : stop < tokens.length
  balanced : symbolCount opening tokens start stop = symbolCount closing tokens start stop
  least : ∀ j, start < j → j < stop →
    symbolCount opening tokens start j ≠ symbolCount closing tokens start j

@[simp] theorem symbols_nil (char : Char) : symbols char [] = 0 := rfl

@[simp] theorem symbols_cons (char : Char) (token : Token) (tokens : List Token) :
    symbols char (token :: tokens) = symbols char tokens + if token.isSymbol char then 1 else 0 := by
  rw [symbols, List.countP_cons]
  rfl

@[simp] theorem isSymbol_symbol (expected char : Char) (line : Int) :
    (Token.symbol char line).isSymbol expected = (char == expected) := rfl

@[simp] theorem isSymbol_word (expected : Char) (text : String) (line : Int) :
    (Token.word text line).isSymbol expected = false := rfl

theorem isSymbol_iff {char : Char} {token : Token} :
    token.isSymbol char = true ↔ ∃ line, token = .symbol char line := by
  cases token with
  | symbol other line => simp
  | word | number | invalid => simp [Token.isSymbol]

theorem not_isSymbol_of_ne {first second : Char} (different : first ≠ second) {token : Token}
    (isFirst : token.isSymbol first = true) : token.isSymbol second = false := by
  obtain ⟨line, rfl⟩ := isSymbol_iff.1 isFirst
  simpa using different

/-! ### The search counts -/

/-- The tokens through index `k` leave one more closing bracket than are open, for the first time. -/
structure ClosesBehind (opening closing : Char) (depth : Nat) (tokens : List Token) (k : Nat) :
    Prop where
  inside : k < tokens.length
  balanced : symbols opening (tokens.take (k + 1)) + depth + 1 = symbols closing (tokens.take (k + 1))
  least : ∀ j, j < k →
    symbols opening (tokens.take (j + 1)) + depth + 1 ≠ symbols closing (tokens.take (j + 1))

section Search

variable {opening closing : Char} {depth k : Nat} {token : Token} {tokens : List Token}

/-- A token that does not close the innermost bracket moves the search on by one, at the depth that it
leaves. -/
private theorem closesBehind_cons {depth' : Nat}
    (shift : ∀ opened closed : Nat, opened + (if token.isSymbol opening then 1 else 0) + depth + 1
      = closed + (if token.isSymbol closing then 1 else 0) ↔ opened + depth' + 1 = closed) :
    ClosesBehind opening closing depth (token :: tokens) k ↔
      ∃ j, ClosesBehind opening closing depth' tokens j ∧ j + 1 = k := by
  -- the counts do not meet at the token itself, and behind it they meet where they do without it
  have here : symbols opening ((token :: tokens).take 1) + depth + 1
      ≠ symbols closing ((token :: tokens).take 1) := by
    intro meet
    have := (shift 0 0).1 (by simpa using meet)
    omega
  have beyond : ∀ j, symbols opening ((token :: tokens).take (j + 1 + 1)) + depth + 1
      = symbols closing ((token :: tokens).take (j + 1 + 1)) ↔
        symbols opening (tokens.take (j + 1)) + depth' + 1 = symbols closing (tokens.take (j + 1)) := by
    intro j
    rw [List.take_succ_cons, symbols_cons, symbols_cons]
    exact shift _ _
  constructor
  · intro closes
    cases k with
    | zero => exact absurd closes.balanced here
    | succ j =>
        refine ⟨j, ⟨by simpa using closes.inside, (beyond j).1 closes.balanced, ?_⟩, rfl⟩
        intro i earlier meet
        exact closes.least (i + 1) (by omega) ((beyond i).2 meet)
  · rintro ⟨j, closes, rfl⟩
    refine ⟨by simpa using closes.inside, (beyond j).2 closes.balanced, ?_⟩
    intro i earlier meet
    cases i with
    | zero => exact here meet
    | succ i => exact closes.least i (by omega) ((beyond i).1 meet)

/-- The search finds the first index at which the counts meet. -/
theorem closing?_eq_some_iff (different : opening ≠ closing) :
    closing? opening closing depth tokens = some k ↔
      ClosesBehind opening closing depth tokens k := by
  induction tokens generalizing depth k with
  | nil =>
      rw [closing?]
      constructor
      · intro found
        exact absurd found (by simp)
      · intro closes
        exact absurd closes.inside (by simp)
  | cons token tokens ih =>
      unfold closing?
      by_cases opens : token.isSymbol opening = true
      · have noClose := not_isSymbol_of_ne different opens
        rw [if_pos opens, Option.map_eq_some_iff]
        simp only [ih]
        rw [closesBehind_cons]
        intro opened closed
        simp only [opens, noClose, if_true, Bool.false_eq_true, if_false]
        omega
      · rw [if_neg opens]
        by_cases closes : token.isSymbol closing = true
        · rw [if_pos closes]
          cases depth with
          | zero =>
              have meet : ClosesBehind opening closing 0 (token :: tokens) 0 :=
                ⟨by simp, by simp [opens, closes], by simp⟩
              constructor
              · intro found
                cases Option.some.inj found
                exact meet
              · intro other
                rcases Nat.eq_zero_or_pos k with rfl | later
                · rfl
                · exact absurd meet.balanced (other.least 0 later)
          | succ depth =>
              simp only [Option.map_eq_some_iff, ih]
              rw [closesBehind_cons]
              intro opened closed
              simp only [opens, closes, if_true, Bool.false_eq_true, if_false]
              omega
        · rw [if_neg closes, Option.map_eq_some_iff]
          simp only [ih]
          rw [closesBehind_cons]
          intro opened closed
          simp only [opens, closes, Bool.false_eq_true, if_false]
          omega

/-- What the search finds is a closing bracket. -/
theorem isSymbol_of_closing? (found : closing? opening closing depth tokens = some k) :
    ∃ token, tokens[k]? = some token ∧ token.isSymbol closing = true := by
  induction tokens generalizing depth k with
  | nil => simp [closing?] at found
  | cons token tokens ih =>
      unfold closing? at found
      split at found
      · obtain ⟨j, later, rfl⟩ := Option.map_eq_some_iff.1 found
        exact ih later
      · split at found
        · cases depth with
          | zero =>
              cases Option.some.inj found
              exact ⟨token, rfl, ‹_›⟩
          | succ depth =>
              obtain ⟨j, later, rfl⟩ := Option.map_eq_some_iff.1 found
              exact ih later
        · obtain ⟨j, later, rfl⟩ := Option.map_eq_some_iff.1 found
          exact ih later

end Search

/-! ### From the opening bracket on -/

theorem drop_of_getElem? {tokens : List Token} {index : Nat} {token : Token}
    (found : tokens[index]? = some token) :
    tokens.drop index = token :: tokens.drop (index + 1) := by
  obtain ⟨inside, rfl⟩ := List.getElem?_eq_some_iff.1 found
  exact List.drop_eq_getElem_cons inside

section Closes

variable {opening closing : Char} {tokens : List Token} {start stop : Nat} {token : Token}

private theorem symbolCount_of_getElem? (char : Char) (found : tokens[start]? = some token) (k : Nat) :
    symbolCount char tokens start (k + (start + 1)) =
      symbols char ((tokens.drop (start + 1)).take (k + 1)) +
        if token.isSymbol char then 1 else 0 := by
  have size : k + (start + 1) + 1 - start = k + 1 + 1 := by omega
  rw [symbolCount, List.drop_take, drop_of_getElem? found, size, List.take_succ_cons, symbols_cons]

/-- Counted from an opening bracket on, brackets balance where one more has closed than opened behind
it. -/
private theorem balanced_iff (different : opening ≠ closing) (found : tokens[start]? = some token)
    (opens : token.isSymbol opening = true) (k : Nat) :
    symbolCount opening tokens start (k + (start + 1)) =
        symbolCount closing tokens start (k + (start + 1)) ↔
      symbols opening ((tokens.drop (start + 1)).take (k + 1)) + 0 + 1 =
        symbols closing ((tokens.drop (start + 1)).take (k + 1)) := by
  have noClose := not_isSymbol_of_ne different opens
  rw [symbolCount_of_getElem? opening found, symbolCount_of_getElem? closing found]
  simp only [opens, noClose, if_true, Bool.false_eq_true, if_false]
  omega

/-- The bracket that the search finds for an opening bracket is the one that closes it. -/
theorem closes_iff_matching? (different : opening ≠ closing) (found : tokens[start]? = some token)
    (opens : token.isSymbol opening = true) :
    Closes opening closing tokens start stop ↔ matching? opening closing tokens start = some stop := by
  have meets := balanced_iff different found opens
  rw [matching?, Option.map_eq_some_iff]
  simp only [closing?_eq_some_iff different]
  constructor
  · intro closes
    obtain ⟨k, rfl⟩ := Nat.exists_eq_add_of_le' closes.behind
    refine ⟨k, ⟨?_, (meets k).1 closes.balanced, ?_⟩, rfl⟩
    · have inside := closes.inside
      rw [List.length_drop]
      omega
    · intro j earlier meet
      exact closes.least (j + (start + 1)) (by omega) (by omega) ((meets j).2 meet)
  · rintro ⟨k, closes, rfl⟩
    refine ⟨by omega, ?_, (meets k).2 closes.balanced, ?_⟩
    · have inside := closes.inside
      rw [List.length_drop] at inside
      omega
    · intro j behind earlier meet
      obtain ⟨i, rfl⟩ := Nat.exists_eq_add_of_le' behind
      exact closes.least i (by omega) ((meets i).1 meet)

theorem Closes.isSymbol (closes : Closes opening closing tokens start stop)
    (different : opening ≠ closing) (found : tokens[start]? = some token)
    (opens : token.isSymbol opening = true) :
    ∃ close, tokens[stop]? = some close ∧ close.isSymbol closing = true := by
  have matched := (closes_iff_matching? different found opens).1 closes
  obtain ⟨k, later, rfl⟩ := Option.map_eq_some_iff.1 matched
  obtain ⟨close, closeEq, closeSymbol⟩ := isSymbol_of_closing? later
  rw [List.getElem?_drop, Nat.add_comm] at closeEq
  exact ⟨close, closeEq, closeSymbol⟩

/-- Where a bracket closes is decided by the tokens through the closing one. -/
theorem closes_append_iff {behind : List Token} (inside : stop < tokens.length) :
    Closes opening closing (tokens ++ behind) start stop ↔
      Closes opening closing tokens start stop := by
  have counts : ∀ char j, j ≤ stop →
      symbolCount char (tokens ++ behind) start j = symbolCount char tokens start j := by
    intro char j bound
    rw [symbolCount, symbolCount, List.take_append_of_le_length (by omega)]
  constructor
  · intro closes
    refine ⟨closes.behind, inside, ?_, ?_⟩
    · rw [← counts opening stop (by omega), ← counts closing stop (by omega)]
      exact closes.balanced
    · intro j later earlier
      rw [← counts opening j (by omega), ← counts closing j (by omega)]
      exact closes.least j later earlier
  · intro closes
    refine ⟨closes.behind, by rw [List.length_append]; omega, ?_, ?_⟩
    · rw [counts opening stop (by omega), counts closing stop (by omega)]
      exact closes.balanced
    · intro j later earlier
      rw [counts opening j (by omega), counts closing j (by omega)]
      exact closes.least j later earlier

end Closes

end CodeGauge.Declaration
