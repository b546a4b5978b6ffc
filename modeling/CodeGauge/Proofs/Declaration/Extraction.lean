/-
Module: CodeGauge.Proofs.Declaration.Extraction
Purpose: Which functions are found in a token list, said by conditions on indices.
Main exports:
  Declares, between, outcomes_eq_filterMap, mem_extract_iff, extract_pairwise_name,
  extract_eq_declared
-/
import CodeGauge.Declaration.Extract
import CodeGauge.Proofs.Declaration.Bracket
import CodeGauge.Report.Summary

namespace CodeGauge.Declaration

open CodeGauge.Source

/-!
The extraction walks along the tokens and judges every word by its neighbours and by what follows.
The conditions below name the same tokens by their indices in the whole list.
-/

/-- The token at index `name` names a function whose parameters end at the parenthesis at `close` and
whose body ends at the brace at `stop`. -/
structure Declares (tokens : List Token) (name close stop : Nat) : Prop where
  first : 1 ≤ name
  last : name + 2 ≤ tokens.length
  /-- The name is a word that opens no control structure. -/
  named : ∃ text line, tokens[name]? = some (.word text line) ∧
    text ∉ ["if", "else", "for", "while", "do", "switch", "try", "catch"]
  /-- Before the name stands the end of a type. -/
  typed : (∃ line, tokens[name - 1]? = some (.symbol '>' line)) ∨
    ∃ text line, tokens[name - 1]? = some (.word text line) ∧
      text ∉ ["public", "private", "protected", "new"]
  opened : ∃ line, tokens[name + 1]? = some (.symbol '(' line)
  parameters : Closes '(' ')' tokens (name + 1) close
  braced : ∃ line, tokens[close + 1]? = some (.symbol '{' line)
  body : Closes '{' '}' tokens (close + 1) stop

/-- The function with the given name and closing brackets. -/
def between (name close stop : Nat) : Declaration where
  name := name
  parameters := ⟨name + 2, close⟩
  body := ⟨close + 2, stop⟩

/-! ### One candidate -/

/-- What becomes of the token at an index, if it is a word with a token on each side. -/
def outcomeAt? (tokens : List Token) (index : Nat) : Option Outcome :=
  match tokens.drop (index - 1) with
  | before :: .word text line :: after :: rest =>
      some (judge index before (.word text line) after rest)
  | _ => none

/-- No rule rejects a word that opens no control structure, follows the end of a type and is followed by
a parenthesis. -/
theorem firstRejecting?_eq_none_iff {before after : Token} {text : String} {line : Int} :
    Rule.firstRejecting? before (.word text line) after = none ↔
      text ∉ ["if", "else", "for", "while", "do", "switch", "try", "catch"] ∧
      ((∃ line, before = .symbol '>' line) ∨
        ∃ text line, before = .word text line ∧ text ∉ ["public", "private", "protected", "new"]) ∧
      ∃ line, after = .symbol '(' line := by
  have opens : after.isSymbol '(' = true ↔ ∃ line, after = .symbol '(' line := isSymbol_iff
  cases before with
  | word other place =>
      simp [Rule.firstRejecting?, Rule.all, Rule.rejects, Rule.controlKeywords, Rule.accessModifiers,
        Rule.endsType, Token.isWord, opens, and_assoc]
  | symbol char place =>
      simp [Rule.firstRejecting?, Rule.all, Rule.rejects, Rule.controlKeywords, Rule.accessModifiers,
        Rule.endsType, Token.isWord, opens, and_assoc]
  | number value place =>
      simp [Rule.firstRejecting?, Rule.all, Rule.rejects, Rule.endsType, Token.isSymbol]
  | invalid =>
      simp [Rule.firstRejecting?, Rule.all, Rule.rejects, Rule.endsType, Token.isSymbol]

/-- A candidate declares a function if no rule rejects it and both its brackets close. -/
theorem judge_eq_declared_iff {index : Nat} {before word after : Token} {rest : List Token}
    {d : Declaration} :
    judge index before word after rest = .declared d ↔
      Rule.firstRejecting? before word after = none ∧
      ∃ close, closing? '(' ')' 0 rest = some close ∧
      ∃ brace, rest[close + 1]? = some brace ∧ brace.isSymbol '{' = true ∧
      ∃ stop, closing? '{' '}' 0 (rest.drop (close + 2)) = some stop ∧
        d = between index (index + 2 + close) (index + 4 + close + stop) := by
  unfold judge
  cases Rule.firstRejecting? before word after with
  | some rule => simp
  | none =>
      cases closing? '(' ')' 0 rest with
      | none => simp
      | some close =>
          simp only [Option.some.injEq, true_and, exists_eq_left']
          cases found : rest[close + 1]? with
          | none =>
              have nothing : rest.drop (close + 1) = [] := by
                rw [List.drop_eq_nil_iff]
                exact List.getElem?_eq_none_iff.1 found
              simp [nothing]
          | some brace =>
              rw [drop_of_getElem? found]
              simp only [Option.some.injEq, exists_eq_left']
              by_cases opens : brace.isSymbol '{' = true
              · cases closing? '{' '}' 0 (rest.drop (close + 2)) with
                | none => simp [opens]
                | some stop =>
                    have bodyStart : (index + 2 + close + 2 : Int) = index + 4 + close := by omega
                    simp [opens, between, bodyStart, eq_comm]
              · simp [opens]

/-- The tokens around an index that has a token on each side. -/
private theorem drop_neighbours {tokens : List Token} {index : Nat} {before word after : Token}
    {rest : List Token} (first : 1 ≤ index) :
    tokens.drop (index - 1) = before :: word :: after :: rest ↔
      tokens[index - 1]? = some before ∧ tokens[index]? = some word ∧
        tokens[index + 1]? = some after ∧ rest = tokens.drop (index + 2) := by
  obtain ⟨i, rfl⟩ := Nat.exists_eq_add_of_le' first
  rw [Nat.add_sub_cancel]
  constructor
  · intro shape
    have at0 : (tokens.drop i)[0]? = some before := by rw [shape]; rfl
    have at1 : (tokens.drop i)[1]? = some word := by rw [shape]; rfl
    have at2 : (tokens.drop i)[2]? = some after := by rw [shape]; rfl
    have behind : (tokens.drop i).drop 3 = rest := by rw [shape]; rfl
    rw [List.getElem?_drop] at at0 at1 at2
    rw [List.drop_drop] at behind
    exact ⟨at0, at1, at2, behind.symm⟩
  · rintro ⟨at0, at1, at2, rfl⟩
    rw [drop_of_getElem? at0, drop_of_getElem? at1, drop_of_getElem? at2]

theorem outcomeAt?_eq_some_iff {tokens : List Token} {index : Nat} {outcome : Outcome}
    (first : 1 ≤ index) :
    outcomeAt? tokens index = some outcome ↔
      ∃ before text line after, tokens[index - 1]? = some before ∧
        tokens[index]? = some (.word text line) ∧ tokens[index + 1]? = some after ∧
        judge index before (.word text line) after (tokens.drop (index + 2)) = outcome := by
  unfold outcomeAt?
  constructor
  · intro found
    split at found
    · rename_i before text line after rest shape
      obtain ⟨beforeEq, wordEq, afterEq, rfl⟩ := (drop_neighbours first).1 shape
      exact ⟨before, text, line, after, beforeEq, wordEq, afterEq, Option.some.inj found⟩
    · cases found
  · rintro ⟨before, text, line, after, beforeEq, wordEq, afterEq, judged⟩
    rw [(drop_neighbours first).2 ⟨beforeEq, wordEq, afterEq, rfl⟩]
    exact congrArg some judged

/-- A candidate declares a function exactly if the conditions on indices hold. -/
theorem outcomeAt?_eq_declared_iff {tokens : List Token} {index : Nat} {d : Declaration}
    (first : 1 ≤ index) :
    outcomeAt? tokens index = some (.declared d) ↔
      ∃ close stop, Declares tokens index close stop ∧ d = between index close stop := by
  rw [outcomeAt?_eq_some_iff first]
  constructor
  · rintro ⟨before, text, line, after, beforeEq, wordEq, afterEq, judged⟩
    obtain ⟨accepted, close, closeEq, brace, braceEq, opens, stop, stopEq, rfl⟩ :=
      judge_eq_declared_iff.1 judged
    obtain ⟨named, typed, opened⟩ := firstRejecting?_eq_none_iff.1 accepted
    obtain ⟨openLine, rfl⟩ := opened
    obtain ⟨braceLine, rfl⟩ := isSymbol_iff.1 opens
    have braceIndex : index + 2 + (close + 1) = index + 2 + close + 1 := by omega
    have bodyIndex : index + 2 + (close + 2) = index + 2 + close + 1 + 1 := by omega
    rw [List.getElem?_drop, braceIndex] at braceEq
    rw [List.drop_drop, bodyIndex] at stopEq
    have inside := (List.getElem?_eq_some_iff.1 afterEq).1
    refine ⟨index + 2 + close, index + 4 + close + stop, ⟨first, inside,
      ⟨text, line, wordEq, named⟩, ?_, ⟨openLine, afterEq⟩, ?_, ⟨braceLine, braceEq⟩, ?_⟩, rfl⟩
    · rcases typed with ⟨place, rfl⟩ | ⟨other, place, rfl, free⟩
      · exact Or.inl ⟨place, beforeEq⟩
      · exact Or.inr ⟨other, place, beforeEq, free⟩
    · rw [closes_iff_matching? (by decide) afterEq rfl, matching?, closeEq, Option.map_some]
      congr 1
      omega
    · rw [closes_iff_matching? (by decide) braceEq rfl, matching?, stopEq, Option.map_some]
      congr 1
      omega
  · rintro ⟨close, stop, declares, rfl⟩
    obtain ⟨text, line, wordEq, named⟩ := declares.named
    obtain ⟨openLine, afterEq⟩ := declares.opened
    obtain ⟨braceLine, braceEq⟩ := declares.braced
    have parameters := (closes_iff_matching? (by decide) afterEq rfl).1 declares.parameters
    have body := (closes_iff_matching? (by decide) braceEq rfl).1 declares.body
    obtain ⟨k, closeEq, rfl⟩ := Option.map_eq_some_iff.1 parameters
    obtain ⟨j, stopEq, rfl⟩ := Option.map_eq_some_iff.1 body
    obtain ⟨before, beforeEq, typed⟩ : ∃ before, tokens[index - 1]? = some before ∧
        ((∃ line, before = .symbol '>' line) ∨
          ∃ text line, before = .word text line ∧
            text ∉ ["public", "private", "protected", "new"]) := by
      rcases declares.typed with ⟨place, beforeEq⟩ | ⟨other, place, beforeEq, free⟩
      · exact ⟨_, beforeEq, Or.inl ⟨place, rfl⟩⟩
      · exact ⟨_, beforeEq, Or.inr ⟨other, place, rfl, free⟩⟩
    refine ⟨before, text, line, .symbol '(' openLine, beforeEq, wordEq, afterEq, ?_⟩
    have braceIndex : k + (index + 1 + 1) + 1 = index + 2 + (k + 1) := by omega
    have bodyIndex : k + (index + 1 + 1) + 1 + 1 = index + 2 + (k + 2) := by omega
    rw [braceIndex, ← List.getElem?_drop] at braceEq
    rw [bodyIndex, ← List.drop_drop] at stopEq
    rw [judge_eq_declared_iff]
    refine ⟨firstRejecting?_eq_none_iff.2 ⟨named, typed, openLine, rfl⟩, k, closeEq, _, braceEq, rfl, j,
      stopEq, ?_⟩
    congr 1 <;> omega

/-! ### All candidates -/

/-- The walk along the tokens that follow those already passed judges them index by index. -/
private theorem outcomesFrom_eq_filterMap (passed tokens : List Token) :
    outcomesFrom (passed.length + 1) tokens =
      (List.range' (passed.length + 1) (tokens.length - 2)).filterMap
        (outcomeAt? (passed ++ tokens)) := by
  induction tokens generalizing passed with
  | nil => rfl
  | cons before more ih =>
      match more with
      | [] => rfl
      | [word] => rfl
      | word :: after :: rest =>
          have later := ih (passed ++ [before])
          rw [List.length_append, List.length_singleton, List.append_assoc, List.singleton_append]
            at later
          have size : (before :: word :: after :: rest).length - 2
              = (word :: after :: rest).length - 2 + 1 := by
            simp only [List.length_cons]
            omega
          have around : (passed ++ before :: word :: after :: rest).drop (passed.length + 1 - 1)
              = before :: word :: after :: rest := by simp
          rw [size, List.range'_succ, List.filterMap_cons, ← later]
          cases word with
          | word text line => simp only [outcomesFrom, outcomeAt?, around]
          | symbol | number | invalid => simp only [outcomesFrom, outcomeAt?, around]

theorem outcomes_eq_filterMap (tokens : List Token) :
    outcomes tokens = (List.range' 1 (tokens.length - 2)).filterMap (outcomeAt? tokens) :=
  outcomesFrom_eq_filterMap [] tokens

theorem declaration?_eq_some_iff {outcome : Outcome} {d : Declaration} :
    outcome.declaration? = some d ↔ outcome = .declared d := by
  cases outcome with
  | declared => simp [Outcome.declaration?]
  | rejected | unresolved | bodiless => simp [Outcome.declaration?]

/-- The functions found are those that the conditions on indices describe. -/
theorem mem_extract_iff {tokens : List Token} {d : Declaration} :
    d ∈ extract tokens ↔
      ∃ name close stop, Declares tokens name close stop ∧ d = between name close stop := by
  simp only [extract, outcomes_eq_filterMap, List.mem_filterMap, List.mem_range'_1,
    declaration?_eq_some_iff]
  constructor
  · rintro ⟨_, ⟨name, range, found⟩, rfl⟩
    exact ⟨name, (outcomeAt?_eq_declared_iff range.1).1 found⟩
  · rintro ⟨name, declared⟩
    have found : outcomeAt? tokens name = some (.declared d) := by
      obtain ⟨close, stop, declares, rfl⟩ := declared
      exact (outcomeAt?_eq_declared_iff declares.first).2 ⟨close, stop, declares, rfl⟩
    obtain ⟨close, stop, declares, -⟩ := declared
    have first := declares.first
    have last := declares.last
    exact ⟨_, ⟨name, by omega, found⟩, rfl⟩

private theorem name_of_outcomeAt? {tokens : List Token} {index : Nat} {d : Declaration}
    (found : outcomeAt? tokens index = some (.declared d)) : d.name = index := by
  unfold outcomeAt? at found
  split at found
  · obtain ⟨-, close, -, brace, -, -, stop, -, rfl⟩ :=
      judge_eq_declared_iff.1 (Option.some.inj found)
    rfl
  · cases found

/-- Functions are found in the order of their names. -/
theorem extract_pairwise_name (tokens : List Token) :
    (extract tokens).Pairwise (fun d e => d.name < e.name) := by
  rw [extract, outcomes_eq_filterMap, List.filterMap_filterMap]
  apply List.Pairwise.filterMap _ _ List.pairwise_lt_range'
  intro i j before d found e next
  obtain ⟨outcome, outcomeEq, declared⟩ := Option.bind_eq_some_iff.1 found
  obtain ⟨other, otherEq, otherDeclared⟩ := Option.bind_eq_some_iff.1 next
  rw [declaration?_eq_some_iff.1 declared] at outcomeEq
  rw [declaration?_eq_some_iff.1 otherDeclared] at otherEq
  rw [name_of_outcomeAt? outcomeEq, name_of_outcomeAt? otherEq]
  exact Int.ofNat_lt.2 before

/-! ### What is read off a function -/

section Declares

variable {b : Buffer} {name close stop : Nat}

/-- A range within the buffer holds the tokens from its start up to its end. -/
theorem slice?_eq_some {first last : Nat} (ordered : first ≤ last) (inside : last ≤ b.tokens.length) :
    b.slice? ⟨first, last⟩ = some ((b.tokens.take last).drop first) := by
  have within : ¬ ((first : Int) < 0 ∨ (b.tokens.length : Int) < last ∨ (last : Int) < first) := by
    omega
  have size : ((last : Int) - first).toNat = last - first := by omega
  rw [Buffer.slice?, if_neg within, Int.toNat_natCast, size, List.drop_take]

theorem Declares.ordered (declares : Declares b.tokens name close stop) :
    name + 2 ≤ close ∧ close + 2 ≤ stop ∧ stop < b.tokens.length :=
  ⟨declares.parameters.behind, declares.body.behind, declares.body.inside⟩

theorem Declares.slice?_parameters (declares : Declares b.tokens name close stop) :
    b.slice? (between name close stop).parameters = some ((b.tokens.take close).drop (name + 2)) := by
  have ordered := declares.ordered
  exact slice?_eq_some ordered.1 (by omega)

theorem Declares.slice?_body (declares : Declares b.tokens name close stop) :
    b.slice? (between name close stop).body = some ((b.tokens.take stop).drop (close + 2)) := by
  have ordered := declares.ordered
  exact slice?_eq_some ordered.2.1 (by omega)

theorem token_of_getElem? {index : Nat} {token : Token}
    (found : b.tokens[index]? = some token) : b.token index = token := by
  have positive : ¬ (index : Int) < 0 := by omega
  rw [Buffer.token, if_neg positive, Int.toNat_natCast, List.getD_eq_getElem?_getD, found,
    Option.getD_some]

private theorem len_eq {first last : Nat} (ordered : first ≤ last) :
    (⟨first, last⟩ : Span).len = Int64.ofNat (last - first) := by
  have forward : ¬ (last : Int) < first := by omega
  have size : (last : Int) - first = ((last - first : Nat) : Int) := by omega
  rw [Span.len, if_neg forward, size]
  rfl

/-- The entry of a function is read off its name and the tokens between its brackets. -/
theorem Declares.entry_eq (declares : Declares b.tokens name close stop) {text : String} {line : Int}
    (named : b.tokens[name]? = some (.word text line)) :
    FunctionEntry.ofDeclaration b (between name close stop) =
      { name := text
        filePath := b.path
        language := (Language.ofPath b.path).name
        line := Int64.ofInt line
        complexity := Int64.ofNat (Measure.branches ((b.tokens.take stop).drop (close + 2)))
        camelCase := Measure.isCamelCase text
        parameterTokens := Int64.ofNat (close - (name + 2))
        bodyTokens := Int64.ofNat (stop - (close + 2)) } := by
  have ordered := declares.ordered
  have nameToken : (between name close stop).nameToken b = .word text line := token_of_getElem? named
  have parameters : (between name close stop).parameters.len = Int64.ofNat (close - (name + 2)) :=
    len_eq ordered.1
  have body : (between name close stop).body.len = Int64.ofNat (stop - (close + 2)) :=
    len_eq ordered.2.1
  simp only [FunctionEntry.ofDeclaration, Declaration.nameText, Declaration.line,
    Declaration.complexity, nameToken, declares.slice?_body, parameters, body, Token.text, Token.line,
    Option.getD_some]

end Declares

/-- Extraction finds, in the order of their names and each once, exactly the functions that the
conditions on indices describe; the ranges of such a function lie in order inside the buffer and hold the
tokens between its brackets, and its entry is read off these. -/
theorem extract_eq_declared (b : Buffer) :
    (extract b.tokens).Pairwise (fun d e => d.name < e.name) ∧
    (∀ d, d ∈ extract b.tokens ↔
      ∃ name close stop, Declares b.tokens name close stop ∧ d = between name close stop) ∧
    ∀ d ∈ extract b.tokens,
      (d.name < d.parameters.start ∧ d.parameters.start ≤ d.parameters.stop ∧
        d.parameters.stop < d.body.start ∧ d.body.start ≤ d.body.stop ∧
        d.body.stop < b.tokens.length) ∧
      ∃ name close stop text line, d = between name close stop ∧
        b.tokens[name]? = some (.word text line) ∧
        b.slice? d.parameters = some ((b.tokens.take close).drop (name + 2)) ∧
        b.slice? d.body = some ((b.tokens.take stop).drop (close + 2)) ∧
        FunctionEntry.ofDeclaration b d =
          { name := text
            filePath := b.path
            language := (Language.ofPath b.path).name
            line := Int64.ofInt line
            complexity := Int64.ofNat (Measure.branches ((b.tokens.take stop).drop (close + 2)))
            camelCase := Measure.isCamelCase text
            parameterTokens := Int64.ofNat (close - (name + 2))
            bodyTokens := Int64.ofNat (stop - (close + 2)) } := by
  refine ⟨extract_pairwise_name b.tokens, fun d => mem_extract_iff, ?_⟩
  intro d member
  obtain ⟨name, close, stop, declares, rfl⟩ := mem_extract_iff.1 member
  obtain ⟨text, line, named, -⟩ := declares.named
  obtain ⟨first, second, inside⟩ := declares.ordered
  refine ⟨?_, name, close, stop, text, line, rfl, named, declares.slice?_parameters,
    declares.slice?_body, declares.entry_eq named⟩
  simp only [between]
  omega

end CodeGauge.Declaration
