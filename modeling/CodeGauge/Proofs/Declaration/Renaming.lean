/-
Module: CodeGauge.Proofs.Declaration.Renaming
Purpose: Extraction and complexity see of a token only its class, so renaming what is no keyword changes
  neither.
Main exports:
  TokenClass, classOf, closing?_congr, judge_congr, outcomes_congr, branches_eq_count,
  extraction_by_classes
-/
import CodeGauge.Proofs.Declaration.Bracket
import CodeGauge.Declaration.Extract

namespace CodeGauge.Declaration

open CodeGauge.Source CodeGauge.Measure

/-!
The rules on candidates, the search for closing brackets and the count of branches each ask their own
questions of a token.  Every one of these questions is answered by the class of the token: a few words and
five characters are told apart from each other and from all the rest, and nothing else is.
-/

/-- The characters that are told apart. -/
def marks : List Char := ['(', ')', '{', '}', '>']

/-- What extraction sees of a token. -/
inductive TokenClass where
  /-- A word that opens a control structure and counts as a branch. -/
  | branch
  /-- A word that opens a control structure and does not count. -/
  | clause
  /-- An access modifier. -/
  | modifier
  /-- The word `new`. -/
  | creation
  /-- Any other word. -/
  | name
  /-- One of the characters that are told apart. -/
  | mark (char : Char)
  /-- Any other character, a number, or no token at all. -/
  | other
deriving DecidableEq, Repr, Inhabited

/-- Whether the class is one of words. -/
def TokenClass.isWord : TokenClass → Bool
  | .branch | .clause | .modifier | .creation | .name => true
  | .mark _ | .other => false

/-- The class of a word. -/
def wordClass (text : String) : TokenClass :=
  if text ∈ ["if", "for", "while", "switch"] then .branch
  else if text ∈ ["else", "do", "try", "catch"] then .clause
  else if text ∈ ["public", "private", "protected"] then .modifier
  else if text = "new" then .creation
  else .name

/-- The class of a token. -/
def classOf : Token → TokenClass
  | .word text _ => wordClass text
  | .symbol char _ => if char ∈ marks then .mark char else .other
  | .number .. | .invalid => .other

/-! ### Questions about one token -/

theorem isWord_wordClass (text : String) : (wordClass text).isWord = true := by
  unfold wordClass
  repeat' split
  all_goals rfl

theorem wordClass_ne_of_not_isWord {c : TokenClass} (noWord : c.isWord = false) (text : String) :
    wordClass text ≠ c := by
  rintro rfl
  exact Bool.false_ne_true (noWord.symm.trans (isWord_wordClass text))

theorem isWord_classOf_iff {token : Token} :
    (classOf token).isWord = true ↔ ∃ text line, token = .word text line := by
  cases token with
  | word text line => simp [classOf, isWord_wordClass]
  | number | invalid => simp [classOf, TokenClass.isWord]
  | symbol char line =>
      by_cases known : char ∈ marks
      · simp [classOf, known, TokenClass.isWord]
      · simp [classOf, known, TokenClass.isWord]

theorem isSymbol_iff_classOf {char : Char} (isMark : char ∈ marks) {token : Token} :
    token.isSymbol char = true ↔ classOf token = .mark char := by
  cases token with
  | word text line => simpa [classOf] using wordClass_ne_of_not_isWord rfl text
  | number | invalid => simp [Token.isSymbol, classOf]
  | symbol symbol line =>
      rw [isSymbol_symbol, beq_iff_eq, classOf]
      by_cases known : symbol ∈ marks
      · simp [known]
      · rw [if_neg known]
        constructor
        · rintro rfl
          exact absurd isMark known
        · intro contrary
          cases contrary

/-- Where the class of a word tells whether it is one of some words, the class of a token tells whether it
is one of them. -/
theorem any_isWord_iff_classOf {words : List String} {classes : List TokenClass}
    (told : ∀ text, text ∈ words ↔ wordClass text ∈ classes)
    (ofWords : ∀ c ∈ classes, c.isWord = true) {token : Token} :
    words.any (fun word => token.isWord word) = true ↔ classOf token ∈ classes := by
  have isWord (member : classOf token ∈ classes) : ∃ text line, token = .word text line :=
    isWord_classOf_iff.1 (ofWords _ member)
  cases token with
  | word text line => simpa [Token.isWord, classOf] using told text
  | number | invalid | symbol => simpa [Token.isWord] using isWord

theorem opensControl_iff_classOf {token : Token} :
    Rule.controlKeywords.any (fun keyword => token.isWord keyword) = true ↔
      classOf token ∈ [.branch, .clause] := by
  apply any_isWord_iff_classOf _ (by decide)
  intro text
  simp only [Rule.controlKeywords, wordClass]
  grind

theorem isModifier_iff_classOf {token : Token} :
    Rule.accessModifiers.any (fun modifier => token.isWord modifier) = true ↔
      classOf token ∈ [.modifier] := by
  apply any_isWord_iff_classOf _ (by decide)
  intro text
  simp only [Rule.accessModifiers, wordClass]
  grind

theorem isCreation_iff_classOf {token : Token} :
    token.isWord "new" = true ↔ classOf token ∈ [.creation] := by
  have single : token.isWord "new" = ["new"].any (fun word => token.isWord word) := by simp
  rw [single]
  apply any_isWord_iff_classOf _ (by decide)
  intro text
  simp only [wordClass]
  grind

theorem isBranch_iff_classOf {token : Token} :
    isBranch token = true ↔ classOf token ∈ [.branch] := by
  apply any_isWord_iff_classOf _ (by decide)
  intro text
  simp only [branchKeywords, wordClass]
  grind

theorem endsType_iff {token : Token} :
    Rule.endsType token = true ↔ (classOf token).isWord = true ∨ token.isSymbol '>' = true := by
  rw [isWord_classOf_iff]
  cases token <;> simp [Rule.endsType]

/-! ### Tokens of the same classes -/

section Congr

variable {tokens others : List Token}

theorem isSymbol_congr {char : Char} (isMark : char ∈ marks) {token other : Token}
    (same : classOf token = classOf other) : token.isSymbol char = other.isSymbol char := by
  rw [Bool.eq_iff_iff, isSymbol_iff_classOf isMark, isSymbol_iff_classOf isMark, same]

/-- Rules reject words with neighbours of the same classes alike. -/
theorem rejects_congr {before word after before' word' after' : Token}
    (sameBefore : classOf before = classOf before') (sameWord : classOf word = classOf word')
    (sameAfter : classOf after = classOf after') (rule : Rule) :
    rule.rejects before word after = rule.rejects before' word' after' := by
  cases rule with
  | controlKeyword =>
      rw [Rule.rejects, Rule.rejects, Bool.eq_iff_iff, opensControl_iff_classOf,
        opensControl_iff_classOf, sameWord]
  | constructor =>
      rw [Rule.rejects, Rule.rejects, Bool.eq_iff_iff, isModifier_iff_classOf, isModifier_iff_classOf,
        sameBefore]
  | anonymousClass =>
      rw [Rule.rejects, Rule.rejects, Bool.eq_iff_iff, isCreation_iff_classOf, isCreation_iff_classOf,
        sameBefore]
  | noReturnType =>
      have ends : Rule.endsType before = Rule.endsType before' := by
        rw [Bool.eq_iff_iff, endsType_iff, endsType_iff, sameBefore,
          isSymbol_congr (by decide) sameBefore]
      rw [Rule.rejects, Rule.rejects, ends]
  | noParameterList =>
      rw [Rule.rejects, Rule.rejects, isSymbol_congr (by decide) sameAfter]

/-- The search for a closing bracket is led by the classes. -/
theorem closing?_congr {opening closing : Char} (isOpening : opening ∈ marks)
    (isClosing : closing ∈ marks) (same : tokens.map classOf = others.map classOf) (depth : Nat) :
    closing? opening closing depth tokens = closing? opening closing depth others := by
  induction tokens generalizing others depth with
  | nil =>
      rw [List.map_eq_nil_iff.1 same.symm]
  | cons token tokens ih =>
      obtain ⟨other, others, rfl, sameFirst, sameRest⟩ := List.map_eq_cons_iff.1 same.symm
      have later := ih sameRest.symm
      unfold closing?
      simp only [isSymbol_congr isOpening sameFirst, isSymbol_congr isClosing sameFirst, later]

theorem judge_congr {before word after before' word' after' : Token}
    (sameBefore : classOf before = classOf before') (sameWord : classOf word = classOf word')
    (sameAfter : classOf after = classOf after') (same : tokens.map classOf = others.map classOf)
    (index : Nat) :
    judge index before word after tokens = judge index before' word' after' others := by
  have rejecting : Rule.firstRejecting? before word after =
      Rule.firstRejecting? before' word' after' := by
    simp only [Rule.firstRejecting?, rejects_congr sameBefore sameWord sameAfter]
  have parameters : closing? '(' ')' 0 tokens = closing? '(' ')' 0 others :=
    closing?_congr (by decide) (by decide) same 0
  unfold judge
  rw [rejecting, parameters]
  cases Rule.firstRejecting? before' word' after' with
  | some rule => rfl
  | none =>
      cases closing? '(' ')' 0 others with
      | none => rfl
      | some close =>
          have behind : (tokens.drop (close + 1)).map classOf = (others.drop (close + 1)).map classOf := by
            rw [List.map_drop, List.map_drop, same]
          cases shape : tokens.drop (close + 1) with
          | nil =>
              rw [shape] at behind
              have shape' : others.drop (close + 1) = [] := List.map_eq_nil_iff.1 behind.symm
              simp only [shape, shape']
          | cons brace inside =>
              rw [shape] at behind
              obtain ⟨brace', inside', shape', sameBrace, sameInside⟩ :=
                List.map_eq_cons_iff.1 behind.symm
              have opens : brace.isSymbol '{' = brace'.isSymbol '{' :=
                isSymbol_congr (by decide) sameBrace.symm
              have body : closing? '{' '}' 0 inside = closing? '{' '}' 0 inside' :=
                closing?_congr (by decide) (by decide) sameInside.symm 0
              simp only [shape, shape', opens, body]

/-- A word with a token on each side is judged; any other token is passed over. -/
private theorem outcomesFrom_cons (index : Nat) (before word after : Token) (rest : List Token) :
    outcomesFrom index (before :: word :: after :: rest) =
      if (classOf word).isWord then
        judge index before word after rest :: outcomesFrom (index + 1) (word :: after :: rest)
      else outcomesFrom (index + 1) (word :: after :: rest) := by
  split
  · next isWord =>
    obtain ⟨text, line, rfl⟩ := isWord_classOf_iff.1 isWord
    rfl
  · next noWord =>
    have passed : ∀ text line, word ≠ .word text line :=
      fun text line isWord => noWord (isWord_classOf_iff.2 ⟨text, line, isWord⟩)
    cases word with
    | word text line => exact absurd rfl (passed text line)
    | number | symbol | invalid => rfl

theorem outcomesFrom_congr (same : tokens.map classOf = others.map classOf) (index : Nat) :
    outcomesFrom index tokens = outcomesFrom index others := by
  induction tokens generalizing others index with
  | nil => rw [List.map_eq_nil_iff.1 same.symm]
  | cons before tokens ih =>
      obtain ⟨before', others, rfl, sameBefore, same⟩ := List.map_eq_cons_iff.1 same.symm
      have later := ih same.symm
      match tokens with
      | [] => rw [List.map_eq_nil_iff.1 same]; rfl
      | [word] =>
          obtain ⟨word', others, rfl, -, same⟩ := List.map_eq_cons_iff.1 same
          rw [List.map_eq_nil_iff.1 same]
          rfl
      | word :: after :: rest =>
          obtain ⟨word', others, rfl, sameWord, same⟩ := List.map_eq_cons_iff.1 same
          obtain ⟨after', rest', rfl, sameAfter, same⟩ := List.map_eq_cons_iff.1 same
          rw [outcomesFrom_cons, outcomesFrom_cons, sameWord, later,
            judge_congr sameBefore.symm sameWord.symm sameAfter.symm same.symm]

theorem outcomes_congr (same : tokens.map classOf = others.map classOf) :
    outcomes tokens = outcomes others :=
  outcomesFrom_congr same 1

/-- The branches of some tokens are told by their classes. -/
theorem branches_eq_count (tokens : List Token) : branches tokens = (tokens.map classOf).count .branch := by
  rw [branches, List.count, List.countP_map]
  apply List.countP_congr
  intro token _
  simpa using isBranch_iff_classOf

end Congr

/-- The tokens of a range have the same classes in two buffers that have. -/
theorem map_classOf_slice? {b c : Buffer} (same : b.tokens.map classOf = c.tokens.map classOf)
    (s : Span) : (b.slice? s).map (List.map classOf) = (c.slice? s).map (List.map classOf) := by
  have size : b.tokens.length = c.tokens.length := by
    simpa using congrArg List.length same
  rw [Buffer.slice?, Buffer.slice?, size]
  split
  · rfl
  · simp only [Option.map_some, List.map_take, List.map_drop, same]

theorem complexity_congr {b c : Buffer} (same : b.tokens.map classOf = c.tokens.map classOf)
    (d : Declaration) : d.complexity b = d.complexity c := by
  have body := map_classOf_slice? same d.body
  have getD_map (tokens? : Option (List Token)) :
      (tokens?.getD []).map classOf = (tokens?.map (List.map classOf)).getD [] := by
    cases tokens? <;> rfl
  rw [Declaration.complexity, Declaration.complexity, branches_eq_count, branches_eq_count,
    getD_map, getD_map, body]

/-- Only classes of tokens matter.  Two buffers whose tokens have the same classes one by one, whatever
their texts, numbers, characters and lines are, have the same candidates with the same outcomes, rejecting
rules included; so the same functions are found at the same indices, the counts are the same, and each
function has the same complexity in both. -/
theorem extraction_by_classes {b c : Buffer} (same : b.tokens.map classOf = c.tokens.map classOf) :
    outcomes b.tokens = outcomes c.tokens ∧ extract b.tokens = extract c.tokens ∧
      statistics b.tokens = statistics c.tokens ∧
      ∀ d ∈ extract b.tokens, d.complexity b = d.complexity c := by
  have judged := outcomes_congr same
  refine ⟨judged, ?_, ?_, fun d _ => complexity_congr same d⟩
  · rw [extract, extract, judged]
  · rw [statistics, statistics, judged]

/-- The tokens of `>put(int key){if 0; new Box(}`, the last brace on a line of its own. -/
def firstNames : Buffer where
  path := "Box.java"
  tokens := [.symbol '>' 1, .word "put" 1, .symbol '(' 1, .word "int" 1, .word "key" 1, .symbol ')' 1,
    .symbol '{' 1, .word "if" 1, .number .zero 1, .symbol ';' 1, .word "new" 1, .word "Box" 1,
    .symbol '(' 1, .symbol '}' 2]

/-- The same with other names and another branch, and with a character and no token at all in place of the
number and the semicolon. -/
def otherNames : Buffer where
  path := "größe.c"
  tokens := [.symbol '>' 7, .word "größe" 5, .symbol '(' 5, .word "_" 0, .word "класс" 1, .symbol ')' 1,
    .symbol '{' 1, .word "while" 9, .symbol '+' 9, .invalid, .word "new" 2, .word "put" 3,
    .symbol '(' 3, .symbol '}' 3]

theorem extraction_by_classes_of_otherNames :
    firstNames.tokens.map classOf = otherNames.tokens.map classOf ∧
      statistics firstNames.tokens =
        { candidates := 6, rejected := 5, bodiless := 0, unresolved := 0, declared := 1,
          rejectedBy := [(.controlKeyword, 1), (.anonymousClass, 1), (.noReturnType, 2),
            (.noParameterList, 1)] } ∧
      outcomes firstNames.tokens = outcomes otherNames.tokens ∧
      extract firstNames.tokens = extract otherNames.tokens ∧
      statistics firstNames.tokens = statistics otherNames.tokens ∧
      ∀ d ∈ extract firstNames.tokens, d.complexity firstNames = d.complexity otherNames := by
  have same : firstNames.tokens.map classOf = otherNames.tokens.map classOf := by decide +kernel
  exact ⟨same, by decide +kernel, extraction_by_classes same⟩

end CodeGauge.Declaration
