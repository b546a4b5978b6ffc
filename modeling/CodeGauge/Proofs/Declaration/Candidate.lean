/-
Module: CodeGauge.Proofs.Declaration.Candidate
Purpose: Every candidate comes to one of four ends, told by conditions on indices, and the statistics
  count the candidates of each end.
Main exports:
  candidates, RejectedAt, ChargedTo, Accepted, IsBodiless, IsUnclosed, outcomeAt?_eq_rejected_iff,
  outcomeAt?_eq_bodiless_iff, outcomeAt?_eq_unresolved_iff, statistics_partition
-/
import CodeGauge.Proofs.Declaration.Extraction
import Mathlib.Algebra.GroupWithZero.Nat
import Mathlib.Order.Interval.Finset.Nat

namespace CodeGauge.Declaration

open CodeGauge.Source

/-!
The statistics are read off the outcomes of the walk along the tokens.  What is counted is told here
without that walk, by the tokens around an index and by where the brackets behind it close; sets of indices
stand for the counters.
-/

/-! ### Candidates and their ends -/

/-- A word stands at the index. -/
def IsWordAt (tokens : List Token) (index : Nat) : Prop :=
  ∃ text line, tokens[index]? = some (.word text line)

instance (tokens : List Token) : DecidablePred (IsWordAt tokens) := fun index =>
  match found : tokens[index]? with
  | some (.word text line) => isTrue ⟨text, line, found⟩
  | some (.number ..) | some (.symbol ..) | some .invalid | none => isFalse (by simp [IsWordAt, found])

/-- The indices of the words that have a token on each side. -/
def candidates (tokens : List Token) : Finset Nat :=
  (Finset.Icc 1 (tokens.length - 2)).filter (IsWordAt tokens)

/-- The rule rejects the token at the index for what it is and for what stands beside it. -/
def RejectedAt (tokens : List Token) (index : Nat) (rule : Rule) : Prop :=
  ∃ before ∈ tokens[index - 1]?, ∃ word ∈ tokens[index]?, ∃ after ∈ tokens[index + 1]?,
    rule.rejects before word after = true

instance (tokens : List Token) (index : Nat) : DecidablePred (RejectedAt tokens index) := fun rule =>
  inferInstanceAs (Decidable (∃ before ∈ tokens[index - 1]?, ∃ word ∈ tokens[index]?,
    ∃ after ∈ tokens[index + 1]?, rule.rejects before word after = true))

/-- The rule rejects the token at the index, and no rule before it in the table does. -/
def ChargedTo (tokens : List Token) (rule : Rule) (index : Nat) : Prop :=
  RejectedAt tokens index rule ∧
    ∀ earlier ∈ Rule.all.takeWhile (fun other => other != rule), ¬ RejectedAt tokens index earlier

instance (tokens : List Token) (rule : Rule) : DecidablePred (ChargedTo tokens rule) := fun index =>
  inferInstanceAs (Decidable (RejectedAt tokens index rule ∧
    ∀ earlier ∈ Rule.all.takeWhile (fun other => other != rule), ¬ RejectedAt tokens index earlier))

/-- No rule rejects the token at the index. -/
def Accepted (tokens : List Token) (index : Nat) : Prop :=
  ∀ rule ∈ Rule.all, ¬ RejectedAt tokens index rule

instance (tokens : List Token) : DecidablePred (Accepted tokens) := fun index =>
  inferInstanceAs (Decidable (∀ rule ∈ Rule.all, ¬ RejectedAt tokens index rule))

/-- A brace opens at the index. -/
def BraceAt (tokens : List Token) (index : Nat) : Prop :=
  ∃ token ∈ tokens[index]?, token.isSymbol '{' = true

instance (tokens : List Token) : DecidablePred (BraceAt tokens) := fun index =>
  inferInstanceAs (Decidable (∃ token ∈ tokens[index]?, token.isSymbol '{' = true))

instance (opening closing : Char) (tokens : List Token) (start : Nat) :
    DecidablePred (Closes opening closing tokens start) := fun stop =>
  decidable_of_iff
    (start < stop ∧ stop < tokens.length ∧
      symbolCount opening tokens start stop = symbolCount closing tokens start stop ∧
      ∀ j < stop, start < j → symbolCount opening tokens start j ≠ symbolCount closing tokens start j)
    ⟨fun ⟨behind, inside, balanced, least⟩ =>
      ⟨behind, inside, balanced, fun j later earlier => least j earlier later⟩,
    fun closes => ⟨closes.behind, closes.inside, closes.balanced,
      fun j earlier later => closes.least j later earlier⟩⟩

/-- The parameters behind the name close, and no brace opens behind them. -/
def IsBodiless (tokens : List Token) (name : Nat) : Prop :=
  ∃ close < tokens.length, Closes '(' ')' tokens (name + 1) close ∧ ¬ BraceAt tokens (close + 1)

instance (tokens : List Token) : DecidablePred (IsBodiless tokens) := fun name =>
  inferInstanceAs (Decidable (∃ close < tokens.length,
    Closes '(' ')' tokens (name + 1) close ∧ ¬ BraceAt tokens (close + 1)))

/-- The parameters behind the name never close, or they do, a brace opens behind them, and it never
closes. -/
def IsUnclosed (tokens : List Token) (name : Nat) : Prop :=
  (∀ close < tokens.length, ¬ Closes '(' ')' tokens (name + 1) close) ∨
    ∃ close < tokens.length, Closes '(' ')' tokens (name + 1) close ∧ BraceAt tokens (close + 1) ∧
      ∀ stop < tokens.length, ¬ Closes '{' '}' tokens (close + 1) stop

instance (tokens : List Token) : DecidablePred (IsUnclosed tokens) := fun name =>
  inferInstanceAs (Decidable ((∀ close < tokens.length, ¬ Closes '(' ')' tokens (name + 1) close) ∨
    ∃ close < tokens.length, Closes '(' ')' tokens (name + 1) close ∧ BraceAt tokens (close + 1) ∧
      ∀ stop < tokens.length, ¬ Closes '{' '}' tokens (close + 1) stop))

/-- How many candidates are charged to a rule; a rule without an entry has none. -/
def Statistics.charges (s : Statistics) (rule : Rule) : Nat := (s.rejectedBy.lookup rule).getD 0

/-! ### Where brackets close -/

section Closing

variable {opening closing : Char} {tokens : List Token} {start : Nat} {token : Token}
variable (different : opening ≠ closing) (found : tokens[start]? = some token)
variable (opens : token.isSymbol opening = true)

include different found opens

/-- What is said of the index at which a bracket closes is said of what the search finds. -/
theorem exists_closes_iff {P : Nat → Prop} :
    (∃ stop < tokens.length, Closes opening closing tokens start stop ∧ P stop) ↔
      ∃ k, closing? opening closing 0 (tokens.drop (start + 1)) = some k ∧ P (k + (start + 1)) := by
  constructor
  · rintro ⟨stop, -, closes, holds⟩
    rw [closes_iff_matching? different found opens, matching?, Option.map_eq_some_iff] at closes
    obtain ⟨k, closed, rfl⟩ := closes
    exact ⟨k, closed, holds⟩
  · rintro ⟨k, closed, holds⟩
    have closes : Closes opening closing tokens start (k + (start + 1)) := by
      rw [closes_iff_matching? different found opens, matching?, closed, Option.map_some]
    exact ⟨k + (start + 1), closes.inside, closes, holds⟩

/-- A bracket never closes where the search finds nothing. -/
theorem not_closes_iff :
    (∀ stop < tokens.length, ¬ Closes opening closing tokens start stop) ↔
      closing? opening closing 0 (tokens.drop (start + 1)) = none := by
  have closed := exists_closes_iff (P := fun _ => True) different found opens
  simp only [and_true] at closed
  rw [Option.eq_none_iff_forall_ne_some, ← not_exists, ← closed]
  push Not
  exact Iff.rfl

end Closing

/-! ### The verdict on one candidate -/

section Judge

variable {index : Nat} {before word after : Token} {rest : List Token}

/-- The verdict on an accepted candidate whose parameters close. -/
theorem judge_of_closed {close : Nat} (accepted : Rule.firstRejecting? before word after = none)
    (closed : closing? '(' ')' 0 rest = some close) :
    judge index before word after rest =
      if BraceAt rest (close + 1) then
        match closing? '{' '}' 0 (rest.drop (close + 2)) with
        | none => .unresolved
        | some body =>
          .declared
            { name := index
              parameters := ⟨index + 2, index + 2 + close⟩
              body := ⟨index + 4 + close, index + 4 + close + body⟩ }
      else .bodiless := by
  unfold judge
  simp only [accepted, closed]
  cases found : rest[close + 1]? with
  | none =>
      have nothing : rest.drop (close + 1) = [] := by
        rw [List.drop_eq_nil_iff]
        exact List.getElem?_eq_none_iff.1 found
      simp [nothing, BraceAt, found]
  | some brace =>
      have told : BraceAt rest (close + 1) ↔ brace.isSymbol '{' = true := by simp [BraceAt, found]
      rw [drop_of_getElem? found]
      exact (if_congr told rfl rfl).symm

theorem judge_eq_rejected_iff {rule : Rule} :
    judge index before word after rest = .rejected rule ↔
      Rule.firstRejecting? before word after = some rule := by
  cases accepted : Rule.firstRejecting? before word after with
  | some other => simp [judge, accepted]
  | none =>
      cases closed : closing? '(' ')' 0 rest with
      | none => simp [judge, accepted, closed]
      | some close =>
          rw [judge_of_closed accepted closed]
          repeat' split
          all_goals simp

theorem judge_eq_bodiless_iff :
    judge index before word after rest = .bodiless ↔
      Rule.firstRejecting? before word after = none ∧
        ∃ close, closing? '(' ')' 0 rest = some close ∧ ¬ BraceAt rest (close + 1) := by
  cases accepted : Rule.firstRejecting? before word after with
  | some rule => simp [judge, accepted]
  | none =>
      cases closed : closing? '(' ')' 0 rest with
      | none => simp [judge, accepted, closed]
      | some close =>
          rw [judge_of_closed accepted closed]
          by_cases brace : BraceAt rest (close + 1)
          · rw [if_pos brace]
            split
            all_goals simp [brace]
          · simp [brace]

theorem judge_eq_unresolved_iff :
    judge index before word after rest = .unresolved ↔
      Rule.firstRejecting? before word after = none ∧
        (closing? '(' ')' 0 rest = none ∨
          ∃ close, closing? '(' ')' 0 rest = some close ∧ BraceAt rest (close + 1) ∧
            closing? '{' '}' 0 (rest.drop (close + 2)) = none) := by
  cases accepted : Rule.firstRejecting? before word after with
  | some rule => simp [judge, accepted]
  | none =>
      cases closed : closing? '(' ')' 0 rest with
      | none => simp [judge, accepted, closed]
      | some close =>
          rw [judge_of_closed accepted closed]
          by_cases brace : BraceAt rest (close + 1)
          · rw [if_pos brace]
            cases inside : closing? '{' '}' 0 (rest.drop (close + 2)) with
            | none => simp [brace, inside]
            | some body => simp [inside]
          · simp [brace]

end Judge

/-! ### The verdict by indices -/

/-- Every rule stands in the table. -/
theorem Rule.mem_all (rule : Rule) : rule ∈ Rule.all := by
  cases rule <;> decide

/-- What a search finds is the only member that passes of those up to it. -/
theorem find?_eq_some_iff_takeWhile {α : Type} [DecidableEq α] {p : α → Bool} {items : List α} {a : α} :
    items.find? p = some a ↔
      a ∈ items ∧ p a = true ∧ ∀ b ∈ items.takeWhile (fun b => b != a), p b = false := by
  induction items with
  | nil => simp
  | cons item items ih =>
      by_cases same : item = a
      · subst same
        cases passes : p item with
        | true => simp [passes]
        | false => simp [passes, ih]
      · cases passes : p item with
        | true => simp [passes, same]
        | false => simp [passes, same, Ne.symm same, ih]

theorem braceAt_drop {tokens : List Token} {count index : Nat} :
    BraceAt (tokens.drop count) index ↔ BraceAt tokens (count + index) := by
  rw [BraceAt, List.getElem?_drop, BraceAt]

/-- The token at the index and the ones beside it. -/
structure Neighbours (tokens : List Token) (index : Nat) (before word after : Token) : Prop where
  before_eq : tokens[index - 1]? = some before
  word_eq : tokens[index]? = some word
  after_eq : tokens[index + 1]? = some after

theorem mem_candidates_iff {tokens : List Token} {index : Nat} :
    index ∈ candidates tokens ↔
      1 ≤ index ∧ ∃ before text line after, Neighbours tokens index before (.word text line) after := by
  rw [candidates, Finset.mem_filter, Finset.mem_Icc]
  constructor
  · rintro ⟨⟨first, last⟩, text, line, wordEq⟩
    have inside := (List.getElem?_eq_some_iff.1 wordEq).1
    refine ⟨first, tokens[index - 1], text, line, tokens[index + 1], ?_, wordEq, ?_⟩
    · exact List.getElem?_eq_getElem (by omega)
    · exact List.getElem?_eq_getElem (by omega)
  · rintro ⟨first, before, text, line, after, neighbours⟩
    have inside := (List.getElem?_eq_some_iff.1 neighbours.after_eq).1
    exact ⟨⟨first, by omega⟩, text, line, neighbours.word_eq⟩

/-- A candidate is judged, and nothing else is. -/
theorem outcomeAt?_eq_some_iff_neighbours {tokens : List Token} {index : Nat} {outcome : Outcome}
    (first : 1 ≤ index) :
    outcomeAt? tokens index = some outcome ↔
      ∃ before text line after, Neighbours tokens index before (.word text line) after ∧
        judge index before (.word text line) after (tokens.drop (index + 2)) = outcome := by
  rw [outcomeAt?_eq_some_iff first]
  constructor
  · rintro ⟨before, text, line, after, beforeEq, wordEq, afterEq, judged⟩
    exact ⟨before, text, line, after, ⟨beforeEq, wordEq, afterEq⟩, judged⟩
  · rintro ⟨before, text, line, after, neighbours, judged⟩
    exact ⟨before, text, line, after, neighbours.before_eq, neighbours.word_eq, neighbours.after_eq,
      judged⟩

/-- A parenthesis opens behind an accepted candidate. -/
theorem opened_of_accepted {before word after : Token}
    (accepted : Rule.firstRejecting? before word after = none) : after.isSymbol '(' = true := by
  have passed := List.find?_eq_none.1 accepted .noParameterList (by decide)
  simpa [Rule.rejects] using passed

section Neighbours

variable {tokens : List Token} {index : Nat} {before word after : Token}
variable (neighbours : Neighbours tokens index before word after)

include neighbours

theorem rejectedAt_iff {rule : Rule} :
    RejectedAt tokens index rule ↔ rule.rejects before word after = true := by
  simp [RejectedAt, neighbours.before_eq, neighbours.word_eq, neighbours.after_eq]

theorem accepted_iff : Accepted tokens index ↔ Rule.firstRejecting? before word after = none := by
  simp only [Accepted, rejectedAt_iff neighbours, Rule.firstRejecting?, List.find?_eq_none]

/-- The rule that is charged is the first one that rejects. -/
theorem chargedTo_iff {rule : Rule} :
    ChargedTo tokens rule index ↔ Rule.firstRejecting? before word after = some rule := by
  simp only [ChargedTo, rejectedAt_iff neighbours, Rule.firstRejecting?, find?_eq_some_iff_takeWhile,
    rule.mem_all, true_and, Bool.not_eq_true]

variable (accepted : Rule.firstRejecting? before word after = none)

include accepted

theorem isBodiless_iff :
    IsBodiless tokens index ↔
      ∃ close, closing? '(' ')' 0 (tokens.drop (index + 2)) = some close ∧
        ¬ BraceAt (tokens.drop (index + 2)) (close + 1) := by
  have opened := opened_of_accepted accepted
  rw [IsBodiless, exists_closes_iff (by decide) neighbours.after_eq opened]
  simp only [braceAt_drop]
  apply exists_congr
  intro close
  have place : close + (index + 1 + 1) + 1 = index + 2 + (close + 1) := by omega
  rw [place]

theorem isUnclosed_iff :
    IsUnclosed tokens index ↔
      closing? '(' ')' 0 (tokens.drop (index + 2)) = none ∨
        ∃ close, closing? '(' ')' 0 (tokens.drop (index + 2)) = some close ∧
          BraceAt (tokens.drop (index + 2)) (close + 1) ∧
          closing? '{' '}' 0 ((tokens.drop (index + 2)).drop (close + 2)) = none := by
  have opened := opened_of_accepted accepted
  rw [IsUnclosed, not_closes_iff (by decide) neighbours.after_eq opened,
    exists_closes_iff (by decide) neighbours.after_eq opened]
  apply or_congr Iff.rfl
  apply exists_congr
  intro close
  have place : close + (index + 1 + 1) + 1 = index + 2 + (close + 1) := by omega
  rw [place, braceAt_drop, List.drop_drop]
  apply and_congr Iff.rfl
  apply and_congr_right
  rintro ⟨brace, braceEq, opens⟩
  exact not_closes_iff (by decide) braceEq opens

end Neighbours

section Verdict

variable {tokens : List Token} {index : Nat} (first : 1 ≤ index)

include first

/-- What tells a verdict on the tokens around an index tells it of the index. -/
theorem outcomeAt?_eq_some_iff_mem {outcome : Outcome} {P : Prop}
    (told : ∀ {before after : Token} {text : String} {line : Int},
      Neighbours tokens index before (.word text line) after →
        (judge index before (.word text line) after (tokens.drop (index + 2)) = outcome ↔ P)) :
    outcomeAt? tokens index = some outcome ↔ index ∈ candidates tokens ∧ P := by
  rw [outcomeAt?_eq_some_iff_neighbours first, mem_candidates_iff]
  constructor
  · rintro ⟨before, text, line, after, neighbours, judged⟩
    exact ⟨⟨first, before, text, line, after, neighbours⟩, (told neighbours).1 judged⟩
  · rintro ⟨⟨-, before, text, line, after, neighbours⟩, holds⟩
    exact ⟨before, text, line, after, neighbours, (told neighbours).2 holds⟩

theorem outcomeAt?_eq_rejected_iff {rule : Rule} :
    outcomeAt? tokens index = some (.rejected rule) ↔
      index ∈ candidates tokens ∧ ChargedTo tokens rule index := by
  apply outcomeAt?_eq_some_iff_mem first
  intro before after text line neighbours
  rw [judge_eq_rejected_iff, chargedTo_iff neighbours]

theorem outcomeAt?_eq_bodiless_iff :
    outcomeAt? tokens index = some .bodiless ↔
      index ∈ candidates tokens ∧ Accepted tokens index ∧ IsBodiless tokens index := by
  apply outcomeAt?_eq_some_iff_mem first
  intro before after text line neighbours
  rw [judge_eq_bodiless_iff, accepted_iff neighbours]
  apply and_congr_right
  intro accepted
  rw [isBodiless_iff neighbours accepted]

theorem outcomeAt?_eq_unresolved_iff :
    outcomeAt? tokens index = some .unresolved ↔
      index ∈ candidates tokens ∧ Accepted tokens index ∧ IsUnclosed tokens index := by
  apply outcomeAt?_eq_some_iff_mem first
  intro before after text line neighbours
  rw [judge_eq_unresolved_iff, accepted_iff neighbours]
  apply and_congr_right
  intro accepted
  rw [isUnclosed_iff neighbours accepted]

theorem isSome_outcomeAt?_iff : (outcomeAt? tokens index).isSome = true ↔ index ∈ candidates tokens := by
  rw [Option.isSome_iff_exists, mem_candidates_iff]
  constructor
  · rintro ⟨outcome, judged⟩
    obtain ⟨before, text, line, after, neighbours, -⟩ :=
      (outcomeAt?_eq_some_iff_neighbours first).1 judged
    exact ⟨first, before, text, line, after, neighbours⟩
  · rintro ⟨-, before, text, line, after, neighbours⟩
    exact ⟨_, (outcomeAt?_eq_some_iff_neighbours first).2 ⟨before, text, line, after, neighbours, rfl⟩⟩

end Verdict

/-! ### Counting -/

/-- The outcomes of a kind are as many as the indices that come to such an outcome. -/
theorem countP_outcomes (p : Outcome → Bool) (tokens : List Token) :
    (outcomes tokens).countP p =
      ((Finset.Icc 1 (tokens.length - 2)).filter
        (fun index => (outcomeAt? tokens index).any p = true)).card := by
  have places : (Finset.Icc 1 (tokens.length - 2)).filter
      (fun index => (outcomeAt? tokens index).any p = true) =
        ((List.range' 1 (tokens.length - 2)).filter
          (fun index => (outcomeAt? tokens index).any p)).toFinset := by
    ext index
    simp only [Finset.mem_filter, Finset.mem_Icc, List.mem_toFinset, List.mem_filter,
      List.mem_range'_1, and_congr_left_iff]
    omega
  rw [places, List.toFinset_card_of_nodup (List.Nodup.filter _ List.nodup_range'),
    ← List.countP_eq_length_filter, outcomes_eq_filterMap, List.countP_filterMap]
  congr 1
  funext index
  cases outcomeAt? tokens index with
  | none => rfl
  | some outcome => rfl

theorem card_candidates (tokens : List Token) : (outcomes tokens).length = (candidates tokens).card := by
  rw [← List.countP_true, countP_outcomes]
  congr 1
  ext index
  simp only [Finset.mem_filter, Finset.mem_Icc]
  constructor
  · rintro ⟨⟨first, -⟩, judged⟩
    apply (isSome_outcomeAt?_iff first).1
    simpa using judged
  · intro member
    have range := Finset.mem_Icc.1 (Finset.mem_filter.1 member).1
    have judged := (isSome_outcomeAt?_iff range.1).2 member
    exact ⟨range, by simpa using judged⟩

/-- What tells the candidates of an outcome tells how often it comes. -/
theorem count_outcomes {tokens : List Token} {outcome : Outcome} {P : Nat → Prop} [DecidablePred P]
    (told : ∀ {index : Nat}, 1 ≤ index →
      (outcomeAt? tokens index = some outcome ↔ index ∈ candidates tokens ∧ P index)) :
    (outcomes tokens).count outcome = ((candidates tokens).filter P).card := by
  rw [List.count_eq_countP, countP_outcomes]
  congr 1
  ext index
  simp only [Finset.mem_filter, Finset.mem_Icc, Option.any_eq_true, beq_iff_eq, exists_eq_right]
  constructor
  · rintro ⟨⟨first, -⟩, judged⟩
    exact (told first).1 judged
  · intro holds
    have range := Finset.mem_Icc.1 (Finset.mem_filter.1 holds.1).1
    exact ⟨range, (told range.1).2 holds⟩

/-- Every outcome is of one of the four kinds. -/
theorem length_eq_add (outcomes : List Outcome) :
    outcomes.length =
      outcomes.countP Outcome.isRejected + outcomes.count .bodiless + outcomes.count .unresolved +
        outcomes.countP Outcome.isDeclared := by
  induction outcomes with
  | nil => rfl
  | cons outcome outcomes ih =>
      rw [List.length_cons, List.countP_cons, List.count_cons, List.count_cons, List.countP_cons, ih]
      cases outcome with
      | rejected | unresolved | bodiless | declared =>
          simp [Outcome.isRejected, Outcome.isDeclared]
          omega

/-- Every rejection is charged to one rule. -/
theorem sum_count_rejected (outcomes : List Outcome) :
    (Rule.all.map fun rule => outcomes.count (.rejected rule)).sum =
      outcomes.countP Outcome.isRejected := by
  induction outcomes with
  | nil => rfl
  | cons outcome outcomes ih =>
      simp only [List.count_cons, List.countP_cons, List.sum_map_add, ih]
      congr 1
      cases outcome with
      | rejected rule => cases rule <;> decide
      | unresolved | bodiless | declared => simp [Outcome.isRejected, Rule.all]

theorem length_extract (tokens : List Token) :
    (extract tokens).length = (outcomes tokens).countP Outcome.isDeclared := by
  rw [extract, List.length_filterMap_eq_countP]
  congr 1
  funext outcome
  cases outcome <;> rfl

/-- Leaving out the entries of nothing leaves out nothing. -/
theorem getD_lookup_filter {α : Type} [DecidableEq α] (number : α → Nat) (keys : List α) (key : α) :
    (((keys.map fun k => (k, number k)).filter fun entry => entry.2 != 0).lookup key).getD 0 =
      if key ∈ keys then number key else 0 := by
  induction keys with
  | nil => rfl
  | cons k keys ih =>
      rw [List.map_cons]
      by_cases none : number k = 0
      · rw [List.filter_cons_of_neg (by simpa using none), ih]
        by_cases same : key = k
        · subst same
          simp [none]
        · simp [same]
      · rw [List.filter_cons_of_pos (by simpa using none), List.lookup_cons]
        by_cases same : key = k
        · subst same
          simp
        · have apart : (key == k) = false := beq_eq_false_iff_ne.2 same
          simp [apart, same, ih]

theorem charges_statistics (tokens : List Token) (rule : Rule) :
    (statistics tokens).charges rule = (outcomes tokens).count (.rejected rule) := by
  have found := getD_lookup_filter (fun rule => (outcomes tokens).count (.rejected rule)) Rule.all rule
  rw [if_pos rule.mem_all] at found
  exact found

theorem keys_rejectedBy (tokens : List Token) :
    ((statistics tokens).rejectedBy.map Prod.fst).Sublist Rule.all := by
  have kept := (List.filter_sublist (p := fun entry : Rule × Nat => entry.2 != 0)
    (l := Rule.all.map fun rule => (rule, (outcomes tokens).count (.rejected rule)))).map Prod.fst
  rw [List.map_map] at kept
  exact kept

theorem unresolved_eq_card (tokens : List Token) :
    (statistics tokens).unresolved =
      ((candidates tokens).filter fun index => Accepted tokens index ∧ IsUnclosed tokens index).card :=
  count_outcomes outcomeAt?_eq_unresolved_iff

/-- The statistics partition the candidates.  Each candidate is counted under exactly one of four ends,
and each rejected one under exactly one rule: the first of the table that rejects it.  Declared are as many
as functions are found, bodiless the accepted ones whose parameters close with no brace behind them, and
unresolved the accepted ones whose parenthesis or brace never closes. -/
theorem statistics_partition (tokens : List Token) :
    (statistics tokens).candidates = (candidates tokens).card ∧
    (statistics tokens).candidates =
      (statistics tokens).rejected + (statistics tokens).bodiless + (statistics tokens).unresolved +
        (statistics tokens).declared ∧
    (statistics tokens).declared = (extract tokens).length ∧
    (statistics tokens).rejected = (Rule.all.map (statistics tokens).charges).sum ∧
    ((statistics tokens).rejectedBy.map Prod.fst).Sublist Rule.all ∧
    (∀ rule, (statistics tokens).charges rule =
      ((candidates tokens).filter (ChargedTo tokens rule)).card) ∧
    (statistics tokens).bodiless =
      ((candidates tokens).filter fun index => Accepted tokens index ∧ IsBodiless tokens index).card ∧
    (statistics tokens).unresolved =
      ((candidates tokens).filter fun index => Accepted tokens index ∧ IsUnclosed tokens index).card := by
  refine ⟨card_candidates tokens, length_eq_add (outcomes tokens), (length_extract tokens).symm, ?_,
    keys_rejectedBy tokens, ?_, ?_, unresolved_eq_card tokens⟩
  · simp only [funext (charges_statistics tokens)]
    exact (sum_count_rejected (outcomes tokens)).symm
  · intro rule
    rw [charges_statistics]
    exact count_outcomes fun first => outcomeAt?_eq_rejected_iff first
  · exact count_outcomes outcomeAt?_eq_bodiless_iff

/-- A function without a body and one whose body never closes. -/
def unfinished : List Token :=
  [.word "void" 1, .word "run" 1, .symbol '(' 1, .symbol ')' 1, .symbol ';' 1,
    .word "int" 2, .word "size" 2, .symbol '(' 2, .symbol ')' 2, .symbol '{' 2]

example : (candidates unfinished).filter (IsBodiless unfinished) = {1} ∧
    (candidates unfinished).filter (fun i => Accepted unfinished i ∧ IsUnclosed unfinished i) = {6} ∧
    (candidates unfinished).filter (ChargedTo unfinished .noReturnType) = {5} := by
  decide

end CodeGauge.Declaration
