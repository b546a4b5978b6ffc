/-
Module: CodeGauge.Proofs.Source.Progress
Purpose: A scanner always comes to an answer, never reads outside of its text, gets on with every round, and
  hands out the tokens of the text one by one.
Main exports:
  Scanner.IsInside, Scanner.Passes, exists_runs_round, exists_runs_next, exists_runs_drain, runs_next_end,
  Call, Scanner.Searches, progress_of_calls
-/
import CodeGauge.Proofs.Source.Locality
import CodeGauge.Proofs.Source.Scanner
import Mathlib.Logic.Relation

namespace CodeGauge.Source

open CodeGauge.Text
open Segment.Kind (Takes)

/-!
Nothing in the definition of a scanner bounds its loops or keeps its cursor in the text.  Both come from the
grammar: at every place in the text stands a segment, and a round passes over white space and at least one
segment more, if there is one.  So the bytes that are left bound the rounds, and the tokens.
-/

namespace Scanner

variable {s t u : Scanner}

/-- The cursor is in the text, and the line is one of its lines. -/
structure IsInside (s : Scanner) : Prop where
  cursor_le : s.cursor ≤ s.source.length
  line_pos : 1 ≤ s.line

/-- From the one place to the other the scanner has passed what gives these tokens, in the same text and no
line back. -/
structure Passes (s : Scanner) (tokens : List Token) (t : Scanner) : Prop where
  source_eq : t.source = s.source
  inside : t.cursor ≤ t.source.length
  advance : s.cursor + tokens.length ≤ t.cursor
  line_le : s.line ≤ t.line
  tokens_eq : tokensFrom s.line (segments (s.source.drop s.cursor)) =
    tokens ++ tokensFrom t.line (segments (t.source.drop t.cursor))

namespace Passes

theorem refl (inside : s.cursor ≤ s.source.length) : s.Passes [] s :=
  ⟨rfl, inside, Nat.le_refl _, Nat.le_refl _, rfl⟩

theorem trans {first second : List Token} (one : s.Passes first t) (two : t.Passes second u) :
    s.Passes (first ++ second) u where
  source_eq := two.source_eq.trans one.source_eq
  inside := two.inside
  advance := by
    have := one.advance
    have := two.advance
    rw [List.length_append]
    omega
  line_le := Nat.le_trans one.line_le two.line_le
  tokens_eq := by rw [one.tokens_eq, two.tokens_eq, List.append_assoc]

theorem cursor_le {tokens : List Token} (passes : s.Passes tokens t) : s.cursor ≤ t.cursor :=
  Nat.le_trans (Nat.le_add_right _ _) passes.advance

theorem isInside {tokens : List Token} (passes : s.Passes tokens t) (inside : s.IsInside) :
    t.IsInside :=
  ⟨passes.inside, Nat.le_trans inside.line_pos passes.line_le⟩

end Passes

theorem length_token?_le (segment : Segment) (line : Nat) : (segment.token? line).toList.length ≤ 1 := by
  cases segment.token? line <;> simp

/-- Behind a segment of the grammar its token is passed, if it gives one. -/
theorem Passes.of_takes {kind : Segment.Kind} {bytes rest : Bytes} (takes : Takes kind bytes rest)
    (before : s.Before (bytes ++ rest)) :
    s.Passes (Segment.token? s.line ⟨kind, bytes⟩).toList (s.past bytes) where
  source_eq := rfl
  inside := (before.past bytes).inside
  advance := by
    have nonempty := List.length_pos_iff.2 takes.ne_nil
    have single := length_token?_le ⟨kind, bytes⟩ s.line
    simp only [past, moved]
    omega
  line_le := Nat.le_add_right _ _
  tokens_eq := by
    rw [before.rest_eq, (before.past bytes).rest_eq, segments_of_takes takes, tokensFrom]
    simp only [past, moved]
    cases Segment.token? s.line ⟨kind, bytes⟩ <;> rfl

end Scanner

/-! ### One round -/

section Rounds

variable {s : Scanner}

/-- White space is passed, up to what is not white space or to the end of the text. -/
theorem exists_runs_passBlanks {pieces : List Segment} (follow : Follow pieces [])
    (before : s.Before (joined pieces)) :
    ∃ t more, Runs Scan.passBlanks s () t ∧ s.Passes [] t ∧ Follow more [] ∧ t.Before (joined more) ∧
      ∀ p ∈ more.head?, p.kind ≠ .lineBreak ∧ p.kind ≠ .blank := by
  induction pieces generalizing s with
  | nil =>
      exact ⟨s, [], runs_passBlanks_end before, .refl before.inside, trivial, before, by simp⟩
  | cons p pieces ih =>
      obtain ⟨kind, bytes⟩ := p
      obtain ⟨takes, later⟩ := follow
      rw [List.append_nil] at takes
      rw [joined_cons] at before
      obtain ⟨t, more, runs, passes, solid⟩ := ih later (before.past bytes)
      have here := Scanner.Passes.of_takes takes before
      by_cases isBreak : kind = .lineBreak
      · subst isBreak
        exact ⟨t, more, takes.runs_passBlanks_lineBreak before runs, here.trans passes, solid⟩
      by_cases isBlank : kind = .blank
      · subst isBlank
        exact ⟨t, more, takes.runs_passBlanks_blank before runs, here.trans passes, solid⟩
      · refine ⟨s, ⟨kind, bytes⟩ :: pieces, takes.runs_passBlanks_solid isBreak isBlank before,
          .refl before.inside, ⟨?_, later⟩, before, ?_⟩
        · rwa [List.append_nil]
        · rintro p ⟨⟩
          exact ⟨isBreak, isBlank⟩

/-- The token that a round has found, if it has found one. -/
def Scan.Round.token? : Scan.Round (Option Token) → Option Token
  | .again => none
  | .found token => token

theorem Scan.Round.token?_ofToken? (token : Option Token) :
    (Scan.Round.ofToken? token).token? = token := by
  cases token <;> rfl

theorem Scan.Round.ofToken?_ne (token : Option Token) : Scan.Round.ofToken? token ≠ .found none := by
  cases token <;> simp [Scan.Round.ofToken?]

/-- A round passes white space and, unless it comes to the end of the text, the segment behind it. -/
theorem exists_runs_round (inside : s.cursor ≤ s.source.length) :
    ∃ found t, Runs Scan.round s found t ∧ s.Passes found.token?.toList t ∧
      (found = .found none → t.Before []) ∧ (found ≠ .found none → s.cursor < t.cursor) := by
  have divides := divides_segments (s.source.drop s.cursor)
  have before : s.Before (joined (segments (s.source.drop s.cursor))) := ⟨inside, divides.joins.symm⟩
  obtain ⟨t, more, runs, passes, follow, behind, solid⟩ := exists_runs_passBlanks divides.follow before
  cases more with
  | nil =>
      refine ⟨.found none, t, ?_, passes, fun _ => behind, fun found => absurd rfl found⟩
      unfold Scan.round
      apply runs.bind
      apply Runs.get.bind
      rw [if_pos (Nat.le_of_not_lt behind.not_cursor_lt)]
      exact .pure _
  | cons p more =>
      obtain ⟨kind, bytes⟩ := p
      obtain ⟨takes, -⟩ := follow
      obtain ⟨noBreak, noBlank⟩ := solid _ rfl
      rw [List.append_nil] at takes
      have here := Scanner.Passes.of_takes takes behind
      refine ⟨.ofToken? (Segment.token? t.line ⟨kind, bytes⟩), t.past bytes, ?_, ?_, ?_, fun _ => ?_⟩
      · unfold Scan.round
        apply runs.bind
        apply Runs.get.bind
        rw [if_neg (Nat.not_le_of_lt (takes.cursor_lt behind))]
        exact takes.runs_passSolid noBreak noBlank behind
      · rw [Scan.Round.token?_ofToken?]
        exact passes.trans here
      · exact fun found => absurd found (Scan.Round.ofToken?_ne _)
      · have nonempty : 0 < bytes.length := List.length_pos_iff.2 takes.ne_nil
        have low := passes.cursor_le
        simp only [Scanner.past, Scanner.moved]
        omega

/-! ### The next token, and all of them -/

/-- The search for a token ends, since each of its rounds leaves fewer bytes. -/
theorem exists_runs_next {s : Scanner} (inside : s.cursor ≤ s.source.length) :
    ∃ answer t, Runs Scan.next s answer t ∧ s.Passes answer.toList t ∧
      (answer = none → t.Before []) := by
  obtain ⟨found, t, round, passes, atEnd, further⟩ := exists_runs_round inside
  cases found with
  | again =>
      have further := further (by simp)
      have sameText := passes.source_eq
      have within := passes.inside
      obtain ⟨answer, u, runs, later, atEnd⟩ := exists_runs_next passes.inside
      exact ⟨answer, u, round.again runs, passes.trans later, atEnd⟩
  | found answer =>
      refine ⟨answer, t, round.found, passes, ?_⟩
      rintro rfl
      exact atEnd rfl
termination_by s.source.length - s.cursor
decreasing_by rw [sameText] at within ⊢; omega

theorem exists_runs_drain {s : Scanner} (inside : s.cursor ≤ s.source.length) :
    ∃ tokens t, Runs Scan.drain s tokens t ∧ s.Passes tokens t ∧ t.Before [] := by
  obtain ⟨answer, t, next, passes, atEnd⟩ := exists_runs_next inside
  cases answer with
  | none =>
      exact ⟨[], t, next.collected_nil, passes, atEnd rfl⟩
  | some token =>
      have further := passes.advance
      have sameText := passes.source_eq
      have within := passes.inside
      obtain ⟨tokens, u, runs, later, atEnd⟩ := exists_runs_drain passes.inside
      exact ⟨token :: tokens, u, next.collected_cons runs, passes.trans later, atEnd⟩
termination_by s.source.length - s.cursor
decreasing_by
  rw [Option.toList_some, List.length_singleton] at further
  rw [sameText] at within ⊢
  omega

/-- A scanner that has come to the end of its text stays there. -/
theorem runs_next_end (before : s.Before []) : Runs Scan.next s none s := by
  have round : Runs Scan.round s (.found none) s := by
    unfold Scan.round
    apply (runs_passBlanks_end before).bind
    apply Runs.get.bind
    rw [if_pos (Nat.le_of_not_lt before.not_cursor_lt)]
    exact .pure _
  exact round.found

end Rounds

/-- One by one, a scanner hands out the tokens of its text. -/
theorem runs_drain_start (source : Bytes) :
    ∃ t, Runs Scan.drain (.start source) (tokenize source) t ∧
      (Scanner.start source).Passes (tokenize source) t ∧ t.Before [] := by
  obtain ⟨tokens, t, runs, passes, atEnd⟩ := exists_runs_drain (Scanner.before_start source).inside
  have same : tokenize source = tokens := by
    have whole := passes.tokens_eq
    rw [atEnd.rest_eq, segments, tokensFrom, List.append_nil] at whole
    exact whole
  rw [same]
  exact ⟨t, runs, passes, atEnd⟩

/-! ### Calls -/

/-- What can be asked of a scanner. -/
inductive Call where
  | next
  | reset (source : Bytes)

/-- The answer to a call; there is none to a reset. -/
def Call.answer : Call → Scan (Option Token)
  | .next => Scan.next
  | .reset source => do
    modify fun s => s.reset source
    return none

/-- The answers to calls made one after another. -/
def Call.answers : List Call → Scan (List (Option Token))
  | [] => return []
  | call :: more => do return (← call.answer) :: (← answers more)

section Calls

variable {s t : Scanner}

theorem isInside_start (source : Bytes) : (Scanner.start source).IsInside :=
  ⟨Nat.zero_le _, Nat.le_refl 1⟩

theorem exists_runs_answer (inside : s.IsInside) (call : Call) :
    ∃ answer t, Runs call.answer s answer t ∧ t.IsInside := by
  cases call with
  | next =>
      obtain ⟨answer, t, runs, passes, -⟩ := exists_runs_next inside.cursor_le
      exact ⟨answer, t, runs, passes.isInside inside⟩
  | reset source => exact ⟨none, .start source, rfl, isInside_start source⟩

theorem exists_runs_answers (inside : s.IsInside) (calls : List Call) :
    ∃ answers t, Runs (Call.answers calls) s answers t ∧ t.IsInside := by
  induction calls generalizing s with
  | nil => exact ⟨[], s, .pure [], inside⟩
  | cons call more ih =>
      obtain ⟨answer, t, runs, inside⟩ := exists_runs_answer inside call
      obtain ⟨answers, u, later, inside⟩ := ih inside
      exact ⟨answer :: answers, u, runs.bind (later.bind (.pure _)), inside⟩

theorem runs_answers_end (before : s.Before []) (count : Nat) :
    Runs (Call.answers (List.replicate count .next)) s (List.replicate count none) s := by
  induction count with
  | zero => exact .pure []
  | succ count ih => exact (runs_next_end before).bind (ih.bind (.pure _))

/-- The search for the next token gets from the one place to the other, in rounds that find nothing. -/
def Scanner.Searches : Scanner → Scanner → Prop :=
  Relation.ReflTransGen fun s t => Runs Scan.round s .again t

theorem Scanner.Searches.passes (searches : s.Searches t) (inside : s.cursor ≤ s.source.length) :
    s.Passes [] t := by
  induction searches with
  | refl => exact .refl inside
  | tail _ round ih =>
      obtain ⟨found, u, runs, passes, -⟩ := exists_runs_round ih.inside
      obtain ⟨rfl, rfl⟩ := runs.unique round
      exact ih.trans passes

end Calls

/-- A scanner makes progress inside of its text.  Whatever is asked of it, it comes to an answer without a
byte from outside of the text, and its cursor is in the text, on a line.  Each round of the next search also
ends inside of the text, and further on unless it finds the end; so the search ends, further on if it finds
a token, and once it has found none it finds none until a reset.  And handing out all tokens of a text ends
with the tokens of the text, of which there are at most as many as bytes. -/
theorem progress_of_calls (source : Bytes) (calls : List Call) :
    (∃ answers s, Runs (Call.answers calls) (.start source) answers s ∧ s.IsInside ∧
      (∀ t, s.Searches t → t.IsInside ∧ ∃ found u, Runs Scan.round t found u ∧ u.IsInside ∧
        u.source = s.source ∧ (found ≠ .found none → t.cursor < u.cursor)) ∧
      ∃ answer t, Runs Scan.next s answer t ∧ s.next = (answer, t) ∧ t.IsInside ∧
        t.source = s.source ∧ (answer ≠ none → s.cursor < t.cursor) ∧
        (answer = none → ∀ count,
          Runs (Call.answers (List.replicate count .next)) t (List.replicate count none) t)) ∧
    (∃ s, Runs Scan.drain (.start source) (tokenize source) s) ∧
    (tokenize source).length ≤ source.length := by
  refine ⟨?_, ?_⟩
  · obtain ⟨answers, s, runs, inside⟩ := exists_runs_answers (isInside_start source) calls
    obtain ⟨answer, t, next, passes, atEnd⟩ := exists_runs_next inside.cursor_le
    refine ⟨answers, s, runs, inside, ?_, answer, t, next, next.perform_eq, passes.isInside inside,
      passes.source_eq, ?_, ?_⟩
    · intro t searches
      have sofar := searches.passes inside.cursor_le
      obtain ⟨found, u, round, passes, -, further⟩ := exists_runs_round sofar.inside
      exact ⟨sofar.isInside inside, found, u, round, (sofar.trans passes).isInside inside,
        (sofar.trans passes).source_eq, further⟩
    · intro isToken
      obtain ⟨token, rfl⟩ := Option.ne_none_iff_exists'.1 isToken
      exact passes.advance
    · intro none count
      exact runs_answers_end (atEnd none) count
  · obtain ⟨t, runs, passes, atEnd⟩ := runs_drain_start source
    refine ⟨⟨t, runs⟩, ?_⟩
    have count := passes.advance
    have within := passes.inside
    rw [passes.source_eq] at within
    exact Nat.le_trans (Nat.le_trans (Nat.le_add_left _ _) count) within

end CodeGauge.Source
