/-
Module: CodeGauge.Proofs.Source.LineFeed
Purpose: A line feed divides a text: the tokens in front of it and behind it are those of the two parts,
  each read by itself.
Main exports:
  EndsInComment, Takes.before_lineFeed, exists_division_at_lineFeed, lineBehind_eq, Token.below,
  tokensFrom_below, tokenize_at_lineFeed
-/
import CodeGauge.Proofs.Source.Line

namespace CodeGauge.Source

open CodeGauge.Text
open Segment.Kind (Takes)

/-!
What would go on behind the end of a text does not go on behind a line feed, a block comment apart.  So a
text and a line feed are divided like the text alone, but for a carriage return at its end, which the line
feed joins; and what is behind the line feed is divided as if nothing were in front of it.
-/

/-- The text ends inside of a block comment that is never closed. -/
def EndsInComment (source : Bytes) : Prop :=
  ∃ body, (segments source).getLast? = some ⟨.blockComment, 47 :: 42 :: body⟩ ∧ ¬ [42, 47] <:+: body

/-! ### The segments in front of a line feed -/

/-- A segment at the end of a text stays as it is in front of a line feed, unless it is an open block
comment or a carriage return. -/
theorem Segment.Kind.Takes.before_lineFeed {kind : Segment.Kind} {bytes : Bytes}
    (takes : Takes kind bytes [])
    (closed : ∀ body, kind = .blockComment → bytes = 47 :: 42 :: body → [42, 47] <:+: body)
    (noReturn : bytes ≠ [13]) (more : Bytes) : Takes kind bytes (10 :: more) := by
  have ascii : AsciiFirst (10 :: more) := by
    intro first firstEq
    cases firstEq
    decide
  have ends : AtLineEnd (10 :: more) := by
    intro first firstEq
    cases firstEq
    rfl
  cases takes with
  | lineFeed => exact .lineFeed
  | returnFeed => exact .returnFeed
  | loneReturn => exact absurd rfl noReturn
  | blank space noFeed notReturn => exact .blank space noFeed notReturn
  | lineComment sameLine => exact .lineComment sameLine ends
  | blockComment noClose => exact .blockComment noClose
  | openComment noClose => exact absurd (closed _ rfl rfl) noClose
  | literal isQuote inside => exact .literal isQuote inside
  | openLiteral isQuote inside lastByte => exact .openLiteral isQuote inside lastByte ends
  | digits digits =>
      refine .digits digits ?_
      simp [isDigitByte]
  | word begins continues =>
      refine .word begins continues fun d partOfWord front => ?_
      have feed : Utf8.encodeChar '\n' <+: 10 :: more := ⟨more, rfl⟩
      rw [Utf8.eq_of_encodeChar_front front feed] at partOfWord
      exact absurd partOfWord (by decide)
  | symbol spells noBlank noQuote noDigit noWord =>
      refine .symbol (ascii.spells_append spells) noBlank noQuote noDigit noWord ?_
      simp

/-- Segments with something behind them stay as they are when the text goes on. -/
theorem Follow.append_rest {pieces : List Segment} {rest more : Bytes} (follow : Follow pieces rest)
    (nonempty : rest ≠ []) (ascii : AsciiFirst more) : Follow pieces (rest ++ more) := by
  induction pieces with
  | nil => trivial
  | cons s pieces ih =>
      refine ⟨?_, ih follow.2⟩
      rw [← List.append_assoc]
      exact follow.1.extend (List.append_ne_nil_of_right_ne_nil _ nonempty) ascii

section Division

variable {front : Bytes}

/-- Behind a text that ends in a carriage return, the line feed belongs to it. -/
theorem segments_of_last_return {kept : List Segment}
    (division : segments front = kept ++ [⟨.lineBreak, [13]⟩]) (behind : Bytes) :
    segments (front ++ 10 :: behind) = kept ++ ⟨.lineBreak, [13, 10]⟩ :: segments behind := by
  have divides := divides_segments front
  have follow := divides.follow
  have joins := divides.joins
  rw [division, follow_append] at follow
  rw [division, joined_append] at joins
  have longer : Follow kept ([13] ++ 10 :: behind) := by
    apply follow.1.append_rest (List.cons_ne_nil _ _)
    intro first firstEq
    cases firstEq
    decide
  have taken : segments ([13, 10] ++ behind) = ⟨.lineBreak, [13, 10]⟩ :: segments behind :=
    segments_of_takes .returnFeed
  rw [← joins, List.append_assoc]
  exact longer.segments_append.trans (congrArg (kept ++ ·) taken)

/-- Behind any other text that does not end in a comment, the line feed is a segment of its own. -/
theorem segments_of_no_last_return (closed : ¬ EndsInComment front)
    (noReturn : (segments front).getLast? ≠ some ⟨.lineBreak, [13]⟩) (behind : Bytes) :
    segments (front ++ 10 :: behind) = segments front ++ ⟨.lineBreak, [10]⟩ :: segments behind := by
  have divides := divides_segments front
  have follow : Follow (segments front) (10 :: behind) := by
    apply divides.follow.extend
    · intro first firstEq
      cases firstEq
      decide
    · intro s final
      obtain ⟨others, piecesEq⟩ := List.getLast?_eq_some_iff.1 final
      have follow := divides.follow
      rw [piecesEq, follow_append] at follow
      have takes : s.kind.Takes s.bytes [] := follow.2.1
      obtain ⟨kind, bytes⟩ := s
      apply takes.before_lineFeed
      · intro body kindEq bytesEq
        by_contra noClose
        cases kindEq
        cases bytesEq
        exact closed ⟨body, final, noClose⟩
      · rintro rfl
        -- a carriage return at the end of a text can only be a line break
        have isBreak : kind = .lineBreak := (takes.unique (.loneReturn (by simp)) rfl).1
        exact noReturn (isBreak ▸ final)
  have taken : segments ([10] ++ behind) = ⟨.lineBreak, [10]⟩ :: segments behind :=
    segments_of_takes .lineFeed
  have whole := follow.segments_append
  rw [divides.joins] at whole
  exact whole.trans (congrArg (segments front ++ ·) taken)

/-- A line feed ends a line break behind which the text is divided by itself, and the segments in front of
this line break give the tokens of the text in front of the line feed. -/
theorem exists_division_at_lineFeed (closed : ¬ EndsInComment front) :
    ∃ kept last, tokensFrom 1 kept = tokenize front ∧
      ∀ behind, segments (front ++ 10 :: behind) = kept ++ ⟨.lineBreak, last⟩ :: segments behind := by
  by_cases last : (segments front).getLast? = some ⟨.lineBreak, [13]⟩
  · obtain ⟨kept, division⟩ := List.getLast?_eq_some_iff.1 last
    refine ⟨kept, [13, 10], ?_, segments_of_last_return division⟩
    rw [tokenize, division, tokensFrom_append]
    exact (List.append_nil _).symm
  · exact ⟨segments front, [10], rfl, segments_of_no_last_return closed last⟩

end Division

/-! ### Lines behind a line feed -/

/-- The line reached behind segments is told by the line breaks of their text. -/
theorem Follow.lineBehind_eq {pieces : List Segment} {rest : Bytes} (follow : Follow pieces rest)
    (line : Nat) : lineBehind line pieces = line + lineBreaks (joined pieces) := by
  induction pieces generalizing line with
  | nil => rfl
  | cons s pieces ih =>
      obtain ⟨takes, follow⟩ := follow
      have apart : s.bytes.getLast? = some 13 → (joined pieces).head? ≠ some 10 := by
        intro last first
        apply takes.apart last
        rw [List.head?_append, first]
        rfl
      rw [joined_cons, lineBreaks_append _ _ apart, ← Nat.add_assoc]
      exact ih follow _

/-- The token, some lines further down. -/
def Token.below (lines : Nat) : Token → Token
  | .word text line => .word text (line + lines)
  | .number value line => .number value (line + lines)
  | .symbol char line => .symbol char (line + lines)
  | .invalid => .invalid

theorem token?_below (s : Segment) (line lines : Nat) :
    s.token? (line + lines) = (s.token? line).map (Token.below lines) := by
  obtain ⟨kind, bytes⟩ := s
  cases kind with
  | lineBreak | blank | lineComment | blockComment => rfl
  | literal | digits | word | symbol => simp [Segment.token?, Token.below]

/-- Segments that start some lines further down give the same tokens as many lines further down. -/
theorem tokensFrom_below (line lines : Nat) (pieces : List Segment) :
    tokensFrom (line + lines) pieces = (tokensFrom line pieces).map (Token.below lines) := by
  induction pieces generalizing line with
  | nil => rfl
  | cons s pieces ih =>
      have later := ih (line + lineBreaks s.bytes)
      rw [Nat.add_right_comm] at later
      rw [tokensFrom, tokensFrom, token?_below, later]
      cases s.token? line with
      | none => rfl
      | some token => rfl

/-- Reading tokens respects line feeds.  The tokens of two texts with a line feed between them, of which
the first does not end in a block comment, are those of the first and behind them those of the second, as
many lines further down as there are line breaks in the first text with the line feed. -/
theorem tokenize_at_lineFeed (path : String) (front behind : Bytes) (closed : ¬ EndsInComment front) :
    (Buffer.ofSource path (front ++ 10 :: behind)).tokens =
      (Buffer.ofSource path front).tokens ++
        (Buffer.ofSource path behind).tokens.map
          (Token.below (breaksBefore (front ++ [10]) (front ++ [10]).length)) := by
  obtain ⟨kept, last, inFront, division⟩ := exists_division_at_lineFeed closed
  have divides := divides_segments (front ++ [10])
  have alone : segments (front ++ [10]) = kept ++ [⟨.lineBreak, last⟩] := by
    rw [division, segments]
  have reached := divides.follow.lineBehind_eq 1
  rw [divides.joins, alone] at reached
  rw [breaksBefore_length]
  calc tokenize (front ++ 10 :: behind)
    _ = tokensFrom 1 ((kept ++ [⟨.lineBreak, last⟩]) ++ segments behind) := by
        rw [tokenize, division, List.append_assoc, List.singleton_append]
    _ = tokensFrom 1 kept ++ tokensFrom (1 + lineBreaks (front ++ [10])) (segments behind) := by
        rw [tokensFrom_append, reached, tokensFrom_append]
        exact congrArg (· ++ _) (List.append_nil _)
    _ = tokenize front ++ (tokenize behind).map (Token.below (lineBreaks (front ++ [10]))) := by
        rw [inFront, tokensFrom_below]
        rfl

/-- A text of one segment that is no block comment does not end in one. -/
theorem not_endsInComment_single {kind : Segment.Kind} {bytes : Bytes} (takes : Takes kind bytes [])
    (noComment : kind ≠ .blockComment) : ¬ EndsInComment bytes := by
  rintro ⟨body, final, -⟩
  rw [segments_eq_single takes] at final
  cases final
  exact noComment rfl

/-- The literal `"a\`, cut off behind its backslash, and a lone carriage return, each in front of a line
feed and `"b`. -/
theorem tokenize_at_lineFeed_cut_off :
    (¬ EndsInComment [34, 97, 92] ∧
      tokenize ([34, 97, 92] ++ 10 :: [34, 98]) = [.symbol '"' 1, .symbol '"' 2]) ∧
    ¬ EndsInComment [13] ∧ tokenize ([13] ++ 10 :: [34, 98]) = [.symbol '"' 2] := by
  have inside : Quoted 34 [97] := .plain rfl (by decide) (by decide) .nil
  have literal : Takes (.literal '"') [34, 97, 92] [] :=
    .openLiteral (Or.inl rfl) inside (Or.inr rfl) (by simp [AtLineEnd])
  have inLiteral : ¬ EndsInComment [34, 97, 92] := not_endsInComment_single literal (by simp)
  have inReturn : ¬ EndsInComment [13] := not_endsInComment_single (.loneReturn (by simp)) (by simp)
  refine ⟨⟨inLiteral, ?_⟩, inReturn, ?_⟩
  · exact (tokenize_at_lineFeed "a.c" _ [34, 98] inLiteral).trans (by decide +kernel)
  · exact (tokenize_at_lineFeed "a.c" _ [34, 98] inReturn).trans (by decide +kernel)

end CodeGauge.Source
