/-
Module: CodeGauge.Proofs.Source.Contents
Purpose: What stands inside of a comment or a literal has no influence on the tokens of a text, nor on
  what is measured of it.
Main exports:
  Unfinished, EndsOutside, segments_insert, tokensFrom_exchange, contents_not_measured
-/
import CodeGauge.Analysis.Outcome
import CodeGauge.Proofs.Source.Locality

namespace CodeGauge.Source

open CodeGauge.Text CodeGauge.Analysis
open Segment.Kind (Takes)

/-!
Two texts that differ in the inside of one comment or literal are divided alike: the same segments stand
in front of it and behind it.  Of the segment itself the tokens show its quote and its line breaks, and
nothing else.
-/

/-- A comment or literal at the end of a text that would go on in a longer text. -/
inductive Unfinished : Segment → Prop where
  | lineComment {bytes : Bytes} : Unfinished ⟨.lineComment, bytes⟩
  | blockComment {body : Bytes} (noClose : ¬ [42, 47] <:+: body) :
      Unfinished ⟨.blockComment, 47 :: 42 :: body⟩
  | literal {quote : UInt8} {body last : Bytes} (inside : Quoted quote body)
      (lastByte : last = [] ∨ last = [92]) :
      Unfinished ⟨.literal (Char.ofNat quote.toNat), quote :: (body ++ last)⟩

/-- The text ends outside of every comment and literal. -/
def EndsOutside (source : Bytes) : Prop := ∀ s ∈ (segments source).getLast?, ¬ Unfinished s

/-! ### Closed comments and literals -/

theorem not_unfinished_blockComment (body : Bytes) :
    ¬ Unfinished ⟨.blockComment, 47 :: 42 :: (body ++ [42, 47])⟩ := by
  intro unfinished
  cases unfinished with
  | blockComment noClose => exact noClose (List.suffix_append body [42, 47]).isInfix

theorem not_unfinished_literal {quote : UInt8} {body : Bytes} (isQuote : quote = 34 ∨ quote = 39)
    (inside : Quoted quote body) :
    ¬ Unfinished ⟨.literal (Char.ofNat quote.toNat), quote :: (body ++ [quote])⟩ := by
  intro unfinished
  generalize segmentEq :
    (⟨.literal (Char.ofNat quote.toNat), quote :: (body ++ [quote])⟩ : Segment) = s at unfinished
  cases unfinished with
  | lineComment => simp at segmentEq
  | blockComment => simp at segmentEq
  | literal otherInside lastByte =>
      simp only [Segment.mk.injEq, List.cons.injEq] at segmentEq
      obtain ⟨-, rfl, bodyEq⟩ := segmentEq
      rcases lastByte with rfl | rfl
      · -- if the inside went past the quote, a second quote would end two literals
        rw [List.append_nil] at bodyEq
        rw [← bodyEq] at otherInside
        have short : Takes _ (quote :: (body ++ [quote])) [quote] := .literal isQuote inside
        have long : Takes _ (quote :: (body ++ [quote] ++ [quote])) [] := .literal isQuote otherInside
        have same := (short.unique long (by simp)).2.1
        simp at same
      · have same := (List.append_inj' bodyEq rfl).2
        rw [List.cons.injEq] at same
        exact isQuote_ne_backslash isQuote same.1

theorem endsOutside_single {kind : Segment.Kind} {bytes : Bytes} (takes : Takes kind bytes [])
    (finished : ¬ Unfinished ⟨kind, bytes⟩) : EndsOutside bytes := by
  intro s final
  rw [segments_eq_single takes] at final
  cases final
  exact finished

/-! ### A segment more -/

/-- A segment at the end of a text, unless it is an unfinished comment or literal, stays as it is if a
literal or a comment follows; but a slash and a comment would be read as another comment. -/
theorem Segment.Kind.Takes.before_opening {kind : Segment.Kind} {bytes : Bytes} {b : UInt8}
    (takes : Takes kind bytes []) (finished : ¬ Unfinished ⟨kind, bytes⟩)
    (opening : b = 34 ∨ b = 39 ∨ b = 47) (noSlash : b = 47 → bytes.getLast? ≠ some 47) (more : Bytes) :
    Takes kind bytes (b :: more) := by
  have small : b.toNat < 0x80 := by rcases opening with rfl | rfl | rfl <;> decide
  have ascii : AsciiFirst (b :: more) := by
    intro first firstEq
    cases firstEq
    exact small
  cases takes with
  | lineFeed => exact .lineFeed
  | returnFeed => exact .returnFeed
  | loneReturn =>
      refine .loneReturn ?_
      rcases opening with rfl | rfl | rfl <;> simp
  | blank space noFeed noReturn => exact .blank space noFeed noReturn
  | lineComment => exact absurd .lineComment finished
  | blockComment noClose => exact .blockComment noClose
  | openComment noClose => exact absurd (.blockComment noClose) finished
  | literal isQuote inside => exact .literal isQuote inside
  | openLiteral isQuote inside lastByte => exact absurd (.literal inside lastByte) finished
  | digits digits =>
      refine .digits digits ?_
      rcases opening with rfl | rfl | rfl <;> simp [isDigitByte]
  | word begins continues =>
      refine .word begins continues fun d partOfWord front => ?_
      have own : Utf8.encodeChar (Char.ofNat b.toNat) <+: b :: more :=
        ⟨more, by rw [Utf8.encodeChar_of_ascii small]; rfl⟩
      rw [Utf8.eq_of_encodeChar_front front own] at partOfWord
      rcases opening with rfl | rfl | rfl <;> exact absurd partOfWord (by decide)
  | symbol spells noBlank noQuote noDigit noWord noComment =>
      refine .symbol (ascii.spells_append spells) noBlank noQuote noDigit noWord ?_
      rintro rfl
      have slash : bytes = [47] := eq_encodeChar_of_spells spells (by decide)
      have notSlash : b ≠ 47 := fun same => noSlash same (by rw [slash]; rfl)
      rcases opening with rfl | rfl | rfl
      · simp
      · simp
      · exact absurd rfl notSlash

/-- A comment or literal behind a text that ends outside of all others is a segment of its own, between
the segments of the text and those of what follows. -/
theorem segments_insert {front tail behind : Bytes} {kind : Segment.Kind} {b : UInt8}
    (outside : EndsOutside front) (opening : b = 34 ∨ b = 39 ∨ b = 47)
    (noSlash : b = 47 → front.getLast? ≠ some 47) (takes : Takes kind (b :: tail) behind) :
    segments (front ++ (b :: tail ++ behind)) =
      segments front ++ ⟨kind, b :: tail⟩ :: segments behind := by
  have divides := divides_segments front
  have follow : Follow (segments front) (b :: tail ++ behind) := by
    apply divides.follow.extend
    · intro first firstEq
      cases firstEq
      rcases opening with rfl | rfl | rfl <;> decide
    · intro s final
      obtain ⟨others, piecesEq⟩ := List.getLast?_eq_some_iff.1 final
      have joins := divides.joins
      have follow := divides.follow
      rw [piecesEq, joined_append, joined_cons, joined_nil, List.append_nil] at joins
      rw [piecesEq, follow_append] at follow
      apply follow.2.1.before_opening (outside s final) opening
      intro isSlash last
      apply noSlash isSlash
      rw [← joins, List.getLast?_append, last]
      rfl
  have inserted := follow.segments_append
  rwa [divides.joins, segments_of_takes takes] at inserted

/-! ### What the tokens show -/

theorem lineBreaks_blockComment (body : Bytes) :
    lineBreaks (47 :: 42 :: (body ++ [42, 47])) = lineBreaks body := by
  have inner : lineBreaks (body ++ [42, 47]) = lineBreaks body + lineBreaks [42, 47] :=
    lineBreaks_append body [42, 47] (by simp)
  have closing : lineBreaks [42, 47] = 0 := rfl
  rw [lineBreaks_cons (by simp), lineBreaks_cons (by simp), inner, closing]
  simp [breaksLine]

/-- Segments that give the same token and break as many lines can be exchanged. -/
theorem tokensFrom_exchange {s t : Segment} (sameToken : ∀ line, s.token? line = t.token? line)
    (sameLines : lineBreaks s.bytes = lineBreaks t.bytes) (line : Nat) (first second : List Segment) :
    tokensFrom line (first ++ s :: second) = tokensFrom line (first ++ t :: second) := by
  rw [tokensFrom_append, tokensFrom_append, tokensFrom, tokensFrom, sameToken, sameLines]

section Exchange

variable {front behind body other : Bytes} {quote : UInt8}

theorem tokenize_literal (outside : EndsOutside front) (isQuote : quote = 34 ∨ quote = 39)
    (inside : Quoted quote body) (otherInside : Quoted quote other) :
    tokenize (front ++ quote :: (body ++ quote :: behind)) =
      tokenize (front ++ quote :: (other ++ quote :: behind)) := by
  have opening : quote = 34 ∨ quote = 39 ∨ quote = 47 := by
    rcases isQuote with isQuote | isQuote
    · exact Or.inl isQuote
    · exact Or.inr (Or.inl isQuote)
  have noSlash : quote = 47 → front.getLast? ≠ some 47 := by
    rintro rfl
    exact absurd isQuote (by decide)
  have division : ∀ content, Quoted quote content →
      segments (front ++ quote :: (content ++ quote :: behind)) = segments front ++
        ⟨.literal (Char.ofNat quote.toNat), quote :: (content ++ [quote])⟩ :: segments behind := by
    intro content inside
    have taken : Takes (.literal (Char.ofNat quote.toNat)) (quote :: (content ++ [quote])) behind :=
      .literal isQuote inside
    simpa using segments_insert outside opening noSlash taken
  have noBreaks : ∀ content, Quoted quote content → lineBreaks (quote :: (content ++ [quote])) = 0 := by
    intro content inside
    have taken : Takes (.literal (Char.ofNat quote.toNat)) (quote :: (content ++ [quote])) [] :=
      .literal isQuote inside
    exact lineBreaks_eq_zero (taken.sameLine (by simp) (by simp))
  rw [tokenize, tokenize, division body inside, division other otherInside]
  apply tokensFrom_exchange
  · intro line
    rfl
  · rw [noBreaks body inside, noBreaks other otherInside]

theorem tokenize_blockComment (outside : EndsOutside front) (noSlash : front.getLast? ≠ some 47)
    (noClose : ¬ [42, 47] <:+: body) (otherNoClose : ¬ [42, 47] <:+: other)
    (sameLines : lineBreaks body = lineBreaks other) :
    tokenize (front ++ 47 :: 42 :: (body ++ 42 :: 47 :: behind)) =
      tokenize (front ++ 47 :: 42 :: (other ++ 42 :: 47 :: behind)) := by
  have division : ∀ content, ¬ [42, 47] <:+: content →
      segments (front ++ 47 :: 42 :: (content ++ 42 :: 47 :: behind)) = segments front ++
        ⟨.blockComment, 47 :: 42 :: (content ++ [42, 47])⟩ :: segments behind := by
    intro content noClose
    have taken : Takes .blockComment (47 :: 42 :: (content ++ [42, 47])) behind := .blockComment noClose
    simpa using segments_insert outside (Or.inr (Or.inr rfl)) (fun _ => noSlash) taken
  rw [tokenize, tokenize, division body noClose, division other otherNoClose]
  apply tokensFrom_exchange
  · intro line
    rfl
  · rw [lineBreaks_blockComment, lineBreaks_blockComment, sameLines]

end Exchange

/-- Two texts have the same tokens, and the analyser returns the same entry for both. -/
structure MeasuredAlike (path : String) (supported : Extension.Supported) (source other : Bytes) :
    Prop where
  tokens : (Buffer.ofSource path source).tokens = (Buffer.ofSource path other).tokens
  entry : ∃ entry, (Analyser.ofExtensions supported).measure path (.ok source) = .ok entry ∧
    (Analyser.ofExtensions supported).measure path (.ok other) = .ok entry

/-- What is measured of a text is read off its tokens. -/
theorem measuredAlike_of_tokenize {path : String} {supported : Extension.Supported}
    {source other : Bytes} (same : tokenize source = tokenize other) :
    MeasuredAlike path supported source other := by
  refine ⟨same, FileEntry.ofSource path source, rfl, ?_⟩
  have entryEq : FileEntry.ofSource path other = FileEntry.ofSource path source := by
    simp only [FileEntry.ofSource, Buffer.ofSource, same]
  exact congrArg Except.ok entryEq

/-- Behind a text that ends outside of all comments and literals, what a closed literal holds is not
measured, and of what a closed block comment holds only the line breaks are. -/
theorem contents_not_measured (path : String) (supported : Extension.Supported) (front behind : Bytes)
    (outside : EndsOutside front) :
    (∀ quote body other, (quote = 34 ∨ quote = 39) → Quoted quote body → Quoted quote other →
      MeasuredAlike path supported (front ++ quote :: (body ++ quote :: behind))
        (front ++ quote :: (other ++ quote :: behind))) ∧
    (front.getLast? ≠ some 47 → ∀ body other, ¬ [42, 47] <:+: body → ¬ [42, 47] <:+: other →
      lineBreaks body = lineBreaks other →
      MeasuredAlike path supported (front ++ 47 :: 42 :: (body ++ 42 :: 47 :: behind))
        (front ++ 47 :: 42 :: (other ++ 42 :: 47 :: behind))) := by
  constructor
  · intro quote body other isQuote inside otherInside
    exact measuredAlike_of_tokenize (tokenize_literal outside isQuote inside otherInside)
  · intro noSlash body other noClose otherNoClose sameLines
    exact measuredAlike_of_tokenize
      (tokenize_blockComment outside noSlash noClose otherNoClose sameLines)

/-- Behind the comment `/**/` and behind the literal `"\""`, both closed, the literals `'{\''` and `''`
are measured alike; behind the literal, so are the comments `/*\r\n"}*/` and `/*\n*/`. -/
theorem contents_not_measured_behind_closed :
    (EndsOutside [47, 42, 42, 47] ∧
      MeasuredAlike "Main.java" (.ofList []) ([47, 42, 42, 47] ++ 39 :: ([123, 92, 39] ++ 39 :: [125]))
        ([47, 42, 42, 47] ++ 39 :: ([] ++ 39 :: [125]))) ∧
    EndsOutside [34, 92, 34, 34] ∧
      MeasuredAlike "Main.java" (.ofList []) ([34, 92, 34, 34] ++ 39 :: ([123, 92, 39] ++ 39 :: [125]))
        ([34, 92, 34, 34] ++ 39 :: ([] ++ 39 :: [125])) ∧
      MeasuredAlike "Main.java" (.ofList [])
        ([34, 92, 34, 34] ++ 47 :: 42 :: ([13, 10, 34, 125] ++ 42 :: 47 :: [125]))
        ([34, 92, 34, 34] ++ 47 :: 42 :: ([10] ++ 42 :: 47 :: [125])) := by
  have brace : Quoted 39 [123, 92, 39] := .plain rfl (by decide) (by decide) (.hidden rfl .nil)
  have inside : Quoted 34 [92, 34] := .hidden rfl .nil
  have behindComment : EndsOutside [47, 42, 42, 47] :=
    endsOutside_single (.blockComment (List.infix_nil.not.2 (by decide)))
      (not_unfinished_blockComment [])
  have behindLiteral : EndsOutside [34, 92, 34, 34] :=
    endsOutside_single (.literal (Or.inl rfl) inside) (not_unfinished_literal (Or.inl rfl) inside)
  obtain ⟨afterComment, -⟩ := contents_not_measured "Main.java" (.ofList []) _ [125] behindComment
  obtain ⟨literals, comments⟩ := contents_not_measured "Main.java" (.ofList []) _ [125] behindLiteral
  refine ⟨⟨behindComment, ?_⟩, behindLiteral, ?_, ?_⟩
  · exact afterComment 39 [123, 92, 39] [] (Or.inr rfl) brace .nil
  · exact literals 39 [123, 92, 39] [] (Or.inr rfl) brace .nil
  · exact comments (by decide) [13, 10, 34, 125] [10] (by decide) (by decide) rfl

end CodeGauge.Source
