/-
Module: CodeGauge.Proofs.Source.Lexeme
Purpose: Where nothing is a comment or a literal, the lexemes of the tokens are the text without its white
  space.
Main exports:
  visible, lexemes, Takes.visible_eq, Follow.lexemes_eq, lexemes_of_text
-/
import CodeGauge.Proofs.Source.Locality

namespace CodeGauge.Source

open CodeGauge.Text CodeGauge.Number
open Segment.Kind (Takes)

/-!
A segment that is no comment and no literal is read by the scanner exactly as the characters of the text
are read, so the characters of the text are those of its segments.  White space gives no token, and every
other segment gives one that is written as it was read; a number only if its value has this very writing.
-/

/-- The characters that are not white space. -/
def visible (cs : List Char) : List Char := cs.filter (fun c => !isBlank c)

/-- The characters that tokens are written with, one token behind the other. -/
def lexemes (tokens : List Token) : List Char := tokens.flatMap (fun token => token.lexeme.toList)

@[simp] theorem visible_append (cs ds : List Char) : visible (cs ++ ds) = visible cs ++ visible ds :=
  List.filter_append ..

theorem visible_cons_of_blank {c : Char} (blank : isBlank c = true) (cs : List Char) :
    visible (c :: cs) = visible cs := by
  simp [visible, blank]

theorem visible_cons_of_not_blank {c : Char} (noBlank : isBlank c = false) (cs : List Char) :
    visible (c :: cs) = c :: visible cs := by
  simp [visible, noBlank]

theorem visible_eq_self {cs : List Char} (noBlank : ∀ c ∈ cs, isBlank c = false) : visible cs = cs := by
  rw [visible, List.filter_eq_self]
  intro c member
  rw [noBlank c member]
  rfl

theorem not_isBlank_of_continuesWord {c : Char} (continues : continuesWord c = true) :
    isBlank c = false := by
  rw [continuesWord, ← beginsWord, Bool.or_eq_true] at continues
  rcases continues with begins | digit
  · exact not_isBlank_of_beginsWord begins
  · exact not_isBlank_of_isDecimalDigit digit

/-- Characters that are not white space are read and stay. -/
theorem visible_decode_flatMap {cs : List Char} (noBlank : ∀ c ∈ cs, isBlank c = false) (rest : Bytes) :
    visible (Utf8.decode (cs.flatMap Utf8.encodeChar ++ rest)) = cs ++ visible (Utf8.decode rest) := by
  rw [Utf8.decode_flatMap_encodeChar_append, visible_append, visible_eq_self noBlank]

/-- A character of white space is read and dropped. -/
theorem visible_decode_of_blank {c : Char} (blank : isBlank c = true) (rest : Bytes) :
    visible (Utf8.decode (Utf8.encodeChar c ++ rest)) = visible (Utf8.decode rest) := by
  rw [Utf8.decode_encodeChar_append, visible_cons_of_blank blank]

/-- Bytes of digits are the spelling of characters that are not white space. -/
theorem exists_digit_chars {bytes : Bytes} (digits : ∀ b ∈ bytes, isDigitByte b = true) :
    ∃ cs : List Char, cs.flatMap Utf8.encodeChar = bytes ∧ ∀ c ∈ cs, isBlank c = false := by
  have small : ∀ b ∈ bytes, b.toNat < 0x80 := by
    intro b member
    have range := isDigitByte_iff.1 (digits b member)
    omega
  refine ⟨_, Utf8.flatMap_encodeChar_ascii small, ?_⟩
  intro c member
  obtain ⟨b, digit, rfl⟩ := List.mem_map.1 member
  have range := isDigitByte_iff.1 (digits b digit)
  have value := Utf8.toNat_ofNat_ascii (small b digit)
  rw [Bool.eq_false_iff, ne_eq, isBlank_ascii (by omega)]
  omega

/-! ### One segment -/

/-- The segment is no comment and no literal. -/
def Segment.IsPlain (s : Segment) : Prop :=
  (s.kind ≠ .lineComment ∧ s.kind ≠ .blockComment) ∧ ∀ quote, s.kind ≠ .literal quote

/-- If the segment is a number, the number is written with the digits that it is read from. -/
def Segment.IsReproduced (s : Segment) : Prop :=
  s.kind = .digits →
    (Binary64.ofDigits (Utf8.decode s.bytes)).write Binary64.plainStyle = Utf8.decodeText s.bytes

/-- The characters of a segment's token, if it gives one. -/
def Segment.lexeme (s : Segment) : List Char := lexemes (s.token? 1).toList

theorem lexemes_token? (s : Segment) (line : Nat) : lexemes (s.token? line).toList = s.lexeme := by
  obtain ⟨kind, bytes⟩ := s
  cases kind <;> rfl

/-- What is visible in front of the rest of a text is written by the token of the segment there. -/
theorem Segment.Kind.Takes.visible_eq {kind : Segment.Kind} {bytes rest : Bytes}
    (takes : Takes kind bytes rest) (plain : (⟨kind, bytes⟩ : Segment).IsPlain)
    (reproduced : (⟨kind, bytes⟩ : Segment).IsReproduced) :
    visible (Utf8.decode (bytes ++ rest)) =
      Segment.lexeme ⟨kind, bytes⟩ ++ visible (Utf8.decode rest) := by
  cases takes with
  | lineFeed => exact visible_decode_of_blank (c := '\n') rfl rest
  | returnFeed =>
      exact (visible_decode_of_blank (c := '\r') rfl (10 :: rest)).trans
        (visible_decode_of_blank (c := '\n') rfl rest)
  | loneReturn => exact visible_decode_of_blank (c := '\r') rfl rest
  | blank space => exact visible_decode_of_blank space rest
  | lineComment => exact absurd rfl plain.1.1
  | blockComment | openComment => exact absurd rfl plain.1.2
  | literal | openLiteral => exact absurd rfl (plain.2 _)
  | digits digits ends =>
      obtain ⟨cs, spelling, noBlank⟩ := exists_digit_chars digits
      have written := reproduced rfl
      rw [← spelling] at written ⊢
      simp only [Utf8.decodeText, Utf8.decode_flatMap_encodeChar] at written
      rw [visible_decode_flatMap noBlank]
      simp only [Segment.lexeme, lexemes, Segment.token?, Option.toList_some, List.flatMap_singleton,
        Token.lexeme, Utf8.decode_flatMap_encodeChar, written, String.toList_ofList]
  | word begins continues ends =>
      rename_i c cs
      have noBlank : ∀ d ∈ c :: cs, isBlank d = false := by
        intro d member
        rcases List.mem_cons.1 member with rfl | member
        · exact not_isBlank_of_beginsWord begins
        · exact not_isBlank_of_continuesWord (continues d member)
      rw [visible_decode_flatMap noBlank]
      simp only [Segment.lexeme, lexemes, Segment.token?, Option.toList_some, List.flatMap_singleton,
        Token.lexeme, Utf8.decodeText, Utf8.decode_flatMap_encodeChar, String.toList_ofList]
  | symbol spells noBlank =>
      rw [spells.decode_append, visible_cons_of_not_blank noBlank]
      simp only [Segment.lexeme, lexemes, Segment.token?, Option.toList_some, List.flatMap_singleton,
        Token.lexeme, String.toList_singleton, List.singleton_append]

/-! ### All segments -/

theorem lexemes_tokensFrom (line : Nat) (pieces : List Segment) :
    lexemes (tokensFrom line pieces) = pieces.flatMap Segment.lexeme := by
  induction pieces generalizing line with
  | nil => rfl
  | cons s pieces ih =>
      rw [List.flatMap_cons, ← ih (line + lineBreaks s.bytes), ← lexemes_token? s line, tokensFrom]
      cases s.token? line with
      | none => rfl
      | some token => exact congrArg (· ++ _) (List.append_nil _).symm

/-- What plain segments show is written by their tokens. -/
theorem Follow.visible_eq {pieces : List Segment} {rest : Bytes} (follow : Follow pieces rest)
    (plain : ∀ s ∈ pieces, s.IsPlain) (reproduced : ∀ s ∈ pieces, s.IsReproduced) :
    visible (Utf8.decode (joined pieces ++ rest)) =
      pieces.flatMap Segment.lexeme ++ visible (Utf8.decode rest) := by
  induction pieces with
  | nil => rfl
  | cons s pieces ih =>
      have later := ih follow.2 (fun t member => plain t (List.mem_cons_of_mem s member))
        (fun t member => reproduced t (List.mem_cons_of_mem s member))
      have first := follow.1.visible_eq (plain s List.mem_cons_self) (reproduced s List.mem_cons_self)
      rw [joined_cons, List.append_assoc, first, later, List.flatMap_cons, List.append_assoc]

/-- In a text without quotes and openings of comments all segments are plain. -/
theorem isPlain_of_mem_segments {text : String} (noQuote : '"' ∉ text.toList ∧ '\'' ∉ text.toList)
    (noComment : ¬ ['/', '/'] <:+: text.toList ∧ ¬ ['/', '*'] <:+: text.toList) {s : Segment}
    (member : s ∈ segments (Utf8.encode text)) : s.IsPlain := by
  obtain ⟨within, rest, takes⟩ := mem_segments_takes member
  have found {c : Char} {cs : List Char} (small : c.toNat < 0x80)
      (front : (c :: cs).flatMap Utf8.encodeChar <+: s.bytes) : c :: cs <:+: text.toList :=
    Utf8.infix_of_flatMap_encodeChar small (front.isInfix.trans within)
  obtain ⟨kind, bytes⟩ := s
  refine ⟨⟨?_, ?_⟩, ?_⟩
  · rintro rfl
    cases takes with
    | lineComment => exact noComment.1 (found (by decide) ⟨_, rfl⟩)
  · rintro rfl
    cases takes with
    | blockComment | openComment => exact noComment.2 (found (by decide) ⟨_, rfl⟩)
  · rintro quote rfl
    cases takes with
    | literal isQuote | openLiteral isQuote =>
        rcases isQuote with rfl | rfl
        · have quoted : ['"'] <:+: text.toList := found (by decide) ⟨_, rfl⟩
          exact noQuote.1 (quoted.mem List.mem_cons_self)
        · have quoted : ['\''] <:+: text.toList := found (by decide) ⟨_, rfl⟩
          exact noQuote.2 (quoted.mem List.mem_cons_self)

/-- The tokens cover the text.  In a text without quotes and without openings of comments, in which every
number is written with the digits that it is read from, the lexemes of the tokens are together the text
with its white space left out. -/
theorem lexemes_of_text (path : String) (text : String)
    (noQuote : '"' ∉ text.toList ∧ '\'' ∉ text.toList)
    (noComment : ¬ ['/', '/'] <:+: text.toList ∧ ¬ ['/', '*'] <:+: text.toList)
    (reproduced : ∀ s ∈ segments (Utf8.encode text), s.kind = .digits →
      (Binary64.ofDigits (Utf8.decode s.bytes)).write Binary64.plainStyle = Utf8.decodeText s.bytes) :
    String.join ((Buffer.ofSource path (Utf8.encode text)).tokens.map Token.lexeme) =
      String.ofList (text.toList.filter (fun c => !isBlank c)) := by
  have divides := divides_segments (Utf8.encode text)
  have shown := divides.follow.visible_eq (fun s => isPlain_of_mem_segments noQuote noComment) reproduced
  have written : (String.join ((tokenize (Utf8.encode text)).map Token.lexeme)).toList =
      lexemes (tokenize (Utf8.encode text)) := by
    rw [String.toList_join, List.flatMap_map]
    rfl
  rw [← String.toList_inj, String.toList_ofList]
  calc (String.join ((tokenize (Utf8.encode text)).map Token.lexeme)).toList
    _ = (segments (Utf8.encode text)).flatMap Segment.lexeme := by
        rw [written, tokenize, lexemes_tokensFrom]
    _ = visible (Utf8.decode (Utf8.encode text)) := by
        rw [divides.joins, List.append_nil, Utf8.decode] at shown
        rw [shown]
        exact (List.append_nil _).symm
    _ = visible text.toList := by
        rw [Utf8.encode, Utf8.decode_flatMap_encodeChar]

/-- A word with an umlaut, a slash that opens no comment, a number with a zero at its end, a digit that is
not of ASCII, and as white space a next-line control, a tab and a carriage return. -/
def coveredText : String := "größe_1 /\u0085 420\t٣\r;"

theorem lexemes_of_coveredText :
    ('"' ∉ coveredText.toList ∧ '\'' ∉ coveredText.toList) ∧
    (¬ ['/', '/'] <:+: coveredText.toList ∧ ¬ ['/', '*'] <:+: coveredText.toList) ∧
    (∀ s ∈ segments (Utf8.encode coveredText), s.kind = .digits →
      (Binary64.ofDigits (Utf8.decode s.bytes)).write Binary64.plainStyle = Utf8.decodeText s.bytes) ∧
    String.join ((Buffer.ofSource "a.c" (Utf8.encode coveredText)).tokens.map Token.lexeme) =
      "größe_1/420٣;" := by
  have noQuote : '"' ∉ coveredText.toList ∧ '\'' ∉ coveredText.toList := by decide +kernel
  have noComment : ¬ ['/', '/'] <:+: coveredText.toList ∧ ¬ ['/', '*'] <:+: coveredText.toList := by
    decide +kernel
  have reproduced : ∀ s ∈ segments (Utf8.encode coveredText), s.kind = .digits →
      (Binary64.ofDigits (Utf8.decode s.bytes)).write Binary64.plainStyle = Utf8.decodeText s.bytes := by
    decide +kernel
  refine ⟨noQuote, noComment, reproduced, ?_⟩
  exact (lexemes_of_text "a.c" coveredText noQuote noComment reproduced).trans (by decide +kernel)

end CodeGauge.Source
