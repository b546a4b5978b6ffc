/-
Module: CodeGauge.Proofs.Source.Division
Purpose: Every text is divided into segments in exactly one way, and its tokens are those of the
  segments, each on the line that the text in front of it has reached.
Main exports:
  Follow, Divides, divides_iff, placed, Gives, tokens_given, existsUnique_division
-/
import CodeGauge.Proofs.Source.Grammar
import CodeGauge.Source.Buffer
import Mathlib.Data.List.Forall2

namespace CodeGauge.Source

open CodeGauge.Text CodeGauge.Number
open Segment.Kind (Takes)

/-!
The rules of the grammar speak of one segment and the text behind it.  Here segments are lined up: the
text behind one of them is made of the others and of what follows all of them.
-/

/-- The bytes of consecutive segments. -/
def joined (pieces : List Segment) : Bytes := pieces.flatMap Segment.bytes

/-- The segments stand one behind the other, each by a rule of the grammar, in a text that goes on with
`rest`. -/
def Follow : List Segment → Bytes → Prop
  | [], _ => True
  | s :: more, rest => s.kind.Takes s.bytes (joined more ++ rest) ∧ Follow more rest

/-- The segments divide the text: together they are the text, and each follows the grammar. -/
structure Divides (pieces : List Segment) (source : Bytes) : Prop where
  joins : joined pieces = source
  follow : Follow pieces []

@[simp] theorem joined_nil : joined [] = [] := rfl

@[simp] theorem joined_cons (s : Segment) (more : List Segment) :
    joined (s :: more) = s.bytes ++ joined more := rfl

@[simp] theorem joined_append (first second : List Segment) :
    joined (first ++ second) = joined first ++ joined second :=
  List.flatMap_append

theorem follow_append {first second : List Segment} {rest : Bytes} :
    Follow (first ++ second) rest ↔ Follow first (joined second ++ rest) ∧ Follow second rest := by
  induction first with
  | nil => simp [Follow]
  | cons s more ih => simp [Follow, ih, and_assoc]

theorem Follow.bytes_ne_nil {pieces : List Segment} {rest : Bytes} (follow : Follow pieces rest) :
    ∀ s ∈ pieces, s.bytes ≠ [] := by
  induction pieces with
  | nil => simp
  | cons s more ih =>
      intro t member
      rcases List.mem_cons.1 member with rfl | member
      · exact follow.1.ne_nil
      · exact ih follow.2 t member

/-! ### Exactly one division -/

theorem segments_of_takes {kind : Segment.Kind} {bytes rest : Bytes} (takes : Takes kind bytes rest) :
    segments (bytes ++ rest) = ⟨kind, bytes⟩ :: segments rest := by
  obtain ⟨a, tail, rfl⟩ := List.exists_cons_of_ne_nil takes.ne_nil
  rw [List.cons_append, segments, takes.classify_eq]
  simp

/-- Segments that follow the grammar are found again, whatever stands behind them. -/
theorem Follow.segments_append {pieces : List Segment} {rest : Bytes} (follow : Follow pieces rest) :
    segments (joined pieces ++ rest) = pieces ++ segments rest := by
  induction pieces with
  | nil => simp
  | cons s more ih =>
      rw [joined_cons, List.append_assoc, segments_of_takes follow.1, ih follow.2, List.cons_append]

theorem divides_segments (source : Bytes) : Divides (segments source) source := by
  fun_induction segments source with
  | case1 => exact ⟨rfl, trivial⟩
  | case2 a rest ih =>
      have takes := takes_classify a rest
      have positive := classify_size_pos a rest
      have whole : (a :: rest).take (classify a rest).2 ++ rest.drop ((classify a rest).2 - 1)
          = a :: rest := by
        obtain ⟨size, sizeEq⟩ := Nat.exists_eq_succ_of_ne_zero (Nat.pos_iff_ne_zero.1 positive)
        rw [sizeEq]
        simp
      refine ⟨by rw [joined_cons, ih.joins]; exact whole, ?_, ih.follow⟩
      rw [ih.joins, List.append_nil]
      exact takes

theorem divides_iff {pieces : List Segment} {source : Bytes} :
    Divides pieces source ↔ pieces = segments source := by
  constructor
  · rintro ⟨rfl, follow⟩
    have found := follow.segments_append
    rw [List.append_nil] at found
    rw [found, segments, List.append_nil]
  · rintro rfl
    exact divides_segments source

/-! ### Lines -/

theorem lineBreaks_cons {b : UInt8} {rest : Bytes} (notPair : b = 13 → rest.head? ≠ some 10) :
    lineBreaks (b :: rest) = (if breaksLine b = true then 1 else 0) + lineBreaks rest := by
  rw [lineBreaks.eq_3]
  · split <;> omega
  · intro tail first next
    exact notPair first (by rw [next]; rfl)

/-- Line breaks of two texts add up, unless the one ends and the other begins inside a `\r\n`. -/
theorem lineBreaks_append (first second : Bytes)
    (apart : first.getLast? = some 13 → second.head? ≠ some 10) :
    lineBreaks (first ++ second) = lineBreaks first + lineBreaks second := by
  match first with
  | [] => simp [lineBreaks]
  | b :: rest =>
      have later : rest.getLast? = some 13 → second.head? ≠ some 10 := by
        intro last
        apply apart
        simp [List.getLast?_cons, last]
      by_cases pair : b = 13 ∧ rest.head? = some 10
      · obtain ⟨rfl, next⟩ := pair
        obtain ⟨rest, rfl⟩ := List.head?_eq_some_iff.1 next
        have later : rest.getLast? = some 13 → second.head? ≠ some 10 := by
          intro last
          apply apart
          simp [List.getLast?_cons, last]
        rw [List.cons_append, List.cons_append, lineBreaks, lineBreaks,
          lineBreaks_append rest second later]
        omega
      · have notPair : b = 13 → rest.head? ≠ some 10 := fun one two => pair ⟨one, two⟩
        have notPairJoined : b = 13 → (rest ++ second).head? ≠ some 10 := by
          intro one
          cases rest with
          | nil => exact apart (by rw [one]; rfl)
          | cons c rest => exact notPair one
        rw [List.cons_append, lineBreaks_cons notPairJoined, lineBreaks_cons notPair,
          lineBreaks_append rest second later]
        omega

theorem lineBreaks_eq_zero {bytes : Bytes} (sameLine : ∀ b ∈ bytes, breaksLine b = false) :
    lineBreaks bytes = 0 := by
  induction bytes with
  | nil => rfl
  | cons b bytes ih =>
      have first := sameLine b List.mem_cons_self
      have notReturn : b = 13 → bytes.head? ≠ some 10 := by
        rintro rfl
        exact absurd first (by decide)
      have later := ih fun c member => sameLine c (List.mem_cons_of_mem b member)
      rw [lineBreaks_cons notReturn, first, later]
      rfl

theorem Quoted.sameLine {quote : UInt8} {body : Bytes} (inside : Quoted quote body) :
    ∀ b ∈ body, breaksLine b = false := by
  induction inside with
  | nil => simp
  | plain sameLine _ _ _ ih =>
      intro b member
      rcases List.mem_cons.1 member with rfl | member
      · exact sameLine
      · exact ih b member
  | hidden sameLine _ ih =>
      intro b member
      rcases List.mem_cons.1 member with rfl | member
      · rfl
      · rcases List.mem_cons.1 member with rfl | member
        · exact sameLine
        · exact ih b member

private theorem isBlank_of_breaksLine {b : UInt8} (breaks : breaksLine b = true) :
    b.toNat < 0x80 ∧ (Char.ofNat b.toNat = '\n' ∨ Char.ofNat b.toNat = '\r') := by
  simp only [breaksLine, Bool.or_eq_true, beq_iff_eq] at breaks
  rcases breaks with rfl | rfl <;> decide

/-- Only line breaks and block comments hold bytes that break a line. -/
theorem Segment.Kind.Takes.sameLine {kind : Segment.Kind} {bytes rest : Bytes}
    (takes : Takes kind bytes rest) (noBreak : kind ≠ .lineBreak) (noBlock : kind ≠ .blockComment) :
    ∀ b ∈ bytes, breaksLine b = false := by
  intro b member
  rw [Bool.eq_false_iff]
  intro breaks
  obtain ⟨small, char⟩ := isBlank_of_breaksLine breaks
  cases takes with
  | lineFeed | returnFeed | loneReturn => exact noBreak rfl
  | blockComment | openComment => exact noBlock rfl
  | blank space noFeed noReturn =>
      obtain ⟨-, rfl⟩ := Utf8.encodeChar_of_mem_ascii member small
      rcases char with feed | ret
      · exact noFeed feed
      · exact noReturn ret
  | lineComment sameLine ends =>
      simp only [List.mem_cons] at member
      rcases member with rfl | rfl | member
      · exact absurd breaks (by decide)
      · exact absurd breaks (by decide)
      · exact Bool.eq_false_iff.1 (sameLine b member) breaks
  | literal isQuote inside =>
      simp only [List.mem_cons, List.mem_append, List.not_mem_nil, or_false] at member
      rcases member with rfl | member | rfl
      · exact Bool.eq_false_iff.1 (isQuote_sameLine isQuote) breaks
      · exact Bool.eq_false_iff.1 (inside.sameLine b member) breaks
      · exact Bool.eq_false_iff.1 (isQuote_sameLine isQuote) breaks
  | openLiteral isQuote inside lastByte ends =>
      simp only [List.mem_cons, List.mem_append] at member
      rcases member with rfl | member | member
      · exact Bool.eq_false_iff.1 (isQuote_sameLine isQuote) breaks
      · exact Bool.eq_false_iff.1 (inside.sameLine b member) breaks
      · rcases lastByte with rfl | rfl
        · simp at member
        · rw [List.mem_singleton] at member
          subst member
          exact absurd breaks (by decide)
  | digits digits ends =>
      have digit := isDigitByte_iff.1 (digits b member)
      simp only [breaksLine, Bool.or_eq_true, beq_iff_eq] at breaks
      rcases breaks with rfl | rfl
      · exact absurd digit (by decide)
      · exact absurd digit (by decide)
  | word begins continues ends =>
      have partOfWord := continuesWord_of_mem_word begins continues member small
      rcases char with feed | ret
      · rw [feed] at partOfWord
        exact absurd partOfWord (by decide)
      · rw [ret] at partOfWord
        exact absurd partOfWord (by decide)
  | symbol spells noBlank noQuote noDigit noWord noComment =>
      obtain ⟨-, rfl⟩ := spells.of_mem_ascii member small
      rcases char with feed | ret
      · rw [feed] at noBlank
        exact absurd noBlank (by decide)
      · rw [ret] at noBlank
        exact absurd noBlank (by decide)

/-- No segment ends between a carriage return and its line feed. -/
theorem Segment.Kind.Takes.apart {kind : Segment.Kind} {bytes rest : Bytes}
    (takes : Takes kind bytes rest) : bytes.getLast? = some 13 → rest.head? ≠ some 10 := by
  intro last
  by_cases noBreak : kind = .lineBreak
  · subst noBreak
    cases takes with
    | lineFeed => simp at last
    | returnFeed => simp at last
    | loneReturn alone => exact alone
  by_cases noBlock : kind = .blockComment
  · subst noBlock
    cases takes with
    | blockComment noClose => simp [List.getLast?_cons] at last
    | openComment noClose => simp
  have sameLine := takes.sameLine noBreak noBlock 13 (List.mem_of_getLast? last)
  exact absurd sameLine (by decide)

/-! ### Tokens -/

/-- Segments that give a token: all but white space and comments. -/
def Segment.isSignificant (s : Segment) : Bool :=
  match s.kind with
  | .lineBreak | .blank | .lineComment | .blockComment => false
  | .literal _ | .digits | .word | .symbol _ => true

/-- The natural number that digits spell. -/
def digitsNumber (bytes : Bytes) : Nat := bytes.foldl (fun n b => n * 10 + (b.toNat - 48)) 0

/-- What a segment gives on a line: its quote for a literal, its number for digits, its text for a word,
its character for a symbol. -/
inductive Gives (line : Nat) : Segment → Token → Prop where
  | literal {quote : Char} {bytes : Bytes} :
      Gives line ⟨.literal quote, bytes⟩ (.symbol quote line)
  | digits {bytes : Bytes} :
      Gives line ⟨.digits, bytes⟩ (.number (Binary64.ofDecimal false (digitsNumber bytes) 0) line)
  | word {text : String} {bytes : Bytes} (spelling : Utf8.encode text = bytes) :
      Gives line ⟨.word, bytes⟩ (.word text line)
  | symbol {char : Char} {bytes : Bytes} :
      Gives line ⟨.symbol char, bytes⟩ (.symbol char line)

/-- Segments, each with the bytes in front of it. -/
def placed : Bytes → List Segment → List (Bytes × Segment)
  | _, [] => []
  | before, s :: more => (before, s) :: placed (before ++ s.bytes) more

/-- The segments of a text that give tokens, each with the bytes in front of it. -/
def significant (before : Bytes) (pieces : List Segment) : List (Bytes × Segment) :=
  (placed before pieces).filter (fun place => place.2.isSignificant)

private theorem digitsValue_decode {bytes : Bytes} (digits : ∀ b ∈ bytes, isDigitByte b = true)
    (n : Nat) :
    (Utf8.decode bytes).foldl (fun n c => n * 10 + (c.toNat - 48)) n =
      bytes.foldl (fun n b => n * 10 + (b.toNat - 48)) n := by
  induction bytes generalizing n with
  | nil => rw [Utf8.decode]; rfl
  | cons b bytes ih =>
      have range := isDigitByte_iff.1 (digits b (by simp))
      have small : b.toNat < 0x80 := by omega
      have first := Utf8.decode_encodeChar_append (Char.ofNat b.toNat) bytes
      rw [Utf8.encodeChar_of_ascii small, List.singleton_append] at first
      rw [first, List.foldl_cons, List.foldl_cons, Utf8.toNat_ofNat_ascii small]
      exact ih (fun d member => digits d (List.mem_cons_of_mem b member)) _

theorem token?_of_takes {kind : Segment.Kind} {bytes rest : Bytes} (takes : Takes kind bytes rest)
    (line : Nat) (gives : (⟨kind, bytes⟩ : Segment).isSignificant = true) :
    ∃ token, Segment.token? line ⟨kind, bytes⟩ = some token ∧ Gives line ⟨kind, bytes⟩ token := by
  cases takes with
  | lineFeed | returnFeed | loneReturn | blank | lineComment | blockComment | openComment =>
      exact absurd gives Bool.false_ne_true
  | literal => exact ⟨_, rfl, .literal⟩
  | openLiteral => exact ⟨_, rfl, .literal⟩
  | digits digits ends =>
      refine ⟨_, rfl, ?_⟩
      rw [Binary64.ofDigits, Binary64.digitsValue, digitsValue_decode digits]
      exact .digits
  | word begins continues ends =>
      refine ⟨_, rfl, .word ?_⟩
      rw [Utf8.decodeText, Utf8.decode_flatMap_encodeChar, Utf8.encode, String.toList_ofList]
  | symbol => exact ⟨_, rfl, .symbol⟩

theorem token?_of_not_significant {s : Segment} (silent : s.isSignificant = false) (line : Nat) :
    s.token? line = none := by
  obtain ⟨kind, bytes⟩ := s
  cases kind with
  | lineBreak | blank | lineComment | blockComment => rfl
  | literal | digits | word | symbol => exact absurd silent (by simp [Segment.isSignificant])

/-- The tokens of segments behind `before` are given by the significant ones, each on the line that the
bytes in front of it have reached. -/
theorem Follow.tokens_given {pieces : List Segment} {rest : Bytes} (follow : Follow pieces rest)
    (before : Bytes) (apart : before.getLast? = some 13 → (joined pieces ++ rest).head? ≠ some 10) :
    List.Forall₂ (fun place token => Gives (1 + lineBreaks place.1) place.2 token)
      (significant before pieces) (tokensFrom (1 + lineBreaks before) pieces) := by
  induction pieces generalizing before with
  | nil => exact .nil
  | cons s more ih =>
      obtain ⟨takes, follow⟩ := follow
      obtain ⟨a, tail, bytesEq⟩ := List.exists_cons_of_ne_nil takes.ne_nil
      have lines : lineBreaks (before ++ s.bytes) = lineBreaks before + lineBreaks s.bytes := by
        apply lineBreaks_append
        intro last
        have next := apart last
        rw [joined_cons, bytesEq] at next
        rw [bytesEq]
        exact next
      have later := ih follow (before ++ s.bytes) (by
        intro last
        apply takes.apart
        rw [bytesEq] at last ⊢
        simpa using last)
      rw [lines, ← Nat.add_assoc] at later
      cases gives : s.isSignificant with
      | true =>
          obtain ⟨token, tokenEq, given⟩ := token?_of_takes takes (1 + lineBreaks before) gives
          simp only [significant, placed, List.filter_cons, gives, if_true, tokensFrom, tokenEq]
          exact .cons given later
      | false =>
          have tokenEq := token?_of_not_significant gives (1 + lineBreaks before)
          simp only [significant, placed, List.filter_cons, gives, tokensFrom, tokenEq]
          exact later

/-- The lexical grammar.  A text is divided into segments in exactly one way, none of them is empty, and
its tokens are in order what the segments give that are neither white space nor comments, each on the
line that the bytes in front of it have reached. -/
theorem existsUnique_division (path : String) (source : Bytes) :
    ∃ pieces : List Segment,
      Divides pieces source ∧ (∀ others, Divides others source → others = pieces) ∧
      (∀ s ∈ pieces, s.bytes ≠ []) ∧
      List.Forall₂ (fun place token => Gives (1 + lineBreaks place.1) place.2 token)
        (significant [] pieces) (Buffer.ofSource path source).tokens := by
  have divides := divides_segments source
  refine ⟨segments source, divides, ?_, divides.follow.bytes_ne_nil, ?_⟩
  · intro others divided
    exact divides_iff.1 divided
  · exact divides.follow.tokens_given [] (by simp)

end CodeGauge.Source
