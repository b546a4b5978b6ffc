/-
Module: CodeGauge.Proofs.Source.Printing
Purpose: The tokens of a text can be written out on their lines, and are read back from what is written.
Main exports:
  Token.spelling, printFrom, print, AtGap, IsReadBack, Gives.isReadBack, tokensFrom_printFrom, tokenize_print
-/
import CodeGauge.Proofs.Number.Whole
import CodeGauge.Proofs.Source.Contents
import CodeGauge.Proofs.Source.Line

namespace CodeGauge.Source

open CodeGauge.Text CodeGauge.Number
open Segment.Kind (Takes)

/-!
In front of a blank or a line feed the spelling of a token is one segment, whatever the text was that the
token comes from: a comment cannot open there, a word or a number cannot go on, and a literal that holds
nothing is closed at once.  Tokens that no text has would not come back: a word with a blank in it would be
two words, and a character that is a letter a word.  Nor does a number that is too large for a float, which
is written as a sign and a word.
-/

/-- The text that a token is written with: its lexeme, and a quote a second time, which closes the
literal. -/
def Token.spelling (t : Token) : String :=
  if t.isSymbol '"' || t.isSymbol '\'' then t.lexeme ++ t.lexeme else t.lexeme

/-- Tokens written out from the given line on: line feeds up to the line of the next token, a blank, and
its spelling. -/
def printFrom (line : Int) : List Token → Bytes
  | [] => []
  | t :: more =>
      List.replicate (t.line - line).toNat 10 ++ 32 :: (Utf8.encode t.spelling ++ printFrom t.line more)

/-- Tokens written out from the first line on. -/
def print (tokens : List Token) : Bytes := printFrom 1 tokens

/-! ### Gaps between tokens -/

/-- The text has ended, or a line feed or a blank stands next. -/
def AtGap (rest : Bytes) : Prop := ∀ b ∈ rest.head?, b = 10 ∨ b = 32

theorem atGap_printFrom (line : Int) (tokens : List Token) : AtGap (printFrom line tokens) := by
  intro b first
  cases tokens with
  | nil => exact absurd first (by simp [printFrom])
  | cons t more =>
      rw [printFrom] at first
      cases feeds : (t.line - line).toNat with
      | zero =>
          rw [feeds] at first
          exact Or.inr (Option.some.inj first).symm
      | succ n =>
          rw [feeds, List.replicate_succ] at first
          exact Or.inl (Option.some.inj first).symm

theorem AtGap.endsWord {rest : Bytes} (gap : AtGap rest) : EndsWord rest := by
  rintro d continues ⟨behind, rfl⟩
  obtain ⟨b, tail, spelling⟩ := List.exists_cons_of_ne_nil (Utf8.encodeChar_ne_nil d)
  have next : b = 10 ∨ b = 32 := gap b (by rw [spelling]; rfl)
  have small : b.toNat < 0x80 := by rcases next with rfl | rfl <;> decide
  obtain ⟨-, rfl⟩ := Utf8.encodeChar_of_mem_ascii (spelling ▸ List.mem_cons_self) small
  rcases next with rfl | rfl
  · exact absurd continues (by decide)
  · exact absurd continues (by decide)

theorem AtGap.head?_ne {rest : Bytes} (gap : AtGap rest) {b : UInt8} (other : b ≠ 10 ∧ b ≠ 32) :
    rest.head? ≠ some b := by
  intro first
  rcases gap b first with feed | space
  · exact other.1 feed
  · exact other.2 space

theorem tokensFrom_lineFeeds (line count : Nat) (rest : Bytes) :
    tokensFrom line (segments (List.replicate count 10 ++ rest)) =
      tokensFrom (line + count) (segments rest) := by
  induction count generalizing line with
  | zero => rfl
  | succ count ih =>
      have first := segments_of_takes (.lineFeed : Takes .lineBreak [10] (List.replicate count 10 ++ rest))
      rw [List.replicate_succ, List.cons_append, ← List.singleton_append, first]
      exact (ih (line + 1)).trans (by rw [Nat.add_assoc, Nat.add_comm 1])

theorem tokensFrom_blank (line : Nat) (rest : Bytes) :
    tokensFrom line (segments (32 :: rest)) = tokensFrom line (segments rest) := by
  have space : Takes .blank (Utf8.encodeChar ' ') rest := .blank rfl (by decide) (by decide)
  exact (congrArg (tokensFrom line) (segments_of_takes space)).trans rfl

/-! ### One token -/

/-- In front of a gap the spelling of the token is a segment, and gives this token. -/
def IsReadBack (t : Token) : Prop :=
  ∃ kind, (∀ rest, AtGap rest → Takes kind (Utf8.encode t.spelling) rest) ∧
    ∃ line : Nat, Segment.token? line ⟨kind, Utf8.encode t.spelling⟩ = some t

/-- Digits are a segment in front of a gap. -/
theorem takes_digits {digits : List Char} (number : IsNumber digits) {rest : Bytes} (gap : AtGap rest) :
    Takes .digits (digits.flatMap Utf8.encodeChar) rest := by
  have allDigits : ∀ b ∈ digits.flatMap Utf8.encodeChar, isDigitByte b = true := by
    intro b member
    obtain ⟨c, isPart, spelling⟩ := List.mem_flatMap.1 member
    have range : 48 ≤ c.toNat ∧ c.toNat ≤ 57 := by
      simpa [Char.isDigit, UInt32.le_iff_toNat_le] using number.digits c isPart
    rw [Utf8.encodeChar_ascii (by omega), List.mem_singleton] at spelling
    rw [isDigitByte_iff, spelling, Utf8.toNat_ofNat_byte (by omega)]
    exact range
  have nonempty : digits.flatMap Utf8.encodeChar ≠ [] := by
    obtain ⟨c, more, rfl⟩ := List.exists_cons_of_ne_nil number.nonempty
    simp [Utf8.encodeChar_ne_nil]
  obtain ⟨a, body, bytesEq⟩ := List.exists_cons_of_ne_nil nonempty
  rw [bytesEq] at allDigits ⊢
  refine .digits allDigits ?_
  intro b first
  rcases gap b first with rfl | rfl
  · rfl
  · rfl

/-- The number nearest to a natural number is written with digits and read back, unless it is infinite. -/
theorem isReadBack_number {n : Nat} (finite : (Binary64.ofDecimal false n 0).isFinite = true) (line : Nat) :
    IsReadBack (.number (Binary64.ofDecimal false n 0) line) := by
  obtain ⟨digits, writes, number, reads⟩ := Binary64.exists_write_whole finite
  have spelling : Utf8.encode (Token.number (Binary64.ofDecimal false n 0) line).spelling =
      digits.flatMap Utf8.encodeChar := by
    rw [Utf8.encode, ← String.toList_ofList (l := digits), ← writes]
    rfl
  refine ⟨.digits, fun rest gap => ?_, line, ?_⟩
  · rw [spelling]
    exact takes_digits number gap
  · rw [spelling, Segment.token?]
    dsimp only
    rw [Utf8.decode_flatMap_encodeChar, reads]

/-- A quote is written twice: a literal with nothing in it. -/
theorem isReadBack_quote {quote : UInt8} (isQuote : quote = 34 ∨ quote = 39) (line : Nat) :
    IsReadBack (.symbol (Char.ofNat quote.toNat) line) := by
  have spelling : Utf8.encode (Token.symbol (Char.ofNat quote.toNat) line).spelling = [quote, quote] := by
    rcases isQuote with rfl | rfl
    · change Utf8.encode (String.singleton '"' ++ String.singleton '"') = [34, 34]
      decide
    · change Utf8.encode (String.singleton '\'' ++ String.singleton '\'') = [39, 39]
      decide
  refine ⟨.literal (Char.ofNat quote.toNat), fun rest gap => ?_, line, rfl⟩
  rw [spelling]
  exact .literal isQuote .nil

theorem isReadBack_word {c : Char} {cs : List Char} (begins : beginsWord c = true)
    (continues : ∀ d ∈ cs, continuesWord d = true) {text : String}
    (spelling : Utf8.encode text = (c :: cs).flatMap Utf8.encodeChar) (line : Nat) :
    IsReadBack (.word text line) := by
  refine ⟨.word, fun rest gap => ?_, line, ?_⟩
  · change Takes .word (Utf8.encode text) rest
    rw [spelling]
    exact .word begins continues gap.endsWord
  · change some (Token.word (Utf8.decodeText (Utf8.encode text)) line) = _
    rw [Utf8.decodeText_encode]

theorem isReadBack_symbol {c : Char} (noBlank : isBlank c = false) (noQuote : c ≠ '"' ∧ c ≠ '\'')
    (noDigit : isAsciiDigit c = false) (noWord : beginsWord c = false) (line : Nat) :
    IsReadBack (.symbol c line) := by
  have spelling : Utf8.encode (Token.symbol c line).spelling = Utf8.encodeChar c := by
    simp [Token.spelling, Token.isSymbol, noQuote, Token.lexeme, Utf8.encode]
  refine ⟨.symbol c, fun rest gap => ?_, line, rfl⟩
  rw [spelling]
  refine .symbol (.spelled c rest) noBlank noQuote noDigit noWord fun _ => ?_
  exact ⟨gap.head?_ne (by decide), gap.head?_ne (by decide)⟩

/-- What a segment gives is read back from its spelling, if it is not an infinite number.  What stood in a
literal and a byte that was no UTF-8 do not matter. -/
theorem Gives.isReadBack {kind : Segment.Kind} {bytes rest : Bytes} {line : Nat} {t : Token}
    (gives : Gives line ⟨kind, bytes⟩ t) (takes : Takes kind bytes rest)
    (finite : ∀ value line, t = .number value line → value.isFinite = true) : IsReadBack t := by
  cases takes with
  | lineFeed | returnFeed | loneReturn | blank | lineComment | blockComment | openComment =>
      cases gives
  | literal isQuote | openLiteral isQuote =>
      cases gives
      exact isReadBack_quote isQuote line
  | digits =>
      cases gives
      exact isReadBack_number (finite _ _ rfl) line
  | word begins continues =>
      cases gives with
      | word spelling => exact isReadBack_word begins continues spelling line
  | symbol spells noBlank noQuote noDigit noWord =>
      cases gives
      exact isReadBack_symbol noBlank noQuote noDigit noWord line

/-- A spelling stays on one line. -/
theorem lineBreaks_of_token? {kind : Segment.Kind} {bytes rest : Bytes} (takes : Takes kind bytes rest)
    {line : Nat} {t : Token} (given : Segment.token? line ⟨kind, bytes⟩ = some t) :
    lineBreaks bytes = 0 := by
  apply lineBreaks_eq_zero
  apply takes.sameLine
  · rintro rfl
    cases given
  · rintro rfl
    cases given

/-! ### All tokens -/

/-- Tokens in the order of their lines are read back one after the other. -/
theorem tokensFrom_printFrom {line : Nat} {tokens : List Token}
    (readBack : ∀ t ∈ tokens, IsReadBack t) (below : ∀ t ∈ tokens, (line : Int) ≤ t.line)
    (ordered : tokens.Pairwise (fun t u => t.line ≤ u.line)) :
    tokensFrom line (segments (printFrom line tokens)) = tokens := by
  induction tokens generalizing line with
  | nil => rw [printFrom, segments, tokensFrom]
  | cons t more ih =>
      obtain ⟨kind, takes, here, given⟩ := readBack t List.mem_cons_self
      have lineEq := line_of_token? given
      have notAbove := below t List.mem_cons_self
      obtain ⟨first, ordered⟩ := List.pairwise_cons.1 ordered
      rw [lineEq] at first
      have later := ih (fun u member => readBack u (List.mem_cons_of_mem t member)) first ordered
      have takes := takes _ (atGap_printFrom here more)
      have reached : line + ((here : Int) - line).toNat = here := by omega
      rw [printFrom, lineEq, tokensFrom_lineFeeds, tokensFrom_blank, reached, segments_of_takes takes,
        tokensFrom, given, lineBreaks_of_token? takes given, Nat.add_zero, later]

/-- Printing the tokens of a text and reading them again gives the same tokens, on the same lines.  Comments
and the insides of literals are gone then, and what was no UTF-8 is spelled as the replacement that it was
read as. -/
theorem tokenize_print (path : String) (source : Bytes)
    (finite : ∀ value line,
      .number value line ∈ (Buffer.ofSource path source).tokens → value.isFinite = true) :
    (Buffer.ofSource path (print (Buffer.ofSource path source).tokens)).tokens =
      (Buffer.ofSource path source).tokens := by
  refine @tokensFrom_printFrom 1 _ ?_ ?_ (pairwise_line_tokenize source)
  · intro t member
    obtain ⟨index, found⟩ := List.mem_iff_getElem?.1 member
    obtain ⟨offset, kind, bytes, rest, -, -, takes, gives⟩ := exists_offset found
    refine gives.isReadBack takes ?_
    rintro value line rfl
    exact finite value line member
  · intro t member
    exact le_line_of_mem_tokensFrom member

/-- A comment over two lines, a number with leading zeros, a slash in front of a literal that holds a quote,
and on the next line a byte that begins no character and a literal that is not closed. -/
def mixedText : Bytes := Utf8.encode "/*\r\n*/f7 007/'a\\''\n" ++ [0xC3] ++ Utf8.encode "\"open"

/-- What is left of it: `f7 7 / ''` on the second line, the replacement and `""` on the third. -/
theorem tokenize_print_mixedText :
    (∀ value line, .number value line ∈ (Buffer.ofSource "a.c" mixedText).tokens →
      value.isFinite = true) ∧
    print (Buffer.ofSource "a.c" mixedText).tokens = Utf8.encode "\n f7 7 / ''\n \uFFFD \"\"" ∧
    (Buffer.ofSource "a.c" (Utf8.encode "\n f7 7 / ''\n \uFFFD \"\"")).tokens =
      (Buffer.ofSource "a.c" mixedText).tokens := by
  have tokens : (Buffer.ofSource "a.c" mixedText).tokens =
      [.word "f7" 2, .number (Binary64.ofDigits ['7']) 2, .symbol '/' 2, .symbol '\'' 2,
        .symbol '\uFFFD' 3, .symbol '"' 3] := by
    decide +kernel
  have finite : ∀ value line, .number value line ∈ (Buffer.ofSource "a.c" mixedText).tokens →
      value.isFinite = true := by
    intro value line member
    rw [tokens] at member
    obtain ⟨rfl, -⟩ : value = Binary64.ofDigits ['7'] ∧ line = 2 := by simpa using member
    decide +kernel
  have printed : print (Buffer.ofSource "a.c" mixedText).tokens =
      Utf8.encode "\n f7 7 / ''\n \uFFFD \"\"" := by
    decide +kernel
  refine ⟨finite, printed, ?_⟩
  rw [← printed]
  exact tokenize_print "a.c" mixedText finite

end CodeGauge.Source
