/-
Module: CodeGauge.Proofs.Source.Grammar
Purpose: The lexical grammar as rules on what stands in a text, and that the classifier of segments
  follows exactly these rules.
Main exports:
  Quoted, Segment.Kind.Takes, Takes.classify_eq, exists_takes, Takes.unique
-/
import CodeGauge.Proofs.Text.CharacterClass
import CodeGauge.Proofs.Text.Utf8
import CodeGauge.Source.Segment

namespace CodeGauge.Source

open CodeGauge.Text

/-!
The classifier computes where a segment ends.  The rules below say instead what a segment is: they
split a text in front of `rest` and never count a byte.  A rule looks at `rest` only to say that the
segment could not go on, so what the rules say of a text is kept when `rest` is cut short.
-/

/-- The text has ended, or a line break stands next. -/
def AtLineEnd (rest : Bytes) : Prop := ∀ b ∈ rest.head?, breaksLine b = true

/-- No character that continues a word is spelled next. -/
def EndsWord (rest : Bytes) : Prop :=
  ∀ d, continuesWord d = true → ¬ Utf8.encodeChar d <+: rest

/-- The inside of a literal: bytes that neither close it nor break the line, and pairs of a backslash
and the byte that it hides. -/
inductive Quoted (quote : UInt8) : Bytes → Prop where
  | nil : Quoted quote []
  | plain {b : UInt8} {body : Bytes} (sameLine : breaksLine b = false) (noEscape : b ≠ 92)
      (noClose : b ≠ quote) (more : Quoted quote body) : Quoted quote (b :: body)
  | hidden {b : UInt8} {body : Bytes} (sameLine : breaksLine b = false)
      (more : Quoted quote body) : Quoted quote (92 :: b :: body)

/-- A segment of the kind takes `bytes`, in a text that goes on with `rest`. -/
inductive Segment.Kind.Takes : Segment.Kind → Bytes → Bytes → Prop where
  /-- A line feed. -/
  | lineFeed {rest : Bytes} : Takes .lineBreak [10] rest
  /-- A carriage return and its line feed. -/
  | returnFeed {rest : Bytes} : Takes .lineBreak [13, 10] rest
  /-- A carriage return without a line feed. -/
  | loneReturn {rest : Bytes} (alone : rest.head? ≠ some 10) : Takes .lineBreak [13] rest
  /-- Any other white space character. -/
  | blank {c : Char} {rest : Bytes} (space : isBlank c = true) (noFeed : c ≠ '\n')
      (noReturn : c ≠ '\r') : Takes .blank (Utf8.encodeChar c) rest
  /-- Two slashes and the rest of the line. -/
  | lineComment {body rest : Bytes} (sameLine : ∀ b ∈ body, breaksLine b = false)
      (ends : AtLineEnd rest) : Takes .lineComment (47 :: 47 :: body) rest
  /-- A slash and a star, through the first star and slash behind them. -/
  | blockComment {body rest : Bytes} (noClose : ¬ [42, 47] <:+: body) :
      Takes .blockComment (47 :: 42 :: (body ++ [42, 47])) rest
  /-- A block comment that is never closed takes all that is left. -/
  | openComment {body : Bytes} (noClose : ¬ [42, 47] <:+: body) :
      Takes .blockComment (47 :: 42 :: body) []
  /-- A quote, through the first equal quote that is not hidden. -/
  | literal {quote : UInt8} {body rest : Bytes} (isQuote : quote = 34 ∨ quote = 39)
      (inside : Quoted quote body) :
      Takes (.literal (Char.ofNat quote.toNat)) (quote :: (body ++ [quote])) rest
  /-- A literal that is not closed on its line takes what is left of the line, where a last backslash
  hides nothing. -/
  | openLiteral {quote : UInt8} {body last rest : Bytes} (isQuote : quote = 34 ∨ quote = 39)
      (inside : Quoted quote body) (lastByte : last = [] ∨ last = [92]) (ends : AtLineEnd rest) :
      Takes (.literal (Char.ofNat quote.toNat)) (quote :: (body ++ last)) rest
  /-- ASCII digits, as many as there are. -/
  | digits {a : UInt8} {body rest : Bytes} (digits : ∀ b ∈ a :: body, isDigitByte b = true)
      (ends : ∀ b ∈ rest.head?, isDigitByte b = false) : Takes .digits (a :: body) rest
  /-- A letter or an underscore, then letters, decimal digits and underscores, as many as there
  are. -/
  | word {c : Char} {cs : List Char} {rest : Bytes} (begins : beginsWord c = true)
      (continues : ∀ d ∈ cs, continuesWord d = true)
      (ends : EndsWord rest) :
      Takes .word ((c :: cs).flatMap Utf8.encodeChar) rest
  /-- Any other character; a slash only if it opens no comment. -/
  | symbol {c : Char} {bytes rest : Bytes} (spells : Utf8.Spells c bytes rest)
      (noBlank : isBlank c = false) (noQuote : c ≠ '"' ∧ c ≠ '\'') (noDigit : isAsciiDigit c = false)
      (noWord : beginsWord c = false)
      (noComment : c = '/' → rest.head? ≠ some 47 ∧ rest.head? ≠ some 42) :
      Takes (.symbol c) bytes rest

open Segment.Kind (Takes)

/-! ### Where block comments end -/

theorem close_infix_cons {b : UInt8} {body : Bytes} :
    [42, 47] <:+: b :: body ↔ (b = 42 ∧ body.head? = some 47) ∨ [42, 47] <:+: body := by
  rw [List.infix_cons_iff]
  apply or_congr_left
  cases body with
  | nil => simp
  | cons c body => simp [eq_comm]

/-- In front of the first star and slash the search takes one byte at a time. -/
private theorem blockCommentSize_cons {b : UInt8} {body : Bytes}
    (notHere : ¬ (b = 42 ∧ body.head? = some 47)) :
    blockCommentSize (b :: body) = blockCommentSize body + 1 := by
  apply blockCommentSize.eq_3
  intro tail first next
  exact notHere ⟨first, by rw [next]; rfl⟩

theorem blockCommentSize_closed {body : Bytes} (noClose : ¬ [42, 47] <:+: body) (rest : Bytes) :
    blockCommentSize (body ++ 42 :: 47 :: rest) = body.length + 2 := by
  induction body with
  | nil => rw [List.nil_append, blockCommentSize]; rfl
  | cons b body ih =>
      rw [close_infix_cons, not_or] at noClose
      have notHere : ¬ (b = 42 ∧ (body ++ 42 :: 47 :: rest).head? = some 47) := by
        rintro ⟨first, next⟩
        cases body with
        | nil => simp at next
        | cons c body => exact noClose.1 ⟨first, by simpa using next⟩
      rw [List.cons_append, blockCommentSize_cons notHere, ih noClose.2]
      rfl

theorem blockCommentSize_open {body : Bytes} (noClose : ¬ [42, 47] <:+: body) :
    blockCommentSize body = body.length := by
  induction body with
  | nil => rfl
  | cons b body ih =>
      rw [close_infix_cons, not_or] at noClose
      rw [blockCommentSize_cons noClose.1, ih noClose.2, List.length_cons]

/-- A byte string has a first star and slash, or none. -/
theorem exists_first_close (bytes : Bytes) :
    (∃ body rest, bytes = body ++ 42 :: 47 :: rest ∧ ¬ [42, 47] <:+: body) ∨
      ¬ [42, 47] <:+: bytes := by
  induction bytes with
  | nil => exact Or.inr (by simp)
  | cons b bytes ih =>
      by_cases here : b = 42 ∧ bytes.head? = some 47
      · obtain ⟨rfl, next⟩ := here
        obtain ⟨rest, rfl⟩ := List.head?_eq_some_iff.1 next
        exact Or.inl ⟨[], rest, rfl, by simp⟩
      · rcases ih with ⟨body, rest, rfl, noClose⟩ | noClose
        · refine Or.inl ⟨b :: body, rest, rfl, ?_⟩
          rw [close_infix_cons, not_or]
          refine ⟨?_, noClose⟩
          rintro ⟨first, next⟩
          obtain ⟨tail, rfl⟩ := List.head?_eq_some_iff.1 next
          exact here ⟨first, rfl⟩
        · exact Or.inr (by rw [close_infix_cons, not_or]; exact ⟨here, noClose⟩)

/-! ### Where literals end -/

section Literal

variable {quote b : UInt8} {rest : Bytes}

private theorem literalSize_plain (sameLine : breaksLine b = false) (noEscape : b ≠ 92)
    (noClose : b ≠ quote) : literalSize quote (b :: rest) = literalSize quote rest + 1 := by
  cases rest with
  | nil => simp [literalSize, sameLine]
  | cons next rest => simp [literalSize, sameLine, noEscape, noClose]

private theorem literalSize_hidden (notEscape : quote ≠ 92) (sameLine : breaksLine b = false) :
    literalSize quote (92 :: b :: rest) = literalSize quote rest + 2 := by
  have escape : breaksLine 92 = false := rfl
  simp [literalSize, escape, sameLine, notEscape.symm]

private theorem literalSize_close (sameLine : breaksLine quote = false) :
    literalSize quote (quote :: rest) = 1 := by
  cases rest with
  | nil => simp [literalSize, sameLine]
  | cons next rest => simp [literalSize, sameLine]

private theorem literalSize_atLineEnd (ends : AtLineEnd rest) : literalSize quote rest = 0 := by
  match rest with
  | [] => rfl
  | [b] => simp [literalSize, ends b rfl]
  | b :: next :: rest => simp [literalSize, ends b rfl]

private theorem literalSize_lastBackslash (notEscape : quote ≠ 92) (ends : AtLineEnd rest) :
    literalSize quote (92 :: rest) = 1 := by
  have escape : breaksLine 92 = false := rfl
  cases rest with
  | nil => simp [literalSize, escape]
  | cons next rest =>
      have size : literalSize quote (next :: rest) = 0 := literalSize_atLineEnd ends
      simp [literalSize, escape, notEscape.symm, ends next rfl, size]

end Literal

theorem isQuote_sameLine {quote : UInt8} (isQuote : quote = 34 ∨ quote = 39) :
    breaksLine quote = false := by
  rcases isQuote with rfl | rfl <;> rfl

theorem isQuote_ne_backslash {quote : UInt8} (isQuote : quote = 34 ∨ quote = 39) :
    quote ≠ 92 := by
  rcases isQuote with rfl | rfl <;> decide

/-- The inside of a literal is passed over, whatever comes behind it. -/
theorem literalSize_quoted_append {quote : UInt8} {body : Bytes} (notEscape : quote ≠ 92)
    (inside : Quoted quote body) (rest : Bytes) :
    literalSize quote (body ++ rest) = body.length + literalSize quote rest := by
  induction inside with
  | nil => simp
  | plain sameLine noEscape noClose _ ih =>
      rw [List.cons_append, literalSize_plain sameLine noEscape noClose, ih, List.length_cons]
      omega
  | hidden sameLine _ ih =>
      rw [List.cons_append, List.cons_append, literalSize_hidden notEscape sameLine, ih,
        List.length_cons, List.length_cons]
      omega

/-- Every text begins with the inside of a literal, behind which stands its quote, the end of the line,
or a backslash at the end of the line. -/
theorem exists_quoted (quote : UInt8) : ∀ bytes : Bytes, ∃ body rest, bytes = body ++ rest ∧
    Quoted quote body ∧
      (rest.head? = some quote ∨ AtLineEnd rest ∨ ∃ behind, rest = 92 :: behind ∧ AtLineEnd behind)
  | [] => ⟨[], [], rfl, .nil, Or.inr (Or.inl (by simp [AtLineEnd]))⟩
  | b :: rest => by
      by_cases breaks : breaksLine b = true
      · exact ⟨[], b :: rest, rfl, .nil, Or.inr (Or.inl (by simpa [AtLineEnd] using breaks))⟩
      by_cases close : b = quote
      · exact ⟨[], b :: rest, rfl, .nil, Or.inl (by rw [close]; rfl)⟩
      by_cases escape : b = 92
      · subst escape
        match rest with
        | [] => exact ⟨[], [92], rfl, .nil, Or.inr (Or.inr ⟨[], rfl, by simp [AtLineEnd]⟩)⟩
        | next :: rest =>
            by_cases nextBreaks : breaksLine next = true
            · exact ⟨[], 92 :: next :: rest, rfl, .nil,
                Or.inr (Or.inr ⟨next :: rest, rfl, by simpa [AtLineEnd] using nextBreaks⟩)⟩
            · obtain ⟨body, behind, rfl, inside, ends⟩ := exists_quoted quote rest
              exact ⟨92 :: next :: body, behind, rfl,
                .hidden (Bool.eq_false_iff.2 nextBreaks) inside, ends⟩
      · obtain ⟨body, behind, rfl, inside, ends⟩ := exists_quoted quote rest
        exact ⟨b :: body, behind, rfl, .plain (Bool.eq_false_iff.2 breaks) escape close inside, ends⟩

/-! ### Where words and numbers end -/

theorem continuesWord_of_beginsWord {c : Char} (begins : beginsWord c = true) :
    continuesWord c = true := by
  rw [beginsWord] at begins
  rw [continuesWord, begins, Bool.true_or]

theorem not_isBlank_replacement : isBlank replacement = false := by
  decide +kernel

theorem not_continuesWord_replacement : continuesWord replacement = false := by
  decide +kernel

/-- The bytes of a word below 0x80 are characters of the word. -/
theorem continuesWord_of_mem_word {c : Char} {cs : List Char} {b : UInt8}
    (begins : beginsWord c = true) (continues : ∀ d ∈ cs, continuesWord d = true)
    (member : b ∈ (c :: cs).flatMap Utf8.encodeChar) (small : b.toNat < 0x80) :
    continuesWord (Char.ofNat b.toNat) = true := by
  obtain ⟨d, isPart, bMember⟩ := List.mem_flatMap.1 member
  obtain ⟨-, rfl⟩ := Utf8.encodeChar_of_mem_ascii bMember small
  rcases List.mem_cons.1 isPart with rfl | isPart
  · exact continuesWord_of_beginsWord begins
  · exact continues _ isPart

theorem wordSize_encodeChar_append {c : Char} (continues : continuesWord c = true) (rest : Bytes) :
    wordSize (Utf8.encodeChar c ++ rest) = (Utf8.encodeChar c).length + wordSize rest := by
  obtain ⟨a, tail, spelling⟩ := List.exists_cons_of_ne_nil (Utf8.encodeChar_ne_nil c)
  have read := Utf8.spells_iff_decodeFirst.1 (spelling ▸ Utf8.Spells.spelled c rest)
  rw [spelling, List.cons_append, wordSize, read, if_pos continues]
  simp

theorem wordSize_endsWord {rest : Bytes} (ends : EndsWord rest) : wordSize rest = 0 := by
  cases rest with
  | nil => rw [wordSize]
  | cons a rest =>
      rw [wordSize, if_neg]
      rcases Utf8.decodeFirst_cases a rest with ⟨c, front⟩ | stray
      · rw [Utf8.decodeFirst_of_spelling front]
        intro continues
        exact ends c continues front
      · rw [stray, not_continuesWord_replacement]
        exact Bool.false_ne_true

theorem wordSize_flatMap_append {cs : List Char} (continues : ∀ d ∈ cs, continuesWord d = true)
    {rest : Bytes} (ends : EndsWord rest) :
    wordSize (cs.flatMap Utf8.encodeChar ++ rest) = (cs.flatMap Utf8.encodeChar).length := by
  induction cs with
  | nil => exact wordSize_endsWord ends
  | cons c cs ih =>
      rw [List.flatMap_cons, List.append_assoc, wordSize_encodeChar_append (continues c (by simp)),
        ih (fun d member => continues d (List.mem_cons_of_mem c member)), List.length_append]

/-- Every text begins with a longest run of word characters. -/
theorem exists_wordRun (bytes : Bytes) : ∃ (cs : List Char) (rest : Bytes),
    bytes = cs.flatMap Utf8.encodeChar ++ rest ∧ (∀ d ∈ cs, continuesWord d = true) ∧
      EndsWord rest := by
  by_cases ends : EndsWord bytes
  · exact ⟨[], bytes, rfl, by simp, ends⟩
  · unfold EndsWord at ends
    simp only [Classical.not_forall, Classical.not_not] at ends
    obtain ⟨c, continues, behind, joined⟩ := ends
    have shorter : behind.length < bytes.length := by
      have nonempty := List.length_pos_iff.2 (Utf8.encodeChar_ne_nil c)
      rw [← joined, List.length_append]
      omega
    obtain ⟨cs, rest, behindEq, run, ends⟩ := exists_wordRun behind
    refine ⟨c :: cs, rest, by rw [← joined, behindEq]; simp, ?_, ends⟩
    intro d member
    rcases List.mem_cons.1 member with rfl | member
    · exact continues
    · exact run d member
termination_by bytes.length

/-- A run of digits is taken whole if no digit follows it. -/
theorem takeWhile_append_of_ends {p : UInt8 → Bool} {body rest : Bytes}
    (run : ∀ b ∈ body, p b = true) (ends : ∀ b ∈ rest.head?, p b = false) :
    (body ++ rest).takeWhile p = body := by
  rw [List.takeWhile_append_of_pos run]
  have stop : rest.takeWhile p = [] := by
    cases rest with
    | nil => rfl
    | cons b rest => simp [ends b rfl]
  rw [stop, List.append_nil]

theorem exists_run (p : UInt8 → Bool) (bytes : Bytes) : ∃ body rest, bytes = body ++ rest ∧
    (∀ b ∈ body, p b = true) ∧ ∀ b ∈ rest.head?, p b = false := by
  refine ⟨bytes.takeWhile p, bytes.dropWhile p, List.takeWhile_append_dropWhile.symm, ?_, ?_⟩
  · intro b member
    exact List.all_eq_true.1 List.all_takeWhile b member
  · intro b first
    have stops := List.head?_dropWhile_not p bytes
    rw [Option.mem_def] at first
    simpa [first] using stops

/-! ### The classifier follows the rules -/

private theorem not_isBlank_slash (rest : Bytes) : isBlank (Utf8.decodeFirst 47 rest).1 = false := by
  rw [Utf8.decodeFirst_ascii (by decide)]
  rfl

theorem isDigitByte_iff {a : UInt8} :
    isDigitByte a = true ↔ 48 ≤ a.toNat ∧ a.toNat ≤ 57 := by
  simp [isDigitByte, UInt8.le_iff_toNat_le]

theorem beginsWord_ascii_iff {c : Char} (small : c.toNat < 0x80) :
    beginsWord c = true ↔
      c.toNat = 95 ∨ (97 ≤ c.toNat ∧ c.toNat ≤ 122) ∨ (65 ≤ c.toNat ∧ c.toNat ≤ 90) := by
  rw [beginsWord, Bool.or_eq_true, isLetter_ascii small, isAsciiLetter_iff, beq_iff_eq,
    ← Char.toNat_inj]
  rfl

theorem not_isBlank_of_beginsWord {c : Char} (begins : beginsWord c = true) : isBlank c = false := by
  rw [beginsWord, Bool.or_eq_true, beq_iff_eq] at begins
  rcases begins with rfl | letter
  · rfl
  · exact not_isBlank_of_isLetter letter

private theorem first_char_ascii {a : UInt8} {rest : Bytes} {c : Char} {size : Nat}
    (small : a.toNat < 0x80) (read : Utf8.decodeFirst a rest = (c, size)) :
    Char.ofNat a.toNat = c ∧ 1 = size := by
  rw [Utf8.decodeFirst_ascii small, Prod.mk.injEq] at read
  exact read

private theorem classify_quote {quote : UInt8} (isQuote : quote = 34 ∨ quote = 39) (rest : Bytes) :
    classify quote rest = (.literal (Char.ofNat quote.toNat), literalSize quote rest + 1) := by
  rcases isQuote with rfl | rfl
  · have read := Utf8.decodeFirst_ascii (a := 34) (by decide) rest
    have noBlank : isBlank (Char.ofNat 34) = false := rfl
    simp [classify, read, noBlank]
  · have read := Utf8.decodeFirst_ascii (a := 39) (by decide) rest
    have noBlank : isBlank (Char.ofNat 39) = false := rfl
    simp [classify, read, noBlank]

/-- Where no white space, comment or literal begins, the first byte and the first character decide. -/
private theorem classify_plain {a : UInt8} {rest : Bytes} {c : Char} {size : Nat}
    (read : Utf8.decodeFirst a rest = (c, size)) (noBlank : isBlank c = false)
    (plain : a ∉ [10, 13, 34, 39, 47]) :
    classify a rest =
      if isDigitByte a then (.digits, (rest.takeWhile isDigitByte).length + 1)
      else if beginsWord c then (.word, size + wordSize (rest.drop (size - 1)))
      else (.symbol c, size) := by
  simp only [List.mem_cons, List.not_mem_nil, or_false, not_or] at plain
  obtain ⟨notFeed, notReturn, notDouble, notSingle, notSlash⟩ := plain
  simp [classify, read, noBlank, notFeed, notReturn, notDouble, notSingle, notSlash]

/-- The digits and what lies above them in ASCII open no comment and no literal. -/
private theorem plain_of_le {a : UInt8} (bound : 48 ≤ a.toNat) : a ∉ [10, 13, 34, 39, 47] := by
  intro special
  simp only [List.mem_cons, List.not_mem_nil, or_false] at special
  rcases special with rfl | rfl | rfl | rfl | rfl <;> simp at bound

private theorem classify_digit {a : UInt8} (digit : isDigitByte a = true) (rest : Bytes) :
    classify a rest = (.digits, (rest.takeWhile isDigitByte).length + 1) := by
  have range := isDigitByte_iff.1 digit
  have small : a.toNat < 0x80 := by omega
  have noBlank : isBlank (Char.ofNat a.toNat) = false := by
    rw [Bool.eq_false_iff, ne_eq, isBlank_ascii (by rw [Utf8.toNat_ofNat_ascii small]; exact small),
      Utf8.toNat_ofNat_ascii small]
    omega
  rw [classify_plain (Utf8.decodeFirst_ascii small rest) noBlank (plain_of_le range.1), if_pos digit]

/-- The first byte of a word is a letter or underscore of ASCII, or lies above ASCII. -/
private theorem first_byte_of_word {a : UInt8} {rest : Bytes} {c : Char} {size : Nat}
    (read : Utf8.decodeFirst a rest = (c, size)) (begins : beginsWord c = true) :
    a.toNat = 95 ∨ (97 ≤ a.toNat ∧ a.toNat ≤ 122) ∨ (65 ≤ a.toNat ∧ a.toNat ≤ 90) ∨
      0x80 ≤ a.toNat := by
  by_cases small : a.toNat < 0x80
  · obtain ⟨rfl, -⟩ := first_char_ascii small read
    have value := Utf8.toNat_ofNat_ascii small
    have range := (beginsWord_ascii_iff (by omega)).1 begins
    omega
  · omega

private theorem classify_word {a : UInt8} {rest : Bytes} {c : Char} {size : Nat}
    (read : Utf8.decodeFirst a rest = (c, size)) (begins : beginsWord c = true) :
    classify a rest = (.word, size + wordSize (rest.drop (size - 1))) := by
  have range := first_byte_of_word read begins
  have noDigit : ¬ isDigitByte a = true := by
    rw [isDigitByte_iff]
    omega
  rw [classify_plain read (not_isBlank_of_beginsWord begins) (plain_of_le (by omega)), if_neg noDigit,
    if_pos begins]

private theorem classify_symbol {a : UInt8} {rest : Bytes} {c : Char} {size : Nat}
    (read : Utf8.decodeFirst a rest = (c, size)) (noBlank : isBlank c = false)
    (noQuote : c ≠ '"' ∧ c ≠ '\'') (noDigit : isAsciiDigit c = false) (noWord : beginsWord c = false)
    (noComment : a = 47 → rest.head? ≠ some 47 ∧ rest.head? ≠ some 42) :
    classify a rest = (.symbol c, size) := by
  have notFeed : a ≠ 10 := by
    rintro rfl
    obtain ⟨rfl, -⟩ := first_char_ascii (by decide) read
    exact absurd noBlank (by decide)
  have notReturn : a ≠ 13 := by
    rintro rfl
    obtain ⟨rfl, -⟩ := first_char_ascii (by decide) read
    exact absurd noBlank (by decide)
  have notDouble : a ≠ 34 := by
    rintro rfl
    obtain ⟨rfl, -⟩ := first_char_ascii (by decide) read
    exact noQuote.1 rfl
  have notSingle : a ≠ 39 := by
    rintro rfl
    obtain ⟨rfl, -⟩ := first_char_ascii (by decide) read
    exact noQuote.2 rfl
  have notDigit : isDigitByte a = false := by
    rw [Bool.eq_false_iff, ne_eq, isDigitByte_iff]
    intro range
    obtain ⟨rfl, -⟩ := first_char_ascii (by omega) read
    rw [Bool.eq_false_iff, ne_eq, isAsciiDigit_iff, Utf8.toNat_ofNat_ascii (by omega)] at noDigit
    exact noDigit range
  by_cases slash : a = 47
  · obtain ⟨noLine, noBlock⟩ := noComment slash
    simp [classify, notFeed, notReturn, read, noBlank, noLine, noBlock, notDouble, notSingle, notDigit,
      noWord]
  · simp [classify, notFeed, notReturn, read, noBlank, slash, notDouble, notSingle, notDigit, noWord]

/-- What the rules say a segment is, the classifier finds. -/
theorem Segment.Kind.Takes.classify_eq {kind : Segment.Kind} {a : UInt8} {tail rest : Bytes}
    (takes : Takes kind (a :: tail) rest) :
    classify a (tail ++ rest) = (kind, tail.length + 1) := by
  generalize bytesEq : a :: tail = bytes at takes
  cases takes with
  | lineFeed =>
      cases bytesEq
      simp [classify]
  | returnFeed =>
      cases bytesEq
      simp [classify]
  | loneReturn alone =>
      cases bytesEq
      simp [classify, alone]
  | blank space noFeed noReturn =>
      rename_i c
      have read := Utf8.spells_iff_decodeFirst.1 (bytesEq ▸ Utf8.Spells.spelled c rest)
      have notFeed : a ≠ 10 := by
        rintro rfl
        rw [Utf8.decodeFirst_ascii (by decide)] at read
        exact noFeed (congrArg Prod.fst read).symm
      have notReturn : a ≠ 13 := by
        rintro rfl
        rw [Utf8.decodeFirst_ascii (by decide)] at read
        exact noReturn (congrArg Prod.fst read).symm
      simp [classify, notFeed, notReturn, read, space]
  | lineComment sameLine ends =>
      rename_i body
      cases bytesEq
      have noBlank := not_isBlank_slash (47 :: (body ++ rest))
      have slash : breaksLine 47 = false := rfl
      have size : (body ++ rest).takeWhile (fun b => !breaksLine b) = body :=
        takeWhile_append_of_ends (by simpa using sameLine) (by simpa [AtLineEnd] using ends)
      simp [classify, noBlank, slash, size]
  | blockComment noClose =>
      rename_i body
      cases bytesEq
      have noBlank := not_isBlank_slash (42 :: (body ++ 42 :: 47 :: rest))
      have size := blockCommentSize_closed noClose rest
      simp [classify, noBlank, size]
  | openComment noClose =>
      rename_i body
      cases bytesEq
      have noBlank := not_isBlank_slash (42 :: body)
      have size := blockCommentSize_open noClose
      simp [classify, noBlank, size]
  | literal isQuote inside =>
      cases bytesEq
      rw [classify_quote isQuote]
      rename_i body
      rw [List.append_assoc, literalSize_quoted_append (isQuote_ne_backslash isQuote) inside,
        List.singleton_append, literalSize_close (isQuote_sameLine isQuote), List.length_append]
      rfl
  | openLiteral isQuote inside lastByte ends =>
      cases bytesEq
      rw [classify_quote isQuote]
      rename_i body last
      rw [List.append_assoc, literalSize_quoted_append (isQuote_ne_backslash isQuote) inside,
        List.length_append]
      rcases lastByte with rfl | rfl
      · rw [List.nil_append, literalSize_atLineEnd ends]
        rfl
      · rw [List.singleton_append, literalSize_lastBackslash (isQuote_ne_backslash isQuote) ends]
        rfl
  | digits digits ends =>
      cases bytesEq
      rw [classify_digit (digits a (by simp)), takeWhile_append_of_ends _ ends]
      exact fun b member => digits b (List.mem_cons_of_mem a member)
  | word begins continues ends =>
      rename_i c cs
      obtain ⟨first, more, spelling⟩ := List.exists_cons_of_ne_nil (Utf8.encodeChar_ne_nil c)
      rw [List.flatMap_cons, spelling, List.cons_append, List.cons.injEq] at bytesEq
      obtain ⟨rfl, rfl⟩ := bytesEq
      have read := Utf8.spells_iff_decodeFirst.1
        (spelling ▸ Utf8.Spells.spelled c (cs.flatMap Utf8.encodeChar ++ rest))
      rw [List.append_assoc, classify_word read begins, Nat.add_sub_cancel, List.drop_left,
        wordSize_flatMap_append continues ends, List.length_append]
      congr 1
      omega
  | symbol spells noBlank noQuote noDigit noWord noComment =>
      rename_i c
      have read := Utf8.spells_iff_decodeFirst.1 (bytesEq ▸ spells)
      apply classify_symbol read noBlank noQuote noDigit noWord
      intro slash
      subst slash
      obtain ⟨rfl, size⟩ := first_char_ascii (by decide) read
      have tailNil : tail = [] := List.length_eq_zero_iff.1 (by omega)
      rw [tailNil]
      exact noComment rfl

/-! ### Some rule applies everywhere -/

/-- Something is read at the front of every text. -/
private theorem exists_spells (a : UInt8) (rest : Bytes) :
    ∃ c tail behind, rest = tail ++ behind ∧ Utf8.Spells c (a :: tail) behind := by
  have bound := Utf8.decodeFirst_size_le a rest
  have positive := Utf8.decodeFirst_size_pos a rest
  refine ⟨(Utf8.decodeFirst a rest).1, rest.take ((Utf8.decodeFirst a rest).2 - 1),
    rest.drop ((Utf8.decodeFirst a rest).2 - 1), (List.take_append_drop _ _).symm, ?_⟩
  rw [Utf8.spells_iff_decodeFirst, List.take_append_drop, List.length_take, Nat.min_eq_left (by omega),
    Nat.sub_add_cancel positive]

/-- A character that is not the replacement is read from its own spelling only. -/
theorem eq_encodeChar_of_spells {c : Char} {bytes rest : Bytes}
    (spells : Utf8.Spells c bytes rest) (known : c ≠ replacement) : bytes = Utf8.encodeChar c := by
  cases spells with
  | spelled => rfl
  | stray => exact absurd rfl known

private theorem exists_takes_lineBreak {a : UInt8} (breaks : breaksLine a = true) (rest : Bytes) :
    ∃ tail behind, rest = tail ++ behind ∧ Takes .lineBreak (a :: tail) behind := by
  simp only [breaksLine, Bool.or_eq_true, beq_iff_eq] at breaks
  rcases breaks with rfl | rfl
  · exact ⟨[], rest, rfl, .lineFeed⟩
  · by_cases feed : rest.head? = some 10
    · obtain ⟨behind, rfl⟩ := List.head?_eq_some_iff.1 feed
      exact ⟨[10], behind, rfl, .returnFeed⟩
    · exact ⟨[], rest, rfl, .loneReturn feed⟩

private theorem exists_takes_lineComment (rest : Bytes) :
    ∃ tail behind, 47 :: rest = tail ++ behind ∧ Takes .lineComment (47 :: tail) behind := by
  obtain ⟨body, behind, rfl, sameLine, ends⟩ := exists_run (fun b => !breaksLine b) rest
  refine ⟨47 :: body, behind, rfl, .lineComment (by simpa using sameLine) ?_⟩
  simpa [AtLineEnd] using ends

private theorem exists_takes_blockComment (rest : Bytes) :
    ∃ tail behind, 42 :: rest = tail ++ behind ∧ Takes .blockComment (47 :: tail) behind := by
  rcases exists_first_close rest with ⟨body, behind, rfl, noClose⟩ | noClose
  · exact ⟨42 :: (body ++ [42, 47]), behind, by simp, .blockComment noClose⟩
  · exact ⟨42 :: rest, [], by simp, .openComment noClose⟩

private theorem exists_takes_literal {quote : UInt8} (isQuote : quote = 34 ∨ quote = 39)
    (rest : Bytes) : ∃ tail behind, rest = tail ++ behind ∧
      Takes (.literal (Char.ofNat quote.toNat)) (quote :: tail) behind := by
  obtain ⟨body, behind, rfl, inside, ends⟩ := exists_quoted quote rest
  rcases ends with close | ends | ⟨behind, rfl, ends⟩
  · obtain ⟨behind, rfl⟩ := List.head?_eq_some_iff.1 close
    exact ⟨body ++ [quote], behind, by simp, .literal isQuote inside⟩
  · refine ⟨body, behind, rfl, ?_⟩
    have takes := Takes.openLiteral isQuote inside (Or.inl rfl) ends
    rwa [List.append_nil] at takes
  · exact ⟨body ++ [92], behind, by simp, .openLiteral isQuote inside (Or.inr rfl) ends⟩

private theorem exists_takes_digits {a : UInt8} (digit : isDigitByte a = true) (rest : Bytes) :
    ∃ tail behind, rest = tail ++ behind ∧ Takes .digits (a :: tail) behind := by
  obtain ⟨body, behind, rfl, run, ends⟩ := exists_run isDigitByte rest
  refine ⟨body, behind, rfl, .digits ?_ ends⟩
  intro b member
  rcases List.mem_cons.1 member with rfl | member
  · exact digit
  · exact run b member

private theorem exists_takes_word {a : UInt8} {tail behind : Bytes} {c : Char}
    (spelling : Utf8.encodeChar c = a :: tail) (begins : beginsWord c = true) :
    ∃ more rest, tail ++ behind = more ++ rest ∧ Takes .word (a :: more) rest := by
  obtain ⟨cs, rest, rfl, run, ends⟩ := exists_wordRun behind
  refine ⟨tail ++ cs.flatMap Utf8.encodeChar, rest, by simp, ?_⟩
  have takes := Takes.word begins run ends
  rwa [List.flatMap_cons, spelling, List.cons_append] at takes

/-- At the front of every text that is not empty stands a segment. -/
theorem exists_takes (a : UInt8) (rest : Bytes) :
    ∃ kind tail behind, rest = tail ++ behind ∧ Takes kind (a :: tail) behind := by
  by_cases breaks : breaksLine a = true
  · exact ⟨_, exists_takes_lineBreak breaks rest⟩
  by_cases isQuote : a = 34 ∨ a = 39
  · exact ⟨_, exists_takes_literal isQuote rest⟩
  by_cases digit : isDigitByte a = true
  · exact ⟨_, exists_takes_digits digit rest⟩
  by_cases line : a = 47 ∧ rest.head? = some 47
  · obtain ⟨rfl, next⟩ := line
    obtain ⟨rest, rfl⟩ := List.head?_eq_some_iff.1 next
    exact ⟨_, exists_takes_lineComment rest⟩
  by_cases block : a = 47 ∧ rest.head? = some 42
  · obtain ⟨rfl, next⟩ := block
    obtain ⟨rest, rfl⟩ := List.head?_eq_some_iff.1 next
    exact ⟨_, exists_takes_blockComment rest⟩
  -- all that is left is decided by the first character
  obtain ⟨c, tail, behind, rfl, spells⟩ := exists_spells a rest
  by_cases space : isBlank c = true
  · have known : c ≠ replacement := by
      rintro rfl
      exact Bool.eq_false_iff.1 not_isBlank_replacement space
    have spelling := eq_encodeChar_of_spells spells known
    refine ⟨.blank, tail, behind, rfl, ?_⟩
    rw [spelling]
    refine .blank space ?_ ?_
    · rintro rfl
      cases spelling
      exact breaks rfl
    · rintro rfl
      cases spelling
      exact breaks rfl
  by_cases begins : beginsWord c = true
  · have known : c ≠ replacement := by
      rintro rfl
      exact Bool.eq_false_iff.1 not_continuesWord_replacement (continuesWord_of_beginsWord begins)
    exact ⟨_, exists_takes_word (eq_encodeChar_of_spells spells known).symm begins⟩
  refine ⟨_, tail, behind, rfl, .symbol spells (Bool.eq_false_iff.2 space) ⟨?_, ?_⟩ ?_
    (Bool.eq_false_iff.2 begins) ?_⟩
  · rintro rfl
    cases eq_encodeChar_of_spells spells (by decide)
    exact isQuote (Or.inl rfl)
  · rintro rfl
    cases eq_encodeChar_of_spells spells (by decide)
    exact isQuote (Or.inr rfl)
  · rw [Bool.eq_false_iff]
    intro isDigit
    have range := isAsciiDigit_iff.1 isDigit
    have spelling := eq_encodeChar_of_spells spells (by rintro rfl; exact absurd range (by decide))
    rw [Utf8.encodeChar_ascii (by omega)] at spelling
    apply digit
    rw [isDigitByte_iff, (List.cons.inj spelling).1, Utf8.toNat_ofNat_byte (by omega)]
    exact range
  · rintro rfl
    cases eq_encodeChar_of_spells spells (by decide)
    exact ⟨fun next => line ⟨rfl, next⟩, fun next => block ⟨rfl, next⟩⟩

/-! ### One segment and no other -/

theorem Segment.Kind.Takes.ne_nil {kind : Segment.Kind} {bytes rest : Bytes}
    (takes : Takes kind bytes rest) : bytes ≠ [] := by
  cases takes with
  | blank => exact Utf8.encodeChar_ne_nil _
  | word => simp [Utf8.encodeChar_ne_nil]
  | symbol spells =>
      cases spells with
      | spelled => exact Utf8.encodeChar_ne_nil _
      | stray => exact List.cons_ne_nil _ _
  | _ => exact List.cons_ne_nil _ _

/-- The segment at the front of a text and the text behind it are determined. -/
theorem Segment.Kind.Takes.unique {first second : Segment.Kind} {bytes others rest behind : Bytes}
    (one : Takes first bytes rest) (two : Takes second others behind)
    (same : bytes ++ rest = others ++ behind) : first = second ∧ bytes = others ∧ rest = behind := by
  obtain ⟨a, tail, rfl⟩ := List.exists_cons_of_ne_nil one.ne_nil
  obtain ⟨b, more, rfl⟩ := List.exists_cons_of_ne_nil two.ne_nil
  simp only [List.cons_append, List.cons.injEq] at same
  obtain ⟨rfl, same⟩ := same
  have found := one.classify_eq.symm.trans (same ▸ two.classify_eq)
  simp only [Prod.mk.injEq, Nat.add_right_cancel_iff] at found
  obtain ⟨rfl, rfl⟩ := List.append_inj same found.2
  exact ⟨found.1, rfl, rfl⟩

/-- The classifier's answer is a segment of the grammar. -/
theorem takes_classify (a : UInt8) (rest : Bytes) :
    Takes (classify a rest).1 ((a :: rest).take (classify a rest).2)
      (rest.drop ((classify a rest).2 - 1)) := by
  obtain ⟨kind, tail, behind, rfl, takes⟩ := exists_takes a rest
  rw [takes.classify_eq]
  simpa using takes

end CodeGauge.Source
