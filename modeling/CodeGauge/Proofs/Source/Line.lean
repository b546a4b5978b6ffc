/-
Module: CodeGauge.Proofs.Source.Line
Purpose: The line of a token is the line of the text on which it begins, so lines never decrease from token
  to token, nor from function to function.
Main exports:
  breakBegins, breaksBefore, breaksBefore_length, tokenOffset?, exists_offset, pairwise_line_tokenize,
  extract_pairwise_line, lines_of_text
-/
import CodeGauge.Proofs.Declaration.Extraction
import CodeGauge.Proofs.Source.Locality
import CodeGauge.Report.Assemble
import Mathlib.Algebra.Group.Nat.Defs
import Mathlib.Data.List.Induction

namespace CodeGauge.Source

open CodeGauge.Text CodeGauge.Declaration
open Segment.Kind (Takes)

/-!
A scanner counts line breaks while it passes over white space and comments.  Here they are counted in the
text itself, without regard to what they stand in: a carriage return is one, and so is a line feed that does
not follow a carriage return.
-/

/-! ### Line breaks of a text -/

/-- A line break begins at the position: a carriage return, or a line feed without one in front of it. -/
def breakBegins (source : Bytes) (position : Nat) : Bool :=
  source[position]? == some 13 ||
    source[position]? == some 10 && !(0 < position && source[position - 1]? == some 13)

/-- How many line breaks begin in front of the position. -/
def breaksBefore (source : Bytes) (position : Nat) : Nat :=
  (List.range position).countP (breakBegins source)

theorem breakBegins_append {front : Bytes} {position : Nat} (inside : position < front.length)
    (behind : Bytes) : breakBegins (front ++ behind) position = breakBegins front position := by
  rw [breakBegins, breakBegins, List.getElem?_append_left inside,
    List.getElem?_append_left (Nat.lt_of_le_of_lt (Nat.sub_le position 1) inside)]

/-- What follows a position has no line breaks in front of it. -/
theorem breaksBefore_append {front : Bytes} {position : Nat} (within : position ≤ front.length)
    (behind : Bytes) : breaksBefore (front ++ behind) position = breaksBefore front position := by
  apply List.countP_congr
  intro earlier member
  rw [breakBegins_append (Nat.lt_of_lt_of_le (List.mem_range.1 member) within)]

theorem breaksBefore_le (source : Bytes) (position : Nat) : breaksBefore source position ≤ position := by
  have bound := List.countP_le_length (p := breakBegins source) (l := List.range position)
  rwa [List.length_range] at bound

/-- One byte more is one line break more, if one begins there. -/
theorem lineBreaks_concat (front : Bytes) (b : UInt8) :
    lineBreaks (front ++ [b]) =
      lineBreaks front + if breakBegins (front ++ [b]) front.length then 1 else 0 := by
  have here : (front ++ [b])[front.length]? = some b := List.getElem?_concat_length
  by_cases pair : front.getLast? = some 13 ∧ b = 10
  · -- the line feed belongs to the line break that the carriage return has begun
    obtain ⟨last, rfl⟩ := pair
    obtain ⟨before, rfl⟩ := List.getLast?_eq_some_iff.1 last
    have previous : (before ++ [13] ++ [10])[(before ++ [13]).length - 1]? = some (13 : UInt8) := by simp
    have none : breakBegins (before ++ [13] ++ [10]) (before ++ [13]).length = false := by
      rw [breakBegins, here, previous]
      simp
    have both : lineBreaks (before ++ [13, 10]) = lineBreaks before + 1 :=
      lineBreaks_append before [13, 10] (by simp)
    have alone : lineBreaks (before ++ [13]) = lineBreaks before + 1 :=
      lineBreaks_append before [13] (by simp)
    rw [none, alone, List.append_assoc, List.singleton_append, both]
    rfl
  · have apart : front.getLast? = some 13 → [b].head? ≠ some 10 := by
      intro last first
      exact pair ⟨last, Option.some.inj first⟩
    have begins : breakBegins (front ++ [b]) front.length = breaksLine b := by
      rw [breakBegins, here]
      by_cases feed : b = 10
      · subst feed
        have noReturn : front.getLast? ≠ some 13 := fun last => pair ⟨last, rfl⟩
        cases front using List.reverseRecOn with
        | nil => rfl
        | append_singleton before last => simpa [breaksLine] using noReturn
      · have noFeed : (b == 10) = false := beq_false_of_ne feed
        simp [breaksLine, noFeed]
    rw [lineBreaks_append front [b] apart, begins, lineBreaks_cons (by simp)]
    rfl

/-- The line breaks of a text are those that begin at its positions. -/
theorem breaksBefore_length (source : Bytes) : breaksBefore source source.length = lineBreaks source := by
  induction source using List.reverseRecOn with
  | nil => rfl
  | append_singleton front b ih =>
      have shorter := breaksBefore_append (Nat.le_refl front.length) [b]
      rw [breaksBefore, List.length_append, List.length_singleton, List.range_succ, List.countP_append,
        List.countP_singleton, lineBreaks_concat, ← ih, ← shorter]
      rfl

/-! ### Lines of tokens -/

theorem Gives.line_eq {line : Nat} {s : Segment} {token : Token} (gives : Gives line s token) :
    token.line = line := by
  cases gives <;> rfl

/-- How many bytes of a text stand in front of its token with the given index. -/
def tokenOffset? (source : Bytes) (index : Nat) : Option Nat :=
  ((significant [] (segments source))[index]?).map fun place => place.1.length

/-- Behind the bytes in front of a token stands the segment that gives it, on the line reached there. -/
theorem exists_offset {source : Bytes} {index : Nat} {token : Token}
    (found : (tokenize source)[index]? = some token) :
    ∃ offset kind bytes rest, tokenOffset? source index = some offset ∧
      source.drop offset = bytes ++ rest ∧ Takes kind bytes rest ∧
      Gives (1 + breaksBefore source offset) ⟨kind, bytes⟩ token := by
  obtain ⟨⟨before, s⟩, placeEq, gives⟩ := exists_place found
  have divides := divides_segments source
  obtain ⟨first, second, piecesEq, beforeEq⟩ := exists_of_significant placeEq
  have follow := divides.follow
  rw [piecesEq, follow_append] at follow
  have joins := divides.joins
  rw [piecesEq, joined_append, joined_cons] at joins
  rw [List.nil_append] at beforeEq
  subst beforeEq
  refine ⟨(joined first).length, s.kind, s.bytes, joined second, ?_, ?_, ?_, ?_⟩
  · exact congrArg (Option.map fun place => place.1.length) placeEq
  · rw [← joins, List.drop_left]
  · have takes := follow.2.1
    rwa [List.append_nil] at takes
  · rw [← joins, breaksBefore_append (Nat.le_refl _), breaksBefore_length]
    exact gives

theorem line_le_length {source : Bytes} {token : Token} (member : token ∈ tokenize source) :
    token.line ≤ source.length := by
  obtain ⟨index, found⟩ := List.mem_iff_getElem?.1 member
  obtain ⟨offset, kind, bytes, rest, -, joins, takes, gives⟩ := exists_offset found
  have nonempty := List.length_pos_iff.2 takes.ne_nil
  have size := congrArg List.length joins
  rw [List.length_drop, List.length_append] at size
  have bound := breaksBefore_le source offset
  rw [gives.line_eq]
  omega

theorem line_of_token? {s : Segment} {line : Nat} {token : Token} (given : s.token? line = some token) :
    token.line = line := by
  obtain ⟨kind, bytes⟩ := s
  cases kind with
  | lineBreak | blank | lineComment | blockComment => exact nomatch given
  | literal | digits | word | symbol =>
      cases given
      rfl

/-- No token of some segments is on an earlier line than the first segment. -/
theorem le_line_of_mem_tokensFrom {line : Nat} {pieces : List Segment} {token : Token}
    (member : token ∈ tokensFrom line pieces) : (line : Int) ≤ token.line := by
  induction pieces generalizing line with
  | nil => exact nomatch member
  | cons s pieces ih =>
      have later : token ∈ tokensFrom (line + lineBreaks s.bytes) pieces → (line : Int) ≤ token.line := by
        intro behind
        have bound := ih behind
        omega
      rw [tokensFrom] at member
      cases given : s.token? line with
      | none =>
          rw [given] at member
          exact later member
      | some first =>
          rw [given] at member
          rcases List.mem_cons.1 member with rfl | behind
          · exact Int.le_of_eq (line_of_token? given).symm
          · exact later behind

theorem pairwise_line_tokensFrom (line : Nat) (pieces : List Segment) :
    (tokensFrom line pieces).Pairwise (fun t u => t.line ≤ u.line) := by
  induction pieces generalizing line with
  | nil => exact .nil
  | cons s pieces ih =>
      rw [tokensFrom]
      cases given : s.token? line with
      | none => exact ih _
      | some first =>
          refine .cons ?_ (ih _)
          intro token behind
          have bound := le_line_of_mem_tokensFrom behind
          rw [line_of_token? given]
          omega

theorem pairwise_line_tokenize (source : Bytes) :
    (tokenize source).Pairwise (fun t u => t.line ≤ u.line) :=
  pairwise_line_tokensFrom 1 (segments source)

/-! ### Lines of functions -/

/-- The line of a function is that of a token. -/
theorem exists_line_eq {b : Buffer} {d : Declaration} (found : d ∈ extract b.tokens) :
    ∃ (index : Nat) (token : Token), d.name = index ∧ b.tokens[index]? = some token ∧
      d.line b = token.line := by
  obtain ⟨name, close, stop, declares, rfl⟩ := mem_extract_iff.1 found
  obtain ⟨text, line, named, -⟩ := declares.named
  refine ⟨name, .word text line, rfl, named, ?_⟩
  exact congrArg Token.line (token_of_getElem? named)

/-- Where the lines of tokens do not decrease, those of functions do not either. -/
theorem extract_pairwise_line {b : Buffer} (ordered : b.tokens.Pairwise (fun t u => t.line ≤ u.line)) :
    (extract b.tokens).Pairwise (fun d e => d.line b ≤ e.line b) := by
  apply (extract_pairwise_name b.tokens).imp_of_mem
  intro d e found foundOther before
  obtain ⟨index, token, nameEq, tokenEq, lineEq⟩ := exists_line_eq found
  obtain ⟨index', token', nameEq', tokenEq', lineEq'⟩ := exists_line_eq foundOther
  obtain ⟨inside, rfl⟩ := List.getElem?_eq_some_iff.1 tokenEq
  obtain ⟨inside', rfl⟩ := List.getElem?_eq_some_iff.1 tokenEq'
  rw [nameEq, nameEq'] at before
  rw [lineEq, lineEq']
  exact List.pairwise_iff_getElem.1 ordered index index' inside inside' (Int.ofNat_lt.1 before)

/-- A line number that a word can hold is reported as it is. -/
theorem toInt_line_ofDeclaration {path : String} {source : Bytes} {d : Declaration}
    (short : source.length < 2 ^ 63) (found : d ∈ extract (tokenize source)) :
    (FunctionEntry.ofDeclaration (Buffer.ofSource path source) d).line.toInt =
      d.line (Buffer.ofSource path source) := by
  obtain ⟨index, token, -, tokenEq, lineEq⟩ := exists_line_eq (b := Buffer.ofSource path source) found
  have member : token ∈ tokenize source := List.mem_of_getElem? tokenEq
  have above : (1 : Int) ≤ token.line := le_line_of_mem_tokensFrom member
  have below := line_le_length member
  rw [FunctionEntry.ofDeclaration, lineEq]
  apply Int64.toInt_ofInt_of_le
  · omega
  · omega

/-- The line of a token is one more than the number of line breaks in front of its first byte.  So neither
the lines of tokens nor those of functions ever decrease, and in a text whose length fits into a word the
functions are reported in this order. -/
theorem lines_of_text (path : String) (source : Bytes) :
    (∀ index token, (Buffer.ofSource path source).tokens[index]? = some token →
      ∃ offset kind bytes rest, tokenOffset? source index = some offset ∧
        source.drop offset = bytes ++ rest ∧ Takes kind bytes rest ∧
        Gives (1 + breaksBefore source offset) ⟨kind, bytes⟩ token ∧
        token.line = 1 + breaksBefore source offset) ∧
    (Buffer.ofSource path source).tokens.Pairwise (fun t u => t.line ≤ u.line) ∧
    (extract (Buffer.ofSource path source).tokens).Pairwise
      (fun d e => d.line (Buffer.ofSource path source) ≤ e.line (Buffer.ofSource path source)) ∧
    (source.length < 2 ^ 63 →
      (FileEntry.ofSource path source).functionList.Pairwise (fun f g => f.line ≤ g.line)) := by
  have ordered := extract_pairwise_line (b := Buffer.ofSource path source) (pairwise_line_tokenize source)
  refine ⟨?_, pairwise_line_tokenize source, ordered, ?_⟩
  · intro index token found
    obtain ⟨offset, kind, bytes, rest, place, joins, takes, gives⟩ := exists_offset found
    exact ⟨offset, kind, bytes, rest, place, joins, takes, gives, by rw [gives.line_eq]; omega⟩
  · intro short
    apply List.pairwise_map.2
    apply ordered.imp_of_mem
    intro d e found foundOther notAbove
    rw [Int64.le_iff_toInt_le, toInt_line_ofDeclaration short found,
      toInt_line_ofDeclaration short foundOther]
    exact notAbove

/-- The text `/*\r\n*/i f(){}\ri g(){}`: a comment over two lines, and a function on each line behind it. -/
def twoFunctions : Bytes :=
  [47, 42, 13, 10, 42, 47, 105, 32, 102, 40, 41, 123, 125, 13, 105, 32, 103, 40, 41, 123, 125]

theorem lines_of_two_functions :
    (FileEntry.ofSource "a.c" twoFunctions).functionList.map FunctionEntry.line = [2, 3] ∧
    twoFunctions.length < 2 ^ 63 ∧
    (FileEntry.ofSource "a.c" twoFunctions).functionList.Pairwise (fun f g => f.line ≤ g.line) := by
  have short : twoFunctions.length < 2 ^ 63 := by decide
  refine ⟨by decide +kernel, short, ?_⟩
  obtain ⟨-, -, -, reported⟩ := lines_of_text "a.c" twoFunctions
  exact reported short

end CodeGauge.Source
