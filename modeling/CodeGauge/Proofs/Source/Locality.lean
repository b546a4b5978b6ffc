/-
Module: CodeGauge.Proofs.Source.Locality
Purpose: Segments depend on the text around them only at their ends: what remains of a division when
  the text is cut short, and when it goes on.
Main exports:
  Takes.of_front, CutAt, exists_cutAt, Follow.extend, Takes.part, tokensFrom_append, exists_place,
  CutAt.brace_kept_iff
-/
import CodeGauge.Proofs.Source.Division

namespace CodeGauge.Source

open CodeGauge.Text
open Segment.Kind (Takes)

/-!
A rule of the grammar looks behind a segment only to see that the segment has ended.  The end of the
text ends every segment, so a text that is cut short keeps all segments in front of the cut, and only
the segment that the cut goes through is divided anew.  In the other direction a segment with something
behind it stays as it is when the text goes on.
-/

/-! ### Texts cut short -/

theorem mem_head?_of_front {front rest : Bytes} (cut : front <+: rest) {b : UInt8}
    (first : b ∈ front.head?) : b ∈ rest.head? := by
  obtain ⟨behind, rfl⟩ := cut
  exact List.mem_head?_append_of_mem_head? first

theorem AtLineEnd.of_front {front rest : Bytes} (ends : AtLineEnd rest) (cut : front <+: rest) :
    AtLineEnd front := by
  intro b first
  exact ends b (mem_head?_of_front cut first)

theorem spells_of_front {c : Char} {bytes front rest : Bytes} (spells : Utf8.Spells c bytes rest)
    (cut : front <+: rest) : Utf8.Spells c bytes front := by
  cases spells with
  | spelled => exact .spelled c front
  | stray none =>
      refine .stray fun d spelling => none d (spelling.trans ?_)
      exact List.cons_prefix_cons.2 ⟨rfl, cut⟩

/-- A segment stays a segment when the text behind it is cut short. -/
theorem Segment.Kind.Takes.of_front {kind : Segment.Kind} {bytes front rest : Bytes}
    (takes : Takes kind bytes rest) (cut : front <+: rest) : Takes kind bytes front := by
  cases takes with
  | lineFeed => exact .lineFeed
  | returnFeed => exact .returnFeed
  | loneReturn alone => exact .loneReturn fun first => alone (mem_head?_of_front cut first)
  | blank space noFeed noReturn => exact .blank space noFeed noReturn
  | lineComment sameLine ends => exact .lineComment sameLine (ends.of_front cut)
  | blockComment noClose => exact .blockComment noClose
  | openComment noClose =>
      rw [List.prefix_nil.1 cut]
      exact .openComment noClose
  | literal isQuote inside => exact .literal isQuote inside
  | openLiteral isQuote inside lastByte ends =>
      exact .openLiteral isQuote inside lastByte (ends.of_front cut)
  | digits digits ends =>
      exact .digits digits fun b first => ends b (mem_head?_of_front cut first)
  | word begins continues ends =>
      exact .word begins continues fun d continues spelling => ends d continues (spelling.trans cut)
  | symbol spells noBlank noQuote noDigit noWord noComment =>
      refine .symbol (spells_of_front spells cut) noBlank noQuote noDigit noWord fun slash => ?_
      obtain ⟨noLine, noBlock⟩ := noComment slash
      exact ⟨fun first => noLine (mem_head?_of_front cut first),
        fun first => noBlock (mem_head?_of_front cut first)⟩

theorem Follow.of_front {pieces : List Segment} {front rest : Bytes} (follow : Follow pieces rest)
    (cut : front <+: rest) : Follow pieces front := by
  induction pieces with
  | nil => trivial
  | cons s more ih =>
      exact ⟨follow.1.of_front ((List.prefix_append_right_inj _).2 cut), ih follow.2⟩

/-- A cut through consecutive segments keeps some of them and leaves a part of the next one. -/
private theorem exists_cut (pieces : List Segment) (front behind : Bytes)
    (joins : joined pieces = front ++ behind) :
    ∃ kept more part, pieces = kept ++ more ∧ front = joined kept ++ part ∧
      (part ≠ [] → ∃ s later beyond, more = s :: later ∧ s.bytes = part ++ beyond ∧ beyond ≠ []) := by
  induction pieces generalizing front with
  | nil =>
      refine ⟨[], [], [], rfl, ?_, by simp⟩
      exact (List.append_eq_nil_iff.1 joins.symm).1
  | cons s pieces ih =>
      rw [joined_cons, List.append_eq_append_iff] at joins
      rcases joins with ⟨later, frontEq, joins⟩ | ⟨beyond, bytesEq, behindEq⟩
      · obtain ⟨kept, more, part, rfl, rfl, inside⟩ := ih later joins
        exact ⟨s :: kept, more, part, rfl, by simpa using frontEq, inside⟩
      · by_cases whole : beyond = []
        · subst whole
          refine ⟨[s], pieces, [], rfl, ?_, by simp⟩
          simpa using bytesEq.symm
        · exact ⟨[], s :: pieces, front, rfl, rfl, fun _ => ⟨s, pieces, beyond, rfl, bytesEq, whole⟩⟩

/-- A text is cut behind `front`: the segments `kept` stand in front of the cut, the first of the
segments `more` loses what is behind it, and `part` is what it keeps. -/
structure CutAt (front behind : Bytes) (kept more : List Segment) (part : Bytes) : Prop where
  whole : segments (front ++ behind) = kept ++ more
  frontEq : front = joined kept ++ part
  follow : Follow kept part
  through : part ≠ [] → ∃ s later beyond rest, more = s :: later ∧ s.bytes = part ++ beyond ∧
    beyond ≠ [] ∧ s.kind.Takes s.bytes rest

theorem exists_cutAt (front behind : Bytes) :
    ∃ kept more part, CutAt front behind kept more part := by
  have divides := divides_segments (front ++ behind)
  obtain ⟨kept, more, part, piecesEq, rfl, inside⟩ := exists_cut _ _ _ divides.joins
  have follow := divides.follow
  rw [piecesEq, follow_append, List.append_nil] at follow
  have behindKept : joined more = part ++ behind := by
    have joins := divides.joins
    rw [piecesEq, joined_append, List.append_assoc] at joins
    exact List.append_cancel_left joins
  refine ⟨kept, more, part, piecesEq, rfl, follow.1.of_front ⟨behind, behindKept.symm⟩, ?_⟩
  intro nonempty
  obtain ⟨s, later, beyond, rfl, bytesEq, beyondNonempty⟩ := inside nonempty
  exact ⟨s, later, beyond, _, rfl, bytesEq, beyondNonempty, follow.2.1⟩

/-- In front of the cut the segments are kept, and the part that is left is divided by itself. -/
theorem CutAt.segments_front {front behind part : Bytes} {kept more : List Segment}
    (cut : CutAt front behind kept more part) : segments front = kept ++ segments part := by
  rw [cut.frontEq, cut.follow.segments_append]

/-! ### Texts that go on -/

/-- The text is empty or begins with an ASCII character. -/
def AsciiFirst (bytes : Bytes) : Prop := ∀ b ∈ bytes.head?, b.toNat < 0x80

/-- No spelling goes on over the end of a text into one that begins with ASCII. -/
theorem AsciiFirst.spelling_within {c : Char} {bytes more : Bytes} (ascii : AsciiFirst more)
    (nonempty : bytes ≠ []) (front : Utf8.encodeChar c <+: bytes ++ more) :
    Utf8.encodeChar c <+: bytes := by
  rcases List.prefix_or_prefix_of_prefix front (List.prefix_append bytes more) with
    within | ⟨past, joins⟩
  · exact within
  · rw [← joins, List.prefix_append_right_inj] at front
    cases past with
    | nil =>
        rw [List.append_nil] at joins
        exact joins ▸ List.prefix_refl bytes
    | cons b past =>
        obtain ⟨behind, rfl⟩ := front
        have member : b ∈ Utf8.encodeChar c := by
          rw [← joins]
          exact List.mem_append_right bytes List.mem_cons_self
        have single := (Utf8.encodeChar_of_mem_ascii member (ascii b rfl)).1
        rw [← joins, List.append_eq_singleton_iff] at single
        rcases single with ⟨empty, -⟩ | ⟨-, noByte⟩
        · exact absurd empty nonempty
        · exact absurd noByte (List.cons_ne_nil b past)

theorem AsciiFirst.spells_append {c : Char} {bytes rest more : Bytes} (ascii : AsciiFirst more)
    (spells : Utf8.Spells c bytes rest) : Utf8.Spells c bytes (rest ++ more) := by
  cases spells with
  | spelled => exact .spelled c (rest ++ more)
  | stray none =>
      refine .stray fun d front => none d ?_
      exact ascii.spelling_within (List.cons_ne_nil _ _) front

/-- A segment with something behind it stays a segment when the text goes on. -/
theorem Segment.Kind.Takes.extend {kind : Segment.Kind} {bytes rest more : Bytes}
    (takes : Takes kind bytes rest) (nonempty : rest ≠ []) (ascii : AsciiFirst more) :
    Takes kind bytes (rest ++ more) := by
  have first : (rest ++ more).head? = rest.head? := List.head?_append_of_ne_nil rest nonempty
  cases takes with
  | lineFeed => exact .lineFeed
  | returnFeed => exact .returnFeed
  | loneReturn alone => exact .loneReturn (by rwa [first])
  | blank space noFeed noReturn => exact .blank space noFeed noReturn
  | lineComment sameLine ends => exact .lineComment sameLine (by rwa [AtLineEnd, first])
  | blockComment noClose => exact .blockComment noClose
  | openComment noClose => exact absurd rfl nonempty
  | literal isQuote inside => exact .literal isQuote inside
  | openLiteral isQuote inside lastByte ends =>
      exact .openLiteral isQuote inside lastByte (by rwa [AtLineEnd, first])
  | digits digits ends => exact .digits digits (by rwa [first])
  | word begins continues ends =>
      refine .word begins continues fun d partOfWord front => ?_
      exact ends d partOfWord (ascii.spelling_within nonempty front)
  | symbol spells noBlank noQuote noDigit noWord noComment =>
      refine .symbol (ascii.spells_append spells) noBlank noQuote noDigit noWord ?_
      rwa [first]

/-- The segments of a text stay as they are when the text goes on, if the last of them does. -/
theorem Follow.extend {pieces : List Segment} {more : Bytes} (follow : Follow pieces [])
    (ascii : AsciiFirst more) (last : ∀ s ∈ pieces.getLast?, s.kind.Takes s.bytes more) :
    Follow pieces more := by
  induction pieces with
  | nil => trivial
  | cons s pieces ih =>
      obtain ⟨takes, follow⟩ := follow
      cases pieces with
      | nil => exact ⟨last s rfl, trivial⟩
      | cons t pieces =>
          refine ⟨?_, ih follow fun u final => last u (by simpa using final)⟩
          rw [List.append_nil] at takes
          apply takes.extend _ ascii
          rw [joined_cons]
          exact List.append_ne_nil_of_left_ne_nil follow.1.ne_nil _

/-! ### Parts of a segment -/

/-- A text that begins inside of a literal stays inside of it when it is cut short, but for a backslash
that has lost what it hides. -/
theorem Quoted.of_front {quote : UInt8} {front body : Bytes} (inside : Quoted quote body)
    (cut : front <+: body) :
    ∃ kept last, front = kept ++ last ∧ Quoted quote kept ∧ (last = [] ∨ last = [92]) := by
  induction inside generalizing front with
  | nil => exact ⟨[], [], List.prefix_nil.1 cut, .nil, Or.inl rfl⟩
  | plain sameLine noEscape noClose _ ih =>
      rcases List.prefix_cons_iff.1 cut with rfl | ⟨front, rfl, later⟩
      · exact ⟨[], [], rfl, .nil, Or.inl rfl⟩
      · obtain ⟨kept, last, rfl, inside, lastByte⟩ := ih later
        exact ⟨_ :: kept, last, rfl, .plain sameLine noEscape noClose inside, lastByte⟩
  | hidden sameLine _ ih =>
      rcases List.prefix_cons_iff.1 cut with rfl | ⟨front, rfl, next⟩
      · exact ⟨[], [], rfl, .nil, Or.inl rfl⟩
      rcases List.prefix_cons_iff.1 next with rfl | ⟨front, rfl, later⟩
      · exact ⟨[], [92], rfl, .nil, Or.inr rfl⟩
      · obtain ⟨kept, last, rfl, inside, lastByte⟩ := ih later
        exact ⟨_ :: _ :: kept, last, rfl, .hidden sameLine inside, lastByte⟩

private theorem takes_part_literal {quote : UInt8} {body part : Bytes}
    (isQuote : quote = 34 ∨ quote = 39) (inside : Quoted quote body) (cut : part <+: body) :
    Takes (.literal (Char.ofNat quote.toNat)) (quote :: part) [] := by
  obtain ⟨kept, last, rfl, inside, lastByte⟩ := inside.of_front cut
  exact .openLiteral isQuote inside lastByte (by simp [AtLineEnd])

/-- What is left of a closed text without its last byte lies in front of that byte. -/
private theorem front_of_append_last {part beyond body : Bytes} {b : UInt8}
    (joins : part ++ beyond = body ++ [b]) (inside : beyond ≠ []) : part <+: body := by
  have cut : part <+: body ++ [b] := ⟨beyond, joins⟩
  rcases List.prefix_concat_iff.1 cut with whole | cut
  · rw [whole] at joins
    exact absurd (List.append_right_eq_self.1 joins) inside
  · exact cut

private theorem noClose_of_front {body part : Bytes} (noClose : ¬ [42, 47] <:+: body)
    (cut : part <+: body ++ [42]) : ¬ [42, 47] <:+: part := by
  intro close
  rcases List.infix_concat_iff.1 (close.trans cut.isInfix) with ⟨before, ends⟩ | close
  · have last := congrArg List.getLast? ends
    simp at last
  · exact noClose close

/-- The byte of a closing brace stands in no white space, number or word, and in no symbol but its
own. -/
private theorem brace_not_mem {kind : Segment.Kind} {bytes rest : Bytes}
    (takes : Takes kind bytes rest) (noComment : kind ≠ .lineComment ∧ kind ≠ .blockComment)
    (noLiteral : ∀ quote, kind ≠ .literal quote) (long : bytes ≠ [125]) : 125 ∉ bytes := by
  have small : (125 : UInt8).toNat < 0x80 := by decide
  intro brace
  cases takes with
  | lineFeed | returnFeed | loneReturn => simp at brace
  | blank space =>
      obtain ⟨-, rfl⟩ := Utf8.encodeChar_of_mem_ascii brace small
      exact absurd space (by decide)
  | lineComment => exact noComment.1 rfl
  | blockComment | openComment => exact noComment.2 rfl
  | literal | openLiteral => exact noLiteral _ rfl
  | digits digits => exact absurd (digits 125 brace) (by decide)
  | word begins continues =>
      have partOfWord := continuesWord_of_mem_word begins continues brace small
      exact absurd partOfWord (by decide)
  | symbol spells => exact long (spells.of_mem_ascii brace small).1

/-- A part of a text with a two-byte opening ends in the opening or goes past it. -/
private theorem part_of_opening {a b : UInt8} {part beyond body : Bytes}
    (joins : part ++ beyond = a :: b :: body) :
    part <+: [a] ∨ ∃ inner, part = a :: b :: inner ∧ inner ++ beyond = body := by
  match part with
  | [] => exact Or.inl List.nil_prefix
  | [x] =>
      cases joins
      exact Or.inl (List.prefix_refl _)
  | x :: y :: inner =>
      cases joins
      exact Or.inr ⟨inner, rfl, rfl⟩

/-- A part of a comment or a literal that reaches past its opening is a comment or a literal to the end
of the text; a part of anything else holds no closing brace. -/
theorem Segment.Kind.Takes.part {kind : Segment.Kind} {part beyond rest : Bytes}
    (takes : Takes kind (part ++ beyond) rest) (inside : beyond ≠ []) :
    Takes kind part [] ∨ 125 ∉ part := by
  generalize bytesEq : part ++ beyond = bytes at takes
  have other (noComment : kind ≠ .lineComment ∧ kind ≠ .blockComment)
      (noLiteral : ∀ quote, kind ≠ .literal quote) : 125 ∉ part := by
    intro brace
    apply brace_not_mem takes noComment noLiteral
    · rintro rfl
      rw [List.append_eq_singleton_iff] at bytesEq
      rcases bytesEq with ⟨rfl, -⟩ | ⟨-, rfl⟩
      · exact absurd brace (by simp)
      · exact inside rfl
    · rw [← bytesEq]
      exact List.mem_append_left beyond brace
  have slash (short : part <+: [47]) : 125 ∉ part := by
    intro brace
    exact absurd (short.mem brace) (by decide)
  cases takes with
  | lineFeed | returnFeed | loneReturn | blank | digits | word | symbol =>
      exact Or.inr (other (by simp) (by simp))
  | lineComment sameLine ends =>
      rcases part_of_opening bytesEq with short | ⟨inner, rfl, rfl⟩
      · exact Or.inr (slash short)
      · refine Or.inl (.lineComment (fun b member => sameLine b ?_) (by simp [AtLineEnd]))
        exact List.mem_append_left beyond member
  | blockComment noClose =>
      rename_i body
      rcases part_of_opening bytesEq with short | ⟨inner, rfl, bodyEq⟩
      · exact Or.inr (slash short)
      · have closing : inner ++ beyond = body ++ [42] ++ [47] := by simpa using bodyEq
        exact Or.inl (.openComment (noClose_of_front noClose (front_of_append_last closing inside)))
  | openComment noClose =>
      rcases part_of_opening bytesEq with short | ⟨inner, rfl, rfl⟩
      · exact Or.inr (slash short)
      · exact Or.inl (.openComment fun close => noClose (close.trans (List.prefix_append _ _).isInfix))
  | literal isQuote quoted =>
      rcases List.append_eq_cons_iff.1 bytesEq with ⟨rfl, -⟩ | ⟨inner, rfl, bodyEq⟩
      · exact Or.inr (by simp)
      · exact Or.inl (takes_part_literal isQuote quoted (front_of_append_last bodyEq.symm inside))
  | openLiteral isQuote quoted lastByte ends =>
      rcases List.append_eq_cons_iff.1 bytesEq with ⟨rfl, -⟩ | ⟨inner, rfl, bodyEq⟩
      · exact Or.inr (by simp)
      · refine Or.inl (takes_part_literal isQuote quoted ?_)
        rcases lastByte with rfl | rfl
        · exact ⟨beyond, by rw [← bodyEq, List.append_nil]⟩
        · exact front_of_append_last bodyEq.symm inside

theorem segments_eq_single {kind : Segment.Kind} {bytes : Bytes} (takes : Takes kind bytes []) :
    segments bytes = [⟨kind, bytes⟩] := by
  have whole := segments_of_takes takes
  rwa [List.append_nil, segments] at whole

/-- A closing brace is spelled by its own byte. -/
theorem Segment.Kind.Takes.eq_brace {bytes rest : Bytes} (takes : Takes (.symbol '}') bytes rest) :
    bytes = [125] := by
  cases takes with
  | symbol spells => exact eq_encodeChar_of_spells spells (by decide)

/-- A literal's kind names its quote. -/
theorem Segment.Kind.Takes.quote_eq {quote : Char} {bytes rest : Bytes}
    (takes : Takes (.literal quote) bytes rest) : quote = '"' ∨ quote = '\'' := by
  cases takes with
  | literal isQuote | openLiteral isQuote =>
      rcases isQuote with rfl | rfl
      · exact Or.inl rfl
      · exact Or.inr rfl

theorem mem_segments_takes {source : Bytes} {s : Segment} (member : s ∈ segments source) :
    s.bytes <:+: source ∧ ∃ rest, s.kind.Takes s.bytes rest := by
  have divides := divides_segments source
  obtain ⟨first, second, piecesEq⟩ := List.append_of_mem member
  have follow := divides.follow
  rw [piecesEq, follow_append] at follow
  have joins := divides.joins
  rw [piecesEq, joined_append, joined_cons, ← List.append_assoc] at joins
  exact ⟨⟨joined first, joined second, joins⟩, _, follow.2.1⟩

/-- The part of a segment that a cut leaves has no closing brace among its segments. -/
theorem Segment.Kind.Takes.part_noBrace {kind : Segment.Kind} {part beyond rest : Bytes}
    (takes : Takes kind (part ++ beyond) rest) (inside : beyond ≠ []) :
    ∀ s ∈ segments part, s.kind ≠ .symbol '}' := by
  intro s member brace
  obtain ⟨within, behind, taken⟩ := mem_segments_takes member
  rw [brace] at taken
  rcases takes.part inside with single | noByte
  · rw [segments_eq_single single, List.mem_singleton] at member
    subst member
    have sameKind : kind = .symbol '}' := brace
    subst sameKind
    have both := takes.eq_brace
    rw [single.eq_brace, List.singleton_append, List.cons.injEq] at both
    exact inside both.2
  · rw [taken.eq_brace] at within
    exact noByte (within.mem (by simp))

/-! ### Places of tokens -/

theorem placed_append (before : Bytes) (first second : List Segment) :
    placed before (first ++ second) =
      placed before first ++ placed (before ++ joined first) second := by
  induction first generalizing before with
  | nil => simp [placed]
  | cons s first ih => simp [placed, ih]

theorem significant_append (before : Bytes) (first second : List Segment) :
    significant before (first ++ second) =
      significant before first ++ significant (before ++ joined first) second := by
  rw [significant, placed_append, List.filter_append]
  rfl

private theorem exists_of_mem_placed {before spot : Bytes} {pieces : List Segment} {s : Segment}
    (member : (spot, s) ∈ placed before pieces) :
    ∃ first second, pieces = first ++ s :: second ∧ spot = before ++ joined first := by
  induction pieces generalizing before with
  | nil => simp [placed] at member
  | cons t pieces ih =>
      rcases List.mem_cons.1 member with same | member
      · cases same
        exact ⟨[], pieces, rfl, by simp⟩
      · obtain ⟨first, second, rfl, spotEq⟩ := ih member
        exact ⟨t :: first, second, rfl, by simpa using spotEq⟩

/-- A segment is placed behind the bytes of those in front of it. -/
theorem exists_of_significant {before spot : Bytes} {pieces : List Segment} {s : Segment} {index : Nat}
    (found : (significant before pieces)[index]? = some (spot, s)) :
    ∃ first second, pieces = first ++ s :: second ∧ spot = before ++ joined first :=
  exists_of_mem_placed (List.mem_filter.1 (List.mem_of_getElem? found)).1

/-- The line reached behind segments that start on the given one. -/
def lineBehind (line : Nat) (pieces : List Segment) : Nat :=
  pieces.foldl (fun line s => line + lineBreaks s.bytes) line

theorem tokensFrom_append (line : Nat) (first second : List Segment) :
    tokensFrom line (first ++ second) =
      tokensFrom line first ++ tokensFrom (lineBehind line first) second := by
  induction first generalizing line with
  | nil => rfl
  | cons s first ih =>
      rw [List.cons_append, tokensFrom, tokensFrom, ih]
      cases s.token? line with
      | none => rfl
      | some token => rfl

/-- The token at an index is given by the segment at the place with this index. -/
theorem exists_place {source : Bytes} {index : Nat} {token : Token}
    (found : (tokenize source)[index]? = some token) :
    ∃ place, (significant [] (segments source))[index]? = some place ∧
      Gives (1 + lineBreaks place.1) place.2 token := by
  have given := (divides_segments source).follow.tokens_given [] (by simp)
  obtain ⟨inside, rfl⟩ := List.getElem?_eq_some_iff.1 found
  have placeInside : index < (significant [] (segments source)).length := by
    rw [given.length_eq]
    exact inside
  exact ⟨_, List.getElem?_eq_getElem placeInside, given.get placeInside inside⟩

/-- A closing brace among the tokens is a brace of the text. -/
theorem exists_brace_place {source : Bytes} {index : Nat} {line : Int}
    (found : (tokenize source)[index]? = some (.symbol '}' line)) :
    ∃ before, (significant [] (segments source))[index]? = some (before, ⟨.symbol '}', [125]⟩) ∧
      before ++ [125] <+: source := by
  obtain ⟨⟨before, s⟩, placeEq, gives⟩ := exists_place found
  have divides := divides_segments source
  obtain ⟨first, second, piecesEq, beforeEq⟩ := exists_of_significant placeEq
  have follow := divides.follow
  rw [piecesEq, follow_append] at follow
  have joins := divides.joins
  rw [piecesEq, joined_append, joined_cons] at joins
  cases gives with
  | literal => exact absurd follow.2.1.quote_eq (by decide)
  | symbol =>
      cases follow.2.1.eq_brace
      refine ⟨before, placeEq, joined second, ?_⟩
      rw [← joins, beforeEq]
      simp

section CutAt

variable {front behind part : Bytes} {kept more : List Segment}

theorem CutAt.tokenize_front (cut : CutAt front behind kept more part) :
    tokenize front = tokensFrom 1 kept ++ tokensFrom (lineBehind 1 kept) (segments part) := by
  rw [tokenize, cut.segments_front, tokensFrom_append]

theorem CutAt.tokenize_whole (cut : CutAt front behind kept more part) :
    tokenize (front ++ behind) = tokensFrom 1 kept ++ tokensFrom (lineBehind 1 kept) more := by
  rw [tokenize, cut.whole, tokensFrom_append]

theorem CutAt.length_kept (cut : CutAt front behind kept more part) :
    (significant [] kept).length = (tokensFrom 1 kept).length :=
  (cut.follow.tokens_given [] (by simp)).length_eq

/-- The part that the cut leaves gives no closing brace. -/
theorem CutAt.brace_kept (cut : CutAt front behind kept more part) {index : Nat} {line : Int}
    (found : (tokenize front)[index]? = some (.symbol '}' line)) :
    index < (tokensFrom 1 kept).length := by
  obtain ⟨before, placeEq, -⟩ := exists_brace_place found
  rw [cut.segments_front, significant_append] at placeEq
  rw [← cut.length_kept]
  by_contra behindKept
  rw [List.getElem?_append_right (by omega)] at placeEq
  obtain ⟨first, second, piecesEq, -⟩ := exists_of_significant placeEq
  have nonempty : part ≠ [] := by
    rintro rfl
    rw [segments] at piecesEq
    simp at piecesEq
  obtain ⟨s, later, beyond, rest, -, bytesEq, inside, takes⟩ := cut.through nonempty
  rw [bytesEq] at takes
  have member : (⟨.symbol '}', [125]⟩ : Segment) ∈ segments part := by
    rw [piecesEq]
    exact List.mem_append_right first List.mem_cons_self
  exact takes.part_noBrace inside _ member rfl

/-- A closing brace of the whole text is kept if it stands in front of the cut. -/
theorem CutAt.brace_kept_iff (cut : CutAt front behind kept more part) {index : Nat} {before : Bytes}
    (place : (significant [] (segments (front ++ behind)))[index]? =
      some (before, ⟨.symbol '}', [125]⟩)) :
    index < (tokensFrom 1 kept).length ↔ before.length < front.length := by
  rw [cut.whole, significant_append, List.nil_append] at place
  rw [← cut.length_kept, cut.frontEq, List.length_append]
  constructor
  · intro inside
    rw [List.getElem?_append_left inside] at place
    obtain ⟨first, second, rfl, rfl⟩ := exists_of_significant place
    simp only [joined_append, joined_cons, List.nil_append, List.length_append, List.length_singleton]
    omega
  · intro inFront
    by_contra behindKept
    rw [List.getElem?_append_right (by omega)] at place
    obtain ⟨first, second, moreEq, rfl⟩ := exists_of_significant place
    rw [List.length_append] at inFront
    have nonempty : part ≠ [] := by
      rintro rfl
      rw [List.length_nil] at inFront
      omega
    -- the brace is not the segment that the cut goes through, which has two bytes, so it is behind it
    obtain ⟨s, later, beyond, rest, rfl, bytesEq, inside, -⟩ := cut.through nonempty
    cases first with
    | nil =>
        cases moreEq
        rcases List.append_eq_singleton_iff.1 bytesEq.symm with ⟨noPart, -⟩ | ⟨-, noBeyond⟩
        · exact nonempty noPart
        · exact inside noBeyond
    | cons t first =>
        cases moreEq
        rw [joined_cons, bytesEq, List.length_append, List.length_append] at inFront
        omega

end CutAt

end CodeGauge.Source
