/-
Module: CodeGauge.Proofs.Source.Scanner
Purpose: What a scanner does byte by byte is what the grammar says of the text at its place: it ends, reads
  nothing outside of the text, and passes over exactly one white space, comment or token.
Main exports:
  Runs, Runs.again, Runs.found, Scanner.Before, Scanner.moved, Scanner.past, Takes.runs_lineBreak,
  runs_passBytes, runs_passWord, runs_passLiteral_append, runs_passComment_append,
  Takes.runs_passBlanks_solid, Takes.runs_passSolid
-/
import CodeGauge.Proofs.Source.Division

namespace CodeGauge.Source

open CodeGauge.Text CodeGauge.Number
open Segment.Kind (Takes)

/-!
The grammar splits a text in two and never counts a byte; a scanner holds the whole text and a number.  The
two meet in the bytes behind the cursor: each loop of the scanner is followed by induction on what the
grammar says of these bytes, and moves the cursor by their number.
-/

/-- The scanner comes to an answer, so all its loops end and it asks for nothing outside of the text. -/
def Runs {α : Type} (x : Scan α) (s : Scanner) (answer : α) (t : Scanner) : Prop :=
  (x.run s).run = some (.ok (answer, t))

namespace Runs

variable {α β : Type} {s t u : Scanner}

theorem pure (a : α) : Runs (Pure.pure a) s a s := rfl

theorem get : Runs MonadState.get s s s := rfl

theorem bind {x : Scan α} {f : α → Scan β} {a : α} {b : β} (first : Runs x s a t)
    (more : Runs (f a) t b u) : Runs (x >>= f) s b u := by
  unfold Runs at first more ⊢
  rw [StateT.run_bind, ExceptT.run_bind, first]
  exact more

/-- A loop goes on behind a round that does not end it. -/
theorem again {round : Scan (Scan.Round α)} {a : α} (one : Runs round s .again t)
    (more : Runs (Scan.repeated round) t a u) : Runs (Scan.repeated round) s a u := by
  rw [Scan.repeated]
  exact one.bind more

theorem found {round : Scan (Scan.Round α)} {a : α} (one : Runs round s (.found a) t) :
    Runs (Scan.repeated round) s a t := by
  rw [Scan.repeated]
  exact one.bind (.pure a)

theorem collected_cons {answer : Scan (Option α)} {a : α} {more : List α} (one : Runs answer s (some a) t)
    (later : Runs (Scan.collected answer) t more u) : Runs (Scan.collected answer) s (a :: more) u := by
  rw [Scan.collected]
  exact one.bind (later.bind (.pure _))

theorem collected_nil {answer : Scan (Option α)} (last : Runs answer s none t) :
    Runs (Scan.collected answer) s [] t := by
  rw [Scan.collected]
  exact last.bind (.pure [])

theorem unique {x : Scan α} {a b : α} (one : Runs x s a t) (two : Runs x s b u) : a = b ∧ t = u := by
  have same := one.symm.trans two
  simpa using same

theorem perform_eq {x : Scan α} {a missing : α} (runs : Runs x s a t) :
    x.perform missing s = (a, t) := by
  unfold Runs at runs
  rw [Scan.perform, runs]

end Runs

/-! ### Places -/

namespace Scanner

variable {s : Scanner} {b : UInt8} {bytes rest : Bytes}

/-- The cursor is in the text, in front of the bytes `rest`. -/
structure Before (s : Scanner) (rest : Bytes) : Prop where
  inside : s.cursor ≤ s.source.length
  rest_eq : s.source.drop s.cursor = rest

/-- The scanner some bytes and some lines further on. -/
def moved (s : Scanner) (size lines : Nat) : Scanner :=
  { s with cursor := s.cursor + size, line := s.line + lines }

/-- The scanner behind the given bytes. -/
def past (s : Scanner) (bytes : Bytes) : Scanner := s.moved bytes.length (lineBreaks bytes)

theorem moved_moved {size lines more others : Nat} :
    (s.moved size lines).moved more others = s.moved (size + more) (lines + others) := by
  rw [moved, moved, moved, Nat.add_assoc, Nat.add_assoc]

theorem past_of_sameLine (sameLine : ∀ b ∈ bytes, breaksLine b = false) :
    s.past bytes = s.moved bytes.length 0 := by
  rw [past, lineBreaks_eq_zero sameLine]

theorem past_past {first second : Bytes}
    (apart : first.getLast? = some 13 → second.head? ≠ some 10) :
    (s.past first).past second = s.past (first ++ second) := by
  rw [past, past, past, moved_moved, List.length_append, lineBreaks_append first second apart]

namespace Before

theorem length_eq (before : s.Before rest) : s.source.length = s.cursor + rest.length := by
  have inside := before.inside
  have size := congrArg List.length before.rest_eq
  rw [List.length_drop] at size
  omega

theorem cursor_lt (before : s.Before (b :: rest)) : s.cursor < s.source.length := by
  rw [before.length_eq, List.length_cons]
  omega

theorem not_cursor_lt (before : s.Before []) : ¬ s.cursor < s.source.length := by
  rw [before.length_eq]
  exact Nat.lt_irrefl _

theorem getElem? (before : s.Before rest) (i : Nat) : s.source[s.cursor + i]? = rest[i]? := by
  rw [← before.rest_eq, List.getElem?_drop]

theorem moved (bytes : Bytes) (before : s.Before (bytes ++ rest)) (lines : Nat) :
    (s.moved bytes.length lines).Before rest where
  inside := by
    have size := before.length_eq
    rw [List.length_append] at size
    simp only [Scanner.moved]
    omega
  rest_eq := by
    simp only [Scanner.moved]
    rw [← List.drop_drop, before.rest_eq, List.drop_left]

theorem past (bytes : Bytes) (before : s.Before (bytes ++ rest)) : (s.past bytes).Before rest :=
  before.moved bytes (lineBreaks bytes)

end Before

theorem before_start (source : Bytes) : (start source).Before source :=
  ⟨Nat.zero_le _, rfl⟩

end Scanner

theorem Segment.Kind.Takes.cursor_lt {kind : Segment.Kind} {bytes rest : Bytes} {s : Scanner}
    (takes : Takes kind bytes rest) (before : s.Before (bytes ++ rest)) : s.cursor < s.source.length := by
  obtain ⟨a, tail, rfl⟩ := List.exists_cons_of_ne_nil takes.ne_nil
  exact before.cursor_lt

/-! ### Reading -/

section Reading

variable {s : Scanner} {a b : UInt8} {rest : Bytes}

theorem runs_byteAt {place : Nat} (here : s.source[place]? = some b) :
    Runs (Scan.byteAt place) s b s := by
  unfold Scan.byteAt
  apply Runs.get.bind
  rw [here]
  exact .pure b

theorem runs_here (before : s.Before (b :: rest)) : Runs (Scan.byteAt s.cursor) s b s :=
  runs_byteAt (before.getElem? 0)

theorem runs_advance (size : Nat) : Runs (Scan.advance size) s () (s.moved size 0) := rfl

theorem runs_newLine : Runs Scan.newLine s () (s.moved 0 1) := rfl

theorem runs_holdsHere (holds : UInt8 → Bool) (before : s.Before rest) :
    Runs (Scan.holdsHere holds) s (rest.head?.any holds) s := by
  unfold Scan.holdsHere
  apply Runs.get.bind
  cases rest with
  | nil =>
      rw [if_neg before.not_cursor_lt]
      exact .pure false
  | cons b rest =>
      rw [if_pos before.cursor_lt]
      exact (runs_here before).bind (.pure _)

theorem runs_peek (before : s.Before (a :: rest)) : Runs Scan.peek s (rest.headD 0) s := by
  unfold Scan.peek
  apply Runs.get.bind
  have size := before.length_eq
  cases rest with
  | nil =>
      rw [if_neg (by rw [size]; exact Nat.lt_irrefl _)]
      exact .pure 0
  | cons b rest =>
      rw [if_pos (by rw [size]; simp)]
      exact runs_byteAt (before.getElem? 1)

theorem runs_peekIf (condition : Bool) (before : s.Before (a :: rest)) :
    Runs (Scan.peekIf condition) s (if condition then rest.headD 0 else 0) s := by
  unfold Scan.peekIf
  cases condition with
  | true => exact runs_peek before
  | false => exact .pure 0

theorem runs_slice {start stop : Nat} {bytes : Bytes} (ordered : start ≤ stop)
    (inside : stop ≤ s.source.length) (between : (s.source.drop start).take (stop - start) = bytes) :
    Runs (Scan.slice start stop) s bytes s := by
  unfold Scan.slice
  apply Runs.get.bind
  rw [if_pos ⟨ordered, inside⟩, between]
  exact .pure bytes

theorem runs_char {answer : Char × Nat} (read : Utf8.decodeFirst a rest = answer)
    (before : s.Before (a :: rest)) : Runs Scan.char s answer s := by
  have between : (s.source.drop s.cursor).take (s.source.length - s.cursor) = a :: rest := by
    rw [before.rest_eq, before.length_eq, Nat.add_sub_cancel_left, List.take_length]
  unfold Scan.char
  apply Runs.get.bind
  apply (runs_slice before.inside (Nat.le_refl _) between).bind
  rw [← read]
  exact .pure _

theorem runs_char_of_spelling {c : Char} (before : s.Before (Utf8.encodeChar c ++ rest)) :
    Runs Scan.char s (c, (Utf8.encodeChar c).length) s := by
  obtain ⟨a, tail, spelling⟩ := List.exists_cons_of_ne_nil (Utf8.encodeChar_ne_nil c)
  rw [spelling, List.cons_append] at before
  have front : Utf8.encodeChar c <+: a :: (tail ++ rest) :=
    ⟨rest, by rw [spelling, List.cons_append]⟩
  exact runs_char (Utf8.decodeFirst_of_spelling front) before

/-- What a scanner has passed is what stood in front of it. -/
theorem runs_takenFrom {bytes : Bytes} (before : s.Before (bytes ++ rest)) (lines : Nat) :
    Runs (Scan.takenFrom s.cursor) (s.moved bytes.length lines) bytes (s.moved bytes.length lines) := by
  unfold Scan.takenFrom
  apply Runs.get.bind
  apply runs_slice (Nat.le_add_right s.cursor bytes.length) (before.moved bytes lines).inside
  simp only [Scanner.moved, Nat.add_sub_cancel_left]
  rw [before.rest_eq, List.take_left]

end Reading

/-! ### Line breaks -/

/-- The scanner recognises the line breaks of the grammar. -/
theorem Segment.Kind.Takes.runs_lineBreak {s : Scanner} {bytes rest : Bytes}
    (takes : Takes .lineBreak bytes rest) (before : s.Before (bytes ++ rest)) :
    Runs Scan.lineBreak s true (s.past bytes) := by
  unfold Scan.lineBreak
  apply Runs.get.bind
  cases takes with
  | lineFeed =>
      apply (runs_here before).bind
      exact (runs_advance 1).bind (runs_newLine.bind (.pure true))
  | returnFeed =>
      apply (runs_here before).bind
      apply (runs_advance 1).bind
      apply (runs_holdsHere _ (before.moved [13] 0)).bind
      exact (runs_advance 1).bind (runs_newLine.bind (.pure true))
  | loneReturn alone =>
      have noFeed : rest.head?.any (· == 10) = false := by
        cases rest with
        | nil => rfl
        | cons b rest => simpa using alone
      apply (runs_here before).bind
      apply (runs_advance 1).bind
      apply (runs_holdsHere _ (before.moved _ 0)).bind
      rw [noFeed]
      exact (runs_advance 0).bind (runs_newLine.bind (.pure true))

theorem runs_lineBreak_of_sameLine {s : Scanner} {b : UInt8} {rest : Bytes}
    (sameLine : breaksLine b = false) (before : s.Before (b :: rest)) :
    Runs Scan.lineBreak s false s := by
  rw [breaksLine, Bool.or_eq_false_iff] at sameLine
  unfold Scan.lineBreak
  apply Runs.get.bind
  apply (runs_here before).bind
  rw [sameLine.1, sameLine.2]
  exact .pure false

/-! ### Runs of bytes and characters -/

theorem runs_passBytes {holds : UInt8 → Bool} {body rest : Bytes}
    (run : ∀ b ∈ body, holds b = true) (ends : ∀ b ∈ rest.head?, holds b = false) {s : Scanner}
    (before : s.Before (body ++ rest)) :
    Runs (Scan.passBytes holds) s () (s.moved body.length 0) := by
  induction body generalizing s with
  | nil =>
      have stops : rest.head?.any holds = false := by
        cases rest with
        | nil => rfl
        | cons b rest => exact ends b rfl
      apply Runs.found
      apply (runs_holdsHere holds before).bind
      rw [List.nil_append, stops]
      exact .pure _
  | cons b body ih =>
      have goesOn : ((b :: body) ++ rest).head?.any holds = true := run b List.mem_cons_self
      have later := ih (fun c member => run c (List.mem_cons_of_mem b member))
        (before.moved [b] 0)
      rw [Scanner.moved_moved, List.length_singleton, Nat.add_comm] at later
      refine Runs.again ?_ later
      apply (runs_holdsHere holds before).bind
      rw [goesOn]
      exact (runs_advance 1).bind (.pure _)

theorem runs_passWord {cs : List Char} {rest : Bytes} (run : ∀ c ∈ cs, continuesWord c = true)
    (ends : EndsWord rest) {s : Scanner} (before : s.Before (cs.flatMap Utf8.encodeChar ++ rest)) :
    Runs Scan.passWord s () (s.moved (cs.flatMap Utf8.encodeChar).length 0) := by
  induction cs generalizing s with
  | nil =>
      apply Runs.found
      apply Runs.get.bind
      cases rest with
      | nil =>
          rw [if_neg before.not_cursor_lt]
          exact .pure _
      | cons a rest =>
          have stops : ∃ c size, Utf8.decodeFirst a rest = (c, size) ∧ continuesWord c = false := by
            rcases Utf8.decodeFirst_cases a rest with ⟨c, front⟩ | stray
            · refine ⟨c, _, Utf8.decodeFirst_of_spelling front, Bool.eq_false_iff.2 ?_⟩
              exact fun continues => ends c continues front
            · exact ⟨_, _, stray, not_continuesWord_replacement⟩
          obtain ⟨c, size, read, stops⟩ := stops
          rw [if_pos before.cursor_lt]
          apply (runs_char read before).bind
          dsimp only
          rw [stops]
          exact .pure _
  | cons c cs ih =>
      rw [List.flatMap_cons, List.append_assoc] at before
      have later := ih (fun d member => run d (List.mem_cons_of_mem c member)) (before.moved _ 0)
      rw [Scanner.moved_moved, ← List.length_append] at later
      obtain ⟨a, tail, spelling⟩ := List.exists_cons_of_ne_nil (Utf8.encodeChar_ne_nil c)
      have inside : s.cursor < s.source.length := by
        rw [spelling] at before
        exact before.cursor_lt
      refine Runs.again ?_ later
      apply Runs.get.bind
      rw [if_pos inside]
      apply (runs_char_of_spelling before).bind
      dsimp only
      rw [run c List.mem_cons_self]
      exact (runs_advance _).bind (.pure _)

/-! ### Literals -/

section Literal

variable {quote b : UInt8} {body rest : Bytes} {s t : Scanner}

theorem runs_hidesNext (before : s.Before rest) :
    Runs (Scan.hidesNext b) s (b == 92 && rest.head?.any (!breaksLine ·)) s := by
  unfold Scan.hidesNext
  cases b == 92 with
  | true => exact runs_holdsHere _ before
  | false => exact .pure false

/-- Behind a byte of the literal that is not its end, and behind the byte that it hides, the literal goes
on. -/
private theorem runs_passLiteral_cons (sameLine : breaksLine b = false) (noClose : b ≠ quote)
    (before : s.Before (b :: rest))
    (more : Runs (Scan.passLiteral quote)
      (s.moved (1 + if b == 92 && rest.head?.any (!breaksLine ·) then 1 else 0) 0) () t) :
    Runs (Scan.passLiteral quote) s () t := by
  have goesOn : (b == quote) = false := beq_false_of_ne noClose
  have twice : ∀ size, (s.moved 1 0).moved size 0 = s.moved (1 + size) 0 := fun _ => Scanner.moved_moved
  rw [← twice] at more
  refine Runs.again ?_ more
  apply Runs.get.bind
  rw [if_pos before.cursor_lt]
  apply (runs_here before).bind
  rw [sameLine]
  apply (runs_advance 1).bind
  rw [goesOn]
  apply (runs_hidesNext (before.moved [b] 0)).bind
  exact (runs_advance _).bind (.pure _)

/-- The inside of a literal is passed, whatever comes behind it. -/
theorem runs_passLiteral_append (notEscape : quote ≠ 92) (inside : Quoted quote body)
    (before : s.Before (body ++ rest))
    (more : Runs (Scan.passLiteral quote) (s.moved body.length 0) () t) :
    Runs (Scan.passLiteral quote) s () t := by
  induction inside generalizing s with
  | nil => exact more
  | @plain b body sameLine noEscape noClose _ ih =>
      apply runs_passLiteral_cons sameLine noClose before
      have alone : (b == 92) = false := beq_false_of_ne noEscape
      rw [alone]
      apply ih (before.moved [b] 0)
      rwa [Scanner.moved_moved, List.length_singleton, Nat.add_comm]
  | @hidden b body sameLine _ ih =>
      rw [List.cons_append, List.cons_append] at before
      have hides : (b :: (body ++ rest)).head?.any (!breaksLine ·) = true := by simpa using sameLine
      apply runs_passLiteral_cons rfl notEscape.symm before
      rw [hides]
      apply ih (before.moved [92, b] 0)
      rwa [Scanner.moved_moved, Nat.add_comm]

theorem runs_passLiteral_close (sameLine : breaksLine quote = false)
    (before : s.Before (quote :: rest)) :
    Runs (Scan.passLiteral quote) s () (s.moved 1 0) := by
  apply Runs.found
  apply Runs.get.bind
  rw [if_pos before.cursor_lt]
  apply (runs_here before).bind
  rw [sameLine]
  apply (runs_advance 1).bind
  rw [beq_self_eq_true]
  exact .pure _

theorem runs_passLiteral_atLineEnd (ends : AtLineEnd rest) (before : s.Before rest) :
    Runs (Scan.passLiteral quote) s () s := by
  apply Runs.found
  apply Runs.get.bind
  cases rest with
  | nil =>
      rw [if_neg before.not_cursor_lt]
      exact .pure _
  | cons b rest =>
      rw [if_pos before.cursor_lt]
      apply (runs_here before).bind
      rw [ends b rfl]
      exact .pure _

theorem runs_passLiteral_lastBackslash (notEscape : quote ≠ 92) (ends : AtLineEnd rest)
    (before : s.Before (92 :: rest)) : Runs (Scan.passLiteral quote) s () (s.moved 1 0) := by
  have nothing : rest.head?.any (!breaksLine ·) = false := by
    cases rest with
    | nil => rfl
    | cons b rest => simp [ends b rfl]
  apply runs_passLiteral_cons rfl notEscape.symm before
  rw [nothing]
  exact runs_passLiteral_atLineEnd ends (before.moved [92] 0)

end Literal

/-! ### Block comments -/

theorem Segment.Kind.Takes.runs_passComment {bytes rest : Bytes} {s t : Scanner}
    (takes : Takes .lineBreak bytes rest) (before : s.Before (bytes ++ rest))
    (more : Runs Scan.passComment (s.past bytes) () t) : Runs Scan.passComment s () t := by
  refine Runs.again ?_ more
  apply Runs.get.bind
  rw [if_pos (takes.cursor_lt before)]
  exact (takes.runs_lineBreak before).bind (.pure _)

theorem runs_passComment_byte {b : UInt8} {rest : Bytes} {s t : Scanner} (sameLine : breaksLine b = false)
    (noClose : b = 42 → rest.head? ≠ some 47) (before : s.Before (b :: rest))
    (more : Runs Scan.passComment (s.moved 1 0) () t) : Runs Scan.passComment s () t := by
  have goesOn : ((if b == 42 then rest.headD 0 else 0) == 47) = false := by
    rw [beq_eq_false_iff_ne]
    by_cases star : b = 42
    · cases rest with
      | nil => simp
      | cons c rest => simpa [star] using noClose star
    · simp [star]
  refine Runs.again ?_ more
  apply Runs.get.bind
  rw [if_pos before.cursor_lt]
  apply (runs_lineBreak_of_sameLine sameLine before).bind
  apply (runs_here before).bind
  apply (runs_peekIf (b == 42) before).bind
  rw [goesOn]
  exact (runs_advance 1).bind (.pure _)

/-- The inside of a block comment is passed line by line, whatever comes behind it. -/
theorem runs_passComment_append {body ending : Bytes} (noClose : ¬ [42, 47] <:+: body)
    (noFeed : ending.head? ≠ some 10) (noSlash : ending.head? ≠ some 47) {s t : Scanner}
    (before : s.Before (body ++ ending)) (more : Runs Scan.passComment (s.past body) () t) :
    Runs Scan.passComment s () t := by
  match body with
  | [] => exact more
  | b :: body =>
      rw [close_infix_cons, not_or] at noClose
      rw [List.cons_append] at before
      by_cases pair : b = 13 ∧ body.head? = some 10
      · obtain ⟨rfl, next⟩ := pair
        obtain ⟨body, rfl⟩ := List.head?_eq_some_iff.1 next
        have later : ¬ [42, 47] <:+: body := fun close => noClose.2 (List.infix_cons close)
        have takes : Takes .lineBreak [13, 10] (body ++ ending) := .returnFeed
        apply takes.runs_passComment before
        apply runs_passComment_append later noFeed noSlash (before.past [13, 10])
        rwa [Scanner.past_past (by simp)]
      have apart : [b].getLast? = some 13 → (body ++ ending).head? ≠ some 10 := by
        intro last next
        cases body with
        | nil => exact noFeed next
        | cons c body => exact pair ⟨by simpa using last, next⟩
      have apartInside : [b].getLast? = some 13 → body.head? ≠ some 10 :=
        fun last next => pair ⟨by simpa using last, next⟩
      have later := runs_passComment_append noClose.2 noFeed noSlash
        (before.past [b]) (t := t) (by rwa [Scanner.past_past apartInside])
      cases breaks : breaksLine b with
      | true =>
          have takes : Takes .lineBreak [b] (body ++ ending) := by
            simp only [breaksLine, Bool.or_eq_true, beq_iff_eq] at breaks
            rcases breaks with rfl | rfl
            · exact .lineFeed
            · exact .loneReturn (apart rfl)
          exact takes.runs_passComment before later
      | false =>
          have noStar : b = 42 → (body ++ ending).head? ≠ some 47 := by
            intro star next
            cases body with
            | nil => exact noSlash next
            | cons c body => exact noClose.1 ⟨star, next⟩
          rw [Scanner.past_of_sameLine (by simpa using breaks)] at later
          exact runs_passComment_byte breaks noStar before later
termination_by body.length

theorem runs_passComment_close {rest : Bytes} {s : Scanner} (before : s.Before (42 :: 47 :: rest)) :
    Runs Scan.passComment s () (s.moved 2 0) := by
  apply Runs.found
  apply Runs.get.bind
  rw [if_pos before.cursor_lt]
  apply (runs_lineBreak_of_sameLine rfl before).bind
  apply (runs_here before).bind
  exact (runs_peekIf true before).bind ((runs_advance 2).bind (.pure _))

theorem runs_passComment_end {s : Scanner} (before : s.Before []) :
    Runs Scan.passComment s () s := by
  apply Runs.found
  apply Runs.get.bind
  rw [if_neg before.not_cursor_lt]
  exact .pure _

/-! ### White space -/

section Blanks

variable {kind : Segment.Kind} {bytes rest : Bytes} {s t : Scanner}

theorem Segment.Kind.Takes.runs_passBlanks_lineBreak (takes : Takes .lineBreak bytes rest)
    (before : s.Before (bytes ++ rest)) (more : Runs Scan.passBlanks (s.past bytes) () t) :
    Runs Scan.passBlanks s () t := by
  refine Runs.again ?_ more
  apply Runs.get.bind
  rw [if_pos (takes.cursor_lt before)]
  exact (takes.runs_lineBreak before).bind (.pure _)

theorem Segment.Kind.Takes.runs_passBlanks_blank (takes : Takes .blank bytes rest)
    (before : s.Before (bytes ++ rest)) (more : Runs Scan.passBlanks (s.past bytes) () t) :
    Runs Scan.passBlanks s () t := by
  have sameLine := takes.sameLine (by simp) (by simp)
  have inside := takes.cursor_lt before
  rw [Scanner.past_of_sameLine sameLine] at more
  cases takes with
  | @blank c _ space =>
      have noBreak : Runs Scan.lineBreak s false s := by
        obtain ⟨a, tail, spelling⟩ := List.exists_cons_of_ne_nil (Utf8.encodeChar_ne_nil c)
        rw [spelling] at before sameLine
        exact runs_lineBreak_of_sameLine (sameLine a List.mem_cons_self) before
      refine Runs.again ?_ more
      apply Runs.get.bind
      rw [if_pos inside]
      apply noBreak.bind
      apply (runs_char_of_spelling before).bind
      dsimp only
      rw [space]
      exact (runs_advance _).bind (.pure _)

/-- What stands first in a text is white space only if the grammar says so. -/
theorem Segment.Kind.Takes.not_isBlank {a : UInt8} {tail : Bytes} (takes : Takes kind (a :: tail) rest)
    (noBreak : kind ≠ .lineBreak) (noBlank : kind ≠ .blank) :
    breaksLine a = false ∧ isBlank (Utf8.decodeFirst a (tail ++ rest)).1 = false := by
  have found : (classify a (tail ++ rest)).1 = kind := congrArg Prod.fst takes.classify_eq
  have notFeed : a ≠ 10 := by
    rintro rfl
    exact noBreak found.symm
  have notReturn : a ≠ 13 := by
    rintro rfl
    exact noBreak found.symm
  refine ⟨by simp [breaksLine, notFeed, notReturn], ?_⟩
  rw [Bool.eq_false_iff]
  intro space
  apply noBlank
  rw [← found]
  simp [classify, notFeed, notReturn, space]

theorem Segment.Kind.Takes.runs_passBlanks_solid (takes : Takes kind bytes rest)
    (noBreak : kind ≠ .lineBreak) (noBlank : kind ≠ .blank) (before : s.Before (bytes ++ rest)) :
    Runs Scan.passBlanks s () s := by
  obtain ⟨a, tail, rfl⟩ := List.exists_cons_of_ne_nil takes.ne_nil
  obtain ⟨sameLine, solid⟩ := takes.not_isBlank noBreak noBlank
  rw [List.cons_append] at before
  apply Runs.found
  apply Runs.get.bind
  rw [if_pos before.cursor_lt]
  apply (runs_lineBreak_of_sameLine sameLine before).bind
  apply (runs_char (Prod.eta _).symm before).bind
  dsimp only
  rw [solid]
  exact .pure _

theorem runs_passBlanks_end (before : s.Before []) : Runs Scan.passBlanks s () s := by
  apply Runs.found
  apply Runs.get.bind
  rw [if_neg before.not_cursor_lt]
  exact .pure _

end Blanks

/-! ### Comments and tokens -/

/-- What a round comes to that has passed a comment, or the text of a token. -/
def Scan.Round.ofToken? : Option Token → Scan.Round (Option Token)
  | none => .again
  | some token => .found (some token)

section Solid

variable {s t : Scanner} {a : UInt8} {body rest : Bytes}

theorem runs_passSolid {c : Char} {size : Nat} {found : Scan.Round (Option Token)}
    (read : Utf8.decodeFirst a rest = (c, size)) (before : s.Before (a :: rest))
    (more : Runs (Scan.passFrom c size (if c == '/' then rest.headD 0 else 0)) s found t) :
    Runs Scan.passSolid s found t := by
  unfold Scan.passSolid
  apply (runs_char read before).bind
  exact (runs_peekIf _ before).bind more

theorem runs_lineComment (sameLine : ∀ b ∈ body, breaksLine b = false) (ends : AtLineEnd rest)
    (before : s.Before (47 :: 47 :: body ++ rest)) :
    Runs Scan.passSolid s .again (s.past (47 :: 47 :: body)) := by
  have sameLine : ∀ b ∈ 47 :: 47 :: body, breaksLine b = false :=
    List.forall_mem_cons.2 ⟨rfl, List.forall_mem_cons.2 ⟨rfl, sameLine⟩⟩
  have passes : Runs (Scan.passBytes (!breaksLine ·)) s () _ :=
    runs_passBytes (by simpa using sameLine) (by simpa [AtLineEnd] using ends) before
  rw [← Scanner.past_of_sameLine sameLine] at passes
  apply runs_passSolid (Utf8.decodeFirst_ascii (by decide) _) before
  unfold Scan.passFrom
  apply Runs.get.bind
  exact passes.bind (.pure _)

theorem runs_blockComment (more : Runs Scan.passComment (s.past [47, 42]) () t)
    (before : s.Before (47 :: 42 :: rest)) : Runs Scan.passSolid s .again t := by
  apply runs_passSolid (Utf8.decodeFirst_ascii (by decide) _) before
  unfold Scan.passFrom
  apply Runs.get.bind
  exact (runs_advance 2).bind (more.bind (.pure _))

theorem runs_literal {quote : UInt8} (isQuote : quote = 34 ∨ quote = 39)
    (more : Runs (Scan.passLiteral quote) (s.moved 1 0) () t) (before : s.Before (quote :: rest)) :
    Runs Scan.passSolid s (.found (some (.symbol (Char.ofNat quote.toNat) s.line))) t := by
  have token : Runs (Scan.literal quote) s (.symbol (Char.ofNat quote.toNat) s.line) t :=
    Runs.get.bind ((runs_advance 1).bind (more.bind (.pure _)))
  rcases isQuote with rfl | rfl
  · apply runs_passSolid (Utf8.decodeFirst_ascii (by decide) _) before
    exact Runs.get.bind (token.bind (.pure _))
  · apply runs_passSolid (Utf8.decodeFirst_ascii (by decide) _) before
    exact Runs.get.bind (token.bind (.pure _))

theorem runs_number (digits : ∀ b ∈ a :: body, isDigitByte b = true)
    (ends : ∀ b ∈ rest.head?, isDigitByte b = false) (before : s.Before (a :: body ++ rest)) :
    Runs Scan.passSolid s
      (.found (some (.number (Binary64.ofDigits (Utf8.decode (a :: body))) s.line)))
      (s.moved (a :: body).length 0) := by
  have range := isDigitByte_iff.1 (digits a List.mem_cons_self)
  have value := Utf8.toNat_ofNat_ascii (a := a) (by omega)
  have isDigit : isAsciiDigit (Char.ofNat a.toNat) = true := isAsciiDigit_iff.2 (by omega)
  have other : ∀ c : Char, isAsciiDigit c = false → (Char.ofNat a.toNat == c) = false := by
    intro c noDigit
    rw [beq_eq_false_iff_ne]
    rintro rfl
    rw [isDigit] at noDigit
    exact Bool.false_ne_true noDigit.symm
  apply runs_passSolid (Utf8.decodeFirst_ascii (by omega) _) before
  rw [other '/' rfl]
  unfold Scan.passFrom
  apply Runs.get.bind
  rw [other '"' rfl, other '\'' rfl, isDigit]
  refine Runs.bind (Runs.get.bind ?_) (.pure _)
  exact (runs_passBytes digits ends before).bind ((runs_takenFrom before 0).bind (.pure _))

theorem runs_word {c : Char} {cs : List Char} (begins : beginsWord c = true)
    (continues : ∀ d ∈ cs, continuesWord d = true) (ends : EndsWord rest)
    (before : s.Before ((c :: cs).flatMap Utf8.encodeChar ++ rest)) :
    Runs Scan.passSolid s
      (.found (some (.word (Utf8.decodeText ((c :: cs).flatMap Utf8.encodeChar)) s.line)))
      (s.moved ((c :: cs).flatMap Utf8.encodeChar).length 0) := by
  have run : ∀ d ∈ c :: cs, continuesWord d = true :=
    List.forall_mem_cons.2 ⟨continuesWord_of_beginsWord begins, continues⟩
  have other : ∀ d : Char, beginsWord d = false → (c == d) = false := by
    intro d noWord
    rw [beq_eq_false_iff_ne]
    rintro rfl
    rw [begins] at noWord
    exact Bool.false_ne_true noWord.symm
  have noDigit : isAsciiDigit c = false := by
    rw [Bool.eq_false_iff]
    intro digit
    have range := isAsciiDigit_iff.1 digit
    have letter := (beginsWord_ascii_iff (by omega)).1 begins
    omega
  have token : Runs Scan.word s
      (.word (Utf8.decodeText ((c :: cs).flatMap Utf8.encodeChar)) s.line)
      (s.moved ((c :: cs).flatMap Utf8.encodeChar).length 0) :=
    Runs.get.bind ((runs_passWord run ends before).bind ((runs_takenFrom before 0).bind (.pure _)))
  obtain ⟨a, tail, spelling⟩ := List.exists_cons_of_ne_nil (Utf8.encodeChar_ne_nil c)
  have first : s.Before (a :: (tail ++ (cs.flatMap Utf8.encodeChar ++ rest))) := by
    rw [List.flatMap_cons, spelling] at before
    simpa using before
  have front : Utf8.encodeChar c <+: a :: (tail ++ (cs.flatMap Utf8.encodeChar ++ rest)) :=
    ⟨cs.flatMap Utf8.encodeChar ++ rest, by rw [spelling, List.cons_append]⟩
  apply runs_passSolid (Utf8.decodeFirst_of_spelling front) first
  rw [other '/' (by decide)]
  unfold Scan.passFrom
  apply Runs.get.bind
  rw [other '"' (by decide), other '\'' (by decide), noDigit, begins]
  exact token.bind (.pure _)

theorem runs_symbol {c : Char} {tail : Bytes} (spells : Utf8.Spells c (a :: tail) rest)
    (noQuote : c ≠ '"' ∧ c ≠ '\'') (noDigit : isAsciiDigit c = false) (noWord : beginsWord c = false)
    (noComment : c = '/' → rest.head? ≠ some 47 ∧ rest.head? ≠ some 42)
    (before : s.Before (a :: tail ++ rest)) :
    Runs Scan.passSolid s (.found (some (.symbol c s.line))) (s.moved (a :: tail).length 0) := by
  have next : ∀ opening : UInt8, opening = 47 ∨ opening = 42 →
      ((if c == '/' then (tail ++ rest).headD 0 else 0) == opening) = false := by
    intro opening which
    rw [beq_eq_false_iff_ne]
    by_cases slash : c = '/'
    · have known : c ≠ replacement := by
        rw [slash]
        decide
      have spelling := eq_encodeChar_of_spells spells known
      subst slash
      obtain ⟨-, rfl⟩ := List.cons.inj (spelling.trans (show Utf8.encodeChar '/' = [47] from rfl))
      cases rest with
      | nil => rcases which with rfl | rfl <;> decide
      | cons b rest =>
          have closed := noComment rfl
          rcases which with rfl | rfl
          · simpa using closed.1
          · simpa using closed.2
    · rw [beq_false_of_ne slash, if_neg Bool.false_ne_true]
      rcases which with rfl | rfl <;> decide
  apply runs_passSolid (Utf8.spells_iff_decodeFirst.1 spells) before
  unfold Scan.passFrom
  apply Runs.get.bind
  rw [next 47 (Or.inl rfl), next 42 (Or.inr rfl), beq_false_of_ne noQuote.1, beq_false_of_ne noQuote.2,
    noDigit, noWord]
  exact (runs_advance _).bind (.pure _)

/-- Where the grammar finds a comment or a token, the scanner passes over just this, and hands out the
token on the line where it is. -/
theorem Segment.Kind.Takes.runs_passSolid {kind : Segment.Kind} {bytes : Bytes}
    (takes : Takes kind bytes rest) (noBreak : kind ≠ .lineBreak) (noBlank : kind ≠ .blank)
    (before : s.Before (bytes ++ rest)) :
    Runs Scan.passSolid s (.ofToken? (Segment.token? s.line ⟨kind, bytes⟩)) (s.past bytes) := by
  have plain : kind ≠ .blockComment → s.past bytes = s.moved bytes.length 0 :=
    fun noBlock => Scanner.past_of_sameLine (takes.sameLine noBreak noBlock)
  have nonempty := takes.ne_nil
  cases takes with
  | lineFeed | returnFeed | loneReturn => exact absurd rfl noBreak
  | blank => exact absurd rfl noBlank
  | lineComment sameLine ends => exact runs_lineComment sameLine ends before
  | @blockComment body _ noClose =>
      rw [List.cons_append, List.cons_append, List.append_assoc] at before
      refine runs_blockComment ?_ before
      have inside : (s.past [47, 42]).Before (body ++ 42 :: 47 :: rest) :=
        before.past [47, 42]
      apply runs_passComment_append noClose (by simp) (by simp) inside
      have whole : ((s.past [47, 42]).past body).past [42, 47] =
          s.past (47 :: 42 :: (body ++ [42, 47])) := by
        rw [Scanner.past_past (by simp), Scanner.past_past (by simp)]
        rfl
      rw [← whole]
      exact runs_passComment_close (inside.past body)
  | @openComment body noClose =>
      refine runs_blockComment ?_ before
      have inside : (s.past [47, 42]).Before (body ++ []) := before.past [47, 42]
      apply runs_passComment_append noClose (by simp) (by simp) inside
      rw [Scanner.past_past (by simp)]
      exact runs_passComment_end (before.past (47 :: 42 :: body))
  | @literal quote body _ isQuote inside =>
      rw [plain (by simp)]
      refine runs_literal isQuote ?_ before
      rw [List.cons_append, List.append_assoc] at before
      have behind := before.moved [quote] 0
      apply runs_passLiteral_append (isQuote_ne_backslash isQuote) inside behind
      have closing := runs_passLiteral_close (isQuote_sameLine isQuote) (behind.moved body 0)
      simpa [Scanner.moved_moved, Nat.add_comm, Nat.add_left_comm] using closing
  | @openLiteral quote body last _ isQuote inside lastByte ends =>
      rw [plain (by simp)]
      refine runs_literal isQuote ?_ before
      rw [List.cons_append, List.append_assoc] at before
      have behind := before.moved [quote] 0
      apply runs_passLiteral_append (isQuote_ne_backslash isQuote) inside behind
      rcases lastByte with rfl | rfl
      · have ending : Runs (Scan.passLiteral quote) _ () _ :=
          runs_passLiteral_atLineEnd ends (behind.moved body 0)
        simpa [Scanner.moved_moved, Nat.add_comm] using ending
      · have ending := runs_passLiteral_lastBackslash (isQuote_ne_backslash isQuote) ends (behind.moved body 0)
        simpa [Scanner.moved_moved, Nat.add_comm, Nat.add_left_comm] using ending
  | digits digits ends =>
      rw [plain (by simp)]
      exact runs_number digits ends before
  | word begins continues ends =>
      rw [plain (by simp)]
      exact runs_word begins continues ends before
  | symbol spells noSpace noQuote noDigit noWord noComment =>
      rw [plain (by simp)]
      obtain ⟨a, tail, rfl⟩ := List.exists_cons_of_ne_nil nonempty
      exact runs_symbol spells noQuote noDigit noWord noComment before

end Solid

end CodeGauge.Source
