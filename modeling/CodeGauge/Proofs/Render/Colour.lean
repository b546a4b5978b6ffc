/-
Module: CodeGauge.Proofs.Render.Colour
Purpose: A report in colours is the plain report with a terminal's codes added and nothing else.
Main exports:
  Render.withoutCodes, Render.withoutCodes_write, Render.withoutCodes_flatMap,
  Report.Unescaped, Report.isPlain_pieces, Report.withoutCodes_text
-/
import CodeGauge.Proofs.Path
import CodeGauge.Proofs.Text.Digits
import CodeGauge.Proofs.Time.Timestamp
import CodeGauge.Render.Text

namespace CodeGauge

open CodeGauge.Number CodeGauge.Text CodeGauge.Time

/-!
A piece in colour stands between codes, and the text of a piece is not looked at when it is painted.  So the
codes can be told from the text again only if the text has no escape character of its own.  That is shown of
the numbers, times and fixed words of a report, and is asked of its names, paths and warnings.
-/

namespace Render

/-! ### Deleting codes -/

/-- The character that begins a terminal's code. -/
def escape : Char := Char.ofNat 0x1B

/-- What stands behind the code at the front of a text, if there is one: an escape character, a bracket, and
everything up to the first `m`. -/
def behindCode? : List Char → Option (List Char)
  | first :: second :: rest =>
      if first = escape ∧ second = '[' ∧ 'm' ∈ rest then
        some ((rest.dropWhile (fun c => c != 'm')).drop 1)
      else none
  | _ => none

theorem length_behindCode? {text behind : List Char} (found : behindCode? text = some behind) :
    behind.length < text.length := by
  unfold behindCode? at found
  split at found
  · next first second rest =>
    split at found
    · cases found
      have shorter := (List.dropWhile_sublist (fun c => c != 'm') (l := rest)).length_le
      simp only [List.length_drop, List.length_cons]
      omega
    · cases found
  · cases found

/-- A text with all codes deleted. -/
def withoutCodes : List Char → List Char
  | [] => []
  | c :: rest =>
    match _ : behindCode? (c :: rest) with
    | some behind => withoutCodes behind
    | none => c :: withoutCodes rest
termination_by text => text.length
decreasing_by
  · exact length_behindCode? ‹_›
  · simp

@[simp] theorem withoutCodes_nil : withoutCodes [] = [] := by
  rw [withoutCodes]

theorem withoutCodes_cons {c : Char} (noCode : c ≠ escape) (rest : List Char) :
    withoutCodes (c :: rest) = c :: withoutCodes rest := by
  have none : behindCode? (c :: rest) = none := by
    cases rest with
    | nil => rfl
    | cons d rest => simp [behindCode?, noCode]
  rw [withoutCodes]
  split
  · next found => rw [none] at found; cases found
  · rfl

/-- Text without an escape character is left alone. -/
theorem withoutCodes_append {text : List Char} (plain : escape ∉ text) (rest : List Char) :
    withoutCodes (text ++ rest) = text ++ withoutCodes rest := by
  induction text with
  | nil => rfl
  | cons c text ih =>
      rw [List.mem_cons, not_or] at plain
      rw [List.cons_append, withoutCodes_cons (Ne.symm plain.1), ih plain.2, List.cons_append]

/-- A code is deleted. -/
theorem withoutCodes_code {numbers : String} (noEnd : 'm' ∉ numbers.toList) (rest : List Char) :
    withoutCodes (code numbers ++ rest) = withoutCodes rest := by
  have found : behindCode? (code numbers ++ rest) = some rest := by
    have ends : (numbers.toList ++ 'm' :: rest).dropWhile (fun c => c != 'm') = 'm' :: rest := by
      rw [List.dropWhile_append_of_pos]
      · rfl
      · intro c member
        rw [bne_iff_ne]
        rintro rfl
        exact noEnd member
    simp [behindCode?, code, introducer, escape, ends]
  have whole : code numbers ++ rest = escape :: ('[' :: numbers.toList ++ ['m'] ++ rest) := rfl
  rw [whole] at found ⊢
  rw [withoutCodes]
  split
  · next behind other => rw [found] at other; cases other; rfl
  · next none => rw [found] at none; cases none

theorem withoutCodes_paint (paint : Paint) (rest : List Char) :
    withoutCodes (paint.code ++ rest) = withoutCodes rest := by
  cases paint with
  | heading | title =>
      rw [Paint.code, List.append_assoc, withoutCodes_code (by decide), withoutCodes_code (by decide)]
  | label | value | function | good | fair | poor =>
      rw [Paint.code, withoutCodes_code (by decide)]

/-! ### Pieces -/

/-- The text of the piece has no escape character. -/
def Piece.IsPlain (p : Piece) : Prop := escape ∉ p.text.toList

instance (p : Piece) : Decidable p.IsPlain := inferInstanceAs (Decidable (¬ escape ∈ p.text.toList))

theorem write_false (p : Piece) : p.write false = p.text.toList := by
  unfold Piece.write
  split
  · rfl
  · rfl

/-- A piece in colour without its codes is the piece. -/
theorem withoutCodes_write {p : Piece} (plain : p.IsPlain) (rest : List Char) :
    withoutCodes (p.write true ++ rest) = p.write false ++ withoutCodes rest := by
  rw [write_false]
  unfold Piece.write
  split
  · rw [if_pos rfl, List.append_assoc, List.append_assoc, withoutCodes_paint,
      withoutCodes_append plain, reset, withoutCodes_code (by decide)]
  · exact withoutCodes_append plain rest

theorem withoutCodes_flatMap {pieces : List Piece} (plain : ∀ p ∈ pieces, p.IsPlain) :
    withoutCodes (pieces.flatMap (Piece.write true)) = pieces.flatMap (Piece.write false) := by
  induction pieces with
  | nil => rw [List.flatMap_nil, List.flatMap_nil, withoutCodes_nil]
  | cons p pieces ih =>
      obtain ⟨first, others⟩ := List.forall_mem_cons.1 plain
      rw [List.flatMap_cons, List.flatMap_cons, withoutCodes_write first, ih others]

theorem escape_notMem_flatMap {pieces : List Piece} (plain : ∀ p ∈ pieces, p.IsPlain) :
    escape ∉ pieces.flatMap (Piece.write false) := by
  intro member
  obtain ⟨p, inPieces, inPiece⟩ := List.mem_flatMap.1 member
  rw [write_false] at inPiece
  exact plain p inPieces inPiece

/-! ### Texts of numbers and times -/

theorem escape_notMem_of_digits {text : List Char} (digits : ∀ c ∈ text, c.isDigit = true) :
    escape ∉ text := by
  intro member
  have digit := digits escape member
  cases digit

theorem escape_notMem_toDigits (n : Nat) : escape ∉ Nat.toDigits 10 n :=
  escape_notMem_of_digits fun _ => isDigit_of_mem_toDigits

theorem escape_notMem_padded (width n : Nat) : escape ∉ Timestamp.padded width n :=
  escape_notMem_of_digits fun _ => Timestamp.isDigit_of_mem_padded

theorem escape_notMem_toString (i : Int) : escape ∉ (toString i).toList := by
  rw [toList_toString]
  split
  · rw [List.mem_cons, not_or]
    exact ⟨by decide, escape_notMem_toDigits _⟩
  · exact escape_notMem_toDigits _

theorem escape_notMem_withPoint (places n : Nat) : escape ∉ Binary64.withPoint places n := by
  have padded : escape ∉ List.replicate (places + 1 - (Decimal.digitChars n).length) '0' ++
      Decimal.digitChars n := by
    rw [List.mem_append, not_or]
    refine ⟨?_, escape_notMem_toDigits n⟩
    intro member
    exact absurd (List.eq_of_mem_replicate member) (by decide)
  rw [Binary64.withPoint, List.mem_append, List.mem_cons, not_or, not_or]
  exact ⟨mt List.mem_of_mem_take padded, by decide, mt List.mem_of_mem_drop padded⟩

theorem escape_notMem_writeFixed (places : Nat) (x : Binary64) :
    escape ∉ (x.writeFixed places).toList := by
  have digits := escape_notMem_withPoint places
  unfold Binary64.writeFixed
  split
  · decide
  · split
    · split
      · decide
      · decide
    · dsimp only
      rw [String.toList_ofList]
      split
      · rw [List.mem_cons, not_or]
        exact ⟨by decide, digits _⟩
      · exact digits _

theorem escape_notMem_yearText (year : Int) : escape ∉ Timestamp.yearText year := by
  unfold Timestamp.yearText
  split
  · rw [List.mem_cons, not_or]
    exact ⟨by decide, escape_notMem_padded 4 _⟩
  · exact escape_notMem_padded 4 _

theorem escape_notMem_write (t : Timestamp) : escape ∉ t.write.toList := by
  have mark : escape ≠ '-' ∧ escape ≠ '+' ∧ escape ≠ 'T' ∧ escape ≠ ':' ∧ escape ≠ 'Z' := by decide
  have offset : escape ∉ t.offsetText := by
    unfold Timestamp.offsetText
    split
    · decide
    · dsimp only
      split
      · simp [escape_notMem_padded, mark]
      · simp [escape_notMem_padded, mark]
  have moment : escape ∉ t.dateTimeText := by
    simp [Timestamp.dateTimeText, escape_notMem_yearText, escape_notMem_padded, mark]
  rw [Timestamp.write, String.toList_ofList, List.mem_append, not_or]
  exact ⟨moment, offset⟩

end Render

open Render

/-! ### Pieces of a report -/

theorem isPlain_count (paint : Paint) (count : Int64) : (painted paint (countText count)).IsPlain :=
  escape_notMem_toString count.toInt

theorem isPlain_percentage (paint : Paint) (percentage : Binary64) :
    (painted paint (percentageText percentage)).IsPlain := by
  rw [Piece.IsPlain, painted, percentageText, String.toList_append, List.mem_append, not_or]
  exact ⟨escape_notMem_writeFixed 2 percentage, by decide⟩

theorem isPlain_ite {c : Prop} [Decidable c] {first second : List Piece}
    (ofFirst : ∀ p ∈ first, p.IsPlain) (ofSecond : ∀ p ∈ second, p.IsPlain) :
    ∀ p ∈ (if c then first else second), p.IsPlain := by
  split
  · exact ofFirst
  · exact ofSecond

/-- A line with a name is plain if the name and the value are. -/
theorem isPlain_namedLine {name : String} {value : Piece} (ofName : escape ∉ name.toList)
    (ofValue : value.IsPlain) : ∀ p ∈ namedLine name value, p.IsPlain := by
  rw [namedLine]
  simp only [List.forall_mem_cons, List.not_mem_nil, false_imp_iff, implies_true, and_true]
  exact ⟨ofName, by decide, ofValue, by decide⟩

/-- A ranked function is shown with the last element of its path, so what the path brings in is in the
path, a point or a slash. -/
theorem FunctionEntry.escape_notMem_display {f : FunctionEntry} (ofName : escape ∉ f.name.toList)
    (ofPath : escape ∉ f.filePath.toList) : escape ∉ f.display.toList := by
  have ofBase : escape ∉ (Path.base f.filePath).toList := by
    intro member
    rcases Path.mem_base member with inPath | point | slash
    · exact ofPath inPath
    · exact absurd point (by decide)
    · exact absurd slash (by decide)
  have marks : ∀ mark ∈ ["(", ":", ")"], escape ∉ mark.toList := by decide
  simp only [List.forall_mem_cons] at marks
  simp only [FunctionEntry.display, Measure.displayName, String.toList_append, List.mem_append, not_or]
  exact ⟨⟨⟨⟨⟨ofName, marks.1⟩, ofBase⟩, marks.2.1⟩, escape_notMem_toString _⟩, marks.2.2.1⟩

theorem FunctionEntry.isPlain_pieces {f : FunctionEntry} (ofName : escape ∉ f.name.toList)
    (ofPath : escape ∉ f.filePath.toList) : ∀ p ∈ f.pieces, p.IsPlain := by
  rw [FunctionEntry.pieces]
  simp only [List.forall_mem_cons, List.not_mem_nil, false_imp_iff, implies_true, and_true]
  exact ⟨by decide, isPlain_count _ _, by decide, escape_notMem_display ofName ofPath, by decide⟩

theorem isPlain_warningPieces {warnings : List String} (plain : ∀ w ∈ warnings, escape ∉ w.toList) :
    ∀ p ∈ warningPieces warnings, p.IsPlain := by
  have lines : ∀ p ∈ (warnings.flatMap fun warning =>
      [painted .fair "-", bare " ", painted .fair warning, bare "\n"]), p.IsPlain := by
    refine List.forall_mem_flatMap.2 fun w member => ?_
    simp only [List.forall_mem_cons, List.not_mem_nil, false_imp_iff, implies_true, and_true]
    exact ⟨by decide, by decide, plain w member, by decide⟩
  rw [warningPieces]
  exact isPlain_ite (by decide) (List.forall_mem_append.2 ⟨by decide, lines⟩)

namespace Report

/-- No text that the report was given, among those that are shown, has an escape character. -/
structure Unescaped (r : Report) : Prop where
  rootPath : escape ∉ r.rootPath.toList
  runId : escape ∉ r.runId.toList
  names : ∀ f ∈ r.topFunctions.getD [], escape ∉ f.name.toList
  filePaths : ∀ f ∈ r.topFunctions.getD [], escape ∉ f.filePath.toList
  warnings : ∀ w ∈ r.warnings, escape ∉ w.toList

instance (r : Report) : Decidable r.Unescaped :=
  decidable_of_iff
    (escape ∉ r.rootPath.toList ∧ escape ∉ r.runId.toList
      ∧ (∀ f ∈ r.topFunctions.getD [], escape ∉ f.name.toList)
      ∧ (∀ f ∈ r.topFunctions.getD [], escape ∉ f.filePath.toList)
      ∧ ∀ w ∈ r.warnings, escape ∉ w.toList)
    ⟨fun ⟨root, run, names, paths, warnings⟩ => ⟨root, run, names, paths, warnings⟩,
      fun plain => ⟨plain.rootPath, plain.runId, plain.names, plain.filePaths, plain.warnings⟩⟩

variable {r : Report}

theorem isPlain_headPieces (plain : r.Unescaped) : ∀ p ∈ r.headPieces, p.IsPlain := by
  have root : ∀ p ∈ namedLine "Root:" (painted .value r.rootPath), p.IsPlain :=
    isPlain_namedLine (by decide) plain.rootPath
  have run : ∀ p ∈ namedLine "Run:" (painted .value r.runId), p.IsPlain :=
    isPlain_namedLine (by decide) plain.runId
  have moment : ∀ p ∈ namedLine "Generated at:" (painted .value r.generatedAt.write), p.IsPlain :=
    isPlain_namedLine (by decide) (escape_notMem_write r.generatedAt)
  simp only [headPieces, List.forall_mem_append]
  exact ⟨⟨⟨⟨by decide, root⟩, isPlain_ite (by decide) run⟩, isPlain_ite (by decide) moment⟩,
    isPlain_namedLine (by decide) (isPlain_count _ _)⟩

theorem isPlain_functionPieces (plain : r.Unescaped) : ∀ p ∈ r.functionPieces, p.IsPlain := by
  have ranked : ∀ p ∈ (r.topFunctions.getD []).flatMap FunctionEntry.pieces, p.IsPlain :=
    List.forall_mem_flatMap.2 fun f member =>
      f.isPlain_pieces (plain.names f member) (plain.filePaths f member)
  simp only [functionPieces, List.forall_mem_append]
  exact ⟨⟨⟨⟨⟨⟨by decide, ranked⟩, isPlain_ite (by decide) (by decide)⟩, by decide⟩,
    isPlain_namedLine (by decide) (isPlain_count _ _)⟩,
    isPlain_namedLine (by decide) (escape_notMem_writeFixed 2 _)⟩,
    isPlain_namedLine (by decide) (isPlain_percentage _ _)⟩

/-- Every piece of a report is plain, with functions and without. -/
theorem isPlain_pieces (plain : r.Unescaped) : ∀ p ∈ r.pieces, p.IsPlain := by
  simp only [pieces, List.forall_mem_append]
  exact ⟨⟨⟨isPlain_headPieces plain, by decide⟩, isPlain_ite (isPlain_functionPieces plain) (by decide)⟩,
    isPlain_warningPieces plain.warnings⟩

/-- Colour changes nothing but colour: a report in colours without its codes is the plain report, which
has no escape character. -/
theorem withoutCodes_text (plain : r.Unescaped) :
    withoutCodes (r.text true).toList = (r.text false).toList ∧ escape ∉ (r.text false).toList := by
  simp only [text, writePieces, String.toList_ofList]
  exact ⟨withoutCodes_flatMap (isPlain_pieces plain), escape_notMem_flatMap (isPlain_pieces plain)⟩

/-- A report with two ranked functions, of which the first is among the complex ones, and a warning. -/
def nightly : Report where
  runId := "nightly"
  rootPath := "/srv/app"
  generatedAt := ⟨1735689600, Nanos.ofNat 0, 3600⟩
  files := none
  project :=
    { (default : ProjectTotals) with
      totalFiles := 2, totalFunctions := 3, avgComplexity := .ofInt 5, nonCamelCasePct := .ofInt 10 }
  topFunctions := some
    [⟨"parse", "/srv/app/src/parse.c", "c", 12, 11, true, 4, 60⟩,
     ⟨"main", "/srv/app/main.c", "c", 3, 0, true, 0, 8⟩]
  metricMetadata := none
  warnings := ["cannot read /srv/app/old.c"]

theorem withoutCodes_nightly :
    nightly.Unescaped ∧ escape ∈ (nightly.text true).toList
      ∧ withoutCodes (nightly.text true).toList = (nightly.text false).toList
      ∧ escape ∉ (nightly.text false).toList := by
  have plain : nightly.Unescaped := by decide
  have coloured : escape ∈ (nightly.text true).toList := by
    rw [text, writePieces, String.toList_ofList]
    decide +kernel
  exact ⟨plain, coloured, withoutCodes_text plain⟩

end Report

end CodeGauge
