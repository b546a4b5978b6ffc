/-
Module: CodeGauge.Proofs.Command.Selection
Purpose: The search for files and the analyser of a session choose files by the same extensions.
Main exports:
  Extension.IsNormal, Extension.isNormal_of_mem_parseList, Extension.admits_eq_supports,
  Analysis.exists_told_of_analyse, Command.filters_agree
-/
import CodeGauge.Proofs.Command.Threshold
import CodeGauge.Proofs.FileTree.Rescan
import CodeGauge.Proofs.Text.Trim

namespace CodeGauge

open CodeGauge.Text CodeGauge.Analysis

/-!
A list of extensions is made into normal ones: with a point in front, without white space behind, and in
lower case.  A normal extension is left as it is by either filter, by the one that only lowers letters and by
the one that mends its items as well; so both filters compare with the same list.
-/

/-! ### Normal extensions -/

namespace Extension

/-- An extension in the form in which extensions are compared. -/
structure IsNormal (extension : String) : Prop where
  pointed : extension.toList.head? = some '.'
  solid : ∀ c, extension.toList.getLast? = some c → isBlank c = false
  lowered : lower extension = extension

theorem head?_withPoint (item : String) : (withPoint item).toList.head? = some '.' := by
  unfold withPoint
  split
  · next pointed => exact pointed
  · rw [String.toList_append]
    rfl

/-- What a point is put in front of ends as before. -/
theorem getLast?_withPoint {item : String} {c : Char} (last : (withPoint item).toList.getLast? = some c) :
    item.toList.getLast? = some c ∨ c = '.' := by
  unfold withPoint at last
  split at last
  · exact Or.inl last
  · rw [String.toList_append, List.getLast?_append] at last
    cases ofItem : item.toList.getLast? with
    | none =>
        rw [ofItem] at last
        exact Or.inr (Option.some.inj last).symm
    | some d =>
        rw [ofItem] at last
        exact Or.inl last

theorem isNormal_lower_withPoint_trim (piece : String) : IsNormal (lower (withPoint (trim piece))) where
  pointed := by
    rw [toList_lower, List.head?_map, head?_withPoint]
    rfl
  solid := by
    intro c last
    rw [toList_lower, List.getLast?_map, Option.map_eq_some_iff] at last
    obtain ⟨d, last, rfl⟩ := last
    rw [isBlank_lowerChar]
    rcases getLast?_withPoint last with ofPiece | rfl
    · rw [trim, String.toList_ofList] at ofPiece
      exact isBlank_of_getLast?_trimList ofPiece
    · rfl
  lowered := lower_lower _

/-- Whatever the list of a user is like, the extensions that are made of it are normal. -/
theorem isNormal_of_mem_parseList {raw extension : String} (member : extension ∈ parseList raw) :
    IsNormal extension := by
  obtain ⟨item, isItem, made⟩ := List.mem_filterMap.mp member
  obtain ⟨piece, -, rfl⟩ := List.mem_map.mp isItem
  split at made
  · exact nomatch made
  · obtain rfl := Option.some.inj made
    exact isNormal_lower_withPoint_trim piece

/-- There is nothing to mend in a normal extension. -/
theorem IsNormal.mend_eq {extension : String} (normal : IsNormal extension) : mend extension = some extension := by
  obtain ⟨pointed, solid, lowered⟩ := normal
  have trimmed : trim extension = extension := by
    have front : ∀ c, extension.toList.head? = some c → isBlank c = false := by
      intro c first
      obtain rfl := Option.some.inj (pointed.symm.trans first)
      rfl
    rw [trim, trimList_eq_self front solid, String.ofList_toList]
  have nonempty : extension.isEmpty = false := by
    rw [Bool.eq_false_iff]
    intro empty
    rw [String.isEmpty_iff.mp empty] at pointed
    exact nomatch pointed
  simp only [mend, trimmed, lowered, nonempty, withPoint, pointed]
  rfl

section Filters

variable {extensions : List String} (normal : ∀ extension ∈ extensions, IsNormal extension)

include normal

theorem filterMap_mend : extensions.filterMap mend = extensions := by
  have mended : ∀ extension ∈ extensions, mend extension = some extension :=
    fun extension member => (normal extension member).mend_eq
  exact (List.filterMap_congr mended).trans List.filterMap_some

theorem map_lower : extensions.map lower = extensions := by
  have lowered : ∀ extension ∈ extensions, lower extension = id extension :=
    fun extension member => (normal extension member).lowered
  exact (List.map_congr_left lowered).trans (List.map_id _)

/-- The search and the analyser take the same files, if there are extensions and all of them are normal. -/
theorem admits_eq_supports (given : extensions ≠ []) (path : String) :
    admits extensions path = (Supported.ofList extensions).supports path := by
  have nonempty : extensions.isEmpty = false := List.isEmpty_eq_false_iff.mpr given
  simp only [admits, Supported.supports, Supported.ofList, nonempty, map_lower normal, Bool.false_or,
    Bool.false_eq_true, if_false, filterMap_mend normal]

end Filters

end Extension

/-! ### Reports on what a search finds -/

/-- A report has an entry or a warning for each path of the search that some analyser supports. -/
theorem Analysis.exists_told_of_analyse {σ : Type} {w : Workspace σ} {analysers : List Analyser}
    {occasion : Occasion} {request : Request} {state : σ} {report : Report}
    (returned : (analyse w analysers occasion request state).result = .ok report) :
    ∃ paths, w.scan state request.root request.extensions = .ok paths ∧ ∀ path ∈ paths,
      (∃ analyser ∈ analysers, analyser.supports path = true) →
        (∃ entry ∈ report.files.getD [], Measures analysers (w.read state) path entry) ∨
          ∃ text ∈ report.warnings, Warns analysers (w.read state) path text := by
  obtain ⟨paths, told, admitted, -, rfl⟩ := exists_draft_of_analyse returned
  refine ⟨paths, admitted.found, ?_⟩
  rintro path member ⟨analyser, isAnalyser, supports⟩
  have fate : (∃ entry, Measures analysers (w.read state) path entry) ∨
      ∃ text, Warns analysers (w.read state) path text := measures_or_warns isAnalyser supports
  rcases fate with ⟨entry, measures⟩ | ⟨text, warns⟩
  · refine Or.inl ⟨entry, ?_, measures⟩
    have files : (givenList (Findings.ofPaths analysers (w.read state) paths).files).getD [] =
        (Findings.ofPaths analysers (w.read state) paths).files := getD_givenList _
    simp only [draft, Report.assemble, files]
    exact mem_files_ofPaths_iff.mpr ⟨path, member, measures⟩
  · refine Or.inr ⟨text, List.mem_append_left _ ?_, warns⟩
    simp only [draft, Report.assemble]
    rw [warnings_ofPaths, Findings.inOrder, List.mem_mergeSort, List.mem_filterMap]
    exact ⟨path, member, warning?_eq_some_iff.mpr warns⟩

namespace Command

open Extension (parseList admits Supported)
open FileTree (scan workspace)

/-- A session without analysers of its own supports what the analyser for its extensions does. -/
theorem Session.exists_supports_iff (session : Session) (noOwn : session.around.analysers = []) {path : String} :
    (∃ analyser ∈ session.analysers, analyser.supports path = true) ↔
      (Supported.ofList (parseList (session.text .extensions))).supports path = true := by
  simp only [Session.analysers, noOwn, List.isEmpty_nil, if_true, List.mem_singleton, exists_eq_left,
    Analyser.ofExtensions]

/-- Where there are extensions in the list of a user, the search for files and the analyser made from the
list take the same files.  So a search finds all regular files that it meets and that the analyser supports,
and no others; and the report of a session with this list and no analysers of its own has an entry or a
warning for every file that was found. -/
theorem filters_agree {raw : String} (given : parseList raw ≠ []) :
    (∀ path, admits (parseList raw) path = (Supported.ofList (parseList raw)).supports path) ∧
    (∀ (cancelled : Bool) (tree : FileTree) (root : String) (paths : List String),
      scan cancelled tree root (parseList raw) = .ok paths →
        ∃ walk, tree.walk root = .ok walk ∧ ∀ path, path ∈ paths ↔
          ⟨path, true⟩ ∈ walk.leaves ∧
            (Supported.ofList (parseList raw)).supports path = true) ∧
    ∀ (session : Session) (cancelled : Bool) (tree : FileTree) (report : Report),
      session.around.analysers = [] → session.text .extensions = raw →
      (analyse (workspace cancelled) session.analysers session.around.occasion session.request tree).result =
        .ok report →
      ∃ paths, scan cancelled tree session.root (parseList raw) = .ok paths ∧ ∀ path ∈ paths,
        (∃ entry ∈ report.files.getD [],
          Measures session.analysers ((workspace cancelled).read tree) path entry) ∨
        ∃ text ∈ report.warnings, Warns session.analysers ((workspace cancelled).read tree) path text := by
  have agree : ∀ path, admits (parseList raw) path = (Supported.ofList (parseList raw)).supports path :=
    Extension.admits_eq_supports (fun _ => Extension.isNormal_of_mem_parseList) given
  refine ⟨agree, ?_, ?_⟩
  · intro cancelled tree root paths finds
    simpa only [agree] using FileTree.exists_walk_of_scan finds
  · rintro session cancelled tree report noOwn rfl returned
    obtain ⟨paths, finds, told⟩ := exists_told_of_analyse returned
    have searched : scan cancelled tree session.root (parseList (session.text .extensions)) = .ok paths := finds
    obtain ⟨walk, -, found⟩ := FileTree.exists_walk_of_scan searched
    refine ⟨paths, searched, fun path member => told path member ?_⟩
    rw [session.exists_supports_iff noOwn, ← agree]
    exact ((found path).mp member).2

/-- A list with capital letters, a Kelvin sign without a point, an empty item and an item with two points. -/
def untidyList : String := " .JAVA, \u212A,,c.h "

/-- The session with this list. -/
def untidy : Session := ⟨bare, ⟨[("ext", .text untidyList)], ["p"]⟩, "p", none, []⟩

/-- A file with the extension `.K` and one with the extension `.h`. -/
def twoExtensions : FileTree :=
  ⟨.cons "p" (.folder (.cons "a.K" (.file (.bytes (Utf8.encode "int f() { }")))
    (.cons "b.c.h" (.file (.bytes [])) .nil))) .nil, []⟩

/-- The Kelvin sign stands for the extension `.K`, and the item with two points for no extension. -/
theorem filters_agree_on_untidyList :
    parseList untidyList = [".java", ".k", ".c.h"] ∧
    (Supported.ofList (parseList untidyList)).supports "p/a.K" = true ∧
    (Supported.ofList (parseList untidyList)).supports "p/b.c.h" = false ∧
    ∃ report, (analyse (workspace false) untidy.analysers bare.occasion untidy.request twoExtensions).result =
        .ok report ∧
      ((∃ entry ∈ report.files.getD [],
        Measures untidy.analysers ((workspace false).read twoExtensions) "p/a.K" entry) ∨
      ∃ text ∈ report.warnings, Warns untidy.analysers ((workspace false).read twoExtensions) "p/a.K" text) := by
  have extensions : parseList untidyList = [".java", ".k", ".c.h"] := by decide +kernel
  have given : parseList untidyList ≠ [] := by simp [extensions]
  obtain ⟨agree, -, accounts⟩ := filters_agree given
  have searched : scan false twoExtensions "p" (parseList untidyList) = .ok ["p/a.K"] := by
    rw [extensions]
    decide +kernel
  have succeeds : (analyse (workspace false) untidy.analysers bare.occasion untidy.request
      twoExtensions).result.isOk = true := by decide +kernel
  obtain ⟨report, returned⟩ := FileTree.Rescan.exists_eq_ok_of_isOk succeeds
  obtain ⟨paths, finds, told⟩ := accounts untidy false twoExtensions report rfl (by decide +kernel) returned
  obtain rfl : ["p/a.K"] = paths := Except.ok.inj (searched.symm.trans finds)
  refine ⟨extensions, ?_, ?_, report, returned, told _ (List.mem_singleton_self _)⟩
  · rw [← agree, extensions]
    decide +kernel
  · rw [← agree, extensions]
    decide +kernel

end Command

end CodeGauge
