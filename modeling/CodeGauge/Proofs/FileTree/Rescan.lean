/-
Module: CodeGauge.Proofs.FileTree.Rescan
Purpose: What analyses of a root leave behind is not seen by a later one.
Main exports:
  FileTree.WorkSite.scan_eq, FileTree.WorkSite.read_eq, FileTree.IsDirect, FileTree.Rescan.Call,
  FileTree.Rescan.confined_after, FileTree.Rescan.unseen_after
-/
import CodeGauge.Proofs.Analysis.Accounting
import CodeGauge.Proofs.FileTree.Scan
import CodeGauge.Proofs.FileTree.WorkFolder

namespace CodeGauge

open CodeGauge.Text CodeGauge.Analysis

/-!
Analyses write to the work folder of their root and to nothing else, and a search passes over that folder.
So a search finds afterwards what it found before, the same is read of it, and a report on it says the same
of the files.
-/

namespace FileTree

theorem exists_encodeReport_iff (report : Report) :
    (∃ bytes, encodeReport (some report) = .ok bytes) ↔ (Report.codec.write report).IsWritable := by
  rw [Document.IsWritable, encodeReport, Render.reportDocument]
  cases (Report.codec.write report).toJson <;> simp

theorem save_workspace (cancelled : Bool) (tree : FileTree) (root : String) (report : Report) :
    (workspace cancelled).save tree root report = saveReport tree root (some report) := by
  rw [workspace]

/-! ### Searching and reading afterwards -/

namespace WorkSite

variable {before tree : FileTree} {root : String} {place : Place} (site : WorkSite before root place)
  (confined : Confined before (place ++ [workFolder]) tree)

include site

/-- What is in the root and is not passed over by a search has not the name of the work folder. -/
theorem ne_workFolder {entries : Entries} (found : before.top.find? place = some (.folder entries))
    {name : String} {node : Node} (isNode : entries.get? name = some node)
    (seen : (node.isFolder && isSkipped name) = false) : name ≠ workFolder := by
  rintro rfl
  have atWork := (Entries.find?_append_singleton found).trans isNode
  rcases site.free with nothing | ⟨inner, isFolder⟩
  · cases nothing.symm.trans atWork
  · obtain rfl := Option.some.inj (isFolder.symm.trans atWork)
    have passed : isSkipped workFolder = true := by decide
    rw [Node.isFolder, passed] at seen
    cases seen

include confined

/-- The folder of the root afterwards: a search meets in it what it met before, and all that the search does
not pass over is there as it was. -/
theorem exists_entries {entries : Entries} (found : before.top.find? place = some (.folder entries)) :
    ∃ other, tree.top.find? place = some (.folder other) ∧
      other.walk isSkipped root = entries.walk isSkipped root ∧
      ∀ name node, entries.get? name = some node → (node.isFolder && isSkipped name) = false →
        other.get? name = some node := by
  rcases confined.elsewhere with rfl | ⟨inside, rfl⟩
  · exact ⟨entries, found, rfl, fun _ _ isNode _ => isNode⟩
  · refine ⟨entries.set workFolder (.folder inside), ?_, ?_, ?_⟩
    · rw [putAt, Entries.put_eq_updateAt found]
      exact Entries.find?_updateAt found _
    · apply Entries.walk_set_of_skipped (by decide)
      rw [← Entries.find?_append_singleton found]
      exact site.free
    · intro name node isNode seen
      rwa [Entries.get?_set_of_ne (site.ne_workFolder found isNode seen)]

variable (leads : Leads before.top 0 (before.start root) (splitText '/' root) place)

include leads

/-- A search finds what it found before. -/
theorem scan_eq (cancelled : Bool) (extensions : List String) :
    scan cancelled tree root extensions = scan cancelled before root extensions := by
  obtain ⟨entries, found⟩ := site.leads.isFolderAt
  obtain ⟨other, found', same, -⟩ := site.exists_entries confined found
  have keeps := site.keeps confined
  have leads' : Leads tree.top 0 (tree.start root) (splitText '/' root) place := by
    rw [keeps.start]
    exact leads.of_keeps keeps
  exact scan_congr site.current (site.current_after confined) leads leads' found found' same cancelled extensions

/-- Of what a search finds the same is read as before. -/
theorem read_eq {entries : Entries} (found : before.top.find? place = some (.folder entries))
    (proper : entries.IsProper) {cancelled : Bool} {extensions paths : List String}
    (finds : scan cancelled before root extensions = .ok paths) {path : String} (member : path ∈ paths) :
    read tree path = read before path := by
  obtain ⟨other, found', -, kept⟩ := site.exists_entries confined found
  have inBoth : FoundInBoth before tree isSkipped root entries := by
    intro name node isFileName isNode seen
    have isThere := (Entries.find?_append_singleton found).trans isNode
    have isThere' := (Entries.find?_append_singleton found').trans (kept name node isNode seen)
    exact ⟨found_join site.given isFileName site.leads isThere,
      found_join site.given isFileName (site.leads_after confined) isThere'⟩
  obtain ⟨leaf, isLeaf, isRegular, rfl⟩ := exists_leaf_of_scan site.current leads found finds member
  exact (Entries.read_leaf proper inBoth isLeaf isRegular).symm

omit leads

/-! ### Analysing -/

section Analysing

variable (plain : Database.IsPlain (historyPath root)) {cancelled : Bool} {analysers : List Analyser}
  {occasion : Occasion} {request : Request} (isRoot : request.root = root)

include plain isRoot

theorem confined_offered (report : Report) : Confined before (place ++ [workFolder])
    (Analysis.recordRun (workspace cancelled) request tree report).2.1 := by
  rcases state_recordRun (workspace cancelled) request tree report with same | ⟨record, isRecord, recorded⟩
  · rwa [same]
  · obtain rfl := Option.some.inj isRecord
    rw [recorded, isRoot]
    exact site.confined_recordRun plain confined cancelled report.toRun

/-- An analysis changes nothing but the work folder, whether it succeeds or not. -/
theorem confined_analyse : Confined before (place ++ [workFolder])
    (analyse (workspace cancelled) analysers occasion request tree).state := by
  rcases analyse_cases (workspace cancelled) analysers occasion request tree with
    ⟨fault, -, -, same⟩ | ⟨paths, -, -, kept⟩
  · rwa [same]
  · rw [kept, state_keep, isRoot, save_workspace]
    exact site.confined_saveReport (site.confined_offered confined plain isRoot _) _

/-- A report that an analysis returns can be written, and its place takes a report. -/
theorem takesReport_of_analyse {report : Report}
    (returned : (analyse (workspace cancelled) analysers occasion request tree).result = .ok report) :
    (Report.codec.write report).IsWritable ∧ TakesReport before root place := by
  rcases analyse_cases (workspace cancelled) analysers occasion request tree with
    ⟨fault, -, result, -⟩ | ⟨paths, -, result, -⟩
  · exact nomatch returned.symm.trans result
  · rw [result, keep_eq_ok_iff, isRoot, save_workspace] at returned
    obtain ⟨-, saved⟩ := returned
    obtain ⟨writable, takes⟩ :=
      (site.saveReport_eq_ok_iff (site.confined_offered confined plain isRoot _) (some report)).mp saved
    exact ⟨(exists_encodeReport_iff report).mp writable, takes⟩

end Analysing

/-- Where an analysis returned a report before, a later one returns a report that says the same of the
files. -/
theorem exists_report_again (leads : Leads before.top 0 (before.start root) (splitText '/' root) place)
    (plain : Database.IsPlain (historyPath root)) {entries : Entries}
    (found : before.top.find? place = some (.folder entries)) (proper : entries.IsProper) {cancelled : Bool}
    {analysers : List Analyser} {occasion later : Occasion} {request : Request} (isRoot : request.root = root)
    {report : Report}
    (returned : (analyse (workspace cancelled) analysers occasion request before).result = .ok report)
    (going : later.cancelled = false) (plainYear : later.now.hasPlainYear = true)
    (plainOffset : later.now.hasPlainOffset = true) : ∃ again,
    (analyse (workspace false) analysers later request tree).result = .ok again ∧ SameFindings again report := by
  obtain ⟨writable, takes⟩ := site.takesReport_of_analyse site.confined plain isRoot returned
  obtain ⟨paths, told, admitted, byHistory, rfl⟩ := exists_draft_of_analyse returned
  have finds : scan cancelled before root request.extensions = .ok paths := isRoot ▸ admitted.found
  have same : ∀ path ∈ paths, (workspace false).read tree path = (workspace cancelled).read before path :=
    fun path member => site.read_eq confined leads found proper finds member
  have drafts := @draft_congr analysers _ _ occasion later request paths same
  have found' : scan false tree root request.extensions = .ok paths :=
    (site.scan_eq confined leads false request.extensions).trans (scan_going_of_ok finds)
  have admitted' : Admitted (workspace false) later request tree paths :=
    ⟨admitted.rooted, isRoot ▸ found', admitted.someFile, going⟩
  rw [result_of_admitted admitted', drafts]
  generalize draft analysers ((workspace cancelled).read before) occasion request paths = drafted at writable ⊢
  obtain ⟨told', byHistory', isTold⟩ := exists_told_by_history (workspace false) request tree
    { drafted with runId := later.runId, generatedAt := later.now }
  refine ⟨_, (keep_eq_ok_iff ..).mpr ⟨rfl, ?_⟩, ?_⟩
  · rw [isRoot, save_workspace]
    refine (site.saveReport_eq_ok_iff (site.confined_offered confined plain isRoot _) (some _)).mpr ⟨?_, takes⟩
    rw [exists_encodeReport_iff, isTold]
    exact Report.isWritable_of_same writable rfl rfl rfl rfl plainYear plainOffset
  · rw [isTold]
    refine ⟨rfl, rfl, rfl, ?_⟩
    rw [fileWarnings_append_told _ byHistory, fileWarnings_append_told _ byHistory']
    rfl

end WorkSite

/-! ### Sequences of calls -/

/-- A root directory that is reached without links, and has no work folder or one that holds no links. -/
structure IsDirect (tree : FileTree) (root : String) (place : Place) : Prop where
  given : root ≠ ""
  current : IsFolderAt tree.top tree.current
  leads : Leads tree.top 0 (tree.start root) (splitText '/' root) place
  work : tree.top.find? (place ++ [workFolder]) = none ∨ ∃ inside,
    tree.top.find? (place ++ [workFolder]) = some (.folder inside) ∧
      ∀ name target, inside.get? name ≠ some (.link target)

theorem IsDirect.site {tree : FileTree} {root : String} {place : Place} (direct : IsDirect tree root place) :
    WorkSite tree root place where
  given := direct.given
  current := direct.current
  leads := directlyLeads_of_leads direct.current direct.leads
  free := direct.work.imp_right fun ⟨inside, found, _⟩ => ⟨inside, found⟩
  noLink name target isLink := by
    rcases direct.work with nothing | ⟨inside, found, noLink⟩
    · obtain ⟨_, isFolder⟩ := Entries.exists_folder_above (List.cons_ne_nil name []) isLink
      exact nomatch isFolder.symm.trans nothing
    · rw [Entries.find?_append_singleton found] at isLink
      exact noLink name target isLink

namespace Rescan

/-- What is done with a root. -/
inductive Call where
  | execute (cancelled : Bool) (analysers : List Analyser) (occasion : Occasion) (request : Request)
  | save (report : Option Report)
  | record (cancelled : Bool) (run : Run)

/-- The tree that a call leaves, whether it succeeds or not. -/
def perform (root : String) (tree : FileTree) : Call → FileTree
  | .execute cancelled analysers occasion request =>
      (analyse (workspace cancelled) analysers occasion { request with root } tree).state
  | .save report => (saveReport tree root report).2
  | .record cancelled run => (recordRun cancelled tree root run).2

/-- The tree that calls leave, one after another. -/
def after (root : String) (tree : FileTree) (calls : List Call) : FileTree := calls.foldl (perform root) tree

section Calls

variable {before tree : FileTree} {root : String} {place : Place} (site : WorkSite before root place)
  (plain : Database.IsPlain (historyPath root)) (confined : Confined before (place ++ [workFolder]) tree)

include site plain confined

theorem confined_perform (call : Call) : Confined before (place ++ [workFolder]) (perform root tree call) := by
  cases call with
  | execute cancelled analysers occasion request => exact site.confined_analyse confined plain rfl
  | save report => exact site.confined_saveReport confined report
  | record cancelled run => exact site.confined_recordRun plain confined cancelled run

theorem confined_after (calls : List Call) : Confined before (place ++ [workFolder]) (after root tree calls) := by
  induction calls generalizing tree with
  | nil => exact confined
  | cons call calls ih => exact ih (confined_perform site plain confined call)

end Calls

/-- Analyses do not see what they leave behind.  After any calls on a root, however they end, a search of the
root finds what it found before them; and where an analysis returned a report before them, an analysis
returns one afterwards that says the same of the files. -/
theorem unseen_after {before : FileTree} {root : String} {place : Place} (direct : IsDirect before root place)
    (plain : Database.IsPlain (historyPath root)) (calls : List Call) :
    (∀ cancelled extensions,
      scan cancelled (after root before calls) root extensions = scan cancelled before root extensions) ∧
    (∀ entries, before.top.find? place = some (.folder entries) → entries.IsProper →
      ∀ cancelled analysers occasion request report, request.root = root →
      (analyse (workspace cancelled) analysers occasion request before).result = .ok report →
      ∀ later : Occasion, later.cancelled = false → later.now.hasPlainYear = true →
      later.now.hasPlainOffset = true →
      ∃ again, (analyse (workspace false) analysers later request (after root before calls)).result = .ok again ∧
        SameFindings again report) := by
  have site := direct.site
  have confined := confined_after site plain site.confined calls
  refine ⟨site.scan_eq confined direct.leads, ?_⟩
  intro entries found proper cancelled analysers occasion request report isRoot returned later going plainYear
    plainOffset
  exact site.exists_report_again confined direct.leads plain found proper isRoot returned going plainYear
    plainOffset

/-- A folder with one source file. -/
def sources : Entries := .cons "a.c" (.file (.bytes (Utf8.encode "int f() { if (x) y(); }"))) .nil

/-- A project with one source file. -/
def oneSource : FileTree := ⟨.cons "p" (.folder sources) .nil, []⟩

/-- An analysis of the sources of the project. -/
def analyseSources (runId : String) (tree : FileTree) : Execution FileTree :=
  analyse (workspace false) [.ofExtensions ⟨Extension.standard⟩] ⟨runId, default, 4, false⟩
    ⟨"p", [".c"], 3, false, 2⟩ tree

/-- An analysis of the project, a report that is absent, and a run. -/
def threeCalls : List Call :=
  [.execute false [.ofExtensions ⟨Extension.standard⟩] ⟨"one", default, 4, false⟩ ⟨"p", [".c"], 3, false, 2⟩,
    .save none, .record false { (default : Run) with id := "two" }]

theorem isDirect_oneSource : IsDirect oneSource "p" ["p"] where
  given := by decide
  current := ⟨_, rfl⟩
  leads := .enter ⟨by decide, by decide⟩ (by decide) ⟨_, rfl⟩ (.arrive ⟨_, rfl⟩)
  work := Or.inl rfl

theorem isProper_sources : sources.IsProper :=
  ⟨⟨⟨by decide, by decide, by decide⟩, by decide⟩, rfl, trivial, trivial⟩

theorem exists_eq_ok_of_isOk {ε α : Type} {result : Except ε α} (succeeds : result.isOk = true) :
    ∃ value, result = .ok value := by
  cases result with
  | error fault => exact nomatch succeeds
  | ok value => exact ⟨value, rfl⟩

theorem unseen_after_threeCalls : scan false (after "p" oneSource threeCalls) "p" [] = .ok ["p/a.c"] ∧
    ∃ report again, (analyseSources "one" oneSource).result = .ok report ∧
      (analyseSources "three" (after "p" oneSource threeCalls)).result = .ok again ∧
      SameFindings again report := by
  have plain : Database.IsPlain (historyPath "p") := ⟨by decide, by decide⟩
  obtain ⟨found, again⟩ := unseen_after isDirect_oneSource plain threeCalls
  have searched : scan false oneSource "p" [] = .ok ["p/a.c"] := by decide +kernel
  have succeeds : (analyseSources "one" oneSource).result.isOk = true := by decide +kernel
  obtain ⟨report, returned⟩ := exists_eq_ok_of_isOk succeeds
  obtain ⟨later, returnedAgain, same⟩ := again sources rfl isProper_sources false _ _ _ report rfl returned
    ⟨"three", default, 4, false⟩ rfl (by decide +kernel) (by decide +kernel)
  exact ⟨(found false []).trans searched, report, later, returned, returnedAgain, same⟩

/-- A root with a question mark in its name, behind which the name of a database is cut off, and a link of the
name that is left back into the root. -/
def linkedBack : FileTree :=
  ⟨.cons "l" (.link "l?x/new.c") (.cons "l?x" (.folder .nil) .nil), []⟩

theorem isDirect_linkedBack : IsDirect linkedBack "l?x" ["l?x"] where
  given := by decide
  current := ⟨_, rfl⟩
  leads := .enter ⟨by decide, by decide⟩ (by decide) ⟨_, rfl⟩ (.arrive ⟨_, rfl⟩)
  work := Or.inl rfl

/-- The database in which a run is recorded is found by the next search, although the root is reached without
links and has no work folder. -/
theorem database_found_by_search :
    IsDirect linkedBack "l?x" ["l?x"] ∧
    (recordRun false linkedBack "l?x" { (default : Run) with id := "r" }).1 = .ok () ∧
    scan false linkedBack "l?x" [] = .ok [] ∧
    scan false (after "l?x" linkedBack [.record false { (default : Run) with id := "r" }]) "l?x" [] =
      .ok ["l?x/new.c"] :=
  ⟨isDirect_linkedBack, by decide +kernel, by decide +kernel, by decide +kernel⟩

end Rescan

end FileTree

end CodeGauge
