/-
Module: CodeGauge.Proofs.FileTree.Storage
Purpose: A report that was saved is loaded and rendered as it was.
Main exports:
  FileTree.ReachedApart, FileTree.loadReport_of_saveReport
-/
import CodeGauge.Proofs.FileTree.Temporary
import CodeGauge.Proofs.Report.Codec
import CodeGauge.Proofs.Text.Utf8
import CodeGauge.Workspace.Query

namespace CodeGauge.FileTree

open CodeGauge.Text

/-! ### The bytes of a report -/

/-- The bytes of a report are read back as the report. -/
theorem decodeReport_encodeReport {report : Report} (whole : 60 ∣ report.generatedAt.offset) {bytes : Bytes}
    (encodes : encodeReport (some report) = .ok bytes) : decodeReport bytes = .ok report := by
  rw [encodeReport] at encodes
  split at encodes
  · next json isJson =>
    obtain rfl := Except.ok.inj encodes
    obtain ⟨readable, decodes⟩ := @Report.restored 9995 report whole json isJson
    rw [decodeReport, Utf8.encode, Utf8.decode_flatMap_encodeChar, Json.readFirst_render readable]
    simp only [decodes]
  · exact absurd encodes (by simp)

/-! ### Paths -/

theorem lastElement_reportPath (root : String) :
    Path.lastElement (reportPath root).toList = "report.json".toList := by
  have reversed : ("/report.json" : String).toList.reverse = "report.json".toList.reverse ++ ['/'] := by
    decide
  have oneName : "report.json".toList.reverse.all (· != '/') = true := by decide
  rw [Path.lastElement, reportPath_eq, String.toList_append, List.reverse_append, reversed,
    List.append_assoc, List.takeWhile_append_of_pos (List.all_eq_true.mp oneName), List.singleton_append,
    List.takeWhile_cons_of_neg (by decide), List.append_nil, List.reverse_reverse]

/-! ### Saving and loading -/

theorem isName_report : IsName "report.json" := isName_of_plainName plainName_report

theorem follow_report (top : Entries) (links : Nat) (folder : Place) :
    follow top false links folder ["report.json"] =
      match top.find? (folder ++ ["report.json"]) with
      | none => .ok (.vacant (folder ++ ["report.json"]))
      | some node => .ok (.existing (folder ++ ["report.json"]) node) :=
  follow_lastName isName_report (by decide) top links folder

theorem WorkLeads.resolve_report {tree : FileTree} {root : String} {folder : Place}
    (leads : WorkLeads tree root folder) (followable : Followable (reportPath root)) (finalLink : Bool) :
    ∃ links, tree.resolve finalLink (reportPath root)
      = follow tree.top finalLink links folder ["report.json"] :=
  leads.resolve plainName_report followable finalLink

/-- The work folder of a root is reached by its path also without what is at the place of the report. -/
def ReachedApart (tree : FileTree) (root : String) : Prop :=
  ∃ entries, (tree.removeAll (reportPath root)).status true (workPath root) = .ok (.folder entries)

instance (tree : FileTree) (root : String) : Decidable (ReachedApart tree root) :=
  match found : (tree.removeAll (reportPath root)).status true (workPath root) with
  | .ok (.folder entries) => isTrue ⟨entries, found⟩
  | .ok (.file _) | .ok (.link _) | .error _ => isFalse (by simp [ReachedApart, found])

/-- Content has come to the report's place: the work folder is there, nothing or a file or a link was at the
place, and nothing else has changed. -/
structure Installs (tree : FileTree) (root : String) (bytes : Bytes) (saved : FileTree) (folder : Place) :
    Prop where
  followable : Followable (reportPath root)
  leads : WorkLeads tree root folder
  noFolder : ¬IsFolderAt tree.top (folder ++ ["report.json"])
  sameCurrent : saved.current = tree.current
  find?_saved : saved.top.find? (folder ++ ["report.json"]) = some (.file (.bytes bytes))
  agreeBut_saved : Entries.AgreeBut (folder ++ ["report.json"]) saved.top tree.top

theorem Ready.installs {tree : FileTree} {root : String} {folder : Place} {number : UInt32}
    (ready : Ready tree root folder number) (plain : ¬IsFolderAt tree.top (folder ++ ["report.json"]))
    (bytes : Bytes) : Installs tree root bytes (tree.moved folder number (.bytes bytes)) folder where
  followable := followable_report ready.followable
  leads := ready.leads
  noFolder := plain
  sameCurrent := rfl
  find?_saved := (ready.find?_moved (.bytes bytes) "report.json").trans (if_pos rfl)
  agreeBut_saved := ready.agreeBut_moved (.bytes bytes) plain

section Installed

variable {tree saved : FileTree} {root : String} {bytes : Bytes} {folder : Place}

namespace Installs

variable (installs : Installs tree root bytes saved folder)

include installs

theorem plain (inner : Entries) : tree.top.find? (folder ++ ["report.json"]) ≠ some (.folder inner) :=
  fun found => installs.noFolder ⟨inner, found⟩

/-- Without what is at the report's place a tree is the same but for that place, at which nothing is. -/
theorem removeAll_reportPath :
    Entries.AgreeBut (folder ++ ["report.json"]) (tree.removeAll (reportPath root)).top tree.top ∧
      (tree.removeAll (reportPath root)).top.find? (folder ++ ["report.json"]) = none ∧
      (tree.removeAll (reportPath root)).current = tree.current := by
  obtain ⟨inner, isFolder⟩ := installs.leads.isFolderAt
  obtain ⟨links, resolves⟩ := installs.leads.resolve_report installs.followable false
  rw [removeAll, lastElement_reportPath, if_neg (by decide), resolves, follow_report]
  cases found : tree.top.find? (folder ++ ["report.json"]) with
  | none => exact ⟨fun _ _ => rfl, found, rfl⟩
  | some node =>
    exact ⟨Entries.agreeBut_remove isFolder installs.plain, Entries.find?_remove_self isFolder, rfl⟩

theorem noFolder_saved : ¬IsFolderAt saved.top (folder ++ ["report.json"]) := by
  rintro ⟨inner, found⟩
  rw [installs.find?_saved] at found
  exact absurd found (by simp)

theorem noLink_saved (target : String) :
    saved.top.find? (folder ++ ["report.json"]) ≠ some (.link target) := by
  rw [installs.find?_saved]
  simp

/-- After the report was put into place its path leads nowhere else than before. -/
theorem leads_of_saved {other : Place} (leads : WorkLeads saved root other) : other = folder :=
  (leads.of_agreeBut installs.agreeBut_saved installs.sameCurrent installs.noFolder_saved
    installs.noLink_saved).unique installs.leads

/-- The work folder is reached apart exactly if it is reached after the report was put into place. -/
theorem reachedApart_iff : ReachedApart tree root ↔ WorkLeads saved root folder := by
  obtain ⟨agree, nothing, sameCurrent⟩ := installs.removeAll_reportPath
  have noFolder : ¬IsFolderAt (tree.removeAll (reportPath root)).top (folder ++ ["report.json"]) := by
    rintro ⟨inner, found⟩
    rw [nothing] at found
    exact absurd found (by simp)
  have noLink : ∀ target, (tree.removeAll (reportPath root)).top.find? (folder ++ ["report.json"])
      ≠ some (.link target) := by simp [nothing]
  rw [ReachedApart, exists_status_eq_folder (followable_workPath plainName_report installs.followable)]
  constructor
  · rintro ⟨other, leads⟩
    obtain rfl := (WorkLeads.of_agreeBut agree sameCurrent noFolder noLink leads).unique installs.leads
    exact leads.of_agreeBut (agree.trans installs.agreeBut_saved.symm)
      (sameCurrent.trans installs.sameCurrent.symm) noFolder noLink
  · intro leads
    exact ⟨folder, leads.of_agreeBut (installs.agreeBut_saved.trans agree.symm)
      (installs.sameCurrent.trans sameCurrent.symm) installs.noFolder_saved installs.noLink_saved⟩

/-- Where no link is at the report's place, the work folder is reached apart. -/
theorem reachedApart_of_no_link
    (noLink : ∀ target, tree.status false (reportPath root) ≠ .ok (.link target)) :
    ReachedApart tree root := by
  obtain ⟨links, resolves⟩ := installs.leads.resolve_report installs.followable false
  rw [installs.reachedApart_iff]
  refine installs.leads.of_agreeBut installs.agreeBut_saved.symm installs.sameCurrent.symm
    installs.noFolder fun target found => noLink target ?_
  rw [status, resolves, follow_report, found]

/-- If the work folder is reached, the path of the report leads to what was put into place. -/
theorem resolve_saved (leads : WorkLeads saved root folder) : saved.resolve true (reportPath root) =
    .ok (.existing (folder ++ ["report.json"]) (.file (.bytes bytes))) := by
  obtain ⟨links, resolves⟩ := leads.resolve_report installs.followable true
  rw [resolves, follow_name isName_report (by decide), installs.find?_saved]
  rfl

/-- The path of the report leads nowhere unless the work folder is reached. -/
theorem leads_of_resolve_saved {destination : Destination}
    (resolves : saved.resolve true (reportPath root) = .ok destination) : WorkLeads saved root folder := by
  obtain ⟨other, leads⟩ := exists_workLeads plainName_report resolves
  exact installs.leads_of_saved leads ▸ leads

/-- If the work folder is reached, the bytes that were put into place are what is loaded. -/
theorem loadReport_eq_during (leads : WorkLeads saved root folder) :
    loadReport saved root = during "decode report" (decodeReport bytes) := by
  have found : saved.status true (reportPath root) = .ok (.file (.bytes bytes)) := by
    rw [status, installs.resolve_saved leads]
  simp only [loadReport, found]

/-- What is loaded after the report was put into place: what its bytes say, if the work folder is reached
apart, and else nothing. -/
theorem loadReport_eq_ok_iff (loaded : Report) :
    loadReport saved root = .ok loaded ↔ decodeReport bytes = .ok loaded ∧ ReachedApart tree root := by
  have during_ok : ∀ result : Except Fault Report,
      during "decode report" result = .ok loaded ↔ result = .ok loaded := fun result => by
    cases result <;> simp [during]
  rw [installs.reachedApart_iff]
  constructor
  · intro loads
    have leads : WorkLeads saved root folder := by
      cases resolves : saved.resolve true (reportPath root) with
      | error trouble =>
        rw [loadReport, status, resolves] at loads
        cases trouble <;> exact absurd loads (by simp)
      | ok destination => exact installs.leads_of_resolve_saved resolves
    rw [installs.loadReport_eq_during leads, during_ok] at loads
    exact ⟨loads, leads⟩
  · rintro ⟨decodes, leads⟩
    rw [installs.loadReport_eq_during leads, during_ok]
    exact decodes

end Installs

end Installed

/-- Saving a report puts its bytes into place in the tree in which the work folder was made. -/
theorem exists_installs_of_saveReport {circumstances : Circumstances} {tree saved : FileTree} {root : String}
    {report : Option Report} (saves : saveReportUnder circumstances tree root report = (.ok (), saved)) :
    ∃ bytes folder, encodeReport report = .ok bytes ∧
      Installs (tree.makeFolders (workPath root)).2 root bytes saved folder := by
  rcases saveReportUnder_cases saves with ⟨fault, failed, -⟩ | ⟨folder, number, -, ready, saved⟩
  · exact nomatch failed
  rcases saved with ⟨fault, content, failed, -⟩ | ⟨bytes, -, encodes, plain, rfl⟩
  · exact nomatch failed
  · exact ⟨bytes, folder, encodes, ready.installs plain bytes⟩

/-- Saved reports come back.  What is loaded after a report was saved is the report and nothing else, and
there is something to load exactly if the work folder is reached also without what was at the report's
place before, which saving replaces; that is so unless a link was there.  Every rendering of what was
saved is then the rendering of the report.  The name under which the report was written first does not
matter. -/
theorem loadReport_of_saveReport {circumstances : Circumstances} {tree saved : FileTree} {root : String}
    {report : Report} (whole : 60 ∣ report.generatedAt.offset)
    (saves : saveReportUnder circumstances tree root (some report) = (.ok (), saved)) :
    (∀ loaded, loadReport saved root = .ok loaded ↔
      loaded = report ∧ ReachedApart (tree.makeFolders (workPath root)).2 root) ∧
    ((∀ target, (tree.makeFolders (workPath root)).2.status false (reportPath root) ≠ .ok (.link target)) →
      ReachedApart (tree.makeFolders (workPath root)).2 root) ∧
    (ReachedApart (tree.makeFolders (workPath root)).2 root → ∀ cancelled colour formatName,
      (workspace cancelled).renderSaved colour root formatName saved
        = Workspace.ofRendering (Render.report colour (some report) formatName)) := by
  obtain ⟨bytes, folder, encodes, installs⟩ := exists_installs_of_saveReport saves
  have decodes := decodeReport_encodeReport whole encodes
  have loads : ∀ loaded, loadReport saved root = .ok loaded ↔
      loaded = report ∧ ReachedApart (tree.makeFolders (workPath root)).2 root := fun loaded => by
    rw [installs.loadReport_eq_ok_iff, decodes, Except.ok.injEq, eq_comm]
  refine ⟨loads, installs.reachedApart_of_no_link, fun reached cancelled colour formatName => ?_⟩
  have loaded : (workspace cancelled).load saved root = .ok report := (loads report).mpr ⟨rfl, reached⟩
  rw [Workspace.renderSaved, loaded]

/-- A report with what is hardest to write: the least and the greatest number, a negative zero, control
characters, separators and characters of a page, a list that is not given beside an empty one, and an
instant to the nanosecond with an offset. -/
def sampleReport : Report where
  runId := "a\t\"b\"\x00\x7f"
  rootPath := "<p>&\u2028é😀"
  generatedAt := ⟨-62135596801, Time.Nanos.ofNat 120000000, -16200⟩
  files := some
    [{ path := "a.c", language := "", tokens := -9223372036854775808, unresolvedCandidates := 0
       summary := ⟨0, 0, 0, ⟨1⟩, 9223372036854775807⟩, functions := none },
     { path := "b.c", language := "c", tokens := 1, unresolvedCandidates := 0
       summary := ⟨1, 2, 2, ⟨0x7FEFFFFFFFFFFFFF⟩, 0⟩
       functions := some [⟨"f", "b.c", "c", 1, 2, true, 3, 4⟩] }]
  project := ⟨2, 1, 2, 2, ⟨0x3FD5555555555555⟩, 0, 0, ⟨0x8000000000000000⟩⟩
  topFunctions := some []
  metricMetadata := none
  warnings := ["\\"]

/-- A link at the report's place that leads out of the work folder. -/
def linkedReport : FileTree where
  top := .cons "p"
    (.folder (.cons ".cqa" (.folder (.cons "report.json" (.link "/elsewhere") .nil)) .nil)) .nil
  current := []

theorem loadReport_of_saveReport_over_link :
    60 ∣ sampleReport.generatedAt.offset ∧
    (saveReport linkedReport "p" (some sampleReport)).1 = .ok () ∧
    loadReport (saveReport linkedReport "p" (some sampleReport)).2 "p" = .ok sampleReport := by
  have whole : 60 ∣ sampleReport.generatedAt.offset := by decide
  have succeeds : (saveReport linkedReport "p" (some sampleReport)).1 = .ok () := by decide +kernel
  have reached : ReachedApart (linkedReport.makeFolders (workPath "p")).2 "p" := by decide +kernel
  have saves : saveReport linkedReport "p" (some sampleReport) =
      (.ok (), (saveReport linkedReport "p" (some sampleReport)).2) := by
    generalize saveReport linkedReport "p" (some sampleReport) = both at succeeds ⊢
    exact Prod.ext succeeds rfl
  exact ⟨whole, succeeds, ((loadReport_of_saveReport whole saves).1 sampleReport).mpr ⟨rfl, reached⟩⟩

/-- A root whose path leads through a link at the place of its own report. -/
def rootThroughReport : FileTree where
  top := .cons "d" (.folder (.cons ".cqa" (.folder (.cons "report.json" (.link "sub")
      (.cons "sub" (.folder .nil) .nil))) .nil))
    (.cons "l" (.link "d/.cqa/report.json/../..") .nil)
  current := []

/-- Where saving replaces a link on the way to the root, what was saved cannot be loaded. -/
theorem saved_but_not_loaded :
    60 ∣ (default : Report).generatedAt.offset ∧
    (saveReport rootThroughReport "l" (some default)).1 = .ok () ∧
    ¬∃ loaded, loadReport (saveReport rootThroughReport "l" (some default)).2 "l" = .ok loaded := by
  refine ⟨by decide, by decide +kernel, ?_⟩
  rintro ⟨loaded, loads⟩
  have fails : (loadReport (saveReport rootThroughReport "l" (some default)).2 "l").isOk = false := by
    decide +kernel
  rw [loads] at fails
  exact absurd fails (by simp [Except.isOk, Except.toBool])

end CodeGauge.FileTree
