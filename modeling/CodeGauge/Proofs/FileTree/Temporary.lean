/-
Module: CodeGauge.Proofs.FileTree.Temporary
Purpose: What saving a report does with the file in which the report is written first, and what it leaves.
Main exports:
  FileTree.Ready, FileTree.passing, FileTree.exists_ready_of_makeTemporary, FileTree.exists_makeTemporary_iff,
  FileTree.saveReportUnder_cases, FileTree.saveReport_fst_eq_ok_iff
-/
import CodeGauge.Proofs.FileTree.Folders
import CodeGauge.Proofs.Text.Digits

namespace CodeGauge.FileTree

open CodeGauge.Text Entries

/-!
A report is written to a file that is made for it in the work folder, under a name that nothing had.  However
the writing ends, that name has nothing afterwards: either its file has been moved to the report's place, or it
has been taken away.  So what saving can leave is told once, as the tree before with a file that has come and
gone, and in case of success with the report in its place.
-/

/-! ### Names -/

theorem toList_temporaryName (number : UInt32) :
    (temporaryName number).toList = "report.json.".toList ++ Nat.toDigits 10 number.toNat := by
  rw [temporaryName, String.toList_append, Nat.toString_eq_repr, Nat.repr_eq_ofList_toDigits]
  exact congrArg _ String.toList_ofList

theorem plainName_report : Path.PlainName "report.json".toList := ⟨by decide, by decide, by decide⟩

theorem plainName_temporary (number : UInt32) : Path.PlainName (temporaryName number).toList := by
  rw [toList_temporaryName]
  refine ⟨?_, by simp, by simp⟩
  rw [List.mem_append, not_or]
  refine ⟨by decide, fun member => ?_⟩
  exact absurd (isDigit_of_mem_toDigits member) (by decide)

theorem utf8ByteSize_ofList_le (cs : List Char) : (String.ofList cs).utf8ByteSize ≤ 4 * cs.length := by
  induction cs with
  | nil => exact Nat.le_refl 0
  | cons c cs ih =>
    have atMost := c.utf8Size_le_four
    rw [String.ofList_cons, String.utf8ByteSize_append, String.utf8ByteSize_singleton, List.length_cons]
    omega

theorem short_temporary (number : UInt32) : ¬ maxName < (temporaryName number).utf8ByteSize := by
  have few : (Nat.toDigits 10 number.toNat).length ≤ 10 := by
    rw [Nat.length_toDigits_le_iff (by decide) (by decide)]
    exact Nat.lt_trans number.toNat_lt (by decide)
  have size := utf8ByteSize_ofList_le (temporaryName number).toList
  rw [String.ofList_toList, toList_temporaryName, List.length_append] at size
  have front : "report.json.".toList.length = 12 := by decide
  rw [maxName]
  omega

theorem temporaryName_ne_report (number : UInt32) : temporaryName number ≠ "report.json" := by
  have apart : ¬ "report.json.".toList <+: "report.json".toList := by decide
  intro same
  exact apart ⟨_, (toList_temporaryName number).symm.trans (congrArg String.toList same)⟩

theorem temporaryPath_eq (root : String) (number : UInt32) :
    temporaryPath root number = workFile root (temporaryName number) :=
  (workFile_eq (plainName_temporary number) root).symm

/-- The report is in the work folder. -/
theorem reportPath_eq (root : String) : reportPath root = workPath root ++ "/report.json" := by
  rw [show reportPath root = workFile root "report.json" from rfl, workFile_eq plainName_report,
    String.append_assoc]
  rfl

theorem followable_report {root : String} {number : UInt32} (followable : Followable (temporaryPath root number)) :
    Followable (reportPath root) := by
  have begins : temporaryPath root number = reportPath root ++ ("." ++ toString number.toNat) := by
    rw [temporaryPath, temporaryName, reportPath_eq, show "report.json." = "report.json" ++ "." from rfl,
      show "/report.json" = "/" ++ "report.json" from rfl]
    simp only [String.append_assoc]
  have given : reportPath root ≠ "" := by
    rw [reportPath_eq]
    simp
  rw [begins] at followable
  exact followable.of_append given

/-! ### A file that comes and goes -/

/-- A tree with a file under the name of a number. -/
def holding (tree : FileTree) (folder : Place) (number : UInt32) (content : Content) : FileTree :=
  tree.putAt (folder ++ [temporaryName number]) (.file content)

/-- A tree after such a file has been taken away. -/
def passing (tree : FileTree) (folder : Place) (number : UInt32) (content : Content) : FileTree :=
  { tree with top := (tree.holding folder number content).top.remove (folder ++ [temporaryName number]) }

/-- A tree after such a file has been moved to the place of the report. -/
def moved (tree : FileTree) (folder : Place) (number : UInt32) (content : Content) : FileTree :=
  (tree.passing folder number content).putAt (folder ++ ["report.json"]) (.file content)

/-- The work folder of a root is there, and nothing has the name of a number in it. -/
structure Ready (tree : FileTree) (root : String) (folder : Place) (number : UInt32) : Prop where
  followable : Followable (temporaryPath root number)
  leads : WorkLeads tree root folder
  vacant : tree.top.find? (folder ++ [temporaryName number]) = none

namespace Ready

variable {tree : FileTree} {root : String} {folder : Place} {number : UInt32}
  (ready : Ready tree root folder number) (content : Content)

include ready

theorem noFolder : ¬ IsFolderAt tree.top (folder ++ [temporaryName number]) := by
  rintro ⟨inner, found⟩
  exact nomatch ready.vacant.symm.trans found

theorem noLink (target : String) : tree.top.find? (folder ++ [temporaryName number]) ≠ some (.link target) := by
  rw [ready.vacant]
  exact nofun

theorem find?_holding (other : String) : (tree.holding folder number content).top.find? (folder ++ [other]) =
    if other = temporaryName number then some (.file content) else tree.top.find? (folder ++ [other]) :=
  find?_putAt ready.leads.isFolderAt (.file content) other

theorem agreeBut_holding :
    AgreeBut (folder ++ [temporaryName number]) (tree.holding folder number content).top tree.top := by
  obtain ⟨inner, found⟩ := ready.leads.isFolderAt
  exact agreeBut_put found (fun below isFolder => ready.noFolder ⟨below, isFolder⟩) (.file content) nofun

theorem leads_holding : WorkLeads (tree.holding folder number content) root folder :=
  ready.leads.of_agreeBut (ready.agreeBut_holding content).symm rfl ready.noFolder ready.noLink

theorem resolve_holding : (tree.holding folder number content).resolve false (temporaryPath root number) =
    .ok (.existing (folder ++ [temporaryName number]) (.file content)) := by
  have followable := ready.followable
  rw [temporaryPath_eq] at followable ⊢
  rw [(ready.leads_holding content).resolve_name (plainName_temporary number) (short_temporary number) followable,
    ready.find?_holding, if_pos rfl]

/-- The file is taken away by its path. -/
theorem removeOne_holding : (tree.holding folder number content).removeOne (temporaryPath root number) =
    tree.passing folder number content := by
  rw [removeOne, ready.resolve_holding]
  rfl

theorem find?_passing (other : String) :
    (tree.passing folder number content).top.find? (folder ++ [other]) = tree.top.find? (folder ++ [other]) := by
  refine (find?_remove (ready.leads_holding content).isFolderAt other).trans ?_
  split
  · next same => rw [same, ready.vacant]
  · next apart => rw [ready.find?_holding, if_neg apart]

/-- Afterwards all folders, files and links are as before. -/
theorem outline_passing (other : Place) :
    ((tree.passing folder number content).top.find? other).map Node.outline =
      (tree.top.find? other).map Node.outline := by
  by_cases same : other = folder ++ [temporaryName number]
  · rw [same, ready.find?_passing]
  · obtain ⟨inner, found⟩ := (ready.leads_holding content).isFolderAt
    have plain : ∀ below, (tree.holding folder number content).top.find? (folder ++ [temporaryName number]) ≠
        some (.folder below) := by
      intro below
      rw [ready.find?_holding, if_pos rfl]
      exact nofun
    exact ((agreeBut_remove found plain).trans (ready.agreeBut_holding content)) other same

theorem leads_passing : WorkLeads (tree.passing folder number content) root folder := by
  have agree : AgreeBut (folder ++ [temporaryName number]) tree.top (tree.passing folder number content).top :=
    fun other _ => (ready.outline_passing content other).symm
  exact ready.leads.of_agreeBut agree rfl ready.noFolder ready.noLink

/-! ### Moving it -/

theorem resolve_report : (tree.holding folder number content).resolve false (reportPath root) =
    match tree.top.find? (folder ++ ["report.json"]) with
    | none => .ok (.vacant (folder ++ ["report.json"]))
    | some node => .ok (.existing (folder ++ ["report.json"]) node) := by
  have apart : "report.json" ≠ temporaryName number := (temporaryName_ne_report number).symm
  have resolves := (ready.leads_holding content).resolve_name plainName_report (by decide)
    (followable_report ready.followable)
  rwa [ready.find?_holding, if_neg apart] at resolves

theorem moveFile_onto_folder (isFolder : IsFolderAt tree.top (folder ++ ["report.json"])) :
    (tree.holding folder number content).moveFile (temporaryPath root number) (reportPath root) =
      .error "file exists" := by
  obtain ⟨inner, found⟩ := isFolder
  rw [moveFile, ready.resolve_holding, ready.resolve_report, found]

section Moved

variable (plain : ¬ IsFolderAt tree.top (folder ++ ["report.json"]))

theorem find?_moved (other : String) : (tree.moved folder number content).top.find? (folder ++ [other]) =
    if other = "report.json" then some (.file content) else tree.top.find? (folder ++ [other]) := by
  rw [moved, find?_putAt (ready.leads_passing content).isFolderAt, ready.find?_passing]

include plain

theorem moveFile_holding :
    (tree.holding folder number content).moveFile (temporaryPath root number) (reportPath root) =
      .ok (tree.moved folder number content) := by
  rw [moveFile, ready.resolve_holding, ready.resolve_report]
  cases found : tree.top.find? (folder ++ ["report.json"]) with
  | none => rfl
  | some node =>
    cases node with
    | file other => rfl
    | link target => rfl
    | folder inner => exact absurd ⟨inner, found⟩ plain

/-- Moving the file changes the place of the report and nothing else. -/
theorem agreeBut_moved :
    AgreeBut (folder ++ ["report.json"]) (tree.moved folder number content).top tree.top := by
  obtain ⟨inner, found⟩ := (ready.leads_passing content).isFolderAt
  have plainBefore : ∀ below, (tree.passing folder number content).top.find? (folder ++ ["report.json"]) ≠
      some (.folder below) := by
    intro below isFolder
    rw [ready.find?_passing] at isFolder
    exact plain ⟨below, isFolder⟩
  have put : AgreeBut (folder ++ ["report.json"]) (tree.moved folder number content).top
      (tree.passing folder number content).top := agreeBut_put found plainBefore (.file content) nofun
  exact put.trans fun other _ => ready.outline_passing content other

/-- Where the path of the work folder leads after the file has been moved, it led before: not through the
report. -/
theorem leads_of_moved {other : Place} (leads : WorkLeads (tree.moved folder number content) root other) :
    other = folder := by
  have atReport := (ready.find?_moved content "report.json").trans (if_pos rfl)
  have before : WorkLeads tree root other := by
    refine leads.of_agreeBut (ready.agreeBut_moved content plain) rfl ?_ ?_
    · rintro ⟨inner, found⟩
      exact nomatch atReport.symm.trans found
    · intro target found
      exact nomatch atReport.symm.trans found
  exact before.unique ready.leads

/-- Taking the file away finds nothing then, or not even a way. -/
theorem removeOne_moved : (tree.moved folder number content).removeOne (temporaryPath root number) =
    tree.moved folder number content := by
  cases resolves : (tree.moved folder number content).resolve false (temporaryPath root number) with
  | error trouble => rw [removeOne, resolves]
  | ok destination =>
    have resolves' := resolves
    rw [temporaryPath_eq] at resolves'
    obtain ⟨other, leads⟩ := exists_workLeads (plainName_temporary number) resolves'
    obtain rfl := ready.leads_of_moved content plain leads
    rw [leads.resolve_name (plainName_temporary number) (short_temporary number)
        (followable_of_resolve resolves'), ready.find?_moved, if_neg (temporaryName_ne_report number),
      ready.vacant] at resolves'
    obtain rfl := Except.ok.inj resolves'
    rw [removeOne, resolves]

end Moved

end Ready

/-! ### Making it -/

section Making

variable {circumstances : Circumstances} {tree : FileTree} {root : String}

/-- A name whose path ends vacant is free in the work folder. -/
theorem exists_ready_of_resolve {number : UInt32} {place : Place}
    (resolves : tree.resolve false (temporaryPath root number) = .ok (.vacant place)) :
    ∃ folder, Ready tree root folder number ∧ place = folder ++ [temporaryName number] := by
  have followable := followable_of_resolve resolves
  rw [temporaryPath_eq] at resolves
  obtain ⟨folder, leads⟩ := exists_workLeads (plainName_temporary number) resolves
  rw [leads.resolve_name (plainName_temporary number) (short_temporary number)
    (temporaryPath_eq root number ▸ followable)] at resolves
  cases found : tree.top.find? (folder ++ [temporaryName number]) with
  | none =>
    rw [found] at resolves
    exact ⟨folder, ⟨followable, leads, found⟩, (Destination.vacant.inj (Except.ok.inj resolves)).symm⟩
  | some node =>
    rw [found] at resolves
    exact nomatch resolves

/-- A file is made under a name that is free. -/
theorem exists_ready_of_makeTemporary {tries drawn : Nat} {temporary : Temporary} {made : FileTree}
    (makes : makeTemporary circumstances tree root tries drawn = .ok (temporary, made)) :
    ∃ folder number, Ready tree root folder number ∧
      temporary = ⟨temporaryPath root number, folder ++ [temporaryName number]⟩ ∧
      made = tree.holding folder number (.bytes []) := by
  induction tries generalizing drawn with
  | zero => exact nomatch makes
  | succ tries ih =>
    rw [makeTemporary] at makes
    split at makes
    · exact ih makes
    · exact nomatch makes
    · next place resolves =>
      obtain ⟨folder, ready, rfl⟩ := exists_ready_of_resolve resolves
      split at makes
      · exact nomatch makes
      · obtain ⟨rfl, rfl⟩ := Prod.mk.inj (Except.ok.inj makes)
        exact ⟨folder, _, ready, rfl, rfl⟩

/-- A file can be made if a name that is drawn is free, and those drawn before it stand for something. -/
theorem exists_makeTemporary_iff (undisturbed : circumstances.mishap = none) {tries drawn : Nat} :
    (∃ made, makeTemporary circumstances tree root tries drawn = .ok made) ↔ ∃ skipped < tries,
      (∃ place, tree.resolve false (temporaryPath root (circumstances.draw (drawn + skipped))) =
        .ok (.vacant place)) ∧
      ∀ earlier < skipped, ∃ place node,
        tree.resolve false (temporaryPath root (circumstances.draw (drawn + earlier))) =
          .ok (.existing place node) := by
  induction tries generalizing drawn with
  | zero => simp [makeTemporary]
  | succ tries ih =>
    rw [makeTemporary]
    cases resolves : tree.resolve false (temporaryPath root (circumstances.draw drawn)) with
    | error trouble =>
      refine ⟨nofun, ?_⟩
      rintro ⟨skipped, -, ⟨place, vacant⟩, taken⟩
      cases skipped with
      | zero => exact nomatch resolves.symm.trans vacant
      | succ skipped =>
        obtain ⟨place, node, existing⟩ := taken 0 (Nat.succ_pos skipped)
        exact nomatch resolves.symm.trans existing
    | ok destination =>
      cases destination with
      | vacant place =>
        simp only [undisturbed]
        exact ⟨fun _ => ⟨0, Nat.succ_pos tries, ⟨place, resolves⟩, nofun⟩, fun _ => ⟨_, rfl⟩⟩
      | existing place node =>
        simp only [ih]
        constructor
        · rintro ⟨skipped, below, vacant, taken⟩
          refine ⟨skipped + 1, Nat.succ_lt_succ below, ?_, ?_⟩
          · rwa [Nat.add_comm skipped, ← Nat.add_assoc]
          · intro earlier before
            cases earlier with
            | zero => exact ⟨place, node, resolves⟩
            | succ earlier =>
              rw [Nat.add_comm earlier, ← Nat.add_assoc]
              exact taken earlier (Nat.lt_of_succ_lt_succ before)
        · rintro ⟨skipped, below, vacant, taken⟩
          cases skipped with
          | zero =>
            obtain ⟨other, vacant⟩ := vacant
            exact nomatch resolves.symm.trans vacant
          | succ skipped =>
            rw [Nat.add_comm skipped, ← Nat.add_assoc] at vacant
            refine ⟨skipped, Nat.lt_of_succ_lt_succ below, vacant, ?_⟩
            intro earlier before
            rw [Nat.add_assoc, Nat.add_comm 1]
            exact taken (earlier + 1) (Nat.succ_lt_succ before)

end Making

/-! ### Saving -/

section Saving

variable {circumstances : Circumstances} {tree : FileTree} {root : String} {report : Option Report}

theorem putAt_holding (tree : FileTree) (folder : Place) (number : UInt32) (first second : Content) :
    (tree.holding folder number first).putAt (folder ++ [temporaryName number]) (.file second) =
      tree.holding folder number second := by
  rw [holding, holding, putAt, putAt, putAt, put_put]

/-- Filling the file that was made ends with the file still there, or with the report in its place. -/
theorem Ready.fillTemporary_cases {folder : Place} {number : UInt32} (ready : Ready tree root folder number)
    {result : Except Fault Unit} {left : FileTree}
    (fills : fillTemporary circumstances (tree.holding folder number (.bytes [])) root
      ⟨temporaryPath root number, folder ++ [temporaryName number]⟩ report = (result, left)) :
    (∃ fault content, result = .error fault ∧ left = tree.holding folder number content) ∨
    ∃ bytes, result = .ok () ∧ encodeReport report = .ok bytes ∧
      ¬ IsFolderAt tree.top (folder ++ ["report.json"]) ∧ left = tree.moved folder number (.bytes bytes) := by
  rw [fillTemporary] at fills
  simp only [putAt_holding] at fills
  split at fills
  · obtain ⟨rfl, rfl⟩ := Prod.mk.inj fills
    exact Or.inl ⟨_, _, rfl, rfl⟩
  next bytes encodes =>
  split at fills
  · obtain ⟨rfl, rfl⟩ := Prod.mk.inj fills
    exact Or.inl ⟨_, _, rfl, rfl⟩
  · obtain ⟨rfl, rfl⟩ := Prod.mk.inj fills
    exact Or.inl ⟨_, _, rfl, rfl⟩
  split at fills
  · obtain ⟨rfl, rfl⟩ := Prod.mk.inj fills
    exact Or.inl ⟨_, _, rfl, rfl⟩
  next afterwards moves =>
  obtain ⟨rfl, rfl⟩ := Prod.mk.inj fills
  split at moves
  · exact nomatch moves
  by_cases isFolder : IsFolderAt tree.top (folder ++ ["report.json"])
  · rw [ready.moveFile_onto_folder _ isFolder] at moves
    exact nomatch moves
  · rw [ready.moveFile_holding _ isFolder] at moves
    exact Or.inr ⟨bytes, rfl, encodes, isFolder, (Except.ok.inj moves).symm⟩

/-- What saving a report leaves of the tree in which the work folder was made: the tree as it is, the tree
after a file has come and gone, or, and only then it succeeds, the tree with the report in its place. -/
theorem saveReportUnder_cases {result : Except Fault Unit} {after : FileTree}
    (saves : saveReportUnder circumstances tree root report = (result, after)) :
    (∃ fault, result = .error fault ∧ after = (tree.makeFolders (workPath root)).2) ∨
    ∃ folder number, (tree.makeFolders (workPath root)).1 = .ok () ∧
      Ready (tree.makeFolders (workPath root)).2 root folder number ∧
      ((∃ fault content, result = .error fault ∧
          after = (tree.makeFolders (workPath root)).2.passing folder number content) ∨
        ∃ bytes, result = .ok () ∧ encodeReport report = .ok bytes ∧
          ¬ IsFolderAt (tree.makeFolders (workPath root)).2.top (folder ++ ["report.json"]) ∧
          after = (tree.makeFolders (workPath root)).2.moved folder number (.bytes bytes)) := by
  rw [saveReportUnder] at saves
  cases makes : tree.makeFolders (workPath root) with
  | mk outcome prepared =>
    rw [makes] at saves
    cases outcome with
    | error fault =>
      obtain ⟨rfl, rfl⟩ := Prod.mk.inj saves
      exact Or.inl ⟨_, rfl, rfl⟩
    | ok _ =>
      dsimp only at saves
      split at saves
      · obtain ⟨rfl, rfl⟩ := Prod.mk.inj saves
        exact Or.inl ⟨_, rfl, rfl⟩
      next temporary made makesFile =>
      obtain ⟨folder, number, ready, rfl, rfl⟩ := exists_ready_of_makeTemporary makesFile
      refine Or.inr ⟨folder, number, rfl, ready, ?_⟩
      generalize fills : fillTemporary circumstances (prepared.holding folder number (.bytes [])) root
        ⟨temporaryPath root number, folder ++ [temporaryName number]⟩ report = filled at saves
      obtain ⟨filledResult, left⟩ := filled
      obtain ⟨rfl, rfl⟩ := Prod.mk.inj saves
      rcases ready.fillTemporary_cases fills with ⟨fault, content, rfl, rfl⟩ | ⟨bytes, rfl, encodes, plain, rfl⟩
      · exact Or.inl ⟨fault, content, rfl, ready.removeOne_holding content⟩
      · exact Or.inr ⟨bytes, rfl, encodes, plain, ready.removeOne_moved (.bytes bytes) plain⟩

/-- A report is saved exactly if the work folder and a file in it can be made, the report can be written, and
no folder is in its place. -/
theorem saveReport_fst_eq_ok_iff : (saveReport tree root report).1 = .ok () ↔
    (tree.makeFolders (workPath root)).1 = .ok () ∧
    (∃ made, makeTemporary .usual (tree.makeFolders (workPath root)).2 root maxTries 0 = .ok made) ∧
    (∃ bytes, encodeReport report = .ok bytes) ∧
    ∀ folder, WorkLeads (tree.makeFolders (workPath root)).2 root folder →
      ¬ IsFolderAt (tree.makeFolders (workPath root)).2.top (folder ++ ["report.json"]) := by
  rw [saveReport, saveReportUnder]
  cases tree.makeFolders (workPath root) with
  | mk outcome prepared =>
    cases outcome with
    | error fault => simp
    | ok _ =>
      dsimp only
      cases makes : makeTemporary .usual prepared root maxTries 0 with
      | error fault => simp
      | ok both =>
        obtain ⟨temporary, made⟩ := both
        obtain ⟨folder, number, ready, rfl, rfl⟩ := exists_ready_of_makeTemporary makes
        have onlyFolder : (∀ other, WorkLeads prepared root other →
            ¬ IsFolderAt prepared.top (other ++ ["report.json"])) ↔
              ¬ IsFolderAt prepared.top (folder ++ ["report.json"]) := by
          refine ⟨fun plain => plain folder ready.leads, fun plain other leads => ?_⟩
          rwa [leads.unique ready.leads]
        rw [onlyFolder]
        change (fillTemporary .usual (prepared.holding folder number (.bytes [])) root
          ⟨temporaryPath root number, folder ++ [temporaryName number]⟩ report).1 = .ok () ↔ _
        rw [fillTemporary]
        cases encodeReport report with
        | error fault => simp
        | ok bytes =>
          simp only [putAt_holding, Circumstances.usual]
          by_cases isFolder : IsFolderAt prepared.top (folder ++ ["report.json"])
          · rw [ready.moveFile_onto_folder _ isFolder]
            simp [isFolder]
          · rw [ready.moveFile_holding _ isFolder]
            simp [isFolder]

end Saving

end CodeGauge.FileTree
