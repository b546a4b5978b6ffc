/-
Module: CodeGauge.Proofs.FileTree.WorkFolder
Purpose: Saving a report, recording a run and analysing a root change nothing but the work folder of the root.
Main exports:
  FileTree.WorkSite, FileTree.WorkSite.makeFolders_cases, FileTree.WorkSite.confines_connect,
  FileTree.WorkSite.confined_recordRun, FileTree.WorkSite.confined_saveReport,
  FileTree.WorkSite.saveReport_eq_ok_iff
-/
import CodeGauge.Proofs.FileTree.Confined
import CodeGauge.Proofs.FileTree.Storage

namespace CodeGauge.FileTree

open CodeGauge.Text

/-!
A root that is reached through no link has its work folder below it, however the root is spelled: the path of
the folder is the shortest one of the root's with one more name, and leads to that name in the root.  The
report and the database are names of this folder.
-/

/-- A file of the work folder has the path of the folder joined with its name. -/
theorem workFile_eq_join {name : String} (plain : Path.PlainName name.toList) (root : String) :
    workFile root name = Path.join [workPath root, name] := by
  obtain ⟨path, -, -, -, -, isFile⟩ := exists_workPath root
  have given : name ≠ "" := fun empty => plain.noPoint (Or.inl (by rw [empty]; rfl))
  have text : String.ofList ((workPath root).toList ++ '/' :: name.toList) = workFile root name := by
    rw [← String.toList_inj, workFile_eq plain, String.toList_ofList, String.toList_append, String.toList_append]
    simp
  rw [join_name_eq plain (workPath_ne_empty root), text, isFile name given, Path.clean_clean]

/-- A root that is reached through no link, and has no work folder or one in which there are no links. -/
structure WorkSite (before : FileTree) (root : String) (place : Place) : Prop where
  given : root ≠ ""
  current : IsFolderAt before.top before.current
  leads : DirectlyLeads before root place
  free : before.top.find? (place ++ [workFolder]) = none ∨ IsFolderAt before.top (place ++ [workFolder])
  noLink : ∀ name target, before.top.find? (place ++ [workFolder] ++ [name]) ≠ some (.link target)

namespace WorkSite

variable {before tree : FileTree} {root : String} {place : Place} (site : WorkSite before root place)

include site

theorem confined : Confined before (place ++ [workFolder]) before := .refl site.noLink

section Confined

variable (confined : Confined before (place ++ [workFolder]) tree)

include confined

theorem keeps : Keeps before tree := confined.keeps site.leads.isFolderAt site.noLink site.free

theorem leads_after : DirectlyLeads tree root place := site.leads.of_keeps (site.keeps confined)

theorem current_after : IsFolderAt tree.top tree.current := by
  have keeps := site.keeps confined
  rw [keeps.current]
  exact keeps.folders site.current

theorem free_after :
    tree.top.find? (place ++ [workFolder]) = none ∨ IsFolderAt tree.top (place ++ [workFolder]) := by
  rcases confined.elsewhere with rfl | ⟨inside, rfl⟩
  · exact site.free
  · obtain ⟨inner, found⟩ := site.leads.isFolderAt
    exact Or.inr ⟨inside, Entries.find?_put_self found _⟩

theorem nothing_before (nothing : tree.top.find? (place ++ [workFolder]) = none) :
    before.top.find? (place ++ [workFolder]) = none := by
  refine site.free.resolve_right fun isWork => ?_
  obtain ⟨inside, found⟩ := confined.folder_of_before site.leads.isFolderAt isWork
  exact nomatch found.symm.trans nothing

/-- The work folder can be made, unless a path on the way cannot be followed. -/
theorem makeFolders_cases :
    (∃ made, tree.makeFolders (workPath root) = (.ok (), made) ∧
      ConfinedWith before (place ++ [workFolder]) made) ∨
    (∃ fault, tree.makeFolders (workPath root) = (.error fault, tree)) ∧
      ∃ point ∈ waypoints (workPath root), ¬ Followable point := by
  have leads := site.leads_after confined
  have way : waypoints (workPath root) = waypoints root ++ [workPath root] :=
    waypoints_join plainName_workFolder site.given
  have makes : tree.makeFolders (workPath root) = _ :=
    (congrArg (makeEach tree) way).trans (makeEach_append tree (waypoints root) [workPath root])
  rw [makes, way]
  have reached : ∀ point ∈ waypoints root, _ := fun point =>
    leads_of_mem_waypoints (site.current_after confined) leads
  rcases makeEach_of_leads reached with made | ⟨⟨fault, fails⟩, point, member, apart⟩
  · rw [made]
    rcases makeFolder_join plainName_workFolder site.given (by decide) leads (site.free_after confined) with
      ⟨isWork, found⟩ | ⟨nothing, put⟩ | apart
    · exact Or.inl ⟨tree, by simp only [makeEach, workPath, found], confined, isWork⟩
    · exact Or.inl ⟨_, by simp only [makeEach, workPath, put],
        confined.putAt_empty site.leads.isFolderAt (site.nothing_before confined nothing)⟩
    · obtain ⟨fault, fails⟩ := @makeFolder_of_not_followable tree _ apart
      exact Or.inr ⟨⟨fault, by simp only [makeEach, workPath, fails]⟩, workPath root, by simp, apart⟩
  · rw [fails]
    exact Or.inr ⟨⟨fault, rfl⟩, point, List.mem_append_left _ member, apart⟩

end Confined

/-! ### Files of the work folder -/

section With

variable (confined : ConfinedWith before (place ++ [workFolder]) tree)

include confined

/-- The path of a file of the work folder leads to its name there, where no link is. -/
theorem resolve_workFile {name : String} (plain : Path.PlainName name.toList)
    (short : ¬ maxName < name.utf8ByteSize) (followable : Followable (workFile root name)) (finalLink : Bool) :
    tree.resolve finalLink (workFile root name) =
      match tree.top.find? (place ++ [workFolder] ++ [name]) with
      | none => .ok (.vacant (place ++ [workFolder] ++ [name]))
      | some node => .ok (.existing (place ++ [workFolder] ++ [name]) node) := by
  have entered : DirectlyLeads tree (workPath root) (place ++ [workFolder]) :=
    (site.leads_after confined.toConfined).join plainName_workFolder site.given (by decide) confined.folder
  rw [workFile_eq_join plain] at followable ⊢
  obtain ⟨links, follows⟩ := entered.resolve_join plain (workPath_ne_empty root) followable finalLink
  rw [follows, follow_name (isName_of_plainName plain) short]
  cases found : tree.top.find? (place ++ [workFolder] ++ [name]) with
  | none => rfl
  | some node =>
    cases node with
    | file content => rfl
    | link target => exact absurd found (confined.noLink name target)
    | folder inside =>
      dsimp only
      rw [follow_nil, found]

end With

/-! ### The history -/

section History

open Attempt

/-- An open history whose file is in the work folder. -/
structure IsHistory (before : FileTree) (place : Place) (connection : Connection) : Prop where
  isPlace : connection.place = some (place ++ [workFolder] ++ ["history.db"])
  noFolder : ¬ IsFolderAt before.top (place ++ [workFolder] ++ ["history.db"])

theorem confines_findFile : Confines before (place ++ [workFolder])
    (findFile ⟨historyPath root, .anyFile, [], none⟩) fun found =>
      found.1 = place ++ [workFolder] ++ ["history.db"] ∧
        ¬ IsFolderAt before.top (place ++ [workFolder] ++ ["history.db"]) := by
  refine .get fun tree confined => ?_
  by_cases followable : Followable (historyPath root)
  · rw [show historyPath root = workFile root "history.db" from rfl,
      site.resolve_workFile confined plainName_history (by decide) followable true]
    have noFolder : ∀ {node : Option Node}, tree.top.find? (place ++ [workFolder] ++ ["history.db"]) = node →
        (∀ inside, node ≠ some (.folder inside)) →
        ¬ IsFolderAt before.top (place ++ [workFolder] ++ ["history.db"]) := by
      rintro _ rfl apart ⟨inside, isFolder⟩
      exact apart inside ((confined.sameFolders _ inside).mpr isFolder)
    cases found : tree.top.find? (place ++ [workFolder] ++ ["history.db"]) with
    | none =>
      have plain := noFolder found (by simp)
      refine .ite (fun _ => .throw _) fun _ => ?_
      exact .bind (.store (by simp) (by decide) plain _) fun _ _ => .pure ⟨rfl, plain⟩
    | some node =>
      cases node with
      | file content => exact .ite (fun _ => .throw _) fun _ => .pure ⟨rfl, noFolder found (by simp)⟩
      | link target => exact .throw _
      | folder inside => exact .throw _
  · obtain ⟨trouble, resolves⟩ := resolve_of_not_followable followable
    simp only [resolves]
    exact .throw _

variable (plain : Database.IsPlain (historyPath root))

include plain

/-- A history whose name is a path and nothing else is opened in the work folder. -/
theorem confines_connect :
    Confines before (place ++ [workFolder]) (connect (historyPath root)) (IsHistory before place) := by
  refine .bind (.liftM fun source isSource => isSource) fun source isSource => ?_
  obtain rfl := Except.ok.inj ((source_historyPath plain).symm.trans isSource)
  refine .ite nofun fun _ => ?_
  refine .bind site.confines_findFile ?_
  rintro ⟨_, stored⟩ ⟨rfl, noFolder⟩
  have setUp : Confines before (place ++ [workFolder])
      (liftM (Database.Source.setUp ⟨historyPath root, .anyFile, [], none⟩)) fun _ => True :=
    .liftM fun _ _ => trivial
  refine .bind setUp fun _ _ => ?_
  refine .ite nofun fun _ => ?_
  exact .weaken (confines_openAt (by simp) noFolder stored) fun connection isPlace => ⟨isPlace, noFolder⟩

section Confined

variable (confined : Confined before (place ++ [workFolder]) tree)

include confined

/-- Opening the history changes nothing but the work folder, and gives a history in it if it succeeds. -/
theorem openHistory_spec {cancelled : Bool} {result : Except Fault Connection} {after : FileTree}
    (opens : openHistory cancelled tree root = (result, after)) :
    Confined before (place ++ [workFolder]) after ∧ ∀ connection, result = .ok connection →
      ConfinedWith before (place ++ [workFolder]) after ∧ IsHistory before place connection := by
  rw [openHistory] at opens
  rcases site.makeFolders_cases confined with ⟨made, makes, confined'⟩ | ⟨⟨fault, fails⟩, -⟩
  · rw [makes] at opens
    cases cancelled with
    | true =>
      obtain ⟨rfl, rfl⟩ := Prod.mk.inj opens
      exact ⟨confined'.toConfined, nofun⟩
    | false =>
      obtain ⟨confined'', isHistory⟩ := site.confines_connect plain made confined'
      cases connects : (connect (historyPath root)).on made with
      | mk outcome opened =>
        rw [connects] at confined'' isHistory
        simp only [Bool.false_eq_true, if_false, connects] at opens
        cases outcome with
        | error obstacle =>
          obtain ⟨rfl, rfl⟩ := Prod.mk.inj opens
          exact ⟨confined''.toConfined, nofun⟩
        | ok connection =>
          obtain ⟨rfl, rfl⟩ := Prod.mk.inj opens
          refine ⟨confined''.toConfined, fun other same => ⟨confined'', ?_⟩⟩
          obtain rfl := Except.ok.inj same
          exact isHistory connection rfl
  · rw [fails] at opens
    obtain ⟨rfl, rfl⟩ := Prod.mk.inj opens
    exact ⟨confined, nofun⟩

/-- Recording a run changes nothing but the work folder, whether it succeeds or not. -/
theorem confined_recordRun (cancelled : Bool) (run : Run) :
    Confined before (place ++ [workFolder]) (FileTree.recordRun cancelled tree root run).2 := by
  cases opens : openHistory cancelled tree root with
  | mk result opened =>
    obtain ⟨confined', isHistory⟩ := site.openHistory_spec plain confined opens
    cases result with
    | error fault => simpa only [FileTree.recordRun, opens] using confined'
    | ok connection =>
      obtain ⟨confined'', isHistory⟩ := isHistory connection rfl
      have closes : ∀ {other : Connection}, other.place = connection.place →
          Confined before (place ++ [workFolder]) (other.close.on opened).2 := fun same =>
        (confines_close (by simp) isHistory.noFolder (same.trans isHistory.isPlace) opened confined'').1.toConfined
      cases records : connection.record run with
      | error fault =>
        simp only [FileTree.recordRun, opens, records]
        exact closes rfl
      | ok history =>
        simp only [FileTree.recordRun, opens, records]
        exact closes rfl

end Confined

end History

/-! ### The report -/

omit site in
theorem temporaryName_not_mem_workNames (number : UInt32) : temporaryName number ∉ workNames := by
  have apart : ∀ name ∈ workNames, ¬ "report.json.".toList <+: name.toList := by decide
  intro member
  exact apart _ member ⟨_, (toList_temporaryName number).symm⟩

section Made

variable {made : FileTree} (confined : ConfinedWith before (place ++ [workFolder]) made)

include confined

/-- The path of a file in which a report is written leads to its name in the work folder. -/
theorem resolve_temporaryPath {number : UInt32} (followable : Followable (temporaryPath root number)) :
    made.resolve false (temporaryPath root number) =
      match before.top.find? (place ++ [workFolder] ++ [temporaryName number]) with
      | none => .ok (.vacant (place ++ [workFolder] ++ [temporaryName number]))
      | some node => .ok (.existing (place ++ [workFolder] ++ [temporaryName number]) node) := by
  rw [temporaryPath_eq] at followable ⊢
  rw [← confined.others _ (temporaryName_not_mem_workNames number)]
  exact site.resolve_workFile confined (plainName_temporary number) (short_temporary number) followable false

theorem folder_of_ready {folder : Place} {number : UInt32} (ready : Ready made root folder number) :
    folder = place ++ [workFolder] := by
  have resolves := site.resolve_temporaryPath confined ready.followable
  have followable := ready.followable
  rw [temporaryPath_eq] at resolves followable
  rw [ready.leads.resolve_name (plainName_temporary number) (short_temporary number) followable,
    ready.vacant] at resolves
  cases found : before.top.find? (place ++ [workFolder] ++ [temporaryName number]) with
  | none =>
    rw [found] at resolves
    exact List.append_cancel_right (Destination.vacant.inj (Except.ok.inj resolves))
  | some node =>
    rw [found] at resolves
    exact nomatch resolves

omit site in
/-- A name that is free in the work folder stays free while a file under it comes and goes. -/
theorem confinedWith_passing {number : UInt32} (ready : Ready made root (place ++ [workFolder]) number)
    (content : Content) :
    ConfinedWith before (place ++ [workFolder]) (made.passing (place ++ [workFolder]) number content) := by
  obtain ⟨inner, found⟩ := ready.leads.isFolderAt
  obtain ⟨inner', found'⟩ := (ready.leads_holding content).isFolderAt
  have below : place ++ [workFolder] ≠ [] := by simp
  refine ⟨⟨Or.inr ⟨inner'.erase (temporaryName number), ?_⟩, ?_, ?_, ?_⟩, (ready.leads_passing content).isFolderAt⟩
  · have taken : made.passing (place ++ [workFolder]) number content =
        (made.holding (place ++ [workFolder]) number content).putAt (place ++ [workFolder])
          (.folder (inner'.erase (temporaryName number))) := by
      rw [passing, Entries.remove_concat below found']
      rfl
    rw [taken, holding, putAt, putAt, Entries.put_concat below found, Entries.put_put]
    exact confined.putAt_eq _
  · intro name target
    rw [ready.find?_passing]
    exact confined.noLink name target
  · intro name inside
    rw [ready.find?_passing]
    exact confined.sameFolders name inside
  · intro name passes
    rw [ready.find?_passing]
    exact confined.others name passes

end Made

section Confined

variable (confined : Confined before (place ++ [workFolder]) tree)

include confined

/-- Saving a report changes nothing but the work folder, whether it succeeds or not. -/
theorem confined_saveReport (report : Option Report) :
    Confined before (place ++ [workFolder]) (FileTree.saveReport tree root report).2 := by
  cases saves : FileTree.saveReport tree root report with
  | mk result after =>
    rcases site.makeFolders_cases confined with ⟨made, makes, confined'⟩ | ⟨⟨fault, fails⟩, -⟩
    · rcases saveReportUnder_cases saves with ⟨_, -, rfl⟩ | ⟨folder, number, -, ready, kept⟩
      · rw [makes]
        exact confined'.toConfined
      rw [makes] at ready kept
      obtain rfl := site.folder_of_ready confined' ready
      have passed := confinedWith_passing confined' ready
      rcases kept with ⟨_, content, -, rfl⟩ | ⟨bytes, -, -, plain, rfl⟩
      · exact (passed content).toConfined
      · have noFolder : ¬ IsFolderAt before.top (place ++ [workFolder] ++ ["report.json"]) :=
          fun ⟨inside, isFolder⟩ => plain ⟨inside, (confined'.sameFolders _ inside).mpr isFolder⟩
        exact ((passed (.bytes bytes)).store (by simp) (by decide) noFolder (.bytes bytes)).toConfined
    · rcases saveReportUnder_cases saves with ⟨_, -, rfl⟩ | ⟨_, _, succeeds, -⟩
      · rw [fails]
        exact confined
      · rw [fails] at succeeds
        exact nomatch succeeds

/-- One of the names drawn for a file in the work folder is free, and those drawn before it are not. -/
def DrawsFreeName (before : FileTree) (root : String) (folder : Place) : Prop :=
  ∃ skipped < maxTries,
    (Followable (temporaryPath root (Circumstances.usual.draw skipped)) ∧
      before.top.find? (folder ++ [temporaryName (Circumstances.usual.draw skipped)]) = none) ∧
    ∀ earlier < skipped, Followable (temporaryPath root (Circumstances.usual.draw earlier)) ∧
      before.top.find? (folder ++ [temporaryName (Circumstances.usual.draw earlier)]) ≠ none

/-- Where a report can be saved: all paths on the way can be followed, a name for the file in which it is
written is found, and no folder is in its place. -/
def TakesReport (before : FileTree) (root : String) (place : Place) : Prop :=
  (∀ point ∈ waypoints (workPath root), Followable point) ∧
    DrawsFreeName before root (place ++ [workFolder]) ∧
    ¬ IsFolderAt before.top (place ++ [workFolder] ++ ["report.json"])

omit confined in
theorem exists_makeTemporary_iff_drawsFreeName {made : FileTree}
    (confined : ConfinedWith before (place ++ [workFolder]) made) :
    (∃ file, makeTemporary .usual made root maxTries 0 = .ok file) ↔
      DrawsFreeName before root (place ++ [workFolder]) := by
  have vacant : ∀ number, (∃ other, made.resolve false (temporaryPath root number) = .ok (.vacant other)) ↔
      Followable (temporaryPath root number) ∧
        before.top.find? (place ++ [workFolder] ++ [temporaryName number]) = none := by
    intro number
    constructor
    · rintro ⟨other, resolves⟩
      have followable := followable_of_resolve resolves
      rw [site.resolve_temporaryPath confined followable] at resolves
      split at resolves
      · next nothing => exact ⟨followable, nothing⟩
      · exact nomatch resolves
    · rintro ⟨followable, nothing⟩
      rw [site.resolve_temporaryPath confined followable, nothing]
      exact ⟨_, rfl⟩
  have taken : ∀ number, (∃ other node, made.resolve false (temporaryPath root number) =
      .ok (.existing other node)) ↔ Followable (temporaryPath root number) ∧
        before.top.find? (place ++ [workFolder] ++ [temporaryName number]) ≠ none := by
    intro number
    constructor
    · rintro ⟨other, node, resolves⟩
      have followable := followable_of_resolve resolves
      rw [site.resolve_temporaryPath confined followable] at resolves
      split at resolves
      · exact nomatch resolves
      · next node something => exact ⟨followable, by rw [something]; exact nofun⟩
    · rintro ⟨followable, something⟩
      obtain ⟨node, isNode⟩ := Option.ne_none_iff_exists'.mp something
      rw [site.resolve_temporaryPath confined followable, isNode]
      exact ⟨_, _, rfl⟩
  rw [exists_makeTemporary_iff rfl, DrawsFreeName]
  simp only [vacant, taken, Nat.zero_add]

/-- A report is saved exactly if it can be written and its place takes a report. -/
theorem saveReport_eq_ok_iff (report : Option Report) :
    (FileTree.saveReport tree root report).1 = .ok () ↔
      (∃ bytes, encodeReport report = .ok bytes) ∧ TakesReport before root place := by
  rw [saveReport_fst_eq_ok_iff, TakesReport]
  rcases site.makeFolders_cases confined with ⟨made, makes, confined'⟩ | ⟨⟨fault, fails⟩, point, member, apart⟩
  · have followed : ∀ point ∈ waypoints (workPath root), Followable point := fun point member =>
      ((makeEach_spec (site.current_after confined) makes).2 point member).1
    have sameFolder : IsFolderAt made.top (place ++ [workFolder] ++ ["report.json"]) ↔
        IsFolderAt before.top (place ++ [workFolder] ++ ["report.json"]) :=
      exists_congr fun inside => confined'.sameFolders "report.json" inside
    have onlyFolder : (∃ file, makeTemporary .usual made root maxTries 0 = .ok file) →
        ((∀ folder, WorkLeads made root folder → ¬ IsFolderAt made.top (folder ++ ["report.json"])) ↔
          ¬ IsFolderAt before.top (place ++ [workFolder] ++ ["report.json"])) := by
      rintro ⟨file, makesFile⟩
      obtain ⟨folder, number, ready, -⟩ := exists_ready_of_makeTemporary makesFile
      obtain rfl := site.folder_of_ready confined' ready
      rw [← sameFolder]
      refine ⟨fun plain => plain _ ready.leads, fun plain other leads => ?_⟩
      rwa [leads.unique ready.leads]
    rw [makes]
    constructor
    · rintro ⟨-, makesFile, writable, plain⟩
      exact ⟨writable, followed, (site.exists_makeTemporary_iff_drawsFreeName confined').mp makesFile,
        (onlyFolder makesFile).mp plain⟩
    · rintro ⟨writable, -, free, plain⟩
      have makesFile := (site.exists_makeTemporary_iff_drawsFreeName confined').mpr free
      exact ⟨rfl, makesFile, writable, (onlyFolder makesFile).mpr plain⟩
  · rw [fails]
    constructor
    · rintro ⟨succeeds, -⟩
      exact nomatch succeeds
    · rintro ⟨-, followed, -⟩
      exact absurd (followed point member) apart

end Confined

end WorkSite

end CodeGauge.FileTree
