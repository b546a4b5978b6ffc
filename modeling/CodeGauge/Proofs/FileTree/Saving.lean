/-
Module: CodeGauge.Proofs.FileTree.Saving
Purpose: Saving a report changes one file or none.
Main exports:
  FileTree.SameFiles, FileTree.sameFiles_makeEach, FileTree.saved_whole_or_not_at_all
-/
import CodeGauge.Proofs.FileTree.Storage

namespace CodeGauge.FileTree

open CodeGauge.Text Entries

/-!
Two trees have the same files if every file and every link of one is in the other at the same place; the second
one may have more folders.  Making folders keeps the files of a tree, also if it stops on the way, and so does
a file that comes and goes.  Moving the written report into place is the one step that changes a file, and
after it nothing can go wrong.
-/

/-! ### Trees with the same files -/

/-- All folders of a tree are also in another one, and the two have the same files and links but perhaps at some
places. -/
structure SameFiles (changed : List Place) (first second : FileTree) : Prop where
  current : second.current = first.current
  folders : ∀ {place : Place}, IsFolderAt first.top place → IsFolderAt second.top place
  files : ∀ {place : Place} {node : Node}, place ∉ changed → node.isFolder = false →
    (second.top.find? place = some node ↔ first.top.find? place = some node)

theorem SameFiles.refl (tree : FileTree) : SameFiles [] tree tree := ⟨rfl, id, fun _ _ => Iff.rfl⟩

theorem SameFiles.trans {changed : List Place} {first second third : FileTree} (same : SameFiles [] first second)
    (same' : SameFiles changed second third) : SameFiles changed first third where
  current := same'.current.trans same.current
  folders folder := same'.folders (same.folders folder)
  files apart plain := (same'.files apart plain).trans (same.files List.not_mem_nil plain)

theorem SameFiles.currentFolder {first second : FileTree} (same : SameFiles [] first second)
    (current : IsFolderAt first.top first.current) : IsFolderAt second.top second.current := by
  rw [same.current]
  exact same.folders current

section AgreeBut

variable {first second : FileTree} {place : Place} (agree : AgreeBut place second.top first.top)
  (sameCurrent : second.current = first.current)

include agree sameCurrent

/-- A change at one place at which no folder was changes no file elsewhere. -/
theorem sameFiles_of_agreeBut (noFolder : ¬ IsFolderAt first.top place) : SameFiles [place] first second where
  current := sameCurrent
  folders folder := agree.symm.isFolderAt (fun same => noFolder (same ▸ folder)) folder
  files elsewhere plain := by
    have apart := List.ne_of_not_mem_cons elsewhere
    exact ⟨agree.find?_eq_some apart plain, agree.symm.find?_eq_some apart plain⟩

/-- A change at one place changes no file at all if nothing was there and nothing or a folder is there. -/
theorem sameFiles_of_vacant (vacant : first.top.find? place = none)
    (noFile : ∀ node, second.top.find? place = some node → node.isFolder = true) :
    SameFiles [] first second := by
  have noFolder : ¬ IsFolderAt first.top place := by
    rintro ⟨inner, found⟩
    cases vacant.symm.trans found
  have elsewhere := sameFiles_of_agreeBut agree sameCurrent noFolder
  refine ⟨sameCurrent, elsewhere.folders, ?_⟩
  intro other node _ plain
  by_cases same : other = place
  · subst same
    constructor
    · intro found
      cases (noFile node found).symm.trans plain
    · intro found
      cases vacant.symm.trans found
  · exact elsewhere.files (fun member => same (List.mem_singleton.mp member)) plain

end AgreeBut

/-! ### Making folders -/

/-- Making a folder changes no file. -/
theorem sameFiles_makeFolder {tree made : FileTree} (current : IsFolderAt tree.top tree.current) {path : String}
    (makes : tree.makeFolder path = .ok made) : SameFiles [] tree made := by
  rcases makeFolder_cases current makes with ⟨rfl, -⟩ | ⟨place, rfl, -, ends⟩
  · exact .refl made
  · obtain ⟨made, isFolder⟩ := ends.isFolderAt_putAt
    obtain ⟨⟨folder, name, rfl, inner, found⟩, nothing, -⟩ := ends
    refine sameFiles_of_vacant (agreeBut_put_empty found nothing) rfl nothing ?_
    intro node isNode
    obtain rfl := Option.some.inj (isFolder.symm.trans isNode)
    rfl

/-- Making folders one after another changes no file, however far it gets. -/
theorem sameFiles_makeEach {tree : FileTree} (current : IsFolderAt tree.top tree.current) (paths : List String) :
    SameFiles [] tree (makeEach tree paths).2 := by
  induction paths generalizing tree with
  | nil => exact .refl tree
  | cons path paths ih =>
    rw [makeEach]
    cases makes : tree.makeFolder path with
    | error fault => exact .refl tree
    | ok made =>
      have same := sameFiles_makeFolder current makes
      exact same.trans (ih (same.currentFolder current))

/-! ### Saving -/

theorem Ready.sameFiles_passing {tree : FileTree} {root : String} {folder : Place} {number : UInt32}
    (ready : Ready tree root folder number) (content : Content) :
    SameFiles [] tree (tree.passing folder number content) := by
  refine sameFiles_of_vacant (fun other _ => ready.outline_passing content other) rfl ready.vacant ?_
  intro node found
  rw [ready.find?_passing, ready.vacant] at found
  cases found

/-- The place of a destination, whether something is there or not. -/
def Destination.place : Destination → Place
  | .existing place _ => place
  | .vacant place => place

section Installed

variable {tree saved : FileTree} {root : String} {bytes : Bytes} {folder : Place}
  (installs : Installs tree root bytes saved folder)

include installs

/-- The path of the report led to the place at which the report is put. -/
theorem Installs.exists_destination : ∃ destination,
    tree.resolve false (reportPath root) = .ok destination ∧ destination.place = folder ++ ["report.json"] := by
  obtain ⟨links, resolves⟩ := installs.leads.resolve_report installs.followable false
  rw [resolves, follow_report]
  cases tree.top.find? (folder ++ ["report.json"]) with
  | none => exact ⟨_, rfl, rfl⟩
  | some node => exact ⟨_, rfl, rfl⟩

theorem Installs.sameFiles : SameFiles [folder ++ ["report.json"]] tree saved :=
  sameFiles_of_agreeBut installs.agreeBut_saved installs.sameCurrent installs.noFolder

end Installed

/-- Saving is all or nothing.  If it fails, whatever the reason, the tree has the same files and links as
before, and at most more folders.  If it succeeds, exactly the bytes of the report are at the place to which
the report's path led when its folder had been made, and all other files and links are as before.  The path
leads there afterwards exactly if the work folder is reached also without what was at that place before, which
is so unless a link was there. -/
theorem saved_whole_or_not_at_all {circumstances : Circumstances} {tree after : FileTree}
    (current : IsFolderAt tree.top tree.current) {root : String} {report : Option Report}
    {result : Except Fault Unit} (saves : saveReportUnder circumstances tree root report = (result, after)) :
    (∀ fault, result = .error fault → SameFiles [] tree after) ∧
    (result = .ok () → ∃ bytes destination,
      encodeReport report = .ok bytes ∧
      (tree.makeFolders (workPath root)).2.resolve false (reportPath root) = .ok destination ∧
      after.top.find? destination.place = some (.file (.bytes bytes)) ∧
      SameFiles [destination.place] tree after ∧
      (after.resolve true (reportPath root) = .ok (.existing destination.place (.file (.bytes bytes))) ↔
        ReachedApart (tree.makeFolders (workPath root)).2 root) ∧
      ((∀ target, (tree.makeFolders (workPath root)).2.status false (reportPath root) ≠ .ok (.link target)) →
        ReachedApart (tree.makeFolders (workPath root)).2 root)) := by
  have prepared : SameFiles [] tree (tree.makeFolders (workPath root)).2 := sameFiles_makeEach current _
  constructor
  · rintro fault rfl
    rcases saveReportUnder_cases saves with ⟨_, -, rfl⟩ | ⟨folder, number, -, ready, ⟨_, content, -, rfl⟩ | saved⟩
    · exact prepared
    · exact prepared.trans (ready.sameFiles_passing content)
    · obtain ⟨bytes, succeeded, -⟩ := saved
      exact nomatch succeeded
  · rintro rfl
    obtain ⟨bytes, folder, encodes, installs⟩ := exists_installs_of_saveReport saves
    obtain ⟨destination, resolves, isPlace⟩ := installs.exists_destination
    refine ⟨bytes, destination, encodes, resolves, ?_, ?_, ?_, installs.reachedApart_of_no_link⟩
    · rw [isPlace]
      exact installs.find?_saved
    · rw [isPlace]
      exact prepared.trans installs.sameFiles
    · rw [isPlace, installs.reachedApart_iff]
      exact ⟨installs.leads_of_resolve_saved, installs.resolve_saved⟩

/-- A work folder in which a file has the first name that is drawn, and a link is at the report's place. -/
def crowded : FileTree where
  top := .cons "elsewhere" (.file (.bytes [1]))
    (.cons "p" (.folder (.cons ".cqa" (.folder (.cons "report.json" (.link "/elsewhere")
      (.cons "report.json.0" (.file (.bytes [2])) .nil))) .nil)) .nil)
  current := []

/-- Numbers are drawn in their order. -/
def drawingInOrder (mishap : Option Mishap) : Circumstances := ⟨fun drawn => UInt32.ofNat drawn, mishap⟩

theorem saved_whole_or_not_at_all_when_crowded :
    IsFolderAt crowded.top crowded.current ∧
    (let full := drawingInOrder (some (.notWritten 5 "no space left on device"))
     (saveReportUnder full crowded "p" (some sampleReport)).1 =
        .error (.within "encode report" (failing "write" "p/.cqa/report.json.1" "no space left on device")) ∧
      SameFiles [] crowded (saveReportUnder full crowded "p" (some sampleReport)).2) ∧
    (let going := drawingInOrder none
     (saveReportUnder going crowded "p" (some sampleReport)).1 = .ok () ∧
      SameFiles [["p", ".cqa", "report.json"]] crowded (saveReportUnder going crowded "p" (some sampleReport)).2 ∧
      ∃ bytes, encodeReport (some sampleReport) = .ok bytes ∧
        (saveReportUnder going crowded "p" (some sampleReport)).2.resolve true (reportPath "p") =
          .ok (.existing ["p", ".cqa", "report.json"] (.file (.bytes bytes)))) := by
  have current : IsFolderAt crowded.top crowded.current := ⟨_, rfl⟩
  have fails : (saveReportUnder (drawingInOrder (some (.notWritten 5 "no space left on device"))) crowded "p"
      (some sampleReport)).1 =
        .error (.within "encode report" (failing "write" "p/.cqa/report.json.1" "no space left on device")) := by
    decide +kernel
  have succeeds : (saveReportUnder (drawingInOrder none) crowded "p" (some sampleReport)).1 = .ok () := by
    decide +kernel
  have led : (crowded.makeFolders (workPath "p")).2.resolve false (reportPath "p") =
      .ok (.existing ["p", ".cqa", "report.json"] (.link "/elsewhere")) := by rfl
  have reached : ReachedApart (crowded.makeFolders (workPath "p")).2 "p" := by decide +kernel
  refine ⟨current, ⟨fails, ?_⟩, succeeds, ?_⟩
  · exact (saved_whole_or_not_at_all current (Prod.eta _).symm).1 _ fails
  · obtain ⟨bytes, destination, encodes, resolves, -, same, leads, -⟩ :=
      (saved_whole_or_not_at_all current (Prod.eta _).symm).2 succeeds
    obtain rfl := Except.ok.inj (led.symm.trans resolves)
    exact ⟨same, bytes, encodes, leads.mpr reached⟩

/-- Where saving replaces a link on the way to the root, no file is at the path of the report afterwards. -/
theorem saved_but_not_at_its_path :
    IsFolderAt rootThroughReport.top rootThroughReport.current ∧
    (saveReport rootThroughReport "l" (some default)).1 = .ok () ∧
    ¬ ∃ content, (saveReport rootThroughReport "l" (some default)).2.status true (reportPath "l") =
      .ok (.file content) := by
  refine ⟨⟨_, rfl⟩, by decide +kernel, ?_⟩
  rintro ⟨content, isFile⟩
  have fails : ((saveReport rootThroughReport "l" (some default)).2.status true (reportPath "l")).isOk = false := by
    decide +kernel
  rw [isFile] at fails
  exact nomatch fails

end CodeGauge.FileTree
