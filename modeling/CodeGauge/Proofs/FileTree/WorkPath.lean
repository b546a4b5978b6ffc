/-
Module: CodeGauge.Proofs.FileTree.WorkPath
Purpose: The paths of the files in the work folder of a root, and where they lead.
Main exports:
  FileTree.workFile, FileTree.workFile_eq, FileTree.Followable, FileTree.WorkLeads,
  FileTree.exists_workLeads, FileTree.WorkLeads.resolve
-/
import CodeGauge.FileTree.Storage
import CodeGauge.Proofs.FileTree.Resolve
import CodeGauge.Proofs.Path
import Mathlib.Data.List.Basic

namespace CodeGauge.FileTree

open CodeGauge.Text

/-!
The report and the run history of a root are files of its work folder.  Their paths are the path of the
folder with one more name, so a path to such a file leads to the folder first, and there to the name.
-/

/-! ### Paths -/

/-- The path of a file in the work folder of a root. -/
def workFile (root name : String) : String := Path.join [root, workFolder, name]

theorem plainName_workFolder : Path.PlainName workFolder.toList := ⟨by decide, by decide, by decide⟩

theorem isName_of_plainName {name : String} (plain : Path.PlainName name.toList) : IsName name where
  noPoint := by
    rintro (rfl | rfl)
    · exact plain.noPoint (Or.inl rfl)
    · exact plain.noPoint (Or.inr rfl)
  notUp := by
    rintro rfl
    exact plain.notUp rfl

/-- The path of the work folder is the shortest one of the root's path with the name of the folder. -/
theorem exists_workPath (root : String) : ∃ path above, path ≠ [] ∧
    Path.elements (String.ofList path) = above ++ [workFolder.toList] ∧
    workPath root = Path.clean (String.ofList path) ∧
    ∀ name, name ≠ "" → workFile root name = Path.clean (String.ofList (path ++ '/' :: name.toList)) := by
  by_cases empty : root = ""
  · subst empty
    refine ⟨workFolder.toList, [], by decide, by decide, by decide, fun name some => ?_⟩
    simp [workFile, Path.join, some, workFolder, Text.join]
  · have some : root.toList ≠ [] := by simpa using empty
    refine ⟨root.toList ++ '/' :: workFolder.toList, _, by simp,
      Path.elements_append_name plainName_workFolder some, ?_, fun name some => ?_⟩
    · simp [workPath, Path.join, empty, workFolder, Text.join]
    · simp [workFile, Path.join, empty, some, workFolder, Text.join]

theorem workFolder_mem_splitText (root : String) : workFolder ∈ splitText '/' (workPath root) := by
  obtain ⟨path, above, some, elements, isWork, -⟩ := exists_workPath root
  have last : split '/' workFolder.toList = [workFolder.toList] := split_of_not_mem (by decide)
  rw [splitText, isWork, Path.toList_clean elements (by decide), List.mem_map]
  refine ⟨workFolder.toList, ?_, String.ofList_toList⟩
  have behind : ∀ front, workFolder.toList ∈ split '/' (front ++ '/' :: workFolder.toList) := fun front => by
    rw [split_append_cons, last]
    exact List.mem_append_right _ List.mem_cons_self
  cases above with
  | nil =>
    split
    · exact behind []
    · exact last ▸ List.mem_cons_self
  | cons first above =>
    rw [join_append_singleton (List.cons_ne_nil first above), ← List.append_assoc]
    exact behind _

theorem workPath_ne_empty (root : String) : workPath root ≠ "" := by
  intro empty
  have member := workFolder_mem_splitText root
  rw [empty] at member
  exact absurd member (by decide)

section Names

variable {name : String} (plain : Path.PlainName name.toList) (root : String)

include plain

/-- A file of the work folder has the path of the folder with its name. -/
theorem workFile_eq : workFile root name = workPath root ++ "/" ++ name := by
  obtain ⟨path, above, some, elements, isWork, isFile⟩ := exists_workPath root
  have given : name ≠ "" := fun empty => plain.noPoint (Or.inl (by rw [empty]; rfl))
  rw [← String.toList_inj, String.toList_append, String.toList_append, isWork, isFile name given,
    Path.toList_clean ((Path.elements_append_name plain some).trans (by rw [elements]))
      (fun empty => plain.noPoint (Or.inl empty)),
    Path.isRooted_append some, Path.toList_clean elements (by decide), join_append_singleton (by simp)]
  simp

theorem splitText_workFile : splitText '/' (workFile root name) = splitText '/' (workPath root) ++ [name] := by
  have text : (workFile root name).toList = (workPath root).toList ++ '/' :: name.toList := by
    rw [workFile_eq plain, String.toList_append, String.toList_append]
    simp
  rw [splitText, splitText, text, split_append_cons, split_of_not_mem plain.noSlash, List.map_append,
    List.map_singleton, String.ofList_toList]

theorem isRooted_workFile : Path.isRooted (workFile root name) = Path.isRooted (workPath root) := by
  rw [Path.isRooted, Path.isRooted, workFile_eq plain, String.toList_append, String.toList_append,
    List.append_assoc, List.head?_append_of_ne_nil _ (by simpa using workPath_ne_empty root)]

end Names

/-! ### Following a path -/

/-- The folder from which a path is followed. -/
def start (tree : FileTree) (path : String) : Place := if Path.isRooted path then [] else tree.current

/-- A path has a text that can be followed. -/
structure Followable (path : String) : Prop where
  given : path.isEmpty = false
  isPath : path.toList.contains (Char.ofNat 0) = false
  short : ¬maxPath < path.utf8ByteSize

/-- What a path that can be followed begins with can be followed. -/
theorem Followable.of_append {front behind : String} (given : front ≠ "")
    (followable : Followable (front ++ behind)) : Followable front := by
  obtain ⟨-, isPath, short⟩ := followable
  refine ⟨by simpa using given, ?_, ?_⟩
  · simp only [String.toList_append, List.contains_eq_mem, List.mem_append, decide_eq_false_iff_not, not_or]
      at isPath ⊢
    exact isPath.1
  · rw [String.utf8ByteSize_append] at short
    omega

theorem resolve_eq_follow {path : String} (followable : Followable path) (tree : FileTree)
    (finalLink : Bool) :
    tree.resolve finalLink path
      = follow tree.top finalLink maxLinks (tree.start path) (splitText '/' path) := by
  rw [resolve, followable.given, followable.isPath, if_neg (by decide), if_neg (by decide),
    if_neg followable.short, start]

theorem followable_of_resolve {tree : FileTree} {finalLink : Bool} {path : String}
    {destination : Destination} (resolves : tree.resolve finalLink path = .ok destination) :
    Followable path := by
  rw [resolve] at resolves
  split at resolves
  · exact absurd resolves (by simp)
  split at resolves
  · exact absurd resolves (by simp)
  split at resolves
  · exact absurd resolves (by simp)
  next given isPath short => exact ⟨by simpa using given, by simpa using isPath, short⟩

/-- The path to the work folder of a root leads to a folder. -/
abbrev WorkLeads (tree : FileTree) (root : String) (folder : Place) : Prop :=
  Leads tree.top maxLinks (tree.start (workPath root)) (splitText '/' (workPath root)) folder

section Work

variable {root name : String} (plain : Path.PlainName name.toList) {tree : FileTree}

include plain

theorem followable_workPath (followable : Followable (workFile root name)) : Followable (workPath root) := by
  rw [workFile_eq plain, String.append_assoc] at followable
  exact followable.of_append (workPath_ne_empty root)

theorem start_workFile : tree.start (workFile root name) = tree.start (workPath root) := by
  rw [start, start, isRooted_workFile plain]

/-- Resolving the path of a file in the work folder goes through the folder. -/
theorem exists_workLeads {finalLink : Bool} {destination : Destination}
    (resolves : tree.resolve finalLink (workFile root name) = .ok destination) :
    ∃ folder, WorkLeads tree root folder := by
  rw [resolve_eq_follow (followable_of_resolve resolves), splitText_workFile plain, start_workFile plain]
    at resolves
  exact exists_leads resolves (Or.inr ⟨workFolder, workFolder_mem_splitText root,
    isName_of_plainName plainName_workFolder⟩) (Or.inl (by simp))

theorem WorkLeads.resolve {folder : Place} (leads : WorkLeads tree root folder)
    (followable : Followable (workFile root name)) (finalLink : Bool) :
    ∃ links, tree.resolve finalLink (workFile root name) = follow tree.top finalLink links folder [name] := by
  rw [resolve_eq_follow followable, splitText_workFile plain, start_workFile plain]
  exact leads.follow_append finalLink (by simp)

omit plain

/-- The path of the work folder has a folder at its end exactly if it leads to one. -/
theorem exists_status_eq_folder (followable : Followable (workPath root)) :
    (∃ entries, tree.status true (workPath root) = .ok (.folder entries)) ↔
      ∃ folder, WorkLeads tree root folder := by
  rw [status, resolve_eq_follow followable]
  constructor
  · rintro ⟨entries, isFolder⟩
    split at isFolder
    · next place node follows =>
      obtain rfl := Except.ok.inj isFolder
      rw [← List.append_nil (splitText '/' (workPath root))] at follows
      exact exists_leads follows (Or.inr ⟨workFolder, workFolder_mem_splitText root,
        isName_of_plainName plainName_workFolder⟩) (Or.inr ⟨rfl, place, entries, rfl⟩)
    · exact absurd isFolder (by simp)
    · exact absurd isFolder (by simp)
  · rintro ⟨folder, leads⟩
    obtain ⟨entries, follows⟩ := leads.follow
    exact ⟨entries, by rw [follows]⟩

end Work

/-- The last name of a path that leads there from its folder, where a link there is not followed. -/
theorem follow_lastName {name : String} (isName : IsName name) (short : ¬maxName < name.utf8ByteSize)
    (top : Entries) (links : Nat) (folder : Place) :
    follow top false links folder [name] =
      match top.find? (folder ++ [name]) with
      | none => .ok (.vacant (folder ++ [name]))
      | some node => .ok (.existing (folder ++ [name]) node) := by
  rw [follow_name isName short]
  cases found : top.find? (folder ++ [name]) with
  | none => rfl
  | some node =>
    cases node with
    | file content => rfl
    | link target => rfl
    | folder inner =>
      change follow top false links (folder ++ [name]) [] = _
      rw [follow_nil, found]

/-- The path of a file of the work folder leads to its name there. -/
theorem WorkLeads.resolve_name {name : String} (plain : Path.PlainName name.toList)
    (short : ¬maxName < name.utf8ByteSize) {tree : FileTree} {root : String} {folder : Place}
    (leads : WorkLeads tree root folder) (followable : Followable (workFile root name)) :
    tree.resolve false (workFile root name) =
      match tree.top.find? (folder ++ [name]) with
      | none => .ok (.vacant (folder ++ [name]))
      | some node => .ok (.existing (folder ++ [name]) node) := by
  obtain ⟨links, follows⟩ := leads.resolve plain followable false
  rw [follows]
  exact follow_lastName (isName_of_plainName plain) short tree.top links folder

theorem WorkLeads.of_agreeBut {first second : FileTree} {root : String} {changed folder : Place}
    (agree : Entries.AgreeBut changed first.top second.top) (sameCurrent : first.current = second.current)
    (noFolder : ¬IsFolderAt first.top changed)
    (noLink : ∀ target, first.top.find? changed ≠ some (.link target))
    (leads : WorkLeads first root folder) : WorkLeads second root folder := by
  have sameStart : first.start (workPath root) = second.start (workPath root) := by
    rw [start, start, sameCurrent]
  rw [WorkLeads, sameStart] at leads
  exact leads.of_agreeBut agree noFolder noLink

end CodeGauge.FileTree
