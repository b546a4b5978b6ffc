/-
Module: CodeGauge.Proofs.FileTree.Confined
Purpose: What is done in one folder leaves everything else as it was, the steps of opening and closing a
  database in it among others.
Main exports:
  FileTree.Confined, FileTree.Confined.keeps, FileTree.ConfinedWith, FileTree.Attempt.Confines,
  FileTree.confines_openAt, FileTree.confines_close
-/
import CodeGauge.Proofs.FileTree.Database
import CodeGauge.Proofs.FileTree.Direct

namespace CodeGauge.FileTree

open CodeGauge.Text Entries

/-!
What is done in the work folder leaves a tree that differs from the one of the beginning only in what this
folder has in it, and there neither in its folders nor by a link.  Each single step keeps that, so each
sequence of steps does, whether it ends well or not.
-/

/-! ### Another folder at one place -/

namespace Entries

/-- Changing a name in a folder is putting another folder into its place. -/
theorem put_concat {top inner : Entries} {place : Place} (below : place ≠ [])
    (found : top.find? place = some (.folder inner)) (name : String) (node : Node) :
    top.put node (place ++ [name]) = top.put (.folder (inner.set name node)) place := by
  induction place generalizing top with
  | nil => exact absurd rfl below
  | cons first place ih =>
    obtain ⟨middle, isMiddle, found⟩ := find?_cons_folder.mp found
    have isFolder : top.folder first = middle := by rw [folder, isMiddle]
    cases place with
    | nil =>
      obtain rfl := Node.folder.inj (Option.some.inj found)
      simp only [List.cons_append, List.nil_append, put, isFolder]
    | cons second place =>
      have deeper := ih (List.cons_ne_nil second place) found
      simp only [List.cons_append, put, isFolder] at deeper ⊢
      rw [deeper]

theorem remove_concat {top inner : Entries} {place : Place} (below : place ≠ [])
    (found : top.find? place = some (.folder inner)) (name : String) :
    top.remove (place ++ [name]) = top.put (.folder (inner.erase name)) place := by
  induction place generalizing top with
  | nil => exact absurd rfl below
  | cons first place ih =>
    obtain ⟨middle, isMiddle, found⟩ := find?_cons_folder.mp found
    have isFolder : top.folder first = middle := by rw [folder, isMiddle]
    cases place with
    | nil =>
      obtain rfl := Node.folder.inj (Option.some.inj found)
      simp only [List.cons_append, List.nil_append, remove, put, isMiddle]
    | cons second place =>
      have deeper := ih (List.cons_ne_nil second place) found
      simp only [List.cons_append, remove, put, isMiddle, isFolder] at deeper ⊢
      rw [deeper]

/-- Putting a node at a place leaves all places as they are that are not below it, but for the entries of
the folders above. -/
theorem outline_find?_put {top : Entries} {above other : Place} {name : String} (folder : IsFolderAt top above)
    (apart : ¬ above ++ [name] <+: other) (node : Node) :
    ((top.put node (above ++ [name])).find? other).map Node.outline = (top.find? other).map Node.outline := by
  obtain ⟨inner, found⟩ := folder
  rw [put_eq_updateAt found]
  by_cases below : above <+: other
  · obtain ⟨rest, rfl⟩ := below
    rw [find?_append (find?_updateAt found _), find?_append found]
    cases rest with
    | nil => rfl
    | cons first rest =>
      have other : first ≠ name := by
        rintro rfl
        exact apart ⟨rest, by simp⟩
      rw [find?, find?, get?_set_of_ne other]
  · exact outline_find?_updateAt below _ top

end Entries

/-! ### Trees that differ in one folder -/

/-- The names of the files that stay in the work folder: the report, the database and its companions. -/
def workNames : List String :=
  ["report.json", "history.db", "history.db-journal", "history.db-wal", "history.db-shm"]

/-- A tree is another one but for what is in the folder of a place: no link is in it, its folders are the
same, and so are its files but those that stay. -/
structure Confined (before : FileTree) (place : Place) (after : FileTree) : Prop where
  elsewhere : after = before ∨ ∃ inside, after = before.putAt place (.folder inside)
  noLink : ∀ name target, after.top.find? (place ++ [name]) ≠ some (.link target)
  sameFolders : ∀ name inside, after.top.find? (place ++ [name]) = some (.folder inside) ↔
    before.top.find? (place ++ [name]) = some (.folder inside)
  others : ∀ name ∉ workNames, after.top.find? (place ++ [name]) = before.top.find? (place ++ [name])

/-- Such a tree in which the folder is there. -/
structure ConfinedWith (before : FileTree) (place : Place) (after : FileTree) : Prop
    extends Confined before place after where
  folder : IsFolderAt after.top place

namespace Confined

variable {before after : FileTree} {above : Place} {work : String}

theorem refl {place : Place} (noLink : ∀ name target, before.top.find? (place ++ [name]) ≠ some (.link target)) :
    Confined before place before :=
  ⟨Or.inl rfl, noLink, fun _ _ => Iff.rfl, fun _ _ => rfl⟩

/-- Another content of the folder replaces the one that it has. -/
theorem putAt_eq {place : Place} (confined : Confined before place after) (node : Node) :
    after.putAt place node = before.putAt place node := by
  rcases confined.elsewhere with rfl | ⟨inside, rfl⟩
  · rfl
  · rw [putAt, putAt, putAt, put_put]

variable (folder : IsFolderAt before.top above) (confined : Confined before (above ++ [work]) after)

include folder confined

/-- A place that is not below the folder has in both trees the same file or link, or is a folder of both. -/
theorem outline_find? {other : Place} (apart : ¬ above ++ [work] <+: other) :
    (after.top.find? other).map Node.outline = (before.top.find? other).map Node.outline := by
  rcases confined.elsewhere with rfl | ⟨inside, rfl⟩
  · rfl
  · exact outline_find?_put folder apart _

omit folder in
/-- What is below a folder in the folder is the same in both trees. -/
theorem find?_below (name : String) {below : Place} {node : Node} (deep : below ≠ [])
    (found : before.top.find? (above ++ [work] ++ name :: below) = some node) :
    after.top.find? (above ++ [work] ++ name :: below) = some node := by
  have isSplit : above ++ [work] ++ name :: below = above ++ [work] ++ [name] ++ below := by simp
  rw [isSplit] at found ⊢
  obtain ⟨inside, isFolder⟩ := exists_folder_above deep found
  rw [find?_append isFolder] at found
  rw [find?_append ((confined.sameFolders name inside).mpr isFolder), found]

theorem folder_of_before (isWork : IsFolderAt before.top (above ++ [work])) :
    IsFolderAt after.top (above ++ [work]) := by
  rcases confined.elsewhere with rfl | ⟨inside, rfl⟩
  · exact isWork
  · obtain ⟨inner, found⟩ := folder
    exact ⟨inside, find?_put_self found _⟩

/-- The folders and links of the beginning are all there, if the place of the folder was free for one. -/
theorem keeps (noLink : ∀ name target, before.top.find? (above ++ [work] ++ [name]) ≠ some (.link target))
    (free : before.top.find? (above ++ [work]) = none ∨ IsFolderAt before.top (above ++ [work])) :
    Keeps before after where
  current := by rcases confined.elsewhere with rfl | ⟨inside, rfl⟩ <;> rfl
  folders := by
    rintro place ⟨inside, found⟩
    by_cases below : above ++ [work] <+: place
    · obtain ⟨rest, rfl⟩ := below
      rcases rest with _ | ⟨name, _ | ⟨next, rest⟩⟩
      · rw [List.append_nil] at found ⊢
        exact confined.folder_of_before folder ⟨inside, found⟩
      · exact ⟨inside, (confined.sameFolders name inside).mpr found⟩
      · exact ⟨inside, confined.find?_below name (List.cons_ne_nil next rest) found⟩
    · have same := confined.outline_find? folder below
      rw [found] at same
      obtain ⟨node, isNode, isFolder⟩ := Option.map_eq_some_iff.mp same
      cases node with
      | folder inner => exact ⟨inner, isNode⟩
      | file content => exact nomatch isFolder
      | link target => exact nomatch isFolder
  links := by
    intro place target found
    by_cases below : above ++ [work] <+: place
    · obtain ⟨rest, rfl⟩ := below
      rcases rest with _ | ⟨name, _ | ⟨next, rest⟩⟩
      · rw [List.append_nil] at found
        rcases free with nothing | ⟨inner, isWork⟩
        · exact nomatch found.symm.trans nothing
        · exact nomatch found.symm.trans isWork
      · exact absurd found (noLink name target)
      · exact confined.find?_below name (List.cons_ne_nil next rest) found
    · have same := confined.outline_find? folder below
      rw [found] at same
      obtain ⟨node, isNode, isLink⟩ := Option.map_eq_some_iff.mp same
      cases node with
      | folder inner => exact nomatch isLink
      | file content => exact nomatch isLink
      | link other => exact isNode.trans (congrArg some isLink)

/-- Where there was no folder, making one without entries changes nothing else. -/
theorem putAt_empty (nothing : before.top.find? (above ++ [work]) = none) :
    ConfinedWith before (above ++ [work]) (after.putAt (above ++ [work]) (.folder .nil)) := by
  obtain ⟨inner, found⟩ := folder
  rw [confined.putAt_eq]
  have isWork : (before.putAt (above ++ [work]) (.folder .nil)).top.find? (above ++ [work]) =
      some (.folder .nil) := find?_put_self found _
  have bare : ∀ name, (before.putAt (above ++ [work]) (.folder .nil)).top.find? (above ++ [work] ++ [name]) =
      none := fun name => find?_append isWork [name]
  have bareBefore : ∀ name, before.top.find? (above ++ [work] ++ [name]) = none := by
    intro name
    by_contra something
    obtain ⟨node, isNode⟩ := Option.ne_none_iff_exists'.mp something
    obtain ⟨_, isWork⟩ := exists_folder_above (List.cons_ne_nil name []) isNode
    exact nomatch isWork.symm.trans nothing
  refine ⟨⟨Or.inr ⟨.nil, rfl⟩, ?_, ?_, ?_⟩, .nil, isWork⟩
  · intro name target
    rw [bare]
    exact nofun
  · intro name inside
    rw [bare, bareBefore]
  · intro name _
    rw [bare, bareBefore]

end Confined

/-! ### Steps in the folder -/

namespace ConfinedWith

variable {before after : FileTree} {place : Place} (confined : ConfinedWith before place after)
  (below : place ≠ []) {name : String} (stays : name ∈ workNames)

include confined below stays

/-- Writing a file where no folder was. -/
theorem store (plain : ¬ IsFolderAt before.top (place ++ [name])) (content : Content) :
    ConfinedWith before place (after.putAt (place ++ [name]) (.file content)) := by
  obtain ⟨inner, found⟩ := confined.folder
  have others := @find?_putAt after place name confined.folder (.file content)
  refine ⟨⟨Or.inr ⟨inner.set name (.file content), ?_⟩, ?_, ?_, ?_⟩, ?_⟩
  · rw [putAt, put_concat below found]
    exact confined.putAt_eq _
  · intro other target
    rw [others]
    split
    · intro isLink
      cases isLink
    · exact confined.noLink other target
  · intro other inside
    rw [others, ← confined.sameFolders]
    split
    · next same =>
      subst same
      constructor
      · intro isFile
        cases isFile
      · intro isFolder
        exact absurd ⟨inside, (confined.sameFolders other inside).mp isFolder⟩ plain
    · rfl
  · intro other passes
    have apart : other ≠ name := (ne_of_mem_of_not_mem stays passes).symm
    rw [others, if_neg apart, confined.others other passes]
  · rw [putAt, put_eq_updateAt found]
    exact ⟨_, find?_updateAt found _⟩

/-- Removing what is no folder. -/
theorem unlink : ConfinedWith before place (after.unlink (place ++ [name])) := by
  rw [FileTree.unlink]
  split
  · exact confined
  next apart =>
  have plain : ∀ inside, after.top.find? (place ++ [name]) ≠ some (.folder inside) := by
    intro inside isFolder
    rw [standing, isFolder] at apart
    exact apart rfl
  obtain ⟨inner, found⟩ := confined.folder
  have others := @find?_remove after place name confined.folder
  refine ⟨⟨Or.inr ⟨inner.erase name, ?_⟩, ?_, ?_, ?_⟩, ?_⟩
  · rw [remove_concat below found]
    exact confined.putAt_eq _
  · intro other target
    rw [others]
    split
    · intro isLink
      cases isLink
    · exact confined.noLink other target
  · intro other inside
    rw [others, ← confined.sameFolders]
    split
    · next same =>
      subst same
      constructor
      · intro removed
        cases removed
      · intro isFolder
        exact absurd isFolder (plain inside)
    · rfl
  · intro other passes
    have apart : other ≠ name := (ne_of_mem_of_not_mem stays passes).symm
    rw [others, if_neg apart, confined.others other passes]
  · rw [remove_eq_updateAt found]
    exact ⟨_, find?_updateAt found _⟩

end ConfinedWith

/-! ### Attempts -/

/-- An attempt changes nothing but the folder, however it ends, and gives only good values. -/
def Attempt.Confines {α : Type} (before : FileTree) (place : Place) (attempt : Attempt α) (good : α → Prop) :
    Prop :=
  ∀ tree, ConfinedWith before place tree →
    ConfinedWith before place (attempt.on tree).2 ∧ ∀ value, (attempt.on tree).1 = .ok value → good value

namespace Attempt.Confines

variable {α β : Type} {before : FileTree} {place : Place}

theorem pure {good : α → Prop} {value : α} (isGood : good value) :
    Confines before place (Pure.pure value) good := by
  intro tree confined
  rw [on_pure]
  exact ⟨confined, fun other same => Except.ok.inj same ▸ isGood⟩

theorem throw {good : α → Prop} (obstacle : Database.Obstacle) :
    Confines before place (MonadExcept.throw obstacle) good := by
  intro tree confined
  exact ⟨confined, fun value succeeds => nomatch succeeds⟩

theorem bind {good : α → Prop} {good' : β → Prop} {attempt : Attempt α} {next : α → Attempt β}
    (first : Confines before place attempt good)
    (second : ∀ value, good value → Confines before place (next value) good') :
    Confines before place (attempt >>= next) good' := by
  intro tree confined
  rw [on_bind]
  obtain ⟨confined', isGood⟩ := first tree confined
  cases found : attempt.on tree with
  | mk result after =>
    rw [found] at confined' isGood
    cases result with
    | error obstacle => exact ⟨confined', fun value succeeds => nomatch succeeds⟩
    | ok value => exact second value (isGood value rfl) after confined'

theorem weaken {good good' : α → Prop} {attempt : Attempt α} (confines : Confines before place attempt good)
    (implies : ∀ value, good value → good' value) : Confines before place attempt good' := by
  intro tree confined
  obtain ⟨confined', isGood⟩ := confines tree confined
  exact ⟨confined', fun value succeeds => implies value (isGood value succeeds)⟩

theorem liftM {good : α → Prop} {result : Except Database.Obstacle α}
    (isGood : ∀ value, result = .ok value → good value) :
    Confines before place (MonadLiftT.monadLift result) good := by
  intro tree confined
  have lifted := on_liftM result tree
  rw [lifted]
  exact ⟨confined, isGood⟩

/-- Looking at the whole tree. -/
theorem get {good : α → Prop} {next : FileTree → Attempt α}
    (rest : ∀ tree, ConfinedWith before place tree → Confines before place (next tree) good) :
    Confines before place (MonadState.get >>= next) good := by
  intro tree confined
  rw [on_bind, on_get]
  exact rest tree confined tree confined

theorem ite {good : α → Prop} {condition : Prop} [Decidable condition] {one other : Attempt α}
    (yes : condition → Confines before place one good) (no : ¬ condition → Confines before place other good) :
    Confines before place (if condition then one else other) good := by
  split
  · next holds => exact yes holds
  · next fails => exact no fails

/-- A step that is taken only sometimes, and what is done in any case. -/
theorem sometimes {good : α → Prop} {condition : Prop} [Decidable condition] {step : Attempt Unit}
    {next : Unit → Attempt α} (taken : condition → Confines before place step (fun _ => True))
    (rest : Confines before place (next ()) good) :
    Confines before place (if condition then step >>= next else next ()) good :=
  .ite (fun holds => .bind (taken holds) fun _ _ => rest) fun _ => rest

/-- Looking at a companion: if nothing is there, no folder was there. -/
theorem companion {database : Place} {which : Companion} {name : String}
    (isPlace : which.place database = place ++ [name]) :
    Confines before place (FileTree.companion database which)
      (fun standing => standing = .nothing → ¬ IsFolderAt before.top (place ++ [name])) := by
  intro tree confined
  rw [on_companion, isPlace]
  refine ⟨confined, fun value isValue isNothing => ?_⟩
  obtain rfl := Except.ok.inj isValue
  rintro ⟨inside, isFolder⟩
  rw [standing, (confined.sameFolders name inside).mpr isFolder] at isNothing
  cases isNothing

variable (below : place ≠ [])

include below

theorem discard {database : Place} {which : Companion} {name : String} (stays : name ∈ workNames)
    (isPlace : which.place database = place ++ [name]) :
    Confines before place (FileTree.discard database which) (fun _ => True) := by
  intro tree confined
  rw [on_discard, isPlace]
  exact ⟨confined.unlink below stays, fun _ _ => trivial⟩

theorem store {name : String} (stays : name ∈ workNames) (plain : ¬ IsFolderAt before.top (place ++ [name]))
    (content : Content) : Confines before place (FileTree.store (place ++ [name]) content) (fun _ => True) := by
  intro tree confined
  rw [on_store]
  exact ⟨confined.store below stays plain content, fun _ _ => trivial⟩

end Attempt.Confines

/-! ### Opening and closing the database -/

section Opening

open Attempt

variable {before : FileTree} {place : Place} (below : place ≠ [])

include below

theorem confines_clear : Confines before place (clear (place ++ ["history.db"])) (fun _ => True) := by
  refine .bind (.companion (journal_place place)) fun journal _ => ?_
  refine .sometimes (fun _ => .discard below (by decide) (journal_place place)) ?_
  refine .bind (.companion (log_place place)) fun log _ => ?_
  refine .ite (fun _ => .throw _) fun _ => ?_
  exact .ite (fun _ => .discard below (by decide) (log_place place)) fun _ => .pure trivial

theorem confines_writeFirst (plain : ¬ IsFolderAt before.top (place ++ ["history.db"])) :
    Confines before place (writeFirst (place ++ ["history.db"])) (fun _ => True) := by
  refine .bind (.companion (journal_place place)) fun journal _ => ?_
  refine .ite (fun _ => ?_) fun _ => .throw _
  exact .bind (.discard below (by decide) (journal_place place)) fun _ _ => .store below (by decide) plain .blank

theorem confines_undo : Confines before place (undo (place ++ ["history.db"])) (fun _ => True) := by
  refine .bind (.companion (journal_place place)) fun journal _ => ?_
  split
  · exact .throw _
  · exact .throw _
  · exact .ite (fun _ => .discard below (by decide) (journal_place place)) fun _ => .pure trivial
  · exact .pure trivial

theorem confines_openLog : Confines before place (openLog (place ++ ["history.db"])) (fun _ => True) := by
  refine .bind (.companion (log_place place)) fun log vacant => ?_
  refine .ite (fun _ => ?_) fun _ => .throw _
  have storesLog : log = .nothing → Confines before place
      (store (Companion.log.place (place ++ ["history.db"])) (.bytes [])) (fun _ => True) := fun isNothing => by
    rw [log_place]
    exact .store below (by decide) (vacant isNothing) _
  refine .sometimes storesLog ?_
  refine .bind (.companion (index_place place)) fun index _ => ?_
  split
  · exact .pure trivial
  · exact .throw _
  · exact .pure trivial

theorem confines_closeLog : Confines before place (closeLog (place ++ ["history.db"])) (fun _ => True) :=
  .bind (.discard below (by decide) (log_place place)) fun _ _ => .discard below (by decide) (index_place place)

omit below in
theorem confines_withHistory (isReadOnly : Bool) (history : Option Ledger) :
    Confines before place (withHistory isReadOnly history) (fun _ => True) := by
  cases history with
  | some history => exact .pure trivial
  | none => exact .ite (fun _ => .throw _) fun _ => .pure trivial

/-- A database that is opened at a place is kept there. -/
theorem confines_openAt (plain : ¬ IsFolderAt before.top (place ++ ["history.db"])) (stored : Stored) :
    Confines before place (openAt (place ++ ["history.db"]) stored)
      (fun connection => connection.place = some (place ++ ["history.db"])) := by
  cases stored with
  | fresh =>
    refine .bind (confines_clear below) fun _ _ => ?_
    refine .bind (confines_writeFirst below plain) fun _ _ => ?_
    refine .bind (confines_openLog below) fun isReadOnly _ => ?_
    exact .bind (confines_withHistory isReadOnly none) fun _ _ => .pure rfl
  | junk =>
    refine .bind (confines_undo below) fun _ _ => ?_
    refine .bind (.companion (log_place place)) fun log _ => ?_
    refine .ite (fun _ => ?_) fun _ => .throw _
    refine .bind (confines_openLog below) fun isReadOnly _ => ?_
    exact .sometimes (fun _ => confines_closeLog below) (.throw _)
  | database history =>
    refine .bind (confines_undo below) fun _ _ => ?_
    refine .bind (confines_openLog below) fun isReadOnly _ => ?_
    exact .bind (confines_withHistory isReadOnly history) fun _ _ => .pure rfl

theorem confines_close (plain : ¬ IsFolderAt before.top (place ++ ["history.db"])) {connection : Connection}
    (isPlace : connection.place = some (place ++ ["history.db"])) :
    Confines before place connection.close (fun _ => True) := by
  rw [Connection.close, isPlace]
  refine .ite (fun _ => .pure trivial) fun _ => ?_
  exact .bind (.store below (by decide) plain _) fun _ _ => confines_closeLog below

end Opening

end CodeGauge.FileTree
