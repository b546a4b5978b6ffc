/-
Module: CodeGauge.Proofs.FileTree.Database
Purpose: What opening and closing a database do, where its name is a path and nothing is in the way.
Main exports:
  Database.IsPlain, Database.Source.ofName_of_isPlain, FileTree.Attempt.on_bind, FileTree.Desk,
  FileTree.Desk.connect_fresh, FileTree.Desk.connect_again, FileTree.Desk.close
-/
import CodeGauge.Proofs.FileTree.Folders
import CodeGauge.Proofs.Text.Utf8

namespace CodeGauge

open CodeGauge.Text

/-! ### Names that are paths -/

namespace Database

/-- A name that is a path and nothing else: no scheme is in front of it, and no question mark is behind its
first character. -/
structure IsPlain (name : String) : Prop where
  noScheme : ¬ "file:".toList <+: name.toList
  noOptions : '?' ∈ name.toList → name.toList.head? = some '?'

theorem isPrefixOf_scheme {name : String} (isScheme : scheme.isPrefixOf (Utf8.encode name) = true) :
    "file:".toList <+: name.toList := by
  obtain ⟨rest, isName⟩ := List.isPrefixOf_iff_prefix.mp isScheme
  have decoded : Utf8.decode (Utf8.encode name) = name.toList := Utf8.decode_flatMap_encodeChar _
  have front : ∀ cs : List Char, Utf8.decode (cs.flatMap Utf8.encodeChar ++ rest) = cs ++ Utf8.decode rest := by
    intro cs
    induction cs with
    | nil => rfl
    | cons c cs ih =>
      rw [List.flatMap_cons, List.append_assoc, Utf8.decode_encodeChar_append, ih, List.cons_append]
  exact ⟨Utf8.decode rest, by rw [← decoded, ← isName, scheme, Utf8.encode, front]⟩

theorem question_mem_encode {name : String} (member : ascii '?' ∈ Utf8.encode name) : '?' ∈ name.toList := by
  obtain ⟨c, isChar, spells⟩ := List.mem_flatMap.mp member
  obtain ⟨-, rfl⟩ := Utf8.encodeChar_of_mem_ascii spells (by decide)
  exact isChar

/-- A plain name is not cut: it has no options, and its path is the whole of it. -/
theorem cutAt_of_isPlain {name : String} (plain : IsPlain name) : ∃ front behind,
    cutAt '?' (Utf8.encode name) = (front, behind) ∧ (if front.isEmpty then [] else behind) = [] ∧
      (if front.isEmpty then Utf8.encode name else front) = Utf8.encode name := by
  by_cases member : ascii '?' ∈ Utf8.encode name
  · have first := plain.noOptions (question_mem_encode member)
    cases isName : name.toList with
    | nil =>
      rw [isName] at first
      exact nomatch first
    | cons c rest =>
      rw [isName] at first
      obtain rfl := Option.some.inj first
      have bytes : Utf8.encode name = ascii '?' :: rest.flatMap Utf8.encodeChar := by
        rw [Utf8.encode, isName]
        rfl
      exact ⟨[], _, by rw [cutAt, bytes]; rfl, rfl, rfl⟩
  · have all : ∀ byte ∈ Utf8.encode name, (byte != ascii '?') = true := by
      intro byte isByte
      rw [bne_iff_ne]
      exact fun same => member (same ▸ isByte)
    have front := @List.takeWhile_append_of_pos _ (· != ascii '?') _ [] all
    have behind := @List.dropWhile_append_of_pos _ (· != ascii '?') _ [] all
    rw [List.append_nil] at front behind
    exact ⟨Utf8.encode name, [], by simp [cutAt, front, behind], by simp, by simp⟩

/-- A plain name is the name of the file at its path, which is made if it is not there. -/
theorem Source.ofName_of_isPlain {name : String} (plain : IsPlain name) (given : name ≠ "")
    (noMemory : name ≠ ":memory:") : Source.ofName name = .ok ⟨Path.clean name, .anyFile, [], none⟩ := by
  have noScheme : scheme.isPrefixOf (Utf8.encode name) = false := by
    rw [← Bool.not_eq_true]
    exact fun isScheme => plain.noScheme (isPrefixOf_scheme isScheme)
  have isFile : pathAccess (Utf8.encode name) .anyFile = (Path.clean name, .anyFile) := by
    rw [pathAccess, Utf8.decodeText_encode, if_neg (not_or.mpr ⟨given, noMemory⟩)]
  have noQuery : Query.read [] = .ok [] := rfl
  have noDriver : driverOf [] = .ok [] := rfl
  have noMode : accessOf? [] = some .anyFile := rfl
  obtain ⟨front, behind, cut, text, path⟩ := cutAt_of_isPlain plain
  simp only [Source.ofName, cut, text, path, noScheme, noQuery, noDriver, noMode, if_false, bind, Except.bind,
    Bool.false_eq_true]
  rw [isFile]
  rfl

end Database

namespace FileTree

open Entries Database

theorem plainName_history : Path.PlainName "history.db".toList := ⟨by decide, by decide, by decide⟩

/-- A plain name of the run history of a root is the name of the file at its path. -/
theorem source_historyPath {root : String} (plain : IsPlain (historyPath root)) :
    Source.ofName (historyPath root) = .ok ⟨historyPath root, .anyFile, [], none⟩ := by
  have isFile : historyPath root = workPath root ++ "/" ++ "history.db" := workFile_eq plainName_history root
  have last : (historyPath root).toList.getLast? = some 'b' := by
    rw [isFile, String.toList_append, List.getLast?_append_of_ne_nil _ (by decide)]
    rfl
  have clean : Path.clean (historyPath root) = historyPath root := by
    obtain ⟨path, -, -, -, -, isClean⟩ := exists_workPath root
    rw [show historyPath root = workFile root "history.db" from rfl, isClean "history.db" (by decide),
      Path.clean_clean]
  rw [Source.ofName_of_isPlain plain, clean]
  · intro empty
    rw [empty] at last
    exact nomatch last
  · intro memory
    rw [memory] at last
    exact nomatch last

/-! ### Steps of an attempt -/

namespace Attempt

variable {α β : Type}

/-- A step, and what is done with its value in the tree that it leaves. -/
theorem on_bind (attempt : Attempt α) (next : α → Attempt β) (tree : FileTree) :
    (attempt >>= next).on tree =
      match attempt.on tree with
      | (.ok value, tree) => (next value).on tree
      | (.error obstacle, tree) => (.error obstacle, tree) := by
  change ExceptT.bindCont next (attempt tree).1 (attempt tree).2 =
    match attempt tree with
    | (.ok value, tree) => (next value).on tree
    | (.error obstacle, tree) => (.error obstacle, tree)
  rcases attempt tree with ⟨_ | _, _⟩ <;> rfl

theorem on_bind_of_ok {attempt : Attempt α} {next : α → Attempt β} {tree after : FileTree} {value : α}
    (succeeds : attempt.on tree = (.ok value, after)) :
    (attempt >>= next).on tree = (next value).on after := by
  rw [on_bind, succeeds]

theorem on_pure (value : α) (tree : FileTree) : (pure value : Attempt α).on tree = (.ok value, tree) := rfl

theorem on_liftM (result : Except Obstacle α) (tree : FileTree) :
    (liftM result : Attempt α).on tree = (result, tree) := by
  cases result <;> rfl

theorem on_get (tree : FileTree) : (get : Attempt FileTree).on tree = (.ok tree, tree) := rfl

theorem on_companion (place : Place) (which : Companion) (tree : FileTree) :
    (companion place which).on tree = (.ok (tree.standing (which.place place)), tree) := rfl

theorem on_discard (place : Place) (which : Companion) (tree : FileTree) :
    (discard place which).on tree = (.ok (), tree.unlink (which.place place)) := rfl

theorem on_store (place : Place) (content : Content) (tree : FileTree) :
    (store place content).on tree = (.ok (), tree.putAt place (.file content)) := rfl

end Attempt

/-! ### Names of one folder -/

section Folder

variable {tree : FileTree} {folder : Place} {name : String} (isFolder : IsFolderAt tree.top folder)

include isFolder

/-- Nothing or a file is at a name. -/
def IsBare (node : Option Node) : Prop := node = none ∨ ∃ content, node = some (.file content)

omit isFolder in
theorem not_isFolderAt_of_isBare {place : Place} (bare : IsBare (tree.top.find? place)) :
    ¬ IsFolderAt tree.top place := by
  rintro ⟨inner, found⟩
  rcases bare with none | ⟨content, some⟩
  · rw [none] at found
    exact nomatch found
  · rw [some] at found
    exact nomatch found

omit isFolder in
theorem no_link_of_isBare {place : Place} (bare : IsBare (tree.top.find? place)) (target : String) :
    tree.top.find? place ≠ some (.link target) := by
  intro found
  rcases bare with none | ⟨content, some⟩
  · rw [none] at found
    exact nomatch found
  · rw [some] at found
    exact nomatch found

theorem keeps_putAt (bare : IsBare (tree.top.find? (folder ++ [name]))) (content : Content) :
    Keeps tree (tree.putAt (folder ++ [name]) (.file content)) := by
  obtain ⟨inner, found⟩ := isFolder
  have noFolder := not_isFolderAt_of_isBare bare
  exact keeps_of_agreeBut (agreeBut_put found (fun below isFolder => noFolder ⟨below, isFolder⟩) _ (by simp))
    rfl noFolder (no_link_of_isBare bare)

omit isFolder in
theorem unlink_of_isBare {place : Place} (bare : IsBare (tree.top.find? place)) :
    tree.unlink place = { tree with top := tree.top.remove place } := by
  have notFolder : tree.standing place ≠ .folder := by
    rw [standing]
    rcases bare with none | ⟨content, some⟩
    · rw [none]
      exact nofun
    · rw [some]
      dsimp only [Standing.ofNode]
      cases content.first? <;> exact nofun
  rw [unlink, if_neg notFolder]

theorem keeps_unlink (bare : IsBare (tree.top.find? (folder ++ [name]))) :
    Keeps tree (tree.unlink (folder ++ [name])) := by
  obtain ⟨inner, found⟩ := isFolder
  have noFolder := not_isFolderAt_of_isBare bare
  rw [unlink_of_isBare bare]
  exact keeps_of_agreeBut (agreeBut_remove found fun below isFolder => noFolder ⟨below, isFolder⟩)
    rfl noFolder (no_link_of_isBare bare)

end Folder

/-! ### The folder of a database -/

/-- The folder in which a run history is kept, in a tree that keeps all folders and links of another one:
perhaps its file, perhaps its log, and neither a journal nor an index. -/
structure Desk (base : FileTree) (folder : Place) (file log : Option Content) (tree : FileTree) : Prop where
  keeps : Keeps base tree
  isFolder : IsFolderAt tree.top folder
  file : tree.top.find? (folder ++ ["history.db"]) = file.map .file
  journal : tree.top.find? (folder ++ ["history.db-journal"]) = none
  log : tree.top.find? (folder ++ ["history.db-wal"]) = log.map .file
  index : tree.top.find? (folder ++ ["history.db-shm"]) = none

theorem journal_place (folder : Place) :
    Companion.journal.place (folder ++ ["history.db"]) = folder ++ ["history.db-journal"] := by
  rw [Companion.place, List.dropLast_concat, List.getLastD_concat]
  rfl

theorem log_place (folder : Place) :
    Companion.log.place (folder ++ ["history.db"]) = folder ++ ["history.db-wal"] := by
  rw [Companion.place, List.dropLast_concat, List.getLastD_concat]
  rfl

theorem index_place (folder : Place) :
    Companion.index.place (folder ++ ["history.db"]) = folder ++ ["history.db-shm"] := by
  rw [Companion.place, List.dropLast_concat, List.getLastD_concat]
  rfl

theorem isBare_map (content : Option Content) : IsBare (content.map .file) := by
  cases content with
  | none => exact Or.inl rfl
  | some content => exact Or.inr ⟨content, rfl⟩

theorem standing_of_none {tree : FileTree} {place : Place} (nothing : tree.top.find? place = none) :
    tree.standing place = .nothing := by
  rw [standing, nothing]

namespace Desk

variable {base tree : FileTree} {folder : Place} {file log : Option Content}

theorem storeFile (desk : Desk base folder file log tree) (content : Content) :
    Desk base folder (some content) log (tree.putAt (folder ++ ["history.db"]) (.file content)) := by
  have keeps := keeps_putAt desk.isFolder (desk.file ▸ isBare_map file) content
  refine ⟨desk.keeps.trans keeps, keeps.folders desk.isFolder, ?_, ?_, ?_, ?_⟩
  · rw [find?_putAt desk.isFolder, if_pos rfl]
    rfl
  · rw [find?_putAt desk.isFolder, if_neg (by decide), desk.journal]
  · rw [find?_putAt desk.isFolder, if_neg (by decide), desk.log]
  · rw [find?_putAt desk.isFolder, if_neg (by decide), desk.index]

theorem storeLog (desk : Desk base folder file log tree) (content : Content) :
    Desk base folder file (some content) (tree.putAt (folder ++ ["history.db-wal"]) (.file content)) := by
  have keeps := keeps_putAt desk.isFolder (desk.log ▸ isBare_map log) content
  refine ⟨desk.keeps.trans keeps, keeps.folders desk.isFolder, ?_, ?_, ?_, ?_⟩
  · rw [find?_putAt desk.isFolder, if_neg (by decide), desk.file]
  · rw [find?_putAt desk.isFolder, if_neg (by decide), desk.journal]
  · rw [find?_putAt desk.isFolder, if_pos rfl]
    rfl
  · rw [find?_putAt desk.isFolder, if_neg (by decide), desk.index]

/-- Removing a companion leaves the file as it is, and the log unless it is the one. -/
theorem unlink (desk : Desk base folder file log tree) {name : String} (isCompanion : name ≠ "history.db")
    (bare : IsBare (tree.top.find? (folder ++ [name]))) :
    Desk base folder file (if name = "history.db-wal" then none else log)
      (tree.unlink (folder ++ [name])) := by
  have keeps := keeps_unlink desk.isFolder bare
  refine ⟨desk.keeps.trans keeps, keeps.folders desk.isFolder, ?_, ?_, ?_, ?_⟩
  all_goals rw [unlink_of_isBare bare, find?_remove desk.isFolder]
  · rw [if_neg isCompanion.symm, desk.file]
  · rw [desk.journal, ite_self]
  · split
    · next same => rw [if_pos same.symm]; rfl
    · next apart => rw [if_neg (Ne.symm apart), desk.log]
  · rw [desk.index, ite_self]

/-! ### Opening and closing -/

theorem openLog (desk : Desk base folder file none tree) : ∃ opened,
    (FileTree.openLog (folder ++ ["history.db"])).on tree = (.ok false, opened) ∧
      Desk base folder file (some (.bytes [])) opened := by
  have after := desk.storeLog (.bytes [])
  refine ⟨_, ?_, after⟩
  simp only [FileTree.openLog, Attempt.on_bind, Attempt.on_companion, log_place, index_place,
    standing_of_none desk.log, Standing.isWritable, if_true, Attempt.on_store, standing_of_none after.index,
    Attempt.on_pure]

theorem clear (desk : Desk base folder file none tree) :
    (FileTree.clear (folder ++ ["history.db"])).on tree = (.ok (), tree) := by
  simp only [FileTree.clear, Attempt.on_bind, Attempt.on_companion, journal_place, log_place,
    standing_of_none desk.journal, standing_of_none desk.log, Standing.counts, Bool.false_eq_true, if_false,
    reduceCtorEq, Attempt.on_pure]

theorem undo (desk : Desk base folder file log tree) :
    (FileTree.undo (folder ++ ["history.db"])).on tree = (.ok (), tree) := by
  simp only [FileTree.undo, Attempt.on_bind, Attempt.on_companion, journal_place,
    standing_of_none desk.journal, Attempt.on_pure]

theorem writeFirst (desk : Desk base folder file none tree) : ∃ written,
    (FileTree.writeFirst (folder ++ ["history.db"])).on tree = (.ok (), written) ∧
      Desk base folder (some .blank) none written := by
  have unlinked := desk.unlink (by decide : "history.db-journal" ≠ "history.db") (Or.inl desk.journal)
  rw [if_neg (by decide)] at unlinked
  refine ⟨_, ?_, unlinked.storeFile .blank⟩
  simp only [FileTree.writeFirst, Attempt.on_bind, Attempt.on_companion, journal_place,
    standing_of_none desk.journal, Standing.isWritable, if_true, Attempt.on_discard, Attempt.on_store]

/-- A database of which there is only an empty file is written, and has a history without runs. -/
theorem openAt_fresh (desk : Desk base folder file none tree) : ∃ opened,
    (openAt (folder ++ ["history.db"]) .fresh).on tree =
        (.ok ⟨some (folder ++ ["history.db"]), .empty, false⟩, opened) ∧
      Desk base folder (some .blank) (some (.bytes [])) opened := by
  obtain ⟨written, writes, desk'⟩ := desk.writeFirst
  obtain ⟨opened, opens, desk''⟩ := desk'.openLog
  refine ⟨opened, ?_, desk''⟩
  rw [openAt, Attempt.on_bind_of_ok desk.clear, Attempt.on_bind_of_ok writes, Attempt.on_bind_of_ok opens]
  rfl

theorem openAt_again {history : Ledger} (desk : Desk base folder file none tree) : ∃ opened,
    (openAt (folder ++ ["history.db"]) (.database (some history))).on tree =
        (.ok ⟨some (folder ++ ["history.db"]), history, false⟩, opened) ∧
      Desk base folder file (some (.bytes [])) opened := by
  obtain ⟨opened, opens, desk'⟩ := desk.openLog
  refine ⟨opened, ?_, desk'⟩
  rw [openAt, Attempt.on_bind_of_ok desk.undo, Attempt.on_bind_of_ok opens]
  rfl

/-- Closing a database leaves its file with the history, and nothing beside it. -/
theorem close {content : Content} (desk : Desk base folder file (some content) tree) (history : Ledger) :
    ∃ closed, (Connection.close ⟨some (folder ++ ["history.db"]), history, false⟩).on tree =
        (.ok (), closed) ∧ Desk base folder (some (.ledger history)) none closed := by
  have stored := desk.storeFile (.ledger history)
  have unlinked := stored.unlink (by decide : "history.db-wal" ≠ "history.db") (Or.inr ⟨content, stored.log⟩)
  rw [if_pos rfl] at unlinked
  have closed := unlinked.unlink (by decide : "history.db-shm" ≠ "history.db") (Or.inl unlinked.index)
  rw [if_neg (by decide)] at closed
  refine ⟨_, ?_, closed⟩
  simp only [Connection.close, closeLog, Bool.false_eq_true, if_false, Attempt.on_bind, Attempt.on_store,
    Attempt.on_discard, log_place, index_place]

section Connecting

variable {name path : String} (source : Source.ofName name = .ok ⟨path, .anyFile, [], none⟩)
  (short : ¬ maxDatabasePath < pathSize (folder ++ ["history.db"]))

include source short

theorem connect_fresh (desk : Desk base folder none none tree)
    (vacant : tree.resolve true path = .ok (.vacant (folder ++ ["history.db"]))) : ∃ opened,
    (connect name).on tree = (.ok ⟨some (folder ++ ["history.db"]), .empty, false⟩, opened) ∧
      Desk base folder (some .blank) (some (.bytes [])) opened := by
  have finds : (findFile ⟨path, .anyFile, [], none⟩).on tree = (.ok (folder ++ ["history.db"], .fresh),
      tree.putAt (folder ++ ["history.db"]) (.file (.bytes []))) := by
    simp only [findFile, Attempt.on_bind, Attempt.on_get, vacant, ne_eq, not_true_eq_false, false_or,
      if_neg short, Attempt.on_store, Attempt.on_pure]
  obtain ⟨opened, opens, desk'⟩ := (desk.storeFile (.bytes [])).openAt_fresh
  refine ⟨opened, ?_, desk'⟩
  rw [connect, Attempt.on_bind_of_ok ((Attempt.on_liftM _ tree).trans (by rw [source]))]
  exact (Attempt.on_bind_of_ok finds).trans opens

theorem connect_again {history : Ledger} (desk : Desk base folder (some (.ledger history)) none tree)
    (existing : tree.resolve true path =
      .ok (.existing (folder ++ ["history.db"]) (.file (.ledger history)))) : ∃ opened,
    (connect name).on tree = (.ok ⟨some (folder ++ ["history.db"]), history, false⟩, opened) ∧
      Desk base folder (some (.ledger history)) (some (.bytes [])) opened := by
  have finds : (findFile ⟨path, .anyFile, [], none⟩).on tree =
      (.ok (folder ++ ["history.db"], .database (some history)), tree) := by
    simp only [findFile, Attempt.on_bind, Attempt.on_get, existing, if_neg short, Attempt.on_pure,
      Content.stored]
  obtain ⟨opened, opens, desk'⟩ := desk.openAt_again
  refine ⟨opened, ?_, desk'⟩
  rw [connect, Attempt.on_bind_of_ok ((Attempt.on_liftM _ tree).trans (by rw [source]))]
  exact (Attempt.on_bind_of_ok finds).trans opens

end Connecting

end Desk

end FileTree

end CodeGauge
