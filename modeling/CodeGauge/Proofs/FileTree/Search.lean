/-
Module: CodeGauge.Proofs.FileTree.Search
Purpose: A search finds exactly the files below its root that are not in folders passed over.
Main exports:
  FileTree.below, FileTree.Entries.mem_leaves_iff, FileTree.Entries.nodup_leaves, FileTree.Readable,
  FileTree.Entries.walk_of_readable, FileTree.resolve_below, FileTree.found_exactly
-/
import CodeGauge.Proofs.Analysis.Schedule
import CodeGauge.Proofs.FileTree.Scan
import CodeGauge.Proofs.Text.Utf8
import Mathlib.Data.List.Nodup

namespace CodeGauge.FileTree

open CodeGauge.Text

/-!
What is to be found is said by places: at a place below the root there is a file, and none of the names
before the last one is a name that is passed over.  A walk meets it under the path that the root's path and
the names of the place make.  Names keep their meaning in such a path, so different files have different
paths, and the path of a file leads to it if the root's shortest path leads to the root.
-/

/-! ### Paths below a root -/

/-- The path that a walk gives to what is at a place below a root. -/
def below (root : String) (place : Place) : String :=
  place.foldl (fun path name => Path.join [path, name]) root

theorem below_cons (root name : String) (place : Place) :
    below root (name :: place) = below (Path.join [root, name]) place := rfl

theorem below_concat (root : String) (way : Place) (name : String) :
    below root (way ++ [name]) = Path.join [below root way, name] := by
  rw [below, List.foldl_append]
  rfl

section Below

variable {root : String} (given : root ≠ "") {place : Place} (areFileNames : ∀ name ∈ place, IsFileName name)

include given areFileNames

theorem below_ne_empty : below root place ≠ "" := by
  induction place generalizing root with
  | nil => exact given
  | cons name place ih =>
    obtain ⟨isFileName, others⟩ := List.forall_mem_cons.mp areFileNames
    exact ih (join_name_ne_empty isFileName.plain given) others

theorem isRooted_below : Path.isRooted (below root place) = Path.isRooted root := by
  induction place generalizing root with
  | nil => rfl
  | cons name place ih =>
    obtain ⟨isFileName, others⟩ := List.forall_mem_cons.mp areFileNames
    rw [below_cons, ih (join_name_ne_empty isFileName.plain given) others,
      isRooted_join_name isFileName.plain given]

theorem elements_below :
    Path.elements (below root place) = Path.elements root ++ place.map String.toList := by
  induction place generalizing root with
  | nil => exact (List.append_nil _).symm
  | cons name place ih =>
    obtain ⟨isFileName, others⟩ := List.forall_mem_cons.mp areFileNames
    rw [below_cons, ih (join_name_ne_empty isFileName.plain given) others,
      elements_join_name isFileName.plain given, List.map_cons, List.append_assoc, List.singleton_append]

/-- Different places have different paths. -/
theorem eq_of_below_eq {other : Place} (areFileNames' : ∀ name ∈ other, IsFileName name)
    (same : below root place = below root other) : place = other := by
  have sameElements := congrArg Path.elements same
  rw [elements_below given areFileNames, elements_below given areFileNames'] at sameElements
  exact List.map_injective_iff.mpr (fun _ _ => String.toList_inj.mp) (List.append_cancel_left sameElements)

end Below

/-! ### What is at a place -/

namespace Node

/-- What is at a place below a node; the node itself is at the empty place. -/
def find? : Place → Node → Option Node
  | place, .folder entries => entries.find? place
  | [], node => some node
  | _ :: _, _ => none

/-- Whether a node is a regular file. -/
def isRegular : Node → Bool
  | .file _ => true
  | _ => false

theorem find?_nil (node : Node) : node.find? [] = some node := by
  cases node <;> rfl

theorem isFolder_of_find?_cons {node found : Node} {name : String} {place : Place}
    (isFound : node.find? (name :: place) = some found) : node.isFolder = true := by
  cases node with
  | folder entries => rfl
  | file content => exact nomatch isFound
  | link target => exact nomatch isFound

theorem find?_folder_of_get? {entries : Entries} {name : String} {node : Node}
    (isNode : entries.get? name = some node) (place : Place) :
    (folder entries).find? (name :: place) = node.find? place := by
  rw [find?, Entries.find?, isNode]
  cases node with
  | folder inner => rfl
  | file content => cases place <;> rfl
  | link target => cases place <;> rfl

/-- What is at a place with a first name is below the node of that name. -/
theorem exists_of_find?_folder {entries : Entries} {name : String} {place : Place} {found : Node}
    (isFound : (folder entries).find? (name :: place) = some found) :
    ∃ node, entries.get? name = some node ∧ node.find? place = some found := by
  cases isNode : entries.get? name with
  | none =>
    rw [find?, Entries.find?, isNode] at isFound
    cases isFound
  | some node =>
    rw [find?_folder_of_get? isNode] at isFound
    exact ⟨node, rfl, isFound⟩

end Node

/-- What a proper folder has under a name is proper, and the name is one that a file can have. -/
theorem Entries.IsProper.of_get? {entries : Entries} (proper : entries.IsProper) {name : String} {node : Node}
    (isNode : entries.get? name = some node) : IsFileName name ∧ node.IsProper := by
  fun_induction get? name entries with
  | case1 => exact nomatch isNode
  | case2 other rest =>
    obtain rfl := Option.some.inj isNode
    exact ⟨proper.1, proper.2.2.1⟩
  | case3 first other rest apart ih => exact ih proper.2.2.2 isNode

/-- On the way to what is below a proper node are names that a file can have. -/
theorem Node.IsProper.isFileName_of_find? {node : Node} (proper : node.IsProper) {place : Place} {found : Node}
    (isFound : node.find? place = some found) : ∀ name ∈ place, IsFileName name := by
  induction place generalizing node with
  | nil => exact fun _ member => nomatch member
  | cons first place ih =>
    cases node with
    | folder entries =>
      obtain ⟨inner, isInner, isFound⟩ := exists_of_find?_folder isFound
      obtain ⟨isFileName, properInner⟩ := Entries.IsProper.of_get? proper isInner
      exact List.forall_mem_cons.mpr ⟨isFileName, ih properInner isFound⟩
    | file content => exact nomatch isFound
    | link target => exact nomatch isFound

/-! ### What a walk meets -/

section Meeting

variable {skips : String → Bool}

/-- A walk through a node comes to another one at a place below it: that one is no folder, and no folder on
the way is passed over. -/
structure Reaches (skips : String → Bool) (node : Node) (place : Place) (found : Node) : Prop where
  isThere : node.find? place = some found
  isPlain : found.isFolder = false
  passed : ∀ folder ∈ place.dropLast, skips folder = false

theorem reaches_nil_iff {node found : Node} :
    Reaches skips node [] found ↔ found = node ∧ node.isFolder = false := by
  constructor
  · rintro ⟨isThere, isPlain, -⟩
    obtain rfl := Option.some.inj ((Node.find?_nil node).symm.trans isThere)
    exact ⟨rfl, isPlain⟩
  · rintro ⟨rfl, isPlain⟩
    exact ⟨found.find?_nil, isPlain, nofun⟩

/-- A walk through a folder goes on in whatever is no folder that is passed over. -/
theorem reaches_cons_iff {entries : Entries} {name : String} {place : Place} {found : Node} :
    Reaches skips (.folder entries) (name :: place) found ↔ ∃ node, entries.get? name = some node ∧
      (node.isFolder && skips name) = false ∧ Reaches skips node place found := by
  constructor
  · rintro ⟨isThere, isPlain, passed⟩
    obtain ⟨node, isNode, isThere⟩ := Node.exists_of_find?_folder isThere
    refine ⟨node, isNode, ?_⟩
    cases place with
    | nil =>
      obtain rfl := Option.some.inj (node.find?_nil.symm.trans isThere)
      exact ⟨by rw [isPlain, Bool.false_and], isThere, isPlain, nofun⟩
    | cons first place =>
      obtain ⟨unskipped, passed⟩ := List.forall_mem_cons.mp passed
      exact ⟨by rw [unskipped, Bool.and_false], isThere, isPlain, passed⟩
  · rintro ⟨node, isNode, seen, isThere, isPlain, passed⟩
    refine ⟨(Node.find?_folder_of_get? isNode place).trans isThere, isPlain, ?_⟩
    cases place with
    | nil => exact nofun
    | cons first place =>
      rw [Node.isFolder_of_find?_cons isThere, Bool.true_and] at seen
      exact List.forall_mem_cons.mpr ⟨seen, passed⟩

/-- A walk through what is no folder comes to that alone. -/
theorem exists_reaches_iff_of_plain (node : Node) (isPlain : node.isFolder = false) {path : String}
    {leaf : Leaf} : (∃ place found, Reaches skips node place found ∧ leaf = ⟨below path place, found.isRegular⟩) ↔
      leaf = ⟨path, node.isRegular⟩ := by
  constructor
  · rintro ⟨_ | ⟨name, place⟩, found, reaches, rfl⟩
    · obtain ⟨rfl, -⟩ := reaches_nil_iff.mp reaches
      rfl
    · exact nomatch isPlain.symm.trans (Node.isFolder_of_find?_cons reaches.isThere)
  · rintro rfl
    exact ⟨[], node, reaches_nil_iff.mpr ⟨rfl, isPlain⟩, rfl⟩

mutual

theorem Node.mem_leaves_iff : ∀ (node : Node) {path : String} {leaf : Leaf}, node.IsProper →
    (leaf ∈ node.leaves skips path ↔
      ∃ place found, Reaches skips node place found ∧ leaf = ⟨below path place, found.isRegular⟩)
  | .file content, _, _, _ => List.mem_singleton.trans (exists_reaches_iff_of_plain (.file content) rfl).symm
  | .link target, _, _, _ => List.mem_singleton.trans (exists_reaches_iff_of_plain (.link target) rfl).symm
  | .folder entries, _, _, proper => Entries.mem_leaves_iff entries proper

/-- What a walk through a folder meets is what it comes to, under the path of its place. -/
theorem Entries.mem_leaves_iff : ∀ (entries : Entries) {path : String} {leaf : Leaf}, entries.IsProper →
    (leaf ∈ entries.leaves skips path ↔
      ∃ place found, Reaches skips (.folder entries) place found ∧ leaf = ⟨below path place, found.isRegular⟩)
  | .nil, path, leaf, _ => by
    refine ⟨fun member => (nomatch member), ?_⟩
    rintro ⟨_ | ⟨name, place⟩, found, reaches, -⟩
    · exact nomatch (reaches_nil_iff.mp reaches).2
    · obtain ⟨node, isNode, -⟩ := reaches_cons_iff.mp reaches
      exact nomatch isNode
  | .cons name node rest, path, leaf, ⟨_, once, properNode, properRest⟩ => by
    rw [Entries.leaves, List.mem_append, Entries.mem_leaves_iff rest properRest]
    constructor
    · rintro (member | ⟨_ | ⟨first, place⟩, found, reaches, rfl⟩)
      · split at member
        · exact nomatch member
        next seen =>
        obtain ⟨place, found, reaches, rfl⟩ := (Node.mem_leaves_iff node properNode).mp member
        refine ⟨name :: place, found, reaches_cons_iff.mpr ⟨node, ?_, ?_, reaches⟩, rfl⟩
        · exact if_pos rfl
        · exact Bool.not_eq_true _ ▸ seen
      · exact nomatch (reaches_nil_iff.mp reaches).2
      · obtain ⟨behind, isNode, seen, reaches⟩ := reaches_cons_iff.mp reaches
        refine ⟨first :: place, found, reaches_cons_iff.mpr ⟨behind, ?_, seen, reaches⟩, rfl⟩
        exact Entries.get?_cons_of_get?_rest once isNode node
    · rintro ⟨_ | ⟨first, place⟩, found, reaches, rfl⟩
      · exact nomatch (reaches_nil_iff.mp reaches).2
      obtain ⟨other, isNode, seen, reaches⟩ := reaches_cons_iff.mp reaches
      rw [Entries.get?] at isNode
      split at isNode
      · next same =>
        subst same
        obtain rfl := Option.some.inj isNode
        rw [if_neg (by simp [seen])]
        exact Or.inl ((Node.mem_leaves_iff node properNode).mpr ⟨place, found, reaches, rfl⟩)
      · exact Or.inr ⟨first :: place, found, reaches_cons_iff.mpr ⟨other, isNode, seen, reaches⟩, rfl⟩

end

/-- The regular files that a walk through a folder meets. -/
theorem Entries.mem_leaves_regular_iff {entries : Entries} (proper : entries.IsProper) {path met : String} :
    ⟨met, true⟩ ∈ entries.leaves skips path ↔ ∃ way name content,
      entries.find? (way ++ [name]) = some (.file content) ∧ (∀ folder ∈ way, skips folder = false) ∧
      met = below path (way ++ [name]) := by
  rw [Entries.mem_leaves_iff entries proper]
  constructor
  · rintro ⟨place, found, reaches, isLeaf⟩
    obtain ⟨rfl, isRegular⟩ := Leaf.mk.inj isLeaf
    rcases List.eq_nil_or_concat' place with rfl | ⟨way, name, rfl⟩
    · exact nomatch (reaches_nil_iff.mp reaches).2
    have passed := reaches.passed
    rw [List.dropLast_concat] at passed
    cases found with
    | file content => exact ⟨way, name, content, reaches.isThere, passed, rfl⟩
    | link target => exact nomatch isRegular
    | folder inner => exact nomatch isRegular
  · rintro ⟨way, name, content, isFile, passed, rfl⟩
    refine ⟨way ++ [name], .file content, ⟨isFile, rfl, ?_⟩, rfl⟩
    rwa [List.dropLast_concat]

mutual

theorem Node.nodup_leaves : ∀ (node : Node) {path : String}, path ≠ "" → node.IsProper →
    ((node.leaves skips path).map Leaf.path).Nodup
  | .file _, _, _, _ => List.nodup_singleton _
  | .link _, _, _, _ => List.nodup_singleton _
  | .folder entries, _, given, proper => Entries.nodup_leaves entries given proper

/-- A walk through a folder meets no path twice. -/
theorem Entries.nodup_leaves : ∀ (entries : Entries) {path : String}, path ≠ "" → entries.IsProper →
    ((entries.leaves skips path).map Leaf.path).Nodup
  | .nil, _, _, _ => List.nodup_nil
  | .cons name node rest, path, given, ⟨isFileName, once, properNode, properRest⟩ => by
    rw [Entries.leaves, List.map_append, List.nodup_append]
    refine ⟨?_, Entries.nodup_leaves rest given properRest, ?_⟩
    · split
      · exact List.nodup_nil
      · exact Node.nodup_leaves node (join_name_ne_empty isFileName.plain given) properNode
    · rintro _ first _ second same
      obtain ⟨leaf, member, rfl⟩ := List.mem_map.mp first
      obtain ⟨leaf', member', rfl⟩ := List.mem_map.mp second
      split at member
      · exact nomatch member
      obtain ⟨place, found, reaches, rfl⟩ := (Node.mem_leaves_iff node properNode).mp member
      obtain ⟨place', found', reaches', rfl⟩ := (Entries.mem_leaves_iff rest properRest).mp member'
      -- the one path goes on with the name, the other one with a name of the rest
      have areFileNames := List.forall_mem_cons.mpr ⟨isFileName, properNode.isFileName_of_find? reaches.isThere⟩
      have areFileNames' := @Node.IsProper.isFileName_of_find? (.folder rest) properRest _ _ reaches'.isThere
      obtain rfl : name :: place = place' := eq_of_below_eq given areFileNames areFileNames' same
      obtain ⟨behind, isNode, -⟩ := reaches_cons_iff.mp reaches'
      exact nomatch once.symm.trans isNode

end

/-! ### Walks that come to their end -/

/-- Every folder below a node that is not passed over has a path that is not too long. -/
def Readable (skips : String → Bool) (path : String) (node : Node) : Prop :=
  ∀ way inner, node.find? way = some (.folder inner) → (∀ folder ∈ way, skips folder = false) →
    ¬ maxPath < (below path way).utf8ByteSize

theorem readable_folder {path : String} {entries : Entries} (short : ¬ maxPath < path.utf8ByteSize)
    (inside : ∀ name inner, entries.get? name = some (.folder inner) → skips name = false →
      Readable skips (Path.join [path, name]) (.folder inner)) : Readable skips path (.folder entries) := by
  intro way inner isFolder passed
  cases way with
  | nil => exact short
  | cons name way =>
    obtain ⟨unskipped, passed⟩ := List.forall_mem_cons.mp passed
    obtain ⟨middle, isMiddle, isFolder⟩ := Entries.find?_cons_folder.mp isFolder
    exact inside name middle isMiddle unskipped way inner isFolder passed

theorem Readable.of_get? {path name : String} {entries : Entries} {node : Node}
    (readable : Readable skips path (.folder entries)) (isNode : entries.get? name = some node)
    (seen : (node.isFolder && skips name) = false) : Readable skips (Path.join [path, name]) node := by
  intro way inner isFolder passed
  have isFolderBelow := (Node.find?_folder_of_get? isNode way).trans isFolder
  refine readable (name :: way) inner isFolderBelow (List.forall_mem_cons.mpr ⟨?_, passed⟩)
  have isFolderItself : node.isFolder = true := by
    cases way with
    | nil =>
      obtain rfl := Option.some.inj (node.find?_nil.symm.trans isFolder)
      rfl
    | cons first way => exact Node.isFolder_of_find?_cons isFolder
  rwa [isFolderItself, Bool.true_and] at seen

theorem Readable.rest {path name : String} {node : Node} {rest : Entries} (once : rest.get? name = none)
    (readable : Readable skips path (.folder (.cons name node rest))) : Readable skips path (.folder rest) := by
  intro way inner isFolder passed
  cases way with
  | nil => exact readable [] _ rfl nofun
  | cons first way =>
    obtain ⟨behind, isNode, isFolder⟩ := Node.exists_of_find?_folder isFolder
    have isBehind := Entries.get?_cons_of_get?_rest once isNode node
    exact readable (first :: way) inner ((Node.find?_folder_of_get? isBehind way).trans isFolder) passed

mutual

theorem Node.walk_of_readable : ∀ (node : Node) {path : String}, node.IsProper → Readable skips path node →
    node.walk skips path = ⟨node.leaves skips path, none⟩
  | .file _, _, _, _ => rfl
  | .link _, _, _, _ => rfl
  | .folder entries, path, proper, readable => by
    have short : ¬ maxPath < path.utf8ByteSize := readable [] entries rfl nofun
    rw [Node.walk, if_neg short]
    exact Entries.walk_of_readable entries proper readable

/-- A walk through a folder whose folders can be read comes to its end. -/
theorem Entries.walk_of_readable : ∀ (entries : Entries) {path : String}, entries.IsProper →
    Readable skips path (.folder entries) → entries.walk skips path = ⟨entries.leaves skips path, none⟩
  | .nil, _, _, _ => rfl
  | .cons name node rest, path, ⟨_, once, properNode, properRest⟩, readable => by
    rw [Entries.walk, Entries.leaves, Entries.walk_of_readable rest properRest (readable.rest once)]
    split
    · rfl
    · next seen =>
      have readableNode := readable.of_get? (if_pos rfl) (Bool.not_eq_true _ ▸ seen)
      rw [Node.walk_of_readable node properNode readableNode]
      rfl

end

end Meeting

/-! ### Where the paths lead -/

section Leading

variable {tree : FileTree} {root : String} {place : Place}

/-- The shortest form of a path is followed like its elements. -/
theorem follow_splitText_clean (top : Entries) (finalLink : Bool) (links : Nat) (here : Place) (path : String) :
    follow top finalLink links here (splitText '/' (Path.clean path)) =
      follow top finalLink links here ((Path.elements path).map String.ofList) := by
  obtain ⟨pieces, parts, same⟩ := Path.split_clean path
  have stays : follow top finalLink links here (splitText '/' (Path.clean path)) =
      follow top finalLink links here (pieces.map String.ofList) := by
    rw [splitText, parts]
    split
    · exact follow_stay (Or.inl rfl) finalLink
    · rfl
  rw [stays]
  rcases same with rfl | ⟨none, rfl | rfl⟩
  · rfl
  · rw [none]
    exact follow_stay (Or.inl rfl) finalLink
  · rw [none]
    exact follow_stay (Or.inr rfl) finalLink

/-- Where the shortest form of a path leads to a folder, its elements do. -/
theorem follow_elements_of_resolve {entries : Entries}
    (straight : tree.resolve true (Path.clean root) = .ok (.existing place (.folder entries))) :
    follow tree.top true maxLinks (tree.start root) ((Path.elements root).map String.ofList) =
      .ok (.existing place (.folder entries)) := by
  have sameStart : tree.start (Path.clean root) = tree.start root := by
    rw [start, start, Path.isRooted_clean]
  rwa [resolve_eq_follow (followable_of_resolve straight), sameStart, follow_splitText_clean] at straight

/-- Names of folders lead from one folder down to another. -/
theorem leads_down {way : Place} (areFileNames : ∀ name ∈ way, IsFileName name)
    (folder : IsFolderAt tree.top (place ++ way)) : Leads tree.top 0 place way (place ++ way) := by
  induction way generalizing place with
  | nil =>
    rw [List.append_nil] at folder ⊢
    exact .arrive folder
  | cons name way ih =>
    obtain ⟨isFileName, others⟩ := List.forall_mem_cons.mp areFileNames
    rw [← List.singleton_append, ← List.append_assoc] at folder ⊢
    have entered : IsFolderAt tree.top (place ++ [name]) := by
      by_cases last : way = []
      · rwa [last, List.append_nil] at folder
      · exact Entries.exists_folder_above last folder.choose_spec
    exact .enter (isName_of_plainName isFileName.plain) isFileName.short entered (ih others folder)

/-- The path of a file below a root leads to the file, if the root's elements lead to the root. -/
theorem resolve_below (given : root ≠ "")
    (leads : Leads tree.top maxLinks (tree.start root) ((Path.elements root).map String.ofList) place)
    {way : Place} {name : String} (areFileNames : ∀ name ∈ way, IsFileName name) (isFileName : IsFileName name)
    {content : Content} (isFile : tree.top.find? (place ++ way ++ [name]) = some (.file content))
    (followable : Followable (below root (way ++ [name]))) (finalLink : Bool) :
    tree.resolve finalLink (below root (way ++ [name])) =
      .ok (.existing (place ++ way ++ [name]) (.file content)) := by
  have given' := below_ne_empty given areFileNames
  have folder := Entries.exists_folder_above (List.cons_ne_nil name []) isFile
  have sameStart : tree.start (Path.join [below root way, name]) = tree.start root := by
    rw [start_join_name isFileName.plain given', start, start, isRooted_below given areFileNames]
  have reached : Leads tree.top maxLinks (tree.start root)
      ((if Path.isRooted root then [""] else []) ++ (Path.elements (below root way)).map String.ofList)
      (place ++ way) := by
    have namesBack : (way.map String.toList).map String.ofList = way := by simp
    have arrives := leads.append (leads_down areFileNames folder)
    rw [elements_below given areFileNames, List.map_append, namesBack]
    split
    · exact .stay (Or.inl rfl) arrives
    · exact arrives
  obtain ⟨left, follows⟩ := reached.follow_append finalLink (List.cons_ne_nil name [])
  rw [below_concat] at followable ⊢
  rw [resolve_eq_follow followable, sameStart, splitText_join_name isFileName.plain given',
    isRooted_below given areFileNames, follows,
    follow_name (isName_of_plainName isFileName.plain) isFileName.short, isFile]
  rfl

end Leading

/-! ### Searches -/

/-- Paths in order that are all different are in the strict order of their bytes. -/
theorem pairwise_sorted {paths : List String} (distinct : paths.Nodup) :
    (sorted paths).Pairwise fun first second => Utf8.encode first < Utf8.encode second := by
  have ordered : (sorted paths).Pairwise fun first second => first ≤ second :=
    Analysis.pairwise_mergeSort_text id paths
  have apart : (sorted paths).Pairwise fun first second => first ≠ second :=
    (List.mergeSort_perm paths _).nodup_iff.mpr distinct
  refine (ordered.and apart).imp ?_
  rintro first second ⟨notAbove, apart⟩
  apply Utf8.encode_lt_encode
  by_contra notBelow
  exact apart (String.le_antisymm notAbove (String.not_lt.mp notBelow))

theorem nodup_chosen {leaves : List Leaf} (distinct : (leaves.map Leaf.path).Nodup) (extensions : List String) :
    (chosen extensions leaves).Nodup :=
  distinct.sublist (List.filter_sublist.map Leaf.path)

theorem isSkipped_eq_false_iff {name : String} : isSkipped name = false ↔ name ∉ skippedNames := by
  rw [isSkipped, ← Bool.not_eq_true, List.contains_iff_mem]

theorem admits_iff {extensions : List String} {path : String} : Extension.admits extensions path = true ↔
    extensions = [] ∨ ∃ item ∈ extensions, lower item = lower (Path.extension path) := by
  simp [Extension.admits, Extension.ofPath]

/-- A search finds exactly what it is to find.  Of a root directory whose folders can be read, and whose
shortest path leads to it, it returns in the strict order of their bytes the paths of the regular files below
the root, no folder on the way to which has a name that is passed over, and which have one of the extensions
if there are any; and every such path that can be followed leads to its file. -/
theorem found_exactly {tree : FileTree} {root : String} {place : Place} {entries : Entries}
    (isRoot : tree.resolve false root = .ok (.existing place (.folder entries)))
    (straight : tree.resolve true (Path.clean root) = .ok (.existing place (.folder entries)))
    (proper : entries.IsProper) (readable : Readable isSkipped root (.folder entries))
    (extensions : List String) :
    ∃ paths, scan false tree root extensions = .ok paths ∧
      paths.Pairwise (fun first second => Utf8.encode first < Utf8.encode second) ∧
      (∀ path, path ∈ paths ↔ ∃ way name content,
        entries.find? (way ++ [name]) = some (.file content) ∧ (∀ folder ∈ way, folder ∉ skippedNames) ∧
        path = below root (way ++ [name]) ∧
        (extensions = [] ∨ ∃ item ∈ extensions, lower item = lower (Path.extension path))) ∧
      ∀ way name content, entries.find? (way ++ [name]) = some (.file content) →
        Followable (below root (way ++ [name])) → tree.resolve false (below root (way ++ [name])) =
          .ok (.existing (place ++ way ++ [name]) (.file content)) := by
  have given : root ≠ "" := by simpa using (followable_of_resolve isRoot).given
  have follows := follow_elements_of_resolve straight
  have arrives : tree.arrivesAt root place = true := by
    rw [arrivesAt]
    rw [start] at follows
    simp only [follows, beq_self_eq_true]
  have walks : tree.walk root = .ok ⟨entries.leaves isSkipped root, none⟩ := by
    rw [walk, isRoot]
    simp only [arrives, if_true, Entries.walk_of_readable entries proper readable]
  refine ⟨_, scan_eq_ok_iff.mpr ⟨_, walks, rfl, fun stopped => absurd stopped Bool.false_ne_true, rfl⟩, ?_, ?_, ?_⟩
  · exact pairwise_sorted (nodup_chosen (Entries.nodup_leaves entries given proper) extensions)
  · intro path
    simp only [mem_sorted_chosen_iff, Entries.mem_leaves_regular_iff proper, admits_iff, isSkipped_eq_false_iff]
    constructor
    · rintro ⟨⟨way, name, content, isFile, passed, isPath⟩, admitted⟩
      exact ⟨way, name, content, isFile, passed, isPath, admitted⟩
    · rintro ⟨way, name, content, isFile, passed, isPath, admitted⟩
      exact ⟨⟨way, name, content, isFile, passed, isPath⟩, admitted⟩
  · intro way name content isFile followable
    obtain ⟨leads, isThere⟩ := leads_of_follow follows
    have areFileNames := @Node.IsProper.isFileName_of_find? (.folder entries) proper _ _ isFile
    obtain ⟨others, last⟩ := List.forall_mem_append.mp areFileNames
    have isFileBelow := (Entries.find?_append isThere (way ++ [name])).trans isFile
    rw [← List.append_assoc] at isFileBelow
    exact resolve_below given leads others (last name List.mem_cons_self) isFileBelow followable false

/-- A folder with a folder that is passed over, one that is not, and a link. -/
def mixed : Entries :=
  .cons "b" (.folder (.cons "z.C" (.file (.bytes [])) .nil))
    (.cons "b.c" (.file (.bytes []))
      (.cons "l.c" (.link "b.c")
        (.cons "vendor" (.folder (.cons "x.c" (.file (.bytes [])) .nil)) .nil)))

/-- A root with a name that is passed over elsewhere. -/
def vendored : FileTree := ⟨.cons "vendor" (.folder mixed) .nil, []⟩

instance (name : String) : Decidable (IsFileName name) :=
  decidable_of_iff (('/' ∉ name.toList ∧ ¬(name.toList = [] ∨ name.toList = ['.']) ∧ name.toList ≠ ['.', '.']) ∧
      ¬ maxName < name.utf8ByteSize)
    ⟨fun ⟨⟨noSlash, noPoint, notUp⟩, short⟩ => ⟨⟨noSlash, noPoint, notUp⟩, short⟩,
      fun ⟨⟨noSlash, noPoint, notUp⟩, short⟩ => ⟨⟨noSlash, noPoint, notUp⟩, short⟩⟩

theorem isProper_mixed : mixed.IsProper :=
  ⟨by decide, rfl, ⟨by decide, rfl, trivial, trivial⟩, by decide, rfl, trivial, by decide, rfl, trivial, by decide,
    rfl, ⟨by decide, rfl, trivial, trivial⟩, trivial⟩

theorem readable_mixed : Readable isSkipped "vendor" (.folder mixed) := by
  refine readable_folder (by decide) ?_
  intro name inner isFolder unskipped
  simp only [mixed, Entries.get?] at isFolder
  split_ifs at isFolder with isB isBC isL isVendor
  · subst isB
    obtain rfl := Node.folder.inj (Option.some.inj isFolder)
    refine readable_folder (by decide) ?_
    intro name inner isFolder
    simp only [Entries.get?] at isFolder
    split_ifs at isFolder
    exact nomatch isFolder
  · exact nomatch isFolder
  · exact nomatch isFolder
  · subst isVendor
    exact absurd unskipped (by decide)

/-- The order of the paths is not the one in which they are met, since a point comes before a slash. -/
theorem found_exactly_in_vendored :
    ∃ paths, scan false vendored "vendor" [".c"] = .ok paths ∧ paths = ["vendor/b.c", "vendor/b/z.C"] ∧
      paths.Pairwise (fun first second => Utf8.encode first < Utf8.encode second) ∧
      vendored.resolve false "vendor/b/z.C" = .ok (.existing ["vendor", "b", "z.C"] (.file (.bytes []))) := by
  obtain ⟨paths, finds, ordered, -, leads⟩ :=
    @found_exactly vendored "vendor" ["vendor"] mixed rfl rfl isProper_mixed readable_mixed [".c"]
  have walks : vendored.walk "vendor" =
      .ok ⟨[⟨"vendor/b/z.C", true⟩, ⟨"vendor/b.c", true⟩, ⟨"vendor/l.c", false⟩], none⟩ := by decide +kernel
  have inOrder : sorted ["vendor/b/z.C", "vendor/b.c"] = ["vendor/b.c", "vendor/b/z.C"] := by
    simp [sorted, List.mergeSort, List.MergeSort.Internal.splitInTwo]
  have finds' : scan false vendored "vendor" [".c"] = .ok ["vendor/b.c", "vendor/b/z.C"] := by
    refine scan_eq_ok_iff.mpr ⟨_, walks, rfl, fun stopped => absurd stopped Bool.false_ne_true, ?_⟩
    rw [← inOrder]
    exact congrArg sorted (by decide +kernel)
  obtain rfl := Except.ok.inj (finds.symm.trans finds')
  exact ⟨_, finds, rfl, ordered, leads ["b"] "z.C" (.bytes []) rfl ⟨by decide, by decide, by decide⟩⟩

/-- A folder with a folder that has a file. -/
def searched : Entries := .cons "d" (.folder (.cons "a.c" (.file (.bytes [])) .nil)) .nil

/-- A link into a folder, and beside it another folder of the name that the first one has inside. -/
def linkedAside : FileTree :=
  ⟨.cons "d" (.folder (.cons "x.c" (.file (.bytes [])) .nil))
    (.cons "l" (.link "t/d") (.cons "t" (.folder searched) .nil)), []⟩

/-- Behind a link two points lead to another folder than their shortest form: the search of the one returns
a file of the other. -/
theorem searched_elsewhere :
    linkedAside.resolve false "l/.." = .ok (.existing ["t"] (.folder searched)) ∧
    searched.find? ["d", "a.c"] = some (.file (.bytes [])) ∧ searched.find? ["d", "x.c"] = none ∧
    scan false linkedAside "l/.." [] = .ok ["d/x.c"] :=
  ⟨rfl, rfl, rfl, by decide +kernel⟩

end CodeGauge.FileTree
