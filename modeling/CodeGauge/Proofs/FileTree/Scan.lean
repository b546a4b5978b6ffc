/-
Module: CodeGauge.Proofs.FileTree.Scan
Purpose: What a search finds, and what is read of it, does not depend on the folders that it passes over.
Main exports:
  FileTree.Entries.walk_set_of_skipped, FileTree.Entries.IsProper, FileTree.Found,
  FileTree.Entries.read_leaf, FileTree.scan_eq_ok_iff, FileTree.scan_congr, FileTree.exists_walk_of_scan,
  FileTree.exists_leaf_of_scan
-/
import CodeGauge.FileTree.Scan
import CodeGauge.Proofs.FileTree.Direct

namespace CodeGauge.FileTree

open CodeGauge.Text

/-!
A search meets the same things in a folder if a name that it passes over stands for another folder.  The
path of what it meets leads there without a link, if all names in the folder are names that a file can have;
so in two trees that have the same file at its place the same is read.
-/

/-! ### What is met -/

theorem Walk.nothing_andThen (walk : Walk) : nothing.andThen walk = walk := rfl

/-- A search does not see what is in a folder that it passes over. -/
theorem Entries.walk_set_of_skipped {skips : String → Bool} {name : String} (skipped : skips name = true)
    (inside : Entries) (path : String) {entries : Entries}
    (free : entries.get? name = none ∨ ∃ inner, entries.get? name = some (.folder inner)) :
    (entries.set name (.folder inside)).walk skips path = entries.walk skips path := by
  have passes : ∀ {rest : Entries} {inner : Entries},
      (Entries.cons name (.folder inner) rest).walk skips path = rest.walk skips path := by
    intro rest inner
    rw [walk, Node.isFolder, skipped]
    exact Walk.nothing_andThen _
  fun_induction set name (.folder inside) entries with
  | case1 => exact passes
  | case2 old rest =>
    rw [get?, if_pos rfl] at free
    obtain ⟨inner, isFolder⟩ := free.resolve_left (Option.some_ne_none old)
    obtain rfl := Option.some.inj isFolder
    rw [passes, passes]
  | case3 => exact passes
  | case4 other old rest apart above ih =>
    rw [get?, if_neg apart] at free
    rw [walk, walk, ih free]

theorem Walk.mem_andThen {first second : Walk} {leaf : Leaf} (member : leaf ∈ (first.andThen second).leaves) :
    leaf ∈ first.leaves ∨ leaf ∈ second.leaves := by
  rw [andThen] at member
  split at member
  · exact Or.inl member
  · exact List.mem_append.mp member

mutual

theorem Node.leaves_of_walk {skips : String → Bool} : ∀ (node : Node) {path : String} {leaf : Leaf},
    leaf ∈ (node.walk skips path).leaves → leaf ∈ node.leaves skips path
  | .file _, _, _, member => member
  | .link _, _, _, member => member
  | .folder entries, path, leaf, member => by
    rw [Node.walk] at member
    split at member
    · exact nomatch member
    · exact Entries.leaves_of_walk entries member

/-- What a walk meets before it ends is among what it would meet if it came to its end. -/
theorem Entries.leaves_of_walk {skips : String → Bool} : ∀ (entries : Entries) {path : String} {leaf : Leaf},
    leaf ∈ (entries.walk skips path).leaves → leaf ∈ entries.leaves skips path
  | .nil, _, _, member => nomatch member
  | .cons name node rest, path, leaf, member => by
    rw [Entries.walk] at member
    rw [Entries.leaves, List.mem_append]
    rcases Walk.mem_andThen member with member | member
    · left
      split at member
      · exact nomatch member
      · next seen =>
        rw [if_neg seen]
        exact Node.leaves_of_walk node member
    · exact Or.inr (Entries.leaves_of_walk rest member)

end

/-! ### Names that a file can have -/

/-- A name that a file can have. -/
structure IsFileName (name : String) : Prop where
  plain : Path.PlainName name.toList
  short : ¬ maxName < name.utf8ByteSize

mutual

/-- All names in a node are names that a file can have, and no folder has a name twice. -/
def Node.IsProper : Node → Prop
  | .folder entries => entries.IsProper
  | _ => True

/-- All names in a folder are names that a file can have, and no folder has a name twice. -/
def Entries.IsProper : Entries → Prop
  | .nil => True
  | .cons name node rest => IsFileName name ∧ rest.get? name = none ∧ node.IsProper ∧ rest.IsProper

end

theorem Entries.get?_cons_of_get?_rest {name other : String} {behind : Node} {rest : Entries}
    (once : rest.get? name = none) (isNode : rest.get? other = some behind) (node : Node) :
    (cons name node rest).get? other = some behind := by
  have apart : other ≠ name := by
    rintro rfl
    exact nomatch once.symm.trans isNode
  rw [get?, if_neg apart, isNode]

/-- A path is the one of a name in a folder that is reached directly, and the name stands for a node. -/
structure Found (tree : FileTree) (path : String) (node : Node) : Prop where
  way : ∃ parent place name, parent ≠ "" ∧ IsFileName name ∧ path = Path.join [parent, name] ∧
    DirectlyLeads tree parent place ∧ tree.top.find? (place ++ [name]) = some node

section Reading

variable {tree first second : FileTree} {path : String}

theorem found_join {parent name : String} {place : Place} {node : Node} (given : parent ≠ "")
    (isFileName : IsFileName name) (leads : DirectlyLeads tree parent place)
    (found : tree.top.find? (place ++ [name]) = some node) : Found tree (Path.join [parent, name]) node :=
  ⟨parent, place, name, given, isFileName, rfl, leads, found⟩

/-- A folder that is found is reached directly. -/
theorem Found.exists_leads {inner : Entries} (found : Found tree path (.folder inner)) : path ≠ "" ∧
    ∃ place, DirectlyLeads tree path place ∧ tree.top.find? place = some (.folder inner) := by
  obtain ⟨parent, place, name, given, ⟨plain, short⟩, rfl, leads, isFolder⟩ := found
  exact ⟨join_name_ne_empty plain given, _, leads.join plain given short ⟨inner, isFolder⟩, isFolder⟩

theorem Found.status {content : Content} (found : Found tree path (.file content))
    (followable : Followable path) : tree.status true path = .ok (.file content) := by
  obtain ⟨parent, place, name, given, ⟨plain, short⟩, rfl, leads, isFile⟩ := found
  obtain ⟨links, follows⟩ := leads.resolve_join plain given followable true
  rw [FileTree.status, follows, follow_name (isName_of_plainName plain) short, isFile]
  rfl

/-- Where two trees have the same file, the same is read. -/
theorem read_eq_of_found {content : Content} (found : Found first path (.file content))
    (found' : Found second path (.file content)) : read first path = read second path := by
  by_cases followable : Followable path
  · rw [read, read, found.status followable, found'.status followable]
  · obtain ⟨trouble, resolves⟩ := resolve_of_not_followable followable
    simp only [read, status, resolves]

/-! ### What is read of what is met -/

/-- What is in a folder that is found is found. -/
theorem Found.of_get? {inner : Entries} {name : String} {node : Node} (found : Found tree path (.folder inner))
    (isFileName : IsFileName name) (isNode : inner.get? name = some node) :
    Found tree (Path.join [path, name]) node := by
  obtain ⟨given, place, leads, isFolder⟩ := found.exists_leads
  exact found_join given isFileName leads ((Entries.find?_append_singleton isFolder).trans isNode)

variable {skips : String → Bool}

/-- Whatever of a folder is not passed over is found in both trees under the folder's path. -/
def FoundInBoth (first second : FileTree) (skips : String → Bool) (path : String) (entries : Entries) : Prop :=
  ∀ {name : String} {node : Node}, IsFileName name → entries.get? name = some node →
    (node.isFolder && skips name) = false →
    Found first (Path.join [path, name]) node ∧ Found second (Path.join [path, name]) node

theorem FoundInBoth.rest {name : String} {node : Node} {rest : Entries}
    (found : FoundInBoth first second skips path (.cons name node rest)) (once : rest.get? name = none) :
    FoundInBoth first second skips path rest := by
  intro other behind isFileName isNode
  exact found isFileName (Entries.get?_cons_of_get?_rest once isNode node)

mutual

theorem Node.found_leaf : ∀ (node : Node) {path : String}, node.IsProper → Found first path node →
    Found second path node → ∀ leaf ∈ node.leaves skips path, leaf.isRegular = true →
      ∃ content, Found first leaf.path (.file content) ∧ Found second leaf.path (.file content)
  | .file content, path, _, found, found', leaf, member, _ => by
    obtain rfl := List.mem_singleton.mp member
    exact ⟨content, found, found'⟩
  | .link target, path, _, _, _, leaf, member, isRegular => by
    obtain rfl := List.mem_singleton.mp member
    exact nomatch isRegular
  | .folder inner, path, proper, found, found', leaf, member, isRegular => by
    have inBoth : FoundInBoth first second skips path inner := fun isFileName isNode _ =>
      ⟨found.of_get? isFileName isNode, found'.of_get? isFileName isNode⟩
    exact Entries.found_leaf inner proper inBoth leaf member isRegular

/-- What a search meets in a folder is in both trees the same file, if what it does not pass over is. -/
theorem Entries.found_leaf : ∀ (entries : Entries) {path : String}, entries.IsProper →
    FoundInBoth first second skips path entries → ∀ leaf ∈ entries.leaves skips path, leaf.isRegular = true →
      ∃ content, Found first leaf.path (.file content) ∧ Found second leaf.path (.file content)
  | .nil, path, _, _, leaf, member, _ => nomatch member
  | .cons name node rest, path, proper, found, leaf, member, isRegular => by
    obtain ⟨isFileName, once, properNode, properRest⟩ := proper
    rw [Entries.leaves, List.mem_append] at member
    rcases member with member | member
    · cases seen : node.isFolder && skips name with
      | true =>
        rw [seen] at member
        exact nomatch member
      | false =>
        rw [seen] at member
        obtain ⟨isFound, isFound'⟩ := found isFileName (if_pos rfl) seen
        exact Node.found_leaf node properNode isFound isFound' leaf member isRegular
    · exact Entries.found_leaf rest properRest (found.rest once) leaf member isRegular

end

/-- So the same is read. -/
theorem Entries.read_leaf {entries : Entries} (proper : entries.IsProper)
    (found : FoundInBoth first second skips path entries) {leaf : Leaf}
    (member : leaf ∈ entries.leaves skips path) (isRegular : leaf.isRegular = true) :
    read first leaf.path = read second leaf.path := by
  obtain ⟨content, isFile, isFile'⟩ := Entries.found_leaf entries proper found leaf member isRegular
  exact read_eq_of_found isFile isFile'

/-! ### Searching a root -/

/-- A search finds paths exactly if its walk comes to its end, and has met nothing if it was told to stop. -/
theorem scan_eq_ok_iff {cancelled : Bool} {root : String} {extensions paths : List String} :
    scan cancelled tree root extensions = .ok paths ↔ ∃ walk, tree.walk root = .ok walk ∧ walk.fault = none ∧
      (cancelled = true → walk.leaves = []) ∧ paths = sorted (chosen extensions walk.leaves) := by
  rw [scan, search]
  cases walks : tree.walk root with
  | error trouble => simp
  | ok walk =>
    by_cases noticed : (cancelled && !walk.leaves.isEmpty) = true
    · simp only [noticed, if_true, reduceCtorEq, Except.ok.injEq, exists_eq_left', false_iff]
      rintro ⟨-, nothing, -⟩
      rw [Bool.and_eq_true] at noticed
      rw [nothing noticed.1] at noticed
      exact nomatch noticed.2
    · have unnoticed : cancelled = true → walk.leaves = [] := by simpa using noticed
      simp only [noticed, Bool.false_eq_true, if_false, Except.ok.injEq, exists_eq_left']
      cases walk.fault with
      | none =>
        rw [Except.ok.injEq, eq_comm]
        exact ⟨fun isSorted => ⟨rfl, unnoticed, isSorted⟩, fun both => both.2.2⟩
      | some fault => simp

section Root

variable {root : String} {place : Place} {entries : Entries}

/-- A search of a root that is reached directly walks through its folder. -/
theorem walk_of_leads (current : IsFolderAt tree.top tree.current)
    (leads : Leads tree.top 0 (tree.start root) (splitText '/' root) place)
    (found : tree.top.find? place = some (.folder entries)) (followable : Followable root) :
    tree.walk root = .ok (entries.walk isSkipped root) := by
  obtain ⟨inner, isFolder, follows⟩ := leads.follow_direct maxLinks false
  obtain rfl := Node.folder.inj (Option.some.inj (found.symm.trans isFolder))
  obtain ⟨_, _, arrives⟩ := Leads.follow_direct (directlyLeads_of_leads current leads) maxLinks true
  have straight : tree.arrivesAt root place = true := by
    rw [arrivesAt]
    rw [start] at arrives
    simp only [arrives, beq_self_eq_true]
  rw [walk, resolve_eq_follow followable, follows]
  simp only [straight, if_true]

/-- A search finds the same in two trees if it meets the same below the root. -/
theorem scan_congr {other : Entries} (current : IsFolderAt first.top first.current)
    (current' : IsFolderAt second.top second.current)
    (leads : Leads first.top 0 (first.start root) (splitText '/' root) place)
    (leads' : Leads second.top 0 (second.start root) (splitText '/' root) place)
    (found : first.top.find? place = some (.folder entries))
    (found' : second.top.find? place = some (.folder other))
    (same : other.walk isSkipped root = entries.walk isSkipped root) (cancelled : Bool)
    (extensions : List String) : scan cancelled second root extensions = scan cancelled first root extensions := by
  by_cases followable : Followable root
  · simp only [scan, search, walk_of_leads current leads found followable,
      walk_of_leads current' leads' found' followable, same]
  · obtain ⟨trouble, resolves⟩ := resolve_of_not_followable followable
    simp only [scan, search, walk, resolves]

/-- What a search finds that has been told to stop, it finds also if it has not. -/
theorem scan_going_of_ok {cancelled : Bool} {extensions paths : List String}
    (finds : scan cancelled tree root extensions = .ok paths) : scan false tree root extensions = .ok paths := by
  obtain ⟨walk, walks, ends, -, isSorted⟩ := scan_eq_ok_iff.mp finds
  exact scan_eq_ok_iff.mpr ⟨walk, walks, ends, nofun, isSorted⟩

theorem mem_sorted_chosen_iff {extensions : List String} {leaves : List Leaf} :
    path ∈ sorted (chosen extensions leaves) ↔
      ⟨path, true⟩ ∈ leaves ∧ Extension.admits extensions path = true := by
  rw [sorted, List.mem_mergeSort, chosen, List.mem_map]
  constructor
  · rintro ⟨⟨_, isRegular⟩, isChosen, rfl⟩
    obtain ⟨isLeaf, admitted⟩ := List.mem_filter.mp isChosen
    obtain ⟨rfl, admitted⟩ := Bool.and_eq_true_iff.mp admitted
    exact ⟨isLeaf, admitted⟩
  · rintro ⟨isLeaf, admitted⟩
    exact ⟨⟨path, true⟩, List.mem_filter.mpr ⟨isLeaf, admitted⟩, rfl⟩

/-- A search finds the regular files that it meets and that have an admitted extension. -/
theorem exists_walk_of_scan {cancelled : Bool} {extensions paths : List String}
    (finds : scan cancelled tree root extensions = .ok paths) :
    ∃ walk, tree.walk root = .ok walk ∧ ∀ path, path ∈ paths ↔
      ⟨path, true⟩ ∈ walk.leaves ∧ Extension.admits extensions path = true := by
  obtain ⟨walk, walks, -, -, rfl⟩ := scan_eq_ok_iff.mp finds
  exact ⟨walk, walks, fun path => mem_sorted_chosen_iff⟩

/-- What a search finds is a regular file that it meets. -/
theorem exists_leaf_of_scan {cancelled : Bool} {extensions paths : List String}
    (current : IsFolderAt tree.top tree.current)
    (leads : Leads tree.top 0 (tree.start root) (splitText '/' root) place)
    (found : tree.top.find? place = some (.folder entries))
    (finds : scan cancelled tree root extensions = .ok paths) (member : path ∈ paths) :
    ∃ leaf ∈ entries.leaves isSkipped root, leaf.isRegular = true ∧ leaf.path = path := by
  obtain ⟨walk, walks, isFound⟩ := exists_walk_of_scan finds
  by_cases followable : Followable root
  · rw [walk_of_leads current leads found followable] at walks
    obtain rfl := Except.ok.inj walks
    exact ⟨⟨path, true⟩, entries.leaves_of_walk ((isFound path).mp member).1, rfl, rfl⟩
  · obtain ⟨trouble, resolves⟩ := resolve_of_not_followable followable
    rw [FileTree.walk, resolves] at walks
    exact nomatch walks

end Root

end Reading

end CodeGauge.FileTree
