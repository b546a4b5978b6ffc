/-
Module: CodeGauge.Proofs.FileTree.Folders
Purpose: Making the folders on the way to a path takes nothing away, and changes nothing where they are
  there.
Main exports:
  FileTree.Keeps, FileTree.Leads.of_keeps, FileTree.LeadsTo, FileTree.makeEach_spec,
  FileTree.makeEach_of_leadsTo
-/
import CodeGauge.Proofs.FileTree.WorkPath

namespace CodeGauge.FileTree

open CodeGauge.Text Entries

/-!
A folder is made at a place at which nothing is, so all folders and links of the tree stay, and every path
that led to a folder still does.  The paths of which folders were made lead to them from then on; so making
them a second time finds them all and changes nothing.
-/

/-! ### Names of one folder -/

section Names

variable {tree : FileTree} {folder : Place} {name : String} (isFolder : IsFolderAt tree.top folder)

include isFolder

theorem find?_putAt (node : Node) (other : String) :
    (tree.putAt (folder ++ [name]) node).top.find? (folder ++ [other]) =
      if other = name then some node else tree.top.find? (folder ++ [other]) := by
  obtain ⟨inner, found⟩ := isFolder
  rw [putAt, put_eq_updateAt found, find?_append_singleton (find?_updateAt found _),
    find?_append_singleton found]
  split
  · next same =>
    subst same
    exact get?_set_self other node inner
  · next apart => exact get?_set_of_ne apart node inner

theorem find?_remove (other : String) :
    (tree.top.remove (folder ++ [name])).find? (folder ++ [other]) =
      if other = name then none else tree.top.find? (folder ++ [other]) := by
  obtain ⟨inner, found⟩ := isFolder
  rw [remove_eq_updateAt found, find?_append_singleton (find?_updateAt found _),
    find?_append_singleton found]
  split
  · next same =>
    subst same
    exact get?_erase_self other inner
  · next apart => exact get?_erase_of_ne apart inner

end Names

/-! ### Trees that keep the folders and links of another one -/

/-- All folders and links of a tree are also in another one. -/
structure Keeps (first second : FileTree) : Prop where
  current : second.current = first.current
  folders : ∀ {place : Place}, IsFolderAt first.top place → IsFolderAt second.top place
  links : ∀ {place : Place} {target : String},
    first.top.find? place = some (.link target) → second.top.find? place = some (.link target)

theorem Keeps.refl (tree : FileTree) : Keeps tree tree := ⟨rfl, id, id⟩

theorem Keeps.trans {first second third : FileTree} (keeps : Keeps first second) (keeps' : Keeps second third) :
    Keeps first third where
  current := keeps'.current.trans keeps.current
  folders folder := keeps'.folders (keeps.folders folder)
  links link := keeps'.links (keeps.links link)

/-- A change at one place at which no folder and no link is keeps all of them. -/
theorem keeps_of_agreeBut {first second : FileTree} {changed : Place}
    (agree : AgreeBut changed second.top first.top) (sameCurrent : second.current = first.current)
    (noFolder : ¬ IsFolderAt first.top changed)
    (noLink : ∀ target, first.top.find? changed ≠ some (.link target)) : Keeps first second where
  current := sameCurrent
  folders folder := agree.symm.isFolderAt (fun same => noFolder (same ▸ folder)) folder
  links link := agree.symm.find?_eq_some (fun same => noLink _ (same ▸ link)) rfl link

theorem Leads.of_keeps {first second : FileTree} (keeps : Keeps first second) {links : Nat} {here place : Place}
    {way : List String} (leads : Leads first.top links here way place) :
    Leads second.top links here way place := by
  induction leads with
  | arrive folder => exact .arrive (keeps.folders folder)
  | stay point _ ih => exact .stay point ih
  | up _ ih => exact .up ih
  | enter name short folder _ ih => exact .enter name short (keeps.folders folder) ih
  | through name short link _ ih => exact .through name short (keeps.links link) ih

theorem Keeps.start {first second : FileTree} (keeps : Keeps first second) (path : String) :
    second.start path = first.start path := by
  rw [FileTree.start, FileTree.start, keeps.current]

/-! ### Places at which nothing is -/

/-- A path that ends at a name which its folder does not have.  The path leads to every folder that is put
there. -/
structure EndsVacant (tree : FileTree) (links : Nat) (here : Place) (way : List String) (place : Place) :
    Prop where
  above : ∃ folder name, place = folder ++ [name] ∧ IsFolderAt tree.top folder
  nothing : tree.top.find? place = none
  leads : ∀ {made : FileTree}, Keeps tree made → IsFolderAt made.top place →
    Leads made.top links here way place

theorem endsVacant_of_follow {tree : FileTree} {finalLink : Bool} {links : Nat} {here place : Place}
    {way : List String} (follows : follow tree.top finalLink links here way = .ok (.vacant place))
    (start : IsFolderAt tree.top here) : EndsVacant tree links here way place := by
  -- the links left decrease, and between two links the elements of the path
  induction links using Nat.strongRecOn generalizing here way with
  | ind links ihLinks =>
  induction way generalizing here with
  | nil =>
    obtain ⟨inner, found⟩ := start
    rw [follow_nil, found] at follows
    exact nomatch follows
  | cons element way ih =>
    by_cases point : element = "" ∨ element = "."
    · rw [follow_stay point] at follows
      obtain ⟨above, nothing, leads⟩ := ih follows start
      exact ⟨above, nothing, fun keeps folder => .stay point (leads keeps folder)⟩
    by_cases isUp : element = ".."
    · subst isUp
      rw [follow_up] at follows
      obtain ⟨above, nothing, leads⟩ := ih follows start.dropLast
      exact ⟨above, nothing, fun keeps folder => .up (leads keeps folder)⟩
    have name : IsName element := ⟨point, isUp⟩
    by_cases long : maxName < element.utf8ByteSize
    · rw [follow_long name long] at follows
      exact nomatch follows
    rw [follow_name name long] at follows
    cases found : tree.top.find? (here ++ [element]) with
    | none =>
      rw [found] at follows
      cases way with
      | nil =>
        obtain rfl : here ++ [element] = place := by simpa using follows
        exact ⟨⟨here, element, rfl, start⟩, found, fun _ folder => .enter name long folder (.arrive folder)⟩
      | cons _ _ => exact nomatch follows
    | some node =>
      rw [found] at follows
      cases node with
      | folder inner =>
        obtain ⟨above, nothing, leads⟩ := ih follows ⟨inner, found⟩
        exact ⟨above, nothing, fun keeps folder =>
          .enter name long (keeps.folders ⟨inner, found⟩) (leads keeps folder)⟩
      | file content =>
        dsimp only at follows
        split at follows <;> exact nomatch follows
      | link target =>
        dsimp only at follows
        split at follows
        · exact nomatch follows
        cases links with
        | zero => exact nomatch follows
        | succ left =>
          obtain ⟨above, nothing, leads⟩ :=
            ihLinks left (Nat.lt_succ_self left) follows (isFolderAt_linkStart found)
          exact ⟨above, nothing, fun keeps folder =>
            .through name long (keeps.links found) (leads keeps folder)⟩

/-- A folder that is put where nothing is takes nothing away. -/
theorem EndsVacant.keeps_putAt {tree : FileTree} {links : Nat} {here place : Place} {way : List String}
    (ends : EndsVacant tree links here way place) : Keeps tree (tree.putAt place (.folder .nil)) := by
  obtain ⟨⟨folder, name, rfl, inner, found⟩, nothing, -⟩ := ends
  refine keeps_of_agreeBut (agreeBut_put_empty found nothing) rfl ?_ ?_
  · rintro ⟨below, isFolder⟩
    rw [nothing] at isFolder
    exact nomatch isFolder
  · intro target isLink
    rw [nothing] at isLink
    exact nomatch isLink

theorem EndsVacant.isFolderAt_putAt {tree : FileTree} {links : Nat} {here place : Place} {way : List String}
    (ends : EndsVacant tree links here way place) : IsFolderAt (tree.putAt place (.folder .nil)).top place := by
  obtain ⟨⟨folder, name, rfl, inner, found⟩, -, -⟩ := ends
  exact ⟨.nil, find?_put_self found _⟩

/-! ### Making folders -/

/-- A path leads to a folder. -/
def LeadsTo (tree : FileTree) (path : String) : Prop :=
  Followable path ∧ ∃ place, Leads tree.top maxLinks (tree.start path) (splitText '/' path) place

theorem LeadsTo.of_keeps {first second : FileTree} (keeps : Keeps first second) {path : String}
    (leadsTo : LeadsTo first path) : LeadsTo second path := by
  obtain ⟨followable, place, leads⟩ := leadsTo
  refine ⟨followable, place, ?_⟩
  rw [keeps.start]
  exact leads.of_keeps keeps

theorem LeadsTo.status {tree : FileTree} {path : String} (leadsTo : LeadsTo tree path) :
    ∃ entries, tree.status true path = .ok (.folder entries) := by
  obtain ⟨followable, place, leads⟩ := leadsTo
  obtain ⟨entries, follows⟩ := leads.follow
  refine ⟨entries, ?_⟩
  rw [FileTree.status, resolve_eq_follow followable, follows]

theorem isFolderAt_start {tree : FileTree} (current : IsFolderAt tree.top tree.current) (path : String) :
    IsFolderAt tree.top (tree.start path) := by
  rw [start]
  split
  · exact isFolderAt_nil tree.top
  · exact current

theorem leadsTo_of_status {tree : FileTree} (current : IsFolderAt tree.top tree.current) {path : String}
    {entries : Entries} (isFolder : tree.status true path = .ok (.folder entries)) : LeadsTo tree path := by
  rw [status] at isFolder
  split at isFolder
  · next place node resolves =>
    obtain rfl := Except.ok.inj isFolder
    have followable := followable_of_resolve resolves
    rw [resolve_eq_follow followable, ← List.append_nil (splitText '/' path)] at resolves
    exact ⟨followable, exists_leads resolves (Or.inl (isFolderAt_start current path))
      (Or.inr ⟨rfl, place, entries, rfl⟩)⟩
  · cases isFolder
  · cases isFolder

theorem makeFolder_of_leadsTo {tree : FileTree} {path : String} (leadsTo : LeadsTo tree path) :
    tree.makeFolder path = .ok tree := by
  obtain ⟨entries, isFolder⟩ := leadsTo.status
  rw [makeFolder, isFolder]

/-- Making a folder finds it or puts one where nothing is. -/
theorem makeFolder_cases {tree made : FileTree} (current : IsFolderAt tree.top tree.current) {path : String}
    (makes : tree.makeFolder path = .ok made) :
    (made = tree ∧ LeadsTo tree path) ∨ ∃ place, made = tree.putAt place (.folder .nil) ∧ Followable path ∧
      EndsVacant tree maxLinks (tree.start path) (splitText '/' path) place := by
  rw [makeFolder] at makes
  split at makes
  · next entries isFolder =>
    exact Or.inl ⟨(Except.ok.inj makes).symm, leadsTo_of_status current isFolder⟩
  · exact nomatch makes
  split at makes
  · next place resolves =>
    have followable := followable_of_resolve resolves
    rw [resolve_eq_follow followable] at resolves
    exact Or.inr ⟨place, (Except.ok.inj makes).symm, followable,
      endsVacant_of_follow resolves (isFolderAt_start current path)⟩
  · exact nomatch makes
  · exact nomatch makes

/-- Making a folder takes nothing away, and its path leads to it. -/
theorem makeFolder_spec {tree made : FileTree} (current : IsFolderAt tree.top tree.current) {path : String}
    (makes : tree.makeFolder path = .ok made) : Keeps tree made ∧ LeadsTo made path := by
  rcases makeFolder_cases current makes with ⟨rfl, leadsTo⟩ | ⟨place, rfl, followable, ends⟩
  · exact ⟨.refl made, leadsTo⟩
  · have keeps := ends.keeps_putAt
    refine ⟨keeps, followable, place, ?_⟩
    rw [keeps.start]
    exact ends.leads keeps ends.isFolderAt_putAt

theorem makeEach_spec {tree made : FileTree} (current : IsFolderAt tree.top tree.current) {paths : List String}
    (makes : makeEach tree paths = (.ok (), made)) :
    Keeps tree made ∧ ∀ path ∈ paths, LeadsTo made path := by
  induction paths generalizing tree with
  | nil =>
    obtain rfl : tree = made := (Prod.mk.inj makes).2
    exact ⟨.refl tree, by simp⟩
  | cons path paths ih =>
    rw [makeEach] at makes
    split at makes
    · exact nomatch makes
    next next isNext =>
    obtain ⟨keeps, leadsTo⟩ := makeFolder_spec current isNext
    have current' : IsFolderAt next.top next.current := by
      rw [keeps.current]
      exact keeps.folders current
    obtain ⟨keeps', leadTo⟩ := ih current' makes
    refine ⟨keeps.trans keeps', ?_⟩
    intro other member
    rcases List.mem_cons.mp member with rfl | member
    · exact leadsTo.of_keeps keeps'
    · exact leadTo other member

theorem makeEach_of_leadsTo {tree : FileTree} {paths : List String}
    (leadTo : ∀ path ∈ paths, LeadsTo tree path) : makeEach tree paths = (.ok (), tree) := by
  induction paths with
  | nil => rfl
  | cons path paths ih =>
    rw [makeEach, makeFolder_of_leadsTo (leadTo path List.mem_cons_self)]
    exact ih fun other member => leadTo other (List.mem_cons_of_mem path member)

end CodeGauge.FileTree
