/-
Module: CodeGauge.Proofs.FileTree.Resolve
Purpose: What a change at one place of a file tree does to the paths that are followed in it.
Main exports:
  Entries.AgreeBut, Entries.agreeBut_put, Entries.agreeBut_remove, FileTree.Leads,
  FileTree.Leads.follow_append, FileTree.exists_leads, FileTree.Leads.of_agreeBut
-/
import CodeGauge.FileTree.Change

namespace CodeGauge.FileTree

open CodeGauge.Text

/-!
Following a path looks at every place on its way, and asks only whether there is a folder, a file, a link
or nothing.  Two trees that agree in this at all places but one lead a path to the same folder, as long as
no link stands at that one place.
-/

/-- A node without what is in it. -/
def Node.outline : Node → Node
  | .folder _ => .folder .nil
  | node => node

/-- Two nodes with one outline are the same unless they are folders. -/
theorem Node.eq_of_outline_eq {first second : Node} (same : first.outline = second.outline)
    (plain : second.isFolder = false) : first = second := by
  cases second with
  | folder inner => exact nomatch plain
  | file content =>
    cases first with
    | folder inner => exact nomatch same
    | file other => exact same
    | link target => exact nomatch same
  | link target =>
    cases first with
    | folder inner => exact nomatch same
    | file content => exact nomatch same
    | link other => exact same

namespace Entries

/-! ### Entries of a folder -/

theorem get?_set_self (name : String) (node : Node) (entries : Entries) :
    (entries.set name node).get? name = some node := by
  fun_induction set name node entries with
  | case1 => simp [get?]
  | case2 => simp [get?]
  | case3 => simp [get?]
  | case4 other old rest apart above ih => rw [get?, if_neg apart, ih]

theorem get?_set_of_ne {name other : String} (apart : other ≠ name) (node : Node) (entries : Entries) :
    (entries.set name node).get? other = entries.get? other := by
  fun_induction set name node entries with
  | case1 => simp [get?, apart]
  | case2 old rest => simp [get?, apart]
  | case3 => simp [get?, apart]
  | case4 third old rest _ _ ih => rw [get?, get?, ih]

theorem get?_erase_self (name : String) (entries : Entries) : (entries.erase name).get? name = none := by
  fun_induction erase name entries with
  | case1 => rfl
  | case2 node rest ih => exact ih
  | case3 other node rest apart ih => rw [get?, if_neg apart, ih]

theorem get?_erase_of_ne {name other : String} (apart : other ≠ name) (entries : Entries) :
    (entries.erase name).get? other = entries.get? other := by
  fun_induction erase name entries with
  | case1 => rfl
  | case2 node rest ih => rw [ih, get?, if_neg apart]
  | case3 third node rest _ ih => rw [get?, get?, ih]

/-! ### Places -/

/-- There is a folder at a place whose first name is a folder in which the rest of the place is one. -/
theorem find?_cons_folder {top : Entries} {name : String} {place : Place} {inner : Entries} :
    top.find? (name :: place) = some (.folder inner) ↔
      ∃ middle, top.get? name = some (.folder middle) ∧ middle.find? place = some (.folder inner) := by
  rw [find?]
  cases top.get? name with
  | none => simp
  | some node => cases node <;> simp

/-- What is below a place is found from the folder that is there. -/
theorem find?_append {top inner : Entries} {place : Place} (found : top.find? place = some (.folder inner))
    (below : Place) : top.find? (place ++ below) = inner.find? below := by
  induction place generalizing top with
  | nil =>
    obtain rfl := Node.folder.inj (Option.some.inj found)
    rfl
  | cons name place ih =>
    obtain ⟨middle, isMiddle, found⟩ := find?_cons_folder.mp found
    rw [List.cons_append, find?, isMiddle]
    exact ih found

/-- Above a place at which something is there is a folder. -/
theorem exists_folder_above {top : Entries} {place below : Place} {node : Node} (deep : below ≠ [])
    (found : top.find? (place ++ below) = some node) : ∃ inner, top.find? place = some (.folder inner) := by
  induction place generalizing top with
  | nil => exact ⟨top, rfl⟩
  | cons first place ih =>
    rw [List.cons_append, find?] at found
    split at found
    · next middle isMiddle =>
      obtain ⟨inner, isInner⟩ := ih found
      exact ⟨inner, find?_cons_folder.mpr ⟨middle, isMiddle, isInner⟩⟩
    · rw [if_neg (by simp [deep])] at found
      exact absurd found (by simp)
    · exact absurd found (by simp)

/-- Change the entries of the folder at a place. -/
def updateAt (change : Entries → Entries) : Place → Entries → Entries
  | [], entries => change entries
  | name :: place, entries =>
    match entries.get? name with
    | some (.folder inner) => entries.set name (.folder (inner.updateAt change place))
    | _ => entries

theorem put_eq_updateAt {top inner : Entries} {place : Place} (found : top.find? place = some (.folder inner))
    (name : String) (node : Node) :
    top.put node (place ++ [name]) = top.updateAt (·.set name node) place := by
  induction place generalizing top with
  | nil => rfl
  | cons first place ih =>
    obtain ⟨middle, isMiddle, found⟩ := find?_cons_folder.mp found
    rw [List.cons_append, put, updateAt, isMiddle, folder, isMiddle, ih found]
    simp

theorem remove_eq_updateAt {top inner : Entries} {place : Place}
    (found : top.find? place = some (.folder inner)) (name : String) :
    top.remove (place ++ [name]) = top.updateAt (·.erase name) place := by
  induction place generalizing top with
  | nil => rfl
  | cons first place ih =>
    obtain ⟨middle, isMiddle, found⟩ := find?_cons_folder.mp found
    rw [List.cons_append, remove, updateAt, isMiddle]
    · simp only [ih found]
    · simp

theorem find?_updateAt {top inner : Entries} {place : Place} (found : top.find? place = some (.folder inner))
    (change : Entries → Entries) :
    (top.updateAt change place).find? place = some (.folder (change inner)) := by
  induction place generalizing top with
  | nil =>
    obtain rfl := Node.folder.inj (Option.some.inj found)
    rfl
  | cons name place ih =>
    obtain ⟨middle, isMiddle, found⟩ := find?_cons_folder.mp found
    rw [updateAt, isMiddle, find?_cons_folder]
    exact ⟨_, get?_set_self .., ih found⟩

/-- Changing the entries of one folder leaves all places that are not below it as they are, but for the
entries of the folders above. -/
theorem outline_find?_updateAt {place other : Place} (apart : ¬place <+: other) (change : Entries → Entries)
    (top : Entries) :
    ((top.updateAt change place).find? other).map Node.outline = (top.find? other).map Node.outline := by
  induction place generalizing top other with
  | nil => exact absurd (List.nil_prefix) apart
  | cons name place ih =>
    cases other with
    | nil => rfl
    | cons first other =>
      rw [updateAt]
      split
      · next inner isInner =>
        rw [find?, find?]
        by_cases same : first = name
        · subst same
          rw [get?_set_self, isInner]
          exact ih (fun below => apart (List.cons_prefix_cons.mpr ⟨rfl, below⟩)) inner
        · rw [get?_set_of_ne same]
      · rfl

/-- Nothing is below a name that is no folder. -/
theorem find?_cons_of_not_folder {entries : Entries} {name : String} {below : Place}
    (plain : ∀ inner, entries.get? name ≠ some (.folder inner)) (deep : below ≠ []) :
    entries.find? (name :: below) = none := by
  rw [find?]
  split
  · next inner isInner => exact absurd isInner (plain inner)
  · rw [if_neg (by simpa using deep)]
  · rfl

theorem set_set (name : String) (first second : Node) (entries : Entries) :
    (entries.set name first).set name second = entries.set name second := by
  fun_induction set name first entries with
  | case1 => simp [set]
  | case2 => simp [set]
  | case3 other old rest apart above => simp [set, apart, above]
  | case4 other old rest apart above ih => simp [set, apart, above, ih]

theorem folder_set_self (name : String) (inner entries : Entries) :
    (entries.set name (.folder inner)).folder name = inner := by
  rw [folder, get?_set_self]

theorem put_put (first second : Node) (place : Place) (top : Entries) :
    (top.put first place).put second place = top.put second place := by
  fun_induction put first place top with
  | case1 => rfl
  | case2 name entries => exact set_set ..
  | case3 name place entries more ih =>
    cases place with
    | nil => exact absurd rfl more
    | cons below place => simp only [put, folder_set_self, set_set, ih]

/-- Two trees have folders at the same places, and the same files and links, but perhaps for one place. -/
def AgreeBut (place : Place) (first second : Entries) : Prop :=
  ∀ other ≠ place, (first.find? other).map Node.outline = (second.find? other).map Node.outline

theorem AgreeBut.symm {place : Place} {first second : Entries} (agree : AgreeBut place first second) :
    AgreeBut place second first := fun other apart => (agree other apart).symm

theorem AgreeBut.trans {place : Place} {first second third : Entries} (agree : AgreeBut place first second)
    (agree' : AgreeBut place second third) : AgreeBut place first third :=
  fun other apart => (agree other apart).trans (agree' other apart)

section Change

variable {top inner : Entries} {place : Place} {name : String}
  (found : top.find? place = some (.folder inner))
  (plain : ∀ below, top.find? (place ++ [name]) ≠ some (.folder below))

include found

theorem find?_append_singleton : top.find? (place ++ [name]) = inner.get? name := by
  rw [find?_append found, find?]
  cases inner.get? name with
  | none => rfl
  | some node => cases node <;> rfl

/-- Changing one name of a folder, below which nothing is before and after, changes one place. -/
theorem agreeBut_updateAt_of_bare {change : Entries → Entries}
    (kept : ∀ other, other ≠ name → (change inner).get? other = inner.get? other)
    (bare : ∀ below ≠ [], inner.find? (name :: below) = none)
    (bare' : ∀ below ≠ [], (change inner).find? (name :: below) = none) :
    AgreeBut (place ++ [name]) (top.updateAt change place) top := by
  intro other apart
  by_cases below : place <+: other
  · obtain ⟨rest, rfl⟩ := below
    rw [find?_append (find?_updateAt found change), find?_append found]
    cases rest with
    | nil => rfl
    | cons first rest =>
      by_cases same : first = name
      · subst same
        have deep : rest ≠ [] := fun none => apart (by rw [none])
        rw [bare rest deep, bare' rest deep]
      · rw [find?, find?, kept first same]
  · exact outline_find?_updateAt below change top

/-- Putting a folder without entries where nothing is changes one place. -/
theorem agreeBut_put_empty (vacant : top.find? (place ++ [name]) = none) :
    AgreeBut (place ++ [name]) (top.put (.folder .nil) (place ++ [name])) top := by
  rw [find?_append_singleton found] at vacant
  rw [put_eq_updateAt found]
  refine agreeBut_updateAt_of_bare found (fun _ apart => get?_set_of_ne apart ..) ?_ ?_
  · intro below _
    rw [find?, vacant]
  · intro below deep
    rw [find?, get?_set_self]
    cases below with
    | nil => exact absurd rfl deep
    | cons _ _ => rfl

include plain

/-- Changing one name of a folder, which is no folder before and after, changes one place. -/
theorem agreeBut_updateAt {change : Entries → Entries}
    (kept : ∀ other, other ≠ name → (change inner).get? other = inner.get? other)
    (plain' : ∀ below, (change inner).get? name ≠ some (.folder below)) :
    AgreeBut (place ++ [name]) (top.updateAt change place) top := by
  have plainInner : ∀ below, inner.get? name ≠ some (.folder below) := by
    rwa [find?_append_singleton found] at plain
  exact agreeBut_updateAt_of_bare found kept (fun _ => find?_cons_of_not_folder plainInner)
    fun _ => find?_cons_of_not_folder plain'

theorem agreeBut_put (node : Node) (isPlain : ∀ below, node ≠ .folder below) :
    AgreeBut (place ++ [name]) (top.put node (place ++ [name])) top := by
  rw [put_eq_updateAt found]
  refine agreeBut_updateAt found plain (fun _ apart => get?_set_of_ne apart ..) fun below => ?_
  rw [get?_set_self]
  exact fun folder => isPlain below (Option.some.inj folder)

theorem agreeBut_remove : AgreeBut (place ++ [name]) (top.remove (place ++ [name])) top := by
  rw [remove_eq_updateAt found]
  refine agreeBut_updateAt found plain (fun _ apart => get?_erase_of_ne apart _) fun below => ?_
  rw [get?_erase_self]
  exact Option.some_ne_none _ ∘ Eq.symm

omit plain

theorem find?_put_self (node : Node) :
    (top.put node (place ++ [name])).find? (place ++ [name]) = some node := by
  rw [put_eq_updateAt found, find?_append_singleton (find?_updateAt found _), get?_set_self]

theorem find?_remove_self : (top.remove (place ++ [name])).find? (place ++ [name]) = none := by
  rw [remove_eq_updateAt found, find?_append_singleton (find?_updateAt found _), get?_erase_self]

end Change

end Entries

open Entries

/-! ### Following a path -/

/-- There is a folder at a place. -/
def IsFolderAt (top : Entries) (place : Place) : Prop := ∃ inner, top.find? place = some (.folder inner)

theorem isFolderAt_nil (top : Entries) : IsFolderAt top [] := ⟨top, rfl⟩

theorem IsFolderAt.dropLast {top : Entries} {place : Place} (folder : IsFolderAt top place) :
    IsFolderAt top place.dropLast := by
  rcases List.eq_nil_or_concat place with rfl | ⟨above, name, rfl⟩
  · exact folder
  · obtain ⟨inner, found⟩ := folder
    rw [List.concat_eq_append] at found ⊢
    rw [List.dropLast_concat]
    exact exists_folder_above (List.cons_ne_nil name []) found

/-- A path element that is a name of its own. -/
structure IsName (element : String) : Prop where
  noPoint : ¬(element = "" ∨ element = ".")
  notUp : element ≠ ".."

/-- Where a link starts: from the top if its target is rooted, else from its folder. -/
def linkStart (here : Place) (target : String) : Place := if Path.isRooted target then [] else here

/-- A path leads from a folder to another one, links at its end included. -/
inductive Leads (top : Entries) : Nat → Place → List String → Place → Prop
  | arrive {links : Nat} {here : Place} (folder : IsFolderAt top here) : Leads top links here [] here
  | stay {links : Nat} {here place : Place} {element : String} {way : List String}
      (point : element = "" ∨ element = ".") (leads : Leads top links here way place) :
      Leads top links here (element :: way) place
  | up {links : Nat} {here place : Place} {way : List String}
      (leads : Leads top links here.dropLast way place) : Leads top links here (".." :: way) place
  | enter {links : Nat} {here place : Place} {element : String} {way : List String} (name : IsName element)
      (short : ¬maxName < element.utf8ByteSize) (folder : IsFolderAt top (here ++ [element]))
      (leads : Leads top links (here ++ [element]) way place) : Leads top links here (element :: way) place
  | through {links : Nat} {here place : Place} {element target : String} {way : List String}
      (name : IsName element) (short : ¬maxName < element.utf8ByteSize)
      (link : top.find? (here ++ [element]) = some (.link target))
      (leads : Leads top links (linkStart here target) (splitText '/' target ++ way) place) :
      Leads top (links + 1) here (element :: way) place

section Following

variable {top : Entries} {links : Nat} {here place : Place} {way : List String}

theorem Leads.isFolderAt (leads : Leads top links here way place) : IsFolderAt top place := by
  induction leads with
  | arrive folder => exact folder
  | stay _ _ ih => exact ih
  | up _ ih => exact ih
  | enter _ _ _ _ ih => exact ih
  | through _ _ _ _ ih => exact ih

theorem follow_nil (finalLink : Bool) : follow top finalLink links here [] =
    match top.find? here with
    | some node => .ok (.existing here node)
    | none => .error .missing := by
  cases links <;> rfl

theorem follow_stay {element : String} (point : element = "" ∨ element = ".") (finalLink : Bool) :
    follow top finalLink links here (element :: way) = follow top finalLink links here way := by
  cases links <;> exact if_pos point

theorem follow_up (finalLink : Bool) :
    follow top finalLink links here (".." :: way) = follow top finalLink links here.dropLast way := by
  cases links <;> rfl

theorem follow_long {element : String} (name : IsName element) (long : maxName < element.utf8ByteSize)
    (finalLink : Bool) : follow top finalLink links here (element :: way) = .error .nameTooLong := by
  cases links <;> simp only [follow, followTo, if_neg name.noPoint, if_neg name.notUp, if_pos long]

theorem follow_name {element : String} (name : IsName element) (short : ¬maxName < element.utf8ByteSize)
    (finalLink : Bool) : follow top finalLink links here (element :: way) =
      match top.find? (here ++ [element]) with
      | none => if way.isEmpty then .ok (.vacant (here ++ [element])) else .error .missing
      | some (.folder _) => follow top finalLink links (here ++ [element]) way
      | some (.file content) =>
        if way.isEmpty then .ok (.existing (here ++ [element]) (.file content)) else .error .notFolder
      | some (.link target) =>
        if way.isEmpty && !finalLink then .ok (.existing (here ++ [element]) (.link target))
        else
          match links with
          | 0 => .error .tooManyLinks
          | links + 1 =>
            follow top finalLink links (linkStart here target) (splitText '/' target ++ way) := by
  cases links <;> exact (if_neg name.noPoint).trans ((if_neg name.notUp).trans (if_neg short))

/-- Following a name enters a folder, goes through a link, or ends there, at no folder behind a link. -/
theorem follow_name_cases {element : String} (name : IsName element) {finalLink : Bool}
    {destination : Destination}
    (follows : follow top finalLink links here (element :: way) = .ok destination) :
    ¬maxName < element.utf8ByteSize ∧
    ((∃ inner, top.find? (here ++ [element]) = some (.folder inner) ∧
        follow top finalLink links (here ++ [element]) way = .ok destination) ∨
      (∃ target left, top.find? (here ++ [element]) = some (.link target) ∧ links = left + 1 ∧
        follow top finalLink left (linkStart here target) (splitText '/' target ++ way)
          = .ok destination) ∨
      way = [] ∧ (finalLink = true → ∀ place inner, destination ≠ .existing place (.folder inner))) := by
  by_cases long : maxName < element.utf8ByteSize
  · rw [follow_long name long] at follows
    exact absurd follows (by simp)
  refine ⟨long, ?_⟩
  rw [follow_name name long] at follows
  split at follows
  case h_1 =>
    split at follows
    · next last =>
      obtain rfl := Except.ok.inj follows
      exact Or.inr (Or.inr ⟨List.isEmpty_iff.mp last, by simp⟩)
    · exact absurd follows (by simp)
  case h_2 inner found => exact Or.inl ⟨inner, found, follows⟩
  case h_3 content found =>
    split at follows
    · next last =>
      obtain rfl := Except.ok.inj follows
      exact Or.inr (Or.inr ⟨List.isEmpty_iff.mp last, by simp⟩)
    · exact absurd follows (by simp)
  case h_4 target found =>
    split at follows
    · next last =>
      rw [Bool.and_eq_true, List.isEmpty_iff] at last
      exact Or.inr (Or.inr ⟨last.1, fun final => by simp [final] at last⟩)
    split at follows
    · exact absurd follows (by simp)
    · next left => exact Or.inr (Or.inl ⟨target, left, found, rfl, follows⟩)

/-- A link is followed from a folder. -/
theorem isFolderAt_linkStart {element target : String}
    (link : top.find? (here ++ [element]) = some (.link target)) :
    IsFolderAt top (linkStart here target) := by
  rw [linkStart]
  split
  · exact isFolderAt_nil top
  · exact exists_folder_above (List.cons_ne_nil element []) link

/-- What is followed behind a folder that a path leads to is followed from that folder. -/
theorem Leads.follow_append (leads : Leads top links here way place) (finalLink : Bool) {tail : List String}
    (more : tail ≠ []) :
    ∃ left, follow top finalLink links here (way ++ tail) = follow top finalLink left place tail := by
  have some : ∀ way : List String, (way ++ tail).isEmpty = false := by simp [more]
  induction leads with
  | @arrive links => exact ⟨links, rfl⟩
  | stay point _ ih =>
    rw [List.cons_append, follow_stay point]
    exact ih
  | up _ ih =>
    rw [List.cons_append, follow_up]
    exact ih
  | enter name short folder _ ih =>
    obtain ⟨inner, found⟩ := folder
    rw [List.cons_append, follow_name name short, found]
    exact ih
  | through name short link _ ih =>
    rw [List.cons_append, follow_name name short, link, some]
    simpa using ih

theorem Leads.follow (leads : Leads top links here way place) :
    ∃ inner, follow top true links here way = .ok (.existing place (.folder inner)) := by
  induction leads with
  | arrive folder =>
    obtain ⟨inner, found⟩ := folder
    exact ⟨inner, by rw [follow_nil, found]⟩
  | stay point _ ih => rwa [follow_stay point]
  | up _ ih => rwa [follow_up]
  | enter name short folder _ ih =>
    obtain ⟨inner, found⟩ := folder
    rwa [follow_name name short, found]
  | through name short link _ ih =>
    rw [follow_name name short, link]
    simpa using ih

theorem Leads.unique {other : Place} (leads : Leads top links here way place)
    (leads' : Leads top links here way other) : place = other := by
  obtain ⟨_, follows⟩ := leads.follow
  obtain ⟨_, follows'⟩ := leads'.follow
  rw [follows] at follows'
  simp only [Except.ok.injEq, Destination.existing.injEq] at follows'
  exact follows'.1

/-- A path that can be followed on, or whose end is a folder, leads to a folder. -/
theorem exists_leads {finalLink : Bool} {tail : List String} {destination : Destination}
    (follows : FileTree.follow top finalLink links here (way ++ tail) = .ok destination)
    (start : IsFolderAt top here ∨ ∃ element ∈ way, IsName element)
    (goesOn : tail ≠ [] ∨ finalLink = true ∧ ∃ place inner, destination = .existing place (.folder inner)) :
    ∃ place, Leads top links here way place := by
  -- the links left decrease, and between two links the elements of the path
  induction links using Nat.strongRecOn generalizing here way with
  | ind links ihLinks =>
  induction way generalizing here with
  | nil => exact ⟨here, .arrive (start.resolve_right (by simp))⟩
  | cons element way ih =>
    rw [List.cons_append] at follows
    by_cases point : element = "" ∨ element = "."
    · rw [follow_stay point] at follows
      have startBehind : IsFolderAt top here ∨ ∃ element ∈ way, IsName element := by
        refine start.imp_right fun ⟨other, member, name⟩ => ⟨other, ?_, name⟩
        exact (List.mem_cons.mp member).resolve_left fun same => name.noPoint (same ▸ point)
      obtain ⟨place, leads⟩ := ih follows startBehind
      exact ⟨place, .stay point leads⟩
    by_cases isUp : element = ".."
    · subst isUp
      rw [follow_up] at follows
      have startBehind : IsFolderAt top here.dropLast ∨ ∃ element ∈ way, IsName element := by
        refine start.imp IsFolderAt.dropLast fun ⟨other, member, name⟩ => ⟨other, ?_, name⟩
        exact (List.mem_cons.mp member).resolve_left fun same => name.notUp same
      obtain ⟨place, leads⟩ := ih follows startBehind
      exact ⟨place, .up leads⟩
    have name : IsName element := ⟨point, isUp⟩
    obtain ⟨short, ⟨inner, found, entered⟩ | ⟨target, left, link, rfl, through⟩ | ⟨last, plain⟩⟩ :=
      follow_name_cases name follows
    · obtain ⟨place, leads⟩ := ih entered (Or.inl ⟨inner, found⟩)
      exact ⟨place, .enter name short ⟨inner, found⟩ leads⟩
    · rw [← List.append_assoc] at through
      obtain ⟨place, leads⟩ := ihLinks left (by omega) through (Or.inl (isFolderAt_linkStart link))
      exact ⟨place, .through name short link leads⟩
    · obtain ⟨final, place, inner, isFolder⟩ :=
        goesOn.resolve_left (fun more => more (List.append_eq_nil_iff.mp last).2)
      exact absurd isFolder (plain final place inner)

/-- A path that is followed to a folder leads to it. -/
theorem leads_of_follow {inner : Entries}
    (follows : FileTree.follow top true links here way = .ok (.existing place (.folder inner))) :
    Leads top links here way place ∧ top.find? place = some (.folder inner) := by
  induction links using Nat.strongRecOn generalizing here way with
  | ind links ihLinks =>
  induction way generalizing here with
  | nil =>
    rw [follow_nil] at follows
    split at follows
    · next node found =>
      simp only [Except.ok.injEq, Destination.existing.injEq] at follows
      obtain ⟨rfl, rfl⟩ := follows
      exact ⟨.arrive ⟨inner, found⟩, found⟩
    · exact nomatch follows
  | cons element way ih =>
    by_cases point : element = "" ∨ element = "."
    · rw [follow_stay point] at follows
      exact (ih follows).imp_left (.stay point)
    by_cases isUp : element = ".."
    · subst isUp
      rw [follow_up] at follows
      exact (ih follows).imp_left .up
    have name : IsName element := ⟨point, isUp⟩
    obtain ⟨short, ⟨middle, found, entered⟩ | ⟨target, left, link, rfl, through⟩ | ⟨last, plain⟩⟩ :=
      follow_name_cases name follows
    · exact (ih entered).imp_left (.enter name short ⟨middle, found⟩)
    · exact (ihLinks left (Nat.lt_succ_self left) through).imp_left (.through name short link)
    · exact absurd rfl (plain rfl place inner)

end Following

section Agreement

variable {first second : Entries} {changed other : Place}

theorem Entries.AgreeBut.isFolderAt (agree : AgreeBut changed first second) (apart : other ≠ changed)
    (folder : IsFolderAt first other) : IsFolderAt second other := by
  obtain ⟨inner, found⟩ := folder
  have same := agree other apart
  rw [found] at same
  obtain ⟨node, isNode, isFolder⟩ := Option.map_eq_some_iff.mp same.symm
  cases node with
  | folder inner => exact ⟨inner, isNode⟩
  | file content => exact absurd isFolder (by simp [Node.outline])
  | link target => exact absurd isFolder (by simp [Node.outline])

/-- A file or a link elsewhere is the same. -/
theorem Entries.AgreeBut.find?_eq_some (agree : AgreeBut changed first second) (apart : other ≠ changed)
    {node : Node} (plain : node.isFolder = false) (found : first.find? other = some node) :
    second.find? other = some node := by
  have same := agree other apart
  rw [found] at same
  obtain ⟨node', isNode, sameOutline⟩ := Option.map_eq_some_iff.mp same.symm
  rw [isNode, Node.eq_of_outline_eq sameOutline plain]

/-- A path that leads to a folder of one tree leads to it in every tree that agrees with the first one but
for a place, if no link and no folder is there in the first one. -/
theorem Leads.of_agreeBut (agree : AgreeBut changed first second) (noFolder : ¬IsFolderAt first changed)
    (noLink : ∀ target, first.find? changed ≠ some (.link target)) {links : Nat} {here place : Place}
    {way : List String} (leads : Leads first links here way place) : Leads second links here way place := by
  have folders : ∀ {other : Place}, IsFolderAt first other → IsFolderAt second other := fun folder =>
    agree.isFolderAt (fun same => noFolder (same ▸ folder)) folder
  induction leads with
  | arrive folder => exact .arrive (folders folder)
  | stay point _ ih => exact .stay point ih
  | up _ ih => exact .up ih
  | enter name short folder _ ih => exact .enter name short (folders folder) ih
  | through name short link _ ih =>
    exact .through name short (agree.find?_eq_some (fun same => noLink _ (same ▸ link)) rfl link) ih

end Agreement

end CodeGauge.FileTree
