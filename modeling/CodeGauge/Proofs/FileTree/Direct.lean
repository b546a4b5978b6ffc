/-
Module: CodeGauge.Proofs.FileTree.Direct
Purpose: Paths that lead to a folder through no link, and their shortest forms.
Main exports:
  FileTree.Leads.of_append, FileTree.Leads.append, FileTree.leads_foldl_push, FileTree.DirectlyLeads,
  FileTree.directlyLeads_of_leads, FileTree.DirectlyLeads.resolve_join, FileTree.waypoints_join,
  FileTree.makeFolder_join
-/
import CodeGauge.Proofs.FileTree.Folders

namespace CodeGauge.FileTree

open CodeGauge.Text

/-!
Through links a path and its shortest form can lead to two places: two points behind a link go to the folder
above the place that the link names.  Where no link is on the way they lead to the same place, since then two
points take back the name before them.  So a path is followed here with no link to spare, and what holds of
the path holds of its elements.
-/

/-! ### Parts of a path -/

section Parts

variable {top : Entries} {here middle place : Place} {way tail : List String} {name : String}

/-- A path without links that goes on leads to a folder at every element. -/
theorem Leads.of_append (start : IsFolderAt top here) (leads : Leads top 0 here (way ++ tail) place) :
    ∃ middle, Leads top 0 here way middle ∧ Leads top 0 middle tail place := by
  induction way generalizing here with
  | nil => exact ⟨here, .arrive start, leads⟩
  | cons element way ih =>
    cases leads with
    | stay point leads =>
      obtain ⟨middle, before, behind⟩ := ih start leads
      exact ⟨middle, .stay point before, behind⟩
    | up leads =>
      obtain ⟨middle, before, behind⟩ := ih start.dropLast leads
      exact ⟨middle, .up before, behind⟩
    | enter isName short folder leads =>
      obtain ⟨middle, before, behind⟩ := ih folder leads
      exact ⟨middle, .enter isName short folder before, behind⟩

/-- A path without links is followed to its folder, whatever is asked of links. -/
theorem Leads.follow_direct (leads : Leads top 0 here way place) (links : Nat) (finalLink : Bool) :
    ∃ inner, top.find? place = some (.folder inner) ∧
      FileTree.follow top finalLink links here way = .ok (.existing place (.folder inner)) := by
  generalize none : 0 = used at leads
  induction leads with
  | arrive folder =>
    obtain ⟨inner, found⟩ := folder
    exact ⟨inner, found, by rw [follow_nil, found]⟩
  | stay point _ ih =>
    rw [follow_stay point]
    exact ih none
  | up _ ih =>
    rw [follow_up]
    exact ih none
  | enter isName short folder _ ih =>
    obtain ⟨inner, found⟩ := folder
    rw [follow_name isName short, found]
    exact ih none
  | through => exact nomatch none

/-- A path that needs no link needs none of those it may go through. -/
theorem Leads.spare (leads : Leads top 0 here way place) (links : Nat) : Leads top links here way place := by
  generalize none : 0 = used at leads
  induction leads with
  | arrive folder => exact .arrive folder
  | stay point _ ih => exact .stay point (ih none)
  | up _ ih => exact .up (ih none)
  | enter isName short folder _ ih => exact .enter isName short folder (ih none)
  | through => exact nomatch none

/-- A path that goes on through no link leads where its second part leads. -/
theorem Leads.append {links : Nat} (leads : Leads top links here way middle)
    (leads' : Leads top 0 middle tail place) : Leads top links here (way ++ tail) place := by
  induction leads with
  | @arrive links => exact leads'.spare links
  | stay point _ ih => exact .stay point (ih leads')
  | up _ ih => exact .up (ih leads')
  | enter isName short folder _ ih => exact .enter isName short folder (ih leads')
  | through isName short link _ ih =>
    exact .through isName short link (List.append_assoc .. ▸ ih leads')

/-- A path that ends with a name leads to the folder of that name. -/
theorem Leads.of_concat_name (isName : IsName name) (start : IsFolderAt top here)
    (leads : Leads top 0 here (way ++ [name]) place) :
    ∃ middle, Leads top 0 here way middle ∧ place = middle ++ [name] := by
  obtain ⟨middle, before, behind⟩ := leads.of_append start
  refine ⟨middle, before, ?_⟩
  cases behind with
  | stay point => exact absurd point isName.noPoint
  | up => exact absurd rfl isName.notUp
  | enter _ _ _ rest =>
    cases rest with
    | arrive => rfl

end Parts

/-! ### The elements of a path -/

section Elements

open CodeGauge.Path

variable {top : Entries} {first place : Place}

/-- Elements as names, from the last one back. -/
def names (kept : List Element) : List String := kept.reverse.map String.ofList

theorem names_cons (element : Element) (kept : List Element) :
    names (element :: kept) = names kept ++ [String.ofList element] := by
  rw [names, List.reverse_cons, List.map_append]
  rfl

theorem isPoint_ofList_iff (element : Element) :
    String.ofList element = "" ∨ String.ofList element = "." ↔ element = [] ∨ element = ['.'] := by
  have empty : "" = String.ofList [] := rfl
  have point : "." = String.ofList ['.'] := rfl
  rw [empty, point, String.ofList_inj, String.ofList_inj]

theorem isUp_ofList_iff (element : Element) : String.ofList element = ".." ↔ element = ['.', '.'] := by
  have up : ".." = String.ofList ['.', '.'] := rfl
  rw [up, String.ofList_inj]

section Kept

variable {rooted : Bool} (isTop : rooted = true → first = []) (start : IsFolderAt top first)
  {kept : List Element} {here : Place} (stacked : Stacked rooted kept)
  (sofar : Leads top 0 first (names kept) here)

include isTop start stacked sofar

/-- A further element moves the kept elements as it moves the path. -/
theorem leads_push {element : Element} {there : Place}
    (moves : Leads top 0 here [String.ofList element] there) :
    Leads top 0 first (names (push rooted kept element)) there := by
  rw [push.eq_def]
  generalize isElement : String.ofList element = name at moves
  cases moves with
  | stay point rest =>
    subst isElement
    cases rest with
    | arrive => rwa [if_pos ((isPoint_ofList_iff element).mp point)]
  | enter isName short folder rest =>
    subst isElement
    cases rest with
    | arrive =>
      rw [if_neg (isName.noPoint ∘ (isPoint_ofList_iff element).mpr),
        if_neg (isName.notUp ∘ (isUp_ofList_iff element).mpr), names_cons]
      exact sofar.append (.enter isName short folder (.arrive folder))
  | up rest =>
    obtain rfl := (isUp_ofList_iff element).mp isElement
    cases rest with
    | arrive folder =>
      have upAbove : Leads top 0 first (names (['.', '.'] :: kept)) here.dropLast := by
        rw [names_cons]
        exact sofar.append (.up (.arrive folder))
      rw [if_neg (by simp), if_pos rfl]
      cases kept with
      | nil =>
        cases rooted with
        | false => exact upAbove
        | true =>
          obtain rfl := isTop rfl
          cases sofar with
          | arrive folder => exact .arrive folder
      | cons last others =>
        dsimp only
        split
        · exact upAbove
        · next apart =>
          have isName : IsName (String.ofList last) :=
            ⟨stacked.2.1 ∘ (isPoint_ofList_iff last).mp, apart ∘ (isUp_ofList_iff last).mp⟩
          rw [names_cons] at sofar
          obtain ⟨middle, before, rfl⟩ := sofar.of_concat_name isName start
          rwa [List.dropLast_concat]

/-- The shortest path leads where the path leads: the elements kept so far lead to where the path has come. -/
theorem leads_foldl_push {way : List Element} (noSlash : ∀ element ∈ way, '/' ∉ element)
    (leads : Leads top 0 here (way.map String.ofList) place) :
    Leads top 0 first (names (way.foldl (push rooted) kept)) place := by
  induction way generalizing kept here with
  | nil =>
    cases leads with
    | arrive => exact sofar
  | cons element way ih =>
    have isWay : (element :: way).map String.ofList = [String.ofList element] ++ way.map String.ofList := rfl
    rw [isWay] at leads
    obtain ⟨there, moves, rest⟩ := leads.of_append sofar.isFolderAt
    have next := stacked_push stacked (noSlash element List.mem_cons_self)
    apply ih next (leads_push isTop start stacked sofar moves) _ rest
    intro other member
    exact noSlash other (List.mem_cons_of_mem element member)

end Kept

end Elements

/-! ### Shortest forms -/

/-- The elements of a path lead to a place, and no link is on the way. -/
def DirectlyLeads (tree : FileTree) (path : String) (place : Place) : Prop :=
  Leads tree.top 0 (tree.start path) ((Path.elements path).map String.ofList) place

section Shortest

variable {tree : FileTree} {path : String} {place : Place}

/-- A path that goes through no link leads where its elements lead. -/
theorem directlyLeads_of_leads (current : IsFolderAt tree.top tree.current)
    (leads : Leads tree.top 0 (tree.start path) (splitText '/' path) place) : DirectlyLeads tree path place := by
  have start := isFolderAt_start current path
  have isTop : Path.isRooted path = true → tree.start path = [] := fun rooted => by
    rw [FileTree.start, if_pos rooted]
  have nothing : Path.Stacked (Path.isRooted path) [] := trivial
  have reached := leads_foldl_push isTop start nothing (.arrive start)
    (fun _ member => not_mem_of_mem_split member) leads
  rwa [names] at reached

theorem DirectlyLeads.isFolderAt (leads : DirectlyLeads tree path place) : IsFolderAt tree.top place :=
  Leads.isFolderAt leads

theorem DirectlyLeads.of_keeps {after : FileTree} (keeps : Keeps tree after)
    (leads : DirectlyLeads tree path place) : DirectlyLeads after path place := by
  rw [DirectlyLeads, keeps.start]
  exact Leads.of_keeps keeps leads

/-! ### One more name -/

section Joined

variable {name : String} (plain : Path.PlainName name.toList) (given : path ≠ "")

include plain given

theorem join_name_eq :
    Path.join [path, name] = Path.clean (String.ofList (path.toList ++ '/' :: name.toList)) := by
  have some : name ≠ "" := fun empty => plain.noPoint (Or.inl (by rw [empty]; rfl))
  simp [Path.join, given, some, Text.join]

theorem join_name_ne_empty : Path.join [path, name] ≠ "" := by
  rw [join_name_eq plain given, Path.clean]
  intro empty
  split at empty
  · exact absurd (String.toList_inj.mpr empty) (by simp)
  · split at empty
    · exact absurd empty (by decide)
    · next some => exact some (by simpa using congrArg String.toList empty)

theorem isRooted_join_name : Path.isRooted (Path.join [path, name]) = Path.isRooted path := by
  rw [join_name_eq plain given, Path.isRooted_clean, Path.isRooted_append (by simpa using given),
    String.ofList_toList]

theorem elements_join_name : Path.elements (Path.join [path, name]) = Path.elements path ++ [name.toList] := by
  rw [join_name_eq plain given, Path.elements_clean, Path.elements_append_name plain (by simpa using given),
    String.ofList_toList]

theorem start_join_name : tree.start (Path.join [path, name]) = tree.start path := by
  rw [FileTree.start, FileTree.start, isRooted_join_name plain given]

/-- A path joined with a name is cut into the elements of the path and the name, behind an empty piece if it
is rooted. -/
theorem splitText_join_name : splitText '/' (Path.join [path, name]) =
    (if Path.isRooted path then [""] else []) ++ (Path.elements path).map String.ofList ++ [name] := by
  obtain ⟨pieces, parts, same⟩ :=
    Path.split_clean (String.ofList (path.toList ++ '/' :: name.toList))
  have isElements := elements_join_name plain given
  rw [join_name_eq plain given, Path.elements_clean] at isElements
  obtain rfl : pieces = Path.elements path ++ [name.toList] := by
    rcases same with rfl | ⟨none, -⟩
    · exact isElements
    · rw [none] at isElements
      exact absurd isElements.symm (by simp)
  rw [splitText, join_name_eq plain given, parts, Path.isRooted_append (by simpa using given),
    String.ofList_toList]
  split <;> simp

theorem exists_splitText_join (leads : DirectlyLeads tree path place) : ∃ front,
    splitText '/' (Path.join [path, name]) = front ++ [name] ∧
      Leads tree.top 0 (tree.start (Path.join [path, name])) front place := by
  refine ⟨_, splitText_join_name plain given, ?_⟩
  rw [start_join_name plain given]
  split
  · exact .stay (Or.inl rfl) leads
  · exact leads

theorem DirectlyLeads.join (leads : DirectlyLeads tree path place)
    (short : ¬ maxName < name.utf8ByteSize) (folder : IsFolderAt tree.top (place ++ [name])) :
    DirectlyLeads tree (Path.join [path, name]) (place ++ [name]) := by
  rw [DirectlyLeads, start_join_name plain given, elements_join_name plain given, List.map_append,
    List.map_singleton, String.ofList_toList]
  exact Leads.append leads (.enter (isName_of_plainName plain) short folder (.arrive folder))

/-- A path joined with a name is followed by looking for the name where the path leads. -/
theorem DirectlyLeads.resolve_join (leads : DirectlyLeads tree path place)
    (followable : Followable (Path.join [path, name])) (finalLink : Bool) : ∃ links,
    tree.resolve finalLink (Path.join [path, name]) = follow tree.top finalLink links place [name] := by
  obtain ⟨front, parts, reached⟩ := exists_splitText_join plain given leads
  rw [resolve_eq_follow followable, parts]
  exact (reached.spare maxLinks).follow_append finalLink (by simp)

end Joined

end Shortest

/-! ### Folders on the way -/

theorem mem_beginnings_iff {α : Type} {beginning whole : List α} :
    beginning ∈ beginnings whole ↔ beginning ≠ [] ∧ beginning <+: whole := by
  induction whole generalizing beginning with
  | nil => simp [beginnings]
  | cons a rest ih =>
    cases beginning with
    | nil => simp [beginnings]
    | cons b others =>
      cases others with
      | nil => simp [beginnings, ih, List.cons_prefix_cons, eq_comm]
      | cons c others => simp [beginnings, ih, List.cons_prefix_cons, and_comm, eq_comm]

theorem beginnings_concat {α : Type} (whole : List α) (last : α) :
    beginnings (whole ++ [last]) = beginnings whole ++ [whole ++ [last]] := by
  induction whole with
  | nil => rfl
  | cons a rest ih => simp [beginnings, ih]

/-- The folders on the way to a path with one more name are those on the way to the path and, last, the path
with the name. -/
theorem waypoints_join {path name : String} (plain : Path.PlainName name.toList) (given : path ≠ "") :
    waypoints (Path.join [path, name]) = waypoints path ++ [Path.join [path, name]] := by
  have isElements := elements_join_name plain given
  have text := Path.toList_clean isElements fun empty => plain.noPoint (Or.inl empty)
  rw [waypoints, waypoints, isElements, beginnings_concat, List.map_append, isRooted_join_name plain given]
  congr 1
  rw [List.map_singleton, List.singleton_inj, ← String.toList_inj]
  conv_rhs => rw [join_name_eq plain given, ← Path.clean_clean, ← join_name_eq plain given, text,
    isRooted_join_name plain given]
  cases Path.isRooted path <;> simp

section Way

variable {tree : FileTree} {path : String} {place : Place}

/-- No link is on the way to the folders on a path that leads directly. -/
theorem leads_of_mem_waypoints (current : IsFolderAt tree.top tree.current)
    (leads : DirectlyLeads tree path place) {point : String} (member : point ∈ waypoints path) :
    ∃ middle, Leads tree.top maxLinks (tree.start point) (splitText '/' point) middle := by
  obtain ⟨beginning, isBeginning, rfl⟩ := List.mem_map.mp member
  obtain ⟨some, behind, whole⟩ := mem_beginnings_iff.mp isBeginning
  have proper : ∀ element ∈ beginning, '/' ∉ element ∧ ¬(element = [] ∨ element = ['.']) := fun element inside =>
    Path.proper_of_mem_elements (whole ▸ List.mem_append_left behind inside)
  have pieces := split_join some fun element inside => (proper element inside).1
  rw [DirectlyLeads, ← whole, List.map_append] at leads
  obtain ⟨middle, before, -⟩ := leads.of_append (isFolderAt_start current path)
  have reached := before.spare maxLinks
  refine ⟨middle, ?_⟩
  cases rooted : Path.isRooted path with
  | true =>
    rw [start, if_pos rooted] at reached
    have isTop : tree.start (String.ofList ('/' :: Text.join ['/'] beginning)) = [] := by
      rw [start, if_pos (by simp [Path.isRooted])]
    simp only [if_true]
    rw [isTop, splitText, String.toList_ofList, split, if_pos rfl, pieces, List.map_cons]
    exact .stay (Or.inl rfl) reached
  | false =>
    rw [start, if_neg (by simp [rooted])] at reached
    have isCurrent : tree.start (String.ofList (Text.join ['/'] beginning)) = tree.current := by
      rw [start, if_neg]
      have first := Path.head?_join_of_proper proper
      simpa [Path.isRooted] using first
    simp only [Bool.false_eq_true, if_false]
    rwa [isCurrent, splitText, String.toList_ofList, pieces]

/-- A path that cannot be followed resolves to nothing, and to the same trouble in all trees. -/
theorem resolve_of_not_followable (notFollowable : ¬ Followable path) :
    ∃ trouble, ∀ (tree : FileTree) (finalLink : Bool), tree.resolve finalLink path = .error trouble := by
  by_cases given : path.isEmpty = true
  · exact ⟨.missing, fun _ _ => if_pos given⟩
  by_cases isPath : path.toList.contains (Char.ofNat 0) = true
  · exact ⟨.notPath, fun _ _ => by rw [resolve, if_neg given, if_pos isPath]⟩
  by_cases short : maxPath < path.utf8ByteSize
  · exact ⟨.nameTooLong, fun _ _ => by rw [resolve, if_neg given, if_neg isPath, if_pos short]⟩
  · exact absurd ⟨by simpa using given, by simpa using isPath, short⟩ notFollowable

theorem makeFolder_of_not_followable (notFollowable : ¬ Followable path) :
    ∃ fault, tree.makeFolder path = .error fault := by
  obtain ⟨trouble, resolves⟩ := resolve_of_not_followable notFollowable
  exact ⟨failing "mkdir" path trouble.message, by simp only [makeFolder, status, resolves]⟩

theorem makeEach_append (tree : FileTree) (front behind : List String) :
    makeEach tree (front ++ behind) =
      match makeEach tree front with
      | (.ok _, made) => makeEach made behind
      | (.error fault, made) => (.error fault, made) := by
  induction front generalizing tree with
  | nil => rfl
  | cons path front ih =>
    rw [List.cons_append, makeEach, makeEach]
    cases tree.makeFolder path with
    | error fault => rfl
    | ok made => exact ih made

/-- Making folders that are there changes nothing, and fails only at a path that cannot be followed. -/
theorem makeEach_of_leads {points : List String} (leads : ∀ point ∈ points,
    ∃ middle, Leads tree.top maxLinks (tree.start point) (splitText '/' point) middle) :
    makeEach tree points = (.ok (), tree) ∨
      (∃ fault, makeEach tree points = (.error fault, tree)) ∧ ∃ point ∈ points, ¬ Followable point := by
  induction points with
  | nil => exact Or.inl rfl
  | cons point points ih =>
    rw [makeEach]
    by_cases followable : Followable point
    · rw [makeFolder_of_leadsTo ⟨followable, leads point List.mem_cons_self⟩]
      rcases ih fun other member => leads other (List.mem_cons_of_mem point member) with
        makes | ⟨fails, other, member, apart⟩
      · exact Or.inl makes
      · exact Or.inr ⟨fails, other, List.mem_cons_of_mem point member, apart⟩
    · obtain ⟨fault, fails⟩ := @makeFolder_of_not_followable tree point followable
      rw [fails]
      exact Or.inr ⟨⟨fault, rfl⟩, point, List.mem_cons_self, followable⟩

/-- Making the folder of a name in a folder that is reached directly, where nothing or a folder has the name:
the folder is there, or it is put there, or the path of the name cannot be followed. -/
theorem makeFolder_join {name : String} (plain : Path.PlainName name.toList) (given : path ≠ "")
    (short : ¬ maxName < name.utf8ByteSize) (leads : DirectlyLeads tree path place)
    (free : tree.top.find? (place ++ [name]) = none ∨ IsFolderAt tree.top (place ++ [name])) :
    (IsFolderAt tree.top (place ++ [name]) ∧ tree.makeFolder (Path.join [path, name]) = .ok tree) ∨
      (tree.top.find? (place ++ [name]) = none ∧ tree.makeFolder (Path.join [path, name]) =
        .ok (tree.putAt (place ++ [name]) (.folder .nil))) ∨
      ¬ Followable (Path.join [path, name]) := by
  by_cases followable : Followable (Path.join [path, name])
  · rcases free with nothing | folder
    · have resolves : ∀ finalLink, tree.resolve finalLink (Path.join [path, name]) =
          .ok (.vacant (place ++ [name])) := by
        intro finalLink
        obtain ⟨links, follows⟩ := leads.resolve_join plain given followable finalLink
        rw [follows, follow_name (isName_of_plainName plain) short, nothing]
        rfl
      exact Or.inr (Or.inl ⟨nothing, by simp only [makeFolder, status, resolves]⟩)
    · obtain ⟨front, parts, reached⟩ := exists_splitText_join plain given leads
      have entered := reached.append (.enter (isName_of_plainName plain) short folder (.arrive folder))
      rw [← parts] at entered
      exact Or.inl ⟨folder, makeFolder_of_leadsTo ⟨followable, _, entered.spare maxLinks⟩⟩
  · exact Or.inr (Or.inr followable)

end Way

end CodeGauge.FileTree
