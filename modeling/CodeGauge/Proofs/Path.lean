/-
Module: CodeGauge.Proofs.Path
Purpose: Shortest paths: with one more name, cut at their slashes, and shortened again.
Main exports:
  Text.split_append_cons, Text.split_join, Path.PlainName, Path.elements_append_name, Path.toList_clean,
  Path.Stacked, Path.split_clean, Path.elements_clean
-/
import CodeGauge.Path

namespace CodeGauge

namespace Text

variable {α : Type} {separator : α}

theorem join_append_singleton {pieces : List (List α)} (some : pieces ≠ []) (piece : List α) :
    join [separator] (pieces ++ [piece]) = join [separator] pieces ++ separator :: piece := by
  induction pieces with
  | nil => exact absurd rfl some
  | cons first pieces ih =>
    cases pieces with
    | nil => simp [join]
    | cons second pieces =>
      rw [List.cons_append, List.cons_append, join, join, ← List.cons_append, ih (by simp)]
      simp

variable [DecidableEq α]

/-- A list is cut at a separator in the middle of it. -/
theorem split_append_cons (front behind : List α) :
    split separator (front ++ separator :: behind) = split separator front ++ split separator behind := by
  induction front with
  | nil => simp [split]
  | cons c front ih =>
    rw [List.cons_append, split, split]
    split
    · rw [ih, List.cons_append]
    · cases found : split separator front with
      | nil => exact absurd found (split_ne_nil separator front)
      | cons piece pieces => rw [ih, found, List.cons_append]; rfl

/-- A list without separators is not cut. -/
theorem split_of_not_mem {cs : List α} (whole : separator ∉ cs) : split separator cs = [cs] := by
  induction cs with
  | nil => rfl
  | cons c cs ih =>
    rw [List.mem_cons, not_or] at whole
    rw [split, if_neg (Ne.symm whole.1), ih whole.2]

theorem not_mem_of_mem_split {cs piece : List α} (member : piece ∈ split separator cs) :
    separator ∉ piece := by
  induction cs generalizing piece with
  | nil =>
    obtain rfl := List.mem_singleton.mp member
    exact List.not_mem_nil
  | cons c cs ih =>
    rw [split] at member
    split at member
    · rcases List.mem_cons.mp member with rfl | member
      · exact List.not_mem_nil
      · exact ih member
    next other =>
    cases found : split separator cs with
    | nil => exact absurd found (split_ne_nil separator cs)
    | cons first pieces =>
      rw [found] at member ih
      rcases List.mem_cons.mp member with rfl | member
      · intro inside
        rcases List.mem_cons.mp inside with same | inside
        · exact other same.symm
        · exact ih List.mem_cons_self inside
      · exact ih (List.mem_cons_of_mem first member)

/-- Joining pieces and cutting them apart again gives the pieces. -/
theorem split_join {pieces : List (List α)} (some : pieces ≠ [])
    (whole : ∀ piece ∈ pieces, separator ∉ piece) : split separator (join [separator] pieces) = pieces := by
  induction pieces with
  | nil => exact absurd rfl some
  | cons first pieces ih =>
    have firstWhole := whole first List.mem_cons_self
    cases pieces with
    | nil => exact split_of_not_mem firstWhole
    | cons second pieces =>
      rw [join, List.append_assoc, List.singleton_append, split_append_cons, split_of_not_mem firstWhole,
        ih (List.cons_ne_nil second pieces) fun piece member => whole piece (List.mem_cons_of_mem first member),
        List.singleton_append]

end Text

namespace Path

open CodeGauge.Text

/-- An element that every path with it keeps. -/
structure PlainName (name : Element) : Prop where
  noSlash : '/' ∉ name
  noPoint : ¬(name = [] ∨ name = ['.'])
  notUp : name ≠ ['.', '.']

section OneMoreName

variable {name : Element} (plain : PlainName name) {path : List Char} (some : path ≠ [])

include some

theorem isRooted_append (more : List Char) :
    isRooted (String.ofList (path ++ more)) = isRooted (String.ofList path) := by
  cases path with
  | nil => exact absurd rfl some
  | cons c path => simp [isRooted]

include plain

theorem elements_append_name :
    elements (String.ofList (path ++ '/' :: name)) = elements (String.ofList path) ++ [name] := by
  have pushed : ∀ rooted kept, push rooted kept name = name :: kept := fun rooted kept => by
    simp only [push, if_neg plain.noPoint, if_neg plain.notUp]
  rw [elements, elements, isRooted_append some, String.toList_ofList, String.toList_ofList,
    split_append_cons, split_of_not_mem plain.noSlash, List.foldl_append, List.foldl_cons, List.foldl_nil,
    pushed, List.reverse_cons]

omit plain some

/-- The shortest path is its elements with slashes between them, behind a slash if it is rooted. -/
theorem toList_clean {path : String} {above : List Element} (isElements : elements path = above ++ [name])
    (nonempty : name ≠ []) :
    (clean path).toList = (if isRooted path then ['/'] else []) ++ Text.join ['/'] (above ++ [name]) := by
  have some : Text.join ['/'] (above ++ [name]) ≠ [] := by
    cases above with
    | nil => exact nonempty
    | cons first above =>
      rw [join_append_singleton (List.cons_ne_nil first above)]
      simp
  rw [clean, isElements]
  split
  · simp
  · simp [some]

end OneMoreName

/-! ### Shortest paths -/

/-- Elements that are kept on the way to the shortest path, the last one first: none of them could be left
out, and steps up are only at the bottom, and not on a rooted path. -/
def Stacked (rooted : Bool) : List Element → Prop
  | [] => True
  | element :: kept =>
      '/' ∉ element ∧ ¬(element = [] ∨ element = ['.']) ∧
        (element = ['.', '.'] → rooted = false ∧ ∀ other ∈ kept, other = ['.', '.']) ∧ Stacked rooted kept

theorem stacked_push {rooted : Bool} {kept : List Element} (stacked : Stacked rooted kept)
    {element : Element} (noSlash : '/' ∉ element) : Stacked rooted (push rooted kept element) := by
  unfold push
  split
  · exact stacked
  next proper =>
  split
  · next isUp =>
    subst isUp
    cases kept with
    | nil =>
      dsimp only
      split
      · exact stacked
      · next unrooted => exact ⟨noSlash, proper, fun _ => ⟨by simpa using unrooted, by simp⟩, stacked⟩
    | cons last others =>
      dsimp only
      split
      · next isUp =>
        subst isUp
        obtain ⟨unrooted, allUp⟩ := stacked.2.2.1 rfl
        refine ⟨noSlash, proper, fun _ => ⟨unrooted, ?_⟩, stacked⟩
        intro other member
        rcases List.mem_cons.mp member with rfl | member
        · rfl
        · exact allUp other member
      · exact stacked.2.2.2
  · next name => exact ⟨noSlash, proper, fun isUp => absurd isUp name, stacked⟩

theorem stacked_foldl_push {rooted : Bool} {kept : List Element} (stacked : Stacked rooted kept)
    {way : List Element} (noSlash : ∀ element ∈ way, '/' ∉ element) :
    Stacked rooted (way.foldl (push rooted) kept) := by
  induction way generalizing kept with
  | nil => exact stacked
  | cons element way ih =>
    apply ih (stacked_push stacked (noSlash element List.mem_cons_self))
    intro other member
    exact noSlash other (List.mem_cons_of_mem element member)

theorem stacked_elements (path : String) : Stacked (isRooted path) (elements path).reverse := by
  rw [elements, List.reverse_reverse]
  have nothing : Stacked (isRooted path) [] := trivial
  apply stacked_foldl_push nothing
  intro element member
  exact not_mem_of_mem_split member

/-- Elements that are kept are kept again. -/
theorem foldl_push_of_stacked {rooted : Bool} {kept : List Element} (stacked : Stacked rooted kept) :
    kept.reverse.foldl (push rooted) [] = kept := by
  induction kept with
  | nil => rfl
  | cons element kept ih =>
    obtain ⟨-, proper, ups, rest⟩ := stacked
    rw [List.reverse_cons, List.foldl_append, ih rest, List.foldl_cons, List.foldl_nil]
    unfold push
    rw [if_neg proper]
    split
    · next isUp =>
      obtain ⟨unrooted, allUp⟩ := ups isUp
      cases kept with
      | nil => simp [unrooted]
      | cons last others => simp [allUp last List.mem_cons_self]
    · rfl

theorem proper_of_stacked {rooted : Bool} {kept : List Element} (stacked : Stacked rooted kept) :
    ∀ element ∈ kept, '/' ∉ element ∧ ¬(element = [] ∨ element = ['.']) := by
  induction kept with
  | nil => simp
  | cons element kept ih =>
    intro other member
    rcases List.mem_cons.mp member with rfl | member
    · exact ⟨stacked.1, stacked.2.1⟩
    · exact ih stacked.2.2.2 other member

theorem proper_of_mem_elements {path : String} {element : Element} (member : element ∈ elements path) :
    '/' ∉ element ∧ ¬(element = [] ∨ element = ['.']) :=
  proper_of_stacked (stacked_elements path) element (List.mem_reverse.mpr member)

/-- Elements that are joined do not begin with a slash. -/
theorem head?_join_of_proper {pieces : List Element}
    (proper : ∀ element ∈ pieces, '/' ∉ element ∧ ¬(element = [] ∨ element = ['.'])) :
    (Text.join ['/'] pieces).head? ≠ some '/' := by
  cases pieces with
  | nil => simp [Text.join]
  | cons first rest =>
    obtain ⟨noSlash, proper⟩ := proper first List.mem_cons_self
    cases first with
    | nil => exact absurd (Or.inl rfl) proper
    | cons c first =>
      have other : c ≠ '/' := fun same => noSlash (same ▸ List.mem_cons_self)
      cases rest with
      | nil => simpa [Text.join] using other
      | cons second rest => simpa [Text.join] using other

theorem isRooted_clean (path : String) : isRooted (clean path) = isRooted path := by
  cases rooted : isRooted path with
  | true =>
    rw [clean, rooted, if_pos rfl]
    simp [isRooted]
  | false =>
    rw [clean, rooted, if_neg (by decide)]
    split
    · rfl
    · have first := head?_join_of_proper fun element inside => @proper_of_mem_elements path element inside
      simpa [isRooted] using first

/-- The shortest form of a path, cut at its slashes: an empty piece if the path is rooted, and then the
elements, or a piece without meaning if there are none. -/
theorem split_clean (path : String) : ∃ pieces,
    split '/' (clean path).toList = (if isRooted path then [[]] else []) ++ pieces ∧
      (pieces = elements path ∨ elements path = [] ∧ (pieces = [[]] ∨ pieces = [['.']])) := by
  by_cases none : elements path = []
  · cases rooted : isRooted path with
    | true => exact ⟨[[]], by simp [clean, none, rooted, Text.join, split], Or.inr ⟨none, by simp⟩⟩
    | false => exact ⟨[['.']], by simp [clean, none, rooted, Text.join, split], Or.inr ⟨none, by simp⟩⟩
  · have parts := split_join none fun element member => (proper_of_mem_elements member).1
    have some : Text.join ['/'] (elements path) ≠ [] := by
      intro empty
      rw [empty] at parts
      have member : [] ∈ elements path := parts ▸ List.mem_singleton_self []
      exact (proper_of_mem_elements member).2 (Or.inl rfl)
    refine ⟨elements path, ?_, Or.inl rfl⟩
    rw [clean]
    split
    · rw [String.toList_ofList, split, if_pos rfl, parts, List.singleton_append]
    · rw [if_neg (by simpa using some), String.toList_ofList, parts, List.nil_append]

theorem elements_clean (path : String) : elements (clean path) = elements path := by
  have again := foldl_push_of_stacked (stacked_elements path)
  rw [List.reverse_reverse] at again
  obtain ⟨pieces, parts, same⟩ := split_clean path
  have kept : (split '/' (clean path).toList).foldl (push (isRooted path)) [] =
      (elements path).foldl (push (isRooted path)) [] := by
    rw [parts]
    rcases same with rfl | ⟨none, rfl | rfl⟩
    · cases isRooted path <;> rfl
    · rw [none]
      cases isRooted path <;> rfl
    · rw [none]
      cases isRooted path <;> rfl
  rw [elements, isRooted_clean, kept, again, List.reverse_reverse]

/-- The last element of a path has no characters but those of the path, a point or a slash. -/
theorem mem_base {path : String} {c : Char} (member : c ∈ (base path).toList) :
    c ∈ path.toList ∨ c = '.' ∨ c = '/' := by
  unfold base at member
  split at member
  · simp at member
    exact Or.inr (Or.inl member)
  · dsimp only at member
    split at member
    · simp at member
      exact Or.inr (Or.inr member)
    · rw [String.toList_ofList, lastElement, List.mem_reverse] at member
      have stripped := List.mem_reverse.1 ((List.takeWhile_sublist _).mem member)
      have trimmed := (List.dropWhile_sublist _).mem (List.mem_reverse.1 stripped)
      exact Or.inl (List.mem_reverse.1 trimmed)

/-- The shortest form of a path is its own shortest form. -/
theorem clean_clean (path : String) : clean (clean path) = clean path := by
  rw [clean, elements_clean, isRooted_clean]
  rfl

end Path

end CodeGauge
