/-
Module: CodeGauge.Proofs.Render.Registry
Purpose: A lookup finds what was registered last under a name, and the list does not depend on the order in
  which the registered things are visited.
Main exports:
  Registry.IsLast, Registry.mem_entries_ofSlots, Registry.find?_eq_some_iff, Registry.pairwise_sorted,
  Registry.eq_sorted, Registry.lookup_and_listing
-/
import CodeGauge.Proofs.Text.Trim
import CodeGauge.Render.Registry
import Mathlib.Data.List.Induction
import Mathlib.Data.List.Pairwise
import Mathlib.Data.List.Perm.Basic
import Mathlib.Order.Basic

namespace CodeGauge.Render

open CodeGauge.Text

namespace Registry

variable {α : Type} {r : Registry α} {slots : List (Option (Bytes × α))} {e : Bytes × α}

/-! ### Registering -/

/-- It is in one of the slots, and in none behind is something whose name is equal to its name in lower
case. -/
def IsLast (slots : List (Option (Bytes × α))) (e : Bytes × α) : Prop :=
  ∃ before behind, slots = before ++ some e :: behind ∧
    ∀ later, some later ∈ behind → lowerBytes later.1 ≠ lowerBytes e.1

theorem not_isLast_nil : ¬ IsLast [] e := by
  rintro ⟨before, behind, split, -⟩
  simp at split

/-- The last slot is where the thing is, or it holds nothing that replaces it. -/
theorem isLast_concat {slot : Option (Bytes × α)} : IsLast (slots ++ [slot]) e ↔
    IsLast slots e ∧ (∀ last, slot = some last → lowerBytes last.1 ≠ lowerBytes e.1) ∨ slot = some e := by
  constructor
  · rintro ⟨before, behind, split, apart⟩
    rcases behind.eq_nil_or_concat' with rfl | ⟨behind, last, rfl⟩
    · exact Or.inr (List.singleton_inj.1 (List.append_inj_right' split rfl))
    · rw [← List.cons_append, ← List.append_assoc] at split
      obtain ⟨rfl, single⟩ := List.append_inj' split rfl
      obtain rfl := List.singleton_inj.1 single
      refine Or.inl ⟨⟨before, behind, rfl, fun later member => ?_⟩, fun last isLast => ?_⟩
      · exact apart later (List.mem_append_left _ member)
      · exact apart last (by simp [isLast])
  · rintro (⟨⟨before, behind, rfl, apart⟩, other⟩ | rfl)
    · refine ⟨before, behind ++ [slot], by simp, fun later member => ?_⟩
      rcases List.mem_append.1 member with inside | atEnd
      · exact apart later inside
      · exact other later (List.mem_singleton.1 atEnd).symm
    · exact ⟨slots, [], rfl, by simp⟩

/-- Registered is what no slot behind replaces. -/
theorem mem_entries_ofSlots : e ∈ (ofSlots slots).entries ↔ IsLast slots e := by
  induction slots using List.reverseRecOn with
  | nil => exact iff_of_false List.not_mem_nil not_isLast_nil
  | append_singleton slots slot ih =>
      rw [ofSlots, List.foldl_append, List.foldl_cons, List.foldl_nil, ← ofSlots, isLast_concat]
      cases slot with
      | none => simp [registerSlot, ih]
      | some last => simp [registerSlot, register, mem_besides, ih, eq_comm]

/-- For whatever is in a slot, something is last under its name. -/
theorem exists_isLast (member : some e ∈ slots) :
    ∃ last, IsLast slots last ∧ lowerBytes last.1 = lowerBytes e.1 := by
  induction slots using List.reverseRecOn with
  | nil => cases member
  | append_singleton slots slot ih =>
      by_cases replaced : ∃ last, slot = some last ∧ lowerBytes last.1 = lowerBytes e.1
      · obtain ⟨last, rfl, same⟩ := replaced
        exact ⟨last, isLast_concat.2 (Or.inr rfl), same⟩
      · have earlier : some e ∈ slots := (List.mem_append.1 member).resolve_right
          fun atEnd => replaced ⟨e, (List.mem_singleton.1 atEnd).symm, rfl⟩
        obtain ⟨last, isLast, same⟩ := ih earlier
        refine ⟨last, isLast_concat.2 (Or.inl ⟨isLast, fun other found equal => ?_⟩), same⟩
        exact replaced ⟨other, found, equal.trans same⟩

/-! ### Looking up -/

/-- No two registered things have names that are equal in lower case. -/
theorem eq_of_lowerBytes {e e' : Bytes × α} (member : e ∈ r.entries) (member' : e' ∈ r.entries)
    (same : lowerBytes e.1 = lowerBytes e'.1) : e = e' := by
  by_contra other
  have symmetric : Std.Symm fun a b : Bytes × α => lowerBytes a.1 ≠ lowerBytes b.1 := ⟨fun _ _ => Ne.symm⟩
  exact r.apart.forall member member' other same

theorem find?_eq_some_iff {name : Bytes} :
    r.find? name = some e ↔ e ∈ r.entries ∧ lowerBytes e.1 = lowerBytes (trimBytes name) := by
  constructor
  · intro found
    exact ⟨List.mem_of_find?_eq_some found, by simpa using List.find?_some found⟩
  · rintro ⟨member, same⟩
    cases found : r.find? name with
    | none => exact absurd (beq_iff_eq.2 same) (List.find?_eq_none.1 found e member)
    | some other =>
        have known : lowerBytes other.1 = lowerBytes (trimBytes name) := by
          simpa using List.find?_some found
        rw [eq_of_lowerBytes (List.mem_of_find?_eq_some found) member (known.trans same.symm)]

theorem find?_eq_none_iff {name : Bytes} :
    r.find? name = none ↔ ∀ e ∈ r.entries, lowerBytes e.1 ≠ lowerBytes (trimBytes name) := by
  simp [find?, List.find?_eq_none]

/-! ### Listing -/

theorem perm_sorted (r : Registry α) : r.sorted.Perm r.entries := List.mergeSort_perm _ _

/-- Registered things have names that differ, since they differ even in lower case; so where no name comes
before an earlier one, each comes after all earlier ones. -/
theorem pairwise_lt_of_perm {listed : List (Bytes × α)} (visits : listed.Perm r.entries)
    (ordered : listed.Pairwise fun a b => ¬ b.1 < a.1) : listed.Pairwise fun a b => a.1 < b.1 := by
  have apart : listed.Pairwise fun a b => lowerBytes a.1 ≠ lowerBytes b.1 :=
    (visits.pairwise_iff Ne.symm).2 r.apart
  refine (ordered.and apart).imp fun both => ?_
  exact Std.lt_of_le_of_ne both.1 fun same => both.2 (congrArg lowerBytes same)

theorem pairwise_sorted (r : Registry α) : r.sorted.Pairwise fun a b => a.1 < b.1 := by
  refine pairwise_lt_of_perm r.perm_sorted ?_
  have ordered : r.sorted.Pairwise fun a b => decide (a.1 ≤ b.1) = true :=
    List.pairwise_mergeSort (fun a b c => by simpa using List.le_trans)
      (fun a b => by simpa using List.le_total a.1 b.1) _
  exact ordered.imp fun inOrder => by simpa using inOrder

/-- There is one list of the registered things in which no name comes before an earlier one. -/
theorem eq_sorted {listed : List (Bytes × α)} (visits : listed.Perm r.entries)
    (ordered : listed.Pairwise fun a b => ¬ b.1 < a.1) : listed = r.sorted := by
  refine List.Perm.eq_of_pairwise (fun a b _ _ before after => ?_) (pairwise_lt_of_perm visits ordered)
    r.pairwise_sorted (visits.trans r.perm_sorted.symm)
  exact absurd after (List.lt_asymm before)

/-- A lookup finds what was registered last under the name, in any letter case and with white space around
it, and it finds nothing exactly if nothing was.  In whatever order the registered things are visited and by
whatever method they are sorted, the list is the same, its names increase, and in it is exactly what was
registered last under each of the names in lower case.  What is in the list is found by its name in any letter
case, if there is no white space around the name. -/
theorem lookup_and_listing (slots : List (Option (Bytes × α))) :
    (∀ name e, (ofSlots slots).find? name = some e ↔
      IsLast slots e ∧ lowerBytes e.1 = lowerBytes (trimBytes name)) ∧
    (∀ name, (ofSlots slots).find? name = none ↔
      ∀ e, some e ∈ slots → lowerBytes e.1 ≠ lowerBytes (trimBytes name)) ∧
    (∀ visited listed, visited.Perm (ofSlots slots).entries → listed.Perm visited →
      listed.Pairwise (fun a b => ¬ b.1 < a.1) → listed = (ofSlots slots).sorted) ∧
    (ofSlots slots).sorted.Pairwise (fun a b => a.1 < b.1) ∧
    (∀ e, e ∈ (ofSlots slots).sorted ↔ IsLast slots e) ∧
    (∀ e, some e ∈ slots → ∃! last, last ∈ (ofSlots slots).sorted ∧ lowerBytes last.1 = lowerBytes e.1) ∧
    ∀ e ∈ (ofSlots slots).sorted, trimBytes e.1 = e.1 →
      ∀ name, lowerBytes name = lowerBytes e.1 → (ofSlots slots).find? name = some e := by
  have listed : ∀ e, e ∈ (ofSlots slots).sorted ↔ e ∈ (ofSlots slots).entries :=
    fun e => (ofSlots slots).perm_sorted.mem_iff
  refine ⟨fun name e => ?_, fun name => ?_, fun visited listed visits sorts => ?_, pairwise_sorted _,
    fun e => ?_, fun e member => ?_, fun e member bare name same => ?_⟩
  · rw [find?_eq_some_iff, mem_entries_ofSlots]
  · rw [find?_eq_none_iff]
    constructor
    · intro none e member same
      obtain ⟨last, isLast, equal⟩ := exists_isLast member
      exact none last (mem_entries_ofSlots.2 isLast) (equal.trans same)
    · intro none e member
      obtain ⟨before, behind, rfl, -⟩ := mem_entries_ofSlots.1 member
      exact none e (by simp)
  · exact eq_sorted (sorts.trans visits)
  · rw [listed, mem_entries_ofSlots]
  · obtain ⟨last, isLast, same⟩ := exists_isLast member
    have registered := mem_entries_ofSlots.2 isLast
    refine ⟨last, ⟨(listed last).2 registered, same⟩, fun other found => ?_⟩
    exact eq_of_lowerBytes ((listed other).1 found.1) registered (found.2.trans same.symm)
  · rw [find?_eq_some_iff, trimBytes_eq_self_of_lowerBytes same.symm bare]
    exact ⟨(listed e).1 member, same.symm⟩

example :
    let registry := ofSlots [some (Utf8.encode "YAML", 1), none, some (Utf8.encode "json", 2),
      some (Utf8.encode "yaml", 3)]
    registry.find? (Utf8.encode " Yaml\n") = some (Utf8.encode "yaml", 3) ∧
      registry.find? (Utf8.encode "ya ml") = none := by
  decide +kernel

end Registry

end CodeGauge.Render
