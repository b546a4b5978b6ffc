/-
Module: CodeGauge.Proofs.Text.Trim
Purpose: Trimming leaves no white space at the ends, and nothing is trimmed where there is none; the case of
  letters does not matter for it.
Main exports:
  trimEnds_eq_self_iff, isBlank_of_getLast?_trimList, trimList_eq_self, trimBytes_eq_self_iff,
  trimBytes_eq_self_of_lowerBytes
-/
import CodeGauge.Proofs.Text.LowerCase
import CodeGauge.Text.Blank
import Mathlib.Data.List.Flatten
import Mathlib.Data.List.TakeWhile

namespace CodeGauge.Text

/-! ### Lists -/

section Lists

variable {α : Type} {p : α → Bool} {xs : List α}

theorem dropWhile_eq_self_iff : xs.dropWhile p = xs ↔ ∀ x, xs.head? = some x → p x = false := by
  cases xs <;> simp [List.dropWhile_eq_self_iff]

theorem trimEnds_eq_self_iff : ((xs.dropWhile p).reverse.dropWhile p).reverse = xs ↔
    (∀ x, xs.head? = some x → p x = false) ∧ ∀ x, xs.getLast? = some x → p x = false := by
  constructor
  · intro same
    have within : ((xs.dropWhile p).reverse.dropWhile p).length ≤ (xs.dropWhile p).length := by
      simpa using (List.dropWhile_sublist p (l := (xs.dropWhile p).reverse)).length_le
    have front : xs.dropWhile p = xs := by
      refine (List.dropWhile_sublist p).eq_of_length_le ?_
      rwa [← List.length_reverse, same] at within
    rw [front, List.reverse_eq_iff, dropWhile_eq_self_iff, List.head?_reverse] at same
    exact ⟨dropWhile_eq_self_iff.1 front, same⟩
  · rintro ⟨front, back⟩
    rw [← List.head?_reverse] at back
    rw [dropWhile_eq_self_iff.2 front, dropWhile_eq_self_iff.2 back, List.reverse_reverse]

/-- Of pieces that are not empty none can be left out without a loss. -/
theorem eq_of_sublist_of_flatMap_eq {β : Type} {f : α → List β} {kept : List α} (within : kept.Sublist xs)
    (solid : ∀ x ∈ xs, f x ≠ []) (same : kept.flatMap f = xs.flatMap f) : kept = xs := by
  induction within with
  | slnil => rfl
  | cons x within ih =>
      have fewer := (within.flatMap f).length_le
      rw [same, List.flatMap_cons, List.length_append] at fewer
      have size := List.length_pos_iff.2 (solid x List.mem_cons_self)
      omega
  | cons_cons x within ih =>
      rw [List.flatMap_cons, List.flatMap_cons, List.append_cancel_left_eq] at same
      rw [ih (fun y member => solid y (List.mem_cons_of_mem x member)) same]

end Lists

/-! ### Texts -/

/-- What is left of a text without the white space around it does not end in white space. -/
theorem isBlank_of_getLast?_trimList {cs : List Char} {c : Char} (last : (trimList cs).getLast? = some c) :
    isBlank c = false := by
  rw [trimList, List.getLast?_reverse] at last
  have ends := List.head?_dropWhile_not isBlank (cs.dropWhile isBlank).reverse
  rw [last] at ends
  simpa using ends

/-- A text that neither begins nor ends with white space has none to trim. -/
theorem trimList_eq_self {cs : List Char} (front : ∀ c, cs.head? = some c → isBlank c = false)
    (back : ∀ c, cs.getLast? = some c → isBlank c = false) : trimList cs = cs :=
  trimEnds_eq_self_iff.2 ⟨front, back⟩

/-! ### Byte strings -/

/-- A byte string is left as it is exactly if white space is neither its first character nor its last. -/
theorem trimBytes_eq_self_iff {bytes : Bytes} : trimBytes bytes = bytes ↔
    (∀ c, (Utf8.decode bytes).head? = some c → isBlank c = false) ∧
      ∀ c, (Utf8.decode bytes).getLast? = some c → isBlank c = false := by
  have ends : (∀ c, (Utf8.decode bytes).head? = some c → isBlank c = false) ∧
      (∀ c, (Utf8.decode bytes).getLast? = some c → isBlank c = false) ↔
      (∀ s, (Utf8.spellings bytes).head? = some s → isBlankSpelling s = false) ∧
        ∀ s, (Utf8.spellings bytes).getLast? = some s → isBlankSpelling s = false := by
    simp [← Utf8.map_fst_spellings, isBlankSpelling]
  rw [ends, ← trimEnds_eq_self_iff]
  constructor
  · intro same
    refine eq_of_sublist_of_flatMap_eq ?_ (fun s => Utf8.ne_nil_of_mem_spellings)
      (same.trans (Utf8.flatMap_snd_spellings bytes).symm)
    have inner := List.dropWhile_sublist isBlankSpelling (l := Utf8.spellings bytes)
    have outer := List.dropWhile_sublist isBlankSpelling
      (l := ((Utf8.spellings bytes).dropWhile isBlankSpelling).reverse)
    exact (List.reverse_sublist.1 (by rwa [List.reverse_reverse])).trans inner
  · intro same
    rw [trimBytes, same, Utf8.flatMap_snd_spellings]

/-- White space has no letters in it, so it is trimmed in any letter case alike. -/
theorem trimBytes_eq_self_of_lowerBytes {a b : Bytes} (same : lowerBytes a = lowerBytes b)
    (bare : trimBytes a = a) : trimBytes b = b := by
  have solid : ∀ {c d : Char}, lowerChar c = lowerChar d → isBlank d = false → isBlank c = false := by
    intro c d lower blank
    rwa [← isBlank_lowerChar, lower, isBlank_lowerChar]
  have chars := map_lowerChar_decode same
  obtain ⟨front, back⟩ := trimBytes_eq_self_iff.1 bare
  refine trimBytes_eq_self_iff.2 ⟨fun c first => ?_, fun c last => ?_⟩
  · have heads := congrArg List.head? chars
    rw [List.head?_map, List.head?_map, first] at heads
    obtain ⟨d, first, lower⟩ := Option.map_eq_some_iff.1 heads
    exact solid lower.symm (front d first)
  · have lasts := congrArg List.getLast? chars
    rw [List.getLast?_map, List.getLast?_map, last] at lasts
    obtain ⟨d, last, lower⟩ := Option.map_eq_some_iff.1 lasts
    exact solid lower.symm (back d last)

end CodeGauge.Text
