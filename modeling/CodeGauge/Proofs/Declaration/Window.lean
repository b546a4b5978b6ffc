/-
Module: CodeGauge.Proofs.Declaration.Window
Purpose: The functions of a window of tokens are those of the whole list that lie in the window.
Main exports:
  raised, closes_append_left_iff, declares_append_left_iff, extract_window
-/
import CodeGauge.Proofs.Declaration.Truncation

namespace CodeGauge.Declaration

open CodeGauge.Source

/-!
A declaration is told by the token in front of its name and by the tokens from the name through the brace
that closes the body.  Neither a bracket that is still open in front of the window nor one that is closed
behind it has a part in this, so a window can be read by itself: only the indices have to be raised by the
number of tokens in front of it.
-/

/-- The function at indices that are higher by `count`. -/
def raised (count : Nat) (d : Declaration) : Declaration where
  name := d.name + count
  parameters := ⟨d.parameters.start + count, d.parameters.stop + count⟩
  body := ⟨d.body.start + count, d.body.stop + count⟩

theorem raised_between (count name close stop : Nat) :
    (between name close stop).raised count = between (count + name) (count + close) (count + stop) := by
  simp only [raised, between, Declaration.mk.injEq, Span.mk.injEq]
  omega

/-! ### Tokens in front of a function -/

section Front

variable (front : List Token) {tokens : List Token}

theorem take_drop_append_left (first last : Nat) :
    ((front ++ tokens).take (front.length + last)).drop (front.length + first) =
      (tokens.take last).drop first := by
  rw [List.take_length_add_append, List.drop_length_add_append]

theorem symbolCount_append_left (char : Char) (first last : Nat) :
    symbolCount char (front ++ tokens) (front.length + first) (front.length + last) =
      symbolCount char tokens first last := by
  rw [symbolCount, symbolCount, Nat.add_assoc, take_drop_append_left]

/-- Where a bracket closes is decided by the tokens from the opening one on. -/
theorem closes_append_left_iff {opening closing : Char} {start stop : Nat} :
    Closes opening closing (front ++ tokens) (front.length + start) (front.length + stop) ↔
      Closes opening closing tokens start stop := by
  constructor
  · rintro ⟨behind, inside, balanced, least⟩
    rw [List.length_append] at inside
    rw [symbolCount_append_left, symbolCount_append_left] at balanced
    refine ⟨by omega, by omega, balanced, ?_⟩
    intro j later earlier
    have apart := least (front.length + j) (by omega) (by omega)
    rwa [symbolCount_append_left, symbolCount_append_left] at apart
  · rintro ⟨behind, inside, balanced, least⟩
    refine ⟨by omega, by rw [List.length_append]; omega, ?_, ?_⟩
    · rwa [symbolCount_append_left, symbolCount_append_left]
    · intro j later earlier
      obtain ⟨i, rfl⟩ := Nat.exists_eq_add_of_le (show front.length ≤ j by omega)
      rw [symbolCount_append_left, symbolCount_append_left]
      exact least i (by omega) (by omega)

theorem getElem?_append_front (index : Nat) :
    (front ++ tokens)[front.length + index]? = tokens[index]? := by
  rw [List.getElem?_append_right (Nat.le_add_right ..), Nat.add_sub_cancel_left]

/-- A function whose name is not the first token of a list is declared by this list alone. -/
theorem declares_append_left_iff {name close stop : Nat} (first : 1 ≤ name) :
    Declares (front ++ tokens) (front.length + name) (front.length + close) (front.length + stop) ↔
      Declares tokens name close stop := by
  have typed : (front ++ tokens)[front.length + name - 1]? = tokens[name - 1]? := by
    rw [Nat.add_sub_assoc first, getElem?_append_front]
  have opened : (front ++ tokens)[front.length + (name + 1)]? = tokens[name + 1]? :=
    getElem?_append_front front (name + 1)
  have braced : (front ++ tokens)[front.length + (close + 1)]? = tokens[close + 1]? :=
    getElem?_append_front front (close + 1)
  have parameters : Closes '(' ')' (front ++ tokens) (front.length + (name + 1)) (front.length + close) ↔
      Closes '(' ')' tokens (name + 1) close := closes_append_left_iff front
  have body : Closes '{' '}' (front ++ tokens) (front.length + (close + 1)) (front.length + stop) ↔
      Closes '{' '}' tokens (close + 1) stop := closes_append_left_iff front
  rw [← Nat.add_assoc] at opened braced parameters body
  constructor
  · intro declares
    have last := declares.last
    rw [List.length_append] at last
    refine ⟨first, by omega, ?_, ?_, ?_, parameters.1 declares.parameters, ?_, body.1 declares.body⟩
    · rw [← getElem?_append_front front]
      exact declares.named
    · rw [← typed]
      exact declares.typed
    · rw [← opened]
      exact declares.opened
    · rw [← braced]
      exact declares.braced
  · intro declares
    have last := declares.last
    refine ⟨by omega, by rw [List.length_append]; omega, ?_, ?_, ?_,
      parameters.2 declares.parameters, ?_, body.2 declares.body⟩
    · rw [getElem?_append_front]
      exact declares.named
    · rw [typed]
      exact declares.typed
    · rw [opened]
      exact declares.opened
    · rw [braced]
      exact declares.braced

/-- Behind some tokens and the first of a list, exactly the functions of the list are declared. -/
theorem mem_extract_append_left_iff {d : Declaration} :
    (∃ e ∈ extract tokens, e.raised front.length = d) ↔
      d ∈ extract (front ++ tokens) ∧ front.length < d.name := by
  constructor
  · rintro ⟨e, found, rfl⟩
    obtain ⟨name, close, stop, declares, rfl⟩ := mem_extract_iff.1 found
    have first := declares.first
    rw [raised_between]
    refine ⟨mem_extract_iff.2 ⟨_, _, _, (declares_append_left_iff front first).2 declares, rfl⟩, ?_⟩
    exact Int.ofNat_lt.2 (by omega)
  · rintro ⟨found, behind⟩
    obtain ⟨name, close, stop, declares, rfl⟩ := mem_extract_iff.1 found
    have inFront : front.length < name := Int.ofNat_lt.1 behind
    have parametersBehind := declares.parameters.behind
    have bodyBehind := declares.body.behind
    obtain ⟨name, rfl⟩ := Nat.exists_eq_add_of_le (show front.length ≤ name by omega)
    obtain ⟨close, rfl⟩ := Nat.exists_eq_add_of_le (show front.length ≤ close by omega)
    obtain ⟨stop, rfl⟩ := Nat.exists_eq_add_of_le (show front.length ≤ stop by omega)
    have alone := (declares_append_left_iff front (by omega)).1 declares
    exact ⟨_, mem_extract_iff.2 ⟨_, _, _, alone, rfl⟩, raised_between ..⟩

/-- The functions of some tokens are those behind the first of them, when others stand in front. -/
theorem map_raised_extract (tokens : List Token) :
    (extract tokens).map (raised front.length) =
      (extract (front ++ tokens)).filter (fun d => decide ((front.length : Int) < d.name)) := by
  apply eq_of_pairwise_name
  · rw [List.pairwise_map]
    apply (extract_pairwise_name tokens).imp
    intro d e before
    exact Int.add_lt_add_right before front.length
  · exact (extract_pairwise_name (front ++ tokens)).filter _
  · intro d
    rw [List.mem_map, List.mem_filter, decide_eq_true_iff]
    exact mem_extract_append_left_iff front

/-- Tokens in front of a function do not change its entry. -/
theorem entry_raised {d : Declaration} (found : d ∈ extract tokens) (path : String) :
    FunctionEntry.ofDeclaration ⟨path, front ++ tokens⟩ (d.raised front.length) =
      FunctionEntry.ofDeclaration ⟨path, tokens⟩ d := by
  obtain ⟨name, close, stop, declares, rfl⟩ := mem_extract_iff.1 found
  obtain ⟨text, line, named, -⟩ := declares.named
  have longer := (declares_append_left_iff front declares.first).2 declares
  have namedLonger : (front ++ tokens)[front.length + name]? = some (.word text line) := by
    rw [getElem?_append_front]
    exact named
  let short : Buffer := ⟨path, tokens⟩
  let long : Buffer := ⟨path, front ++ tokens⟩
  have parameters : front.length + close - (front.length + name + 2) = close - (name + 2) := by omega
  have body : front.length + stop - (front.length + close + 2) = stop - (close + 2) := by omega
  have inside : ((front ++ tokens).take (front.length + stop)).drop (front.length + (close + 2)) =
      (tokens.take stop).drop (close + 2) := take_drop_append_left front (close + 2) stop
  rw [← Nat.add_assoc] at inside
  rw [raised_between, Declares.entry_eq (b := short) declares named,
    Declares.entry_eq (b := long) longer namedLonger]
  simp only [short, long, parameters, body, inside]

end Front

/-- Extraction is local.  The functions of a window of tokens, with all indices raised by the tokens in
front of the window, are in order those functions of all tokens whose name stands behind the first token
of the window and whose closing brace stands in the window; and their entries are the same. -/
theorem extract_window (path : String) (front tokens behind : List Token) :
    (extract tokens).map (raised front.length) =
      (extract (front ++ tokens ++ behind)).filter (fun d =>
        decide ((front.length : Int) < d.name ∧
          d.body.stop < (front.length : Int) + tokens.length)) ∧
    ∀ d ∈ extract tokens,
      FunctionEntry.ofDeclaration ⟨path, front ++ tokens ++ behind⟩ (d.raised front.length) =
        FunctionEntry.ofDeclaration ⟨path, tokens⟩ d := by
  have extent : ((front ++ tokens).length : Int) = front.length + tokens.length := by
    rw [List.length_append, Int.natCast_add]
  constructor
  · rw [map_raised_extract, extract_append_filter (front ++ tokens) behind, List.filter_filter]
    simp only [extent, Bool.decide_and]
  · intro d found
    have shifted : d.raised front.length ∈ extract (front ++ tokens) :=
      ((mem_extract_append_left_iff front).1 ⟨d, found, rfl⟩).1
    rw [← entry_raised front found path]
    exact (readsAlike_append shifted path behind).entry.symm

end CodeGauge.Declaration
