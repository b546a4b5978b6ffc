/-
Module: CodeGauge.Proofs.Declaration.Nesting
Purpose: Bodies of functions nest like the braces around them, and the branches of functions side by side
  in a body are among those of the body.
Main exports:
  Paired, Paired.apart_or_nested, Paired.start_unique, EndsBefore, Encloses, Span.indices,
  complexity_eq_sum, bodies_nested
-/
import CodeGauge.Proofs.Declaration.Extraction
import Mathlib.Algebra.BigOperators.Intervals

namespace CodeGauge

open CodeGauge.Source

/-!
Parentheses and braces are matched apart from each other, so the declaration of a function, from its name
to its last brace, may begin inside of another one and end behind it.  Brackets of one shape are different:
a pair of them that opens inside of another pair is closed there.  Bodies are bounded by braces alone, so
bodies nest whatever the parameter lists do, and what is counted in a body is counted in every body around
it.
-/

namespace Declaration

/-! ### Counting up to an index -/

/-- What is counted in a window of a list is what its end counts more than its start. -/
theorem countP_take_add_window {α : Type} (p : α → Bool) (items : List α) {first last : Nat}
    (ordered : first ≤ last) :
    (items.take first).countP p + ((items.take last).drop first).countP p =
      (items.take last).countP p := by
  have front : items.take first = (items.take last).take first := by
    rw [List.take_take, Nat.min_eq_left ordered]
  rw [front, ← List.countP_append, List.take_append_drop]

theorem symbolCount_add (char : Char) (tokens : List Token) {first middle last : Nat}
    (ordered : first ≤ middle + 1) (inside : middle ≤ last) :
    symbolCount char tokens first last =
      symbolCount char tokens first middle + symbolCount char tokens (middle + 1) last := by
  have near := countP_take_add_window (fun token => token.isSymbol char) tokens ordered
  have far := countP_take_add_window (fun token => token.isSymbol char) tokens
    (Nat.add_le_add_right inside 1)
  have whole := countP_take_add_window (fun token => token.isSymbol char) tokens
    (Nat.le_trans ordered (Nat.add_le_add_right inside 1))
  simp only [symbolCount, symbols]
  omega

/-- One token more counts at most one more. -/
theorem symbolCount_single_le (char : Char) (tokens : List Token) (index : Nat) :
    symbolCount char tokens index index ≤ 1 := by
  have short : ((tokens.take (index + 1)).drop index).length ≤ 1 := by
    rw [List.length_drop, List.length_take]
    omega
  exact Nat.le_trans List.countP_le_length short

theorem symbolCount_single {char : Char} {tokens : List Token} {index : Nat} {token : Token}
    (found : tokens[index]? = some token) :
    symbolCount char tokens index index = if token.isSymbol char then 1 else 0 := by
  rw [symbolCount, List.drop_take, drop_of_getElem? found, Nat.add_sub_cancel_left]
  simp

/-! ### Pairs of brackets -/

/-- A bracket opens at the first index, and the one at the second index closes it. -/
structure Paired (opening closing : Char) (tokens : List Token) (start stop : Nat) : Prop where
  opens : ∃ line, tokens[start]? = some (.symbol opening line)
  closes : Closes opening closing tokens start stop

namespace Paired

variable {opening closing : Char} {tokens : List Token} {start stop later last : Nat}

/-- From the opening bracket up to the closing one more brackets have opened than closed. -/
theorem more_opened (different : opening ≠ closing) (pair : Paired opening closing tokens start stop)
    {index : Nat} (behind : start ≤ index) (inFront : index < stop) :
    symbolCount closing tokens start index < symbolCount opening tokens start index := by
  -- the difference begins at one, falls by at most one with each token, and is not zero before the end
  induction index, behind using Nat.le_induction with
  | base =>
      obtain ⟨line, openingEq⟩ := pair.opens
      rw [symbolCount_single openingEq, symbolCount_single openingEq]
      simp [different]
  | succ index behind ih =>
      have before := ih (Nat.lt_of_succ_lt inFront)
      have opened := symbolCount_add opening tokens (Nat.le_succ_of_le behind) (Nat.le_succ index)
      have closed := symbolCount_add closing tokens (Nat.le_succ_of_le behind) (Nat.le_succ index)
      have single := symbolCount_single_le closing tokens (index + 1)
      have unequal := pair.closes.least (index + 1) (Nat.lt_succ_of_le behind) inFront
      simp only [Nat.succ_eq_add_one] at opened closed
      omega

/-- Up to the closing bracket, itself included, no more brackets have closed than opened. -/
theorem not_more_closed (different : opening ≠ closing)
    (pair : Paired opening closing tokens start stop) {index : Nat} (behind : start ≤ index)
    (within : index ≤ stop) :
    symbolCount closing tokens start index ≤ symbolCount opening tokens start index := by
  rcases Nat.lt_or_eq_of_le within with inFront | rfl
  · exact Nat.le_of_lt (pair.more_opened different behind inFront)
  · exact Nat.le_of_eq pair.closes.balanced.symm

/-- Of two pairs, the one that opens later opens behind the other one or closes inside of it. -/
theorem apart_or_nested (different : opening ≠ closing)
    (pair : Paired opening closing tokens start stop)
    (other : Paired opening closing tokens later last) (before : start < later) :
    stop < later ∨ last < stop := by
  by_contra crossing
  rw [not_or, Nat.not_lt, Nat.not_lt] at crossing
  obtain ⟨opensInside, closesOutside⟩ := crossing
  obtain ⟨middle, rfl⟩ := Nat.exists_eq_succ_of_ne_zero (Nat.ne_zero_of_lt before)
  -- the brackets that opened in front of the later pair would have to be closed inside of it
  have inFront := pair.more_opened different (Nat.le_of_lt_succ before) opensInside
  have inside := other.not_more_closed different opensInside closesOutside
  have opened := symbolCount_add opening tokens (Nat.le_of_lt before) (Nat.le_of_lt opensInside)
  have closed := symbolCount_add closing tokens (Nat.le_of_lt before) (Nat.le_of_lt opensInside)
  have balanced := pair.closes.balanced
  simp only [Nat.succ_eq_add_one] at inside
  omega

/-- A closing bracket closes one opening bracket. -/
theorem start_unique (different : opening ≠ closing) (pair : Paired opening closing tokens start stop)
    (other : Paired opening closing tokens later stop) : start = later := by
  have apart : ∀ {first second : Nat}, Paired opening closing tokens first stop →
      Paired opening closing tokens second stop → ¬ first < second := by
    intro first second one two before
    rcases one.apart_or_nested different two before with behind | inside
    · exact Nat.lt_asymm behind two.closes.behind
    · exact Nat.lt_irrefl stop inside
  exact Nat.le_antisymm (Nat.le_of_not_lt (apart other pair)) (Nat.le_of_not_lt (apart pair other))

/-- An opening bracket is closed by one closing bracket. -/
theorem stop_unique (pair : Paired opening closing tokens start stop)
    (other : Paired opening closing tokens start last) : stop = last := by
  rcases Nat.lt_trichotomy stop last with before | same | behind
  · exact absurd pair.closes.balanced (other.closes.least stop pair.closes.behind before)
  · exact same
  · exact absurd other.closes.balanced (pair.closes.least last other.closes.behind behind)

end Paired

/-! ### Bodies -/

/-- The last brace of one body stands in front of the first brace of another one. -/
def EndsBefore (d e : Declaration) : Prop := d.body.stop < e.body.start - 1

/-- The braces of the second body stand inside of the first one, and do not even touch its first
token. -/
structure Encloses (d e : Declaration) : Prop where
  first : d.body.start < e.body.start - 1
  last : e.body.stop < d.body.stop

section Bodies

variable {tokens : List Token} {name close stop name' close' stop' : Nat}

theorem Declares.pairedParentheses (declares : Declares tokens name close stop) :
    Paired '(' ')' tokens (name + 1) close :=
  ⟨declares.opened, declares.parameters⟩

theorem Declares.pairedBraces (declares : Declares tokens name close stop) :
    Paired '{' '}' tokens (close + 1) stop :=
  ⟨declares.braced, declares.body⟩

/-- The parenthesis in front of a body is not the brace of another one. -/
theorem Declares.close_ne (declares : Declares tokens name close stop)
    (other : Declares tokens name' close' stop') : close' ≠ close + 1 := by
  rintro rfl
  obtain ⟨line, braceEq⟩ := declares.braced
  obtain ⟨openLine, openEq⟩ := other.opened
  obtain ⟨token, tokenEq, isClose⟩ := other.parameters.isSymbol (by decide) openEq rfl
  cases Option.some.inj (braceEq.symm.trans tokenEq)
  simp at isClose

/-- A function whose parameters end later has its body behind that of the other one or inside of it. -/
theorem Declares.apart_or_encloses (declares : Declares tokens name close stop)
    (other : Declares tokens name' close' stop') (before : close < close') :
    EndsBefore (between name close stop) (between name' close' stop') ∨
      Encloses (between name close stop) (between name' close' stop') := by
  have gap := declares.close_ne other
  rcases declares.pairedBraces.apart_or_nested (by decide) other.pairedBraces
    (Nat.add_lt_add_right before 1) with apart | nested
  · left
    simp only [EndsBefore, between]
    omega
  · right
    constructor
    · simp only [between]
      omega
    · exact Int.ofNat_lt.2 nested

/-- Functions whose parameters end at the same parenthesis are the same. -/
theorem Declares.eq_of_close_eq (declares : Declares tokens name close stop)
    (other : Declares tokens name' close stop') :
    between name close stop = between name' close stop' := by
  have sameOpening := declares.pairedParentheses.start_unique (by decide) other.pairedParentheses
  obtain rfl : name = name' := Nat.add_right_cancel sameOpening
  obtain rfl := declares.pairedBraces.stop_unique other.pairedBraces
  rfl

theorem apart_or_encloses_of_mem {d e : Declaration} (found : d ∈ extract tokens)
    (foundOther : e ∈ extract tokens) (distinct : d ≠ e) :
    EndsBefore d e ∨ EndsBefore e d ∨ Encloses d e ∨ Encloses e d := by
  obtain ⟨name, close, stop, declares, rfl⟩ := mem_extract_iff.1 found
  obtain ⟨name', close', stop', other, rfl⟩ := mem_extract_iff.1 foundOther
  rcases Nat.lt_trichotomy close close' with before | rfl | behind
  · rcases declares.apart_or_encloses other before with apart | encloses
    · exact Or.inl apart
    · exact Or.inr (Or.inr (Or.inl encloses))
  · exact absurd (declares.eq_of_close_eq other) distinct
  · rcases other.apart_or_encloses declares behind with apart | encloses
    · exact Or.inr (Or.inl apart)
    · exact Or.inr (Or.inr (Or.inr encloses))

end Bodies

end Declaration

/-! ### Branches -/

/-- The indices of a range that lies in a buffer. -/
def Source.Span.indices (s : Span) : Finset Nat := Finset.Ico s.start.toNat s.stop.toNat

namespace Declaration

/-- What the token at an index adds to the complexity of a body around it. -/
def branchWeight (tokens : List Token) (index : Nat) : Nat :=
  if tokens[index]?.any Measure.isBranch then 1 else 0

theorem branches_take (tokens : List Token) (count : Nat) :
    Measure.branches (tokens.take count) = ∑ index ∈ Finset.range count, branchWeight tokens index := by
  induction count with
  | zero => rfl
  | succ count ih =>
      rw [Finset.sum_range_succ, ← ih, List.take_add_one, Measure.branches, List.countP_append]
      congr 1
      cases found : tokens[count]? with
      | none => simp [branchWeight, found]
      | some token => simp [branchWeight, found, List.countP_cons]

/-- The branches of a window of tokens are those at its indices. -/
theorem branches_window (tokens : List Token) {first last : Nat} (ordered : first ≤ last) :
    Measure.branches ((tokens.take last).drop first) =
      ∑ index ∈ Finset.Ico first last, branchWeight tokens index := by
  have counted := countP_take_add_window Measure.isBranch tokens ordered
  have summed := Finset.sum_range_add_sum_Ico (branchWeight tokens) ordered
  rw [← branches_take, ← branches_take] at summed
  simp only [Measure.branches] at summed ⊢
  omega

theorem complexity_eq_sum {b : Buffer} {d : Declaration} (found : d ∈ extract b.tokens) :
    d.complexity b = ∑ index ∈ d.body.indices, branchWeight b.tokens index := by
  obtain ⟨name, close, stop, declares, rfl⟩ := mem_extract_iff.1 found
  have ordered : close + 2 ≤ stop := declares.body.behind
  rw [complexity, declares.slice?_body, Option.getD_some, branches_window _ ordered]
  rfl

/-- Parts of a set that have nothing in common weigh together no more than the set. -/
theorem sum_parts_le (weight : Nat → Nat) {parts : List (Finset Nat)} {whole : Finset Nat}
    (apart : parts.Pairwise Disjoint) (within : ∀ part ∈ parts, part ⊆ whole) :
    (parts.map fun part => ∑ index ∈ part, weight index).sum ≤ ∑ index ∈ whole, weight index := by
  induction parts generalizing whole with
  | nil => exact Nat.zero_le _
  | cons part parts ih =>
      obtain ⟨apartFromFirst, apart⟩ := List.pairwise_cons.1 apart
      have others : (parts.map fun part => ∑ index ∈ part, weight index).sum ≤
          ∑ index ∈ whole \ part, weight index := by
        apply ih apart
        intro other member
        rw [Finset.subset_sdiff]
        exact ⟨within other (List.mem_cons_of_mem part member), (apartFromFirst other member).symm⟩
      have split := Finset.sum_sdiff (f := weight) (within part List.mem_cons_self)
      rw [List.map_cons, List.sum_cons]
      omega

theorem sum_complexity_le {b : Buffer} {d : Declaration} {inner : List Declaration}
    (found : d ∈ extract b.tokens) (foundInner : ∀ e ∈ inner, e ∈ extract b.tokens)
    (apart : inner.Pairwise fun e f => Disjoint e.body.indices f.body.indices)
    (within : ∀ e ∈ inner, e.body.indices ⊆ d.body.indices) :
    (inner.map fun e => e.complexity b).sum ≤ d.complexity b := by
  have weights : (inner.map fun e => e.complexity b) =
      (inner.map fun e => e.body.indices).map fun part =>
        ∑ index ∈ part, branchWeight b.tokens index := by
    rw [List.map_map]
    exact List.map_congr_left fun e member => complexity_eq_sum (foundInner e member)
  rw [weights, complexity_eq_sum found]
  apply sum_parts_le
  · exact List.pairwise_map.2 apart
  · intro part member
    obtain ⟨e, listed, rfl⟩ := List.mem_map.1 member
    exact within e listed

/-- Bodies of functions nest like braces: of two functions one body, its braces included, ends before the
other begins or stands strictly inside of it.  And functions in the body of another one whose bodies have
nothing in common are together at most as complex as that one. -/
theorem bodies_nested (b : Buffer) :
    (extract b.tokens).Pairwise
      (fun d e => EndsBefore d e ∨ EndsBefore e d ∨ Encloses d e ∨ Encloses e d) ∧
    ∀ d ∈ extract b.tokens, ∀ inner : List Declaration, (∀ e ∈ inner, e ∈ extract b.tokens) →
      inner.Pairwise (fun e f => Disjoint e.body.indices f.body.indices) →
      (∀ e ∈ inner, e.body.indices ⊆ d.body.indices) →
      (inner.map fun e => e.complexity b).sum ≤ d.complexity b := by
  constructor
  · apply (extract_pairwise_name b.tokens).imp_of_mem
    intro d e found foundOther before
    apply apart_or_encloses_of_mem found foundOther
    rintro rfl
    exact Int.lt_irrefl d.name before
  · intro d found inner foundInner apart within
    exact sum_complexity_le found foundInner apart within

/-- The tokens of `int f(int g() {) {if} for}`, where the parameter list of `f` ends inside of the body
of `g`. -/
def crossingTokens : List Token :=
  [.word "int" 1, .word "f" 1, .symbol '(' 1, .word "int" 1, .word "g" 1, .symbol '(' 1, .symbol ')' 1,
   .symbol '{' 1, .symbol ')' 1, .symbol '{' 1, .word "if" 1, .symbol '}' 1, .word "for" 1, .symbol '}' 1]

/-- Two declarations that cross, the name of `g` among the parameters of `f`: the body of `f` is inside of
that of `g`, and no more complex. -/
theorem bodies_nested_of_crossing :
    extract crossingTokens = [between 1 8 11, between 4 6 13] ∧
    Encloses (between 4 6 13) (between 1 8 11) ∧
    (between 1 8 11).complexity ⟨"a.c", crossingTokens⟩ ≤
      (between 4 6 13).complexity ⟨"a.c", crossingTokens⟩ := by
  have found : extract crossingTokens = [between 1 8 11, between 4 6 13] := by decide +kernel
  have first : between 1 8 11 ∈ extract crossingTokens := by simp [found]
  have second : between 4 6 13 ∈ extract crossingTokens := by simp [found]
  obtain ⟨nests, bounds⟩ := bodies_nested ⟨"a.c", crossingTokens⟩
  refine ⟨found, ?_, ?_⟩
  · rw [found] at nests
    rcases List.pairwise_pair.1 nests with apart | apart | encloses | encloses
    · exact absurd apart (by rw [EndsBefore]; decide)
    · exact absurd apart (by rw [EndsBefore]; decide)
    · exact absurd encloses.first (by decide)
    · exact encloses
  · have bound := bounds _ second [between 1 8 11] (List.forall_mem_singleton.2 first)
      (List.pairwise_singleton _ _) (List.forall_mem_singleton.2 (by decide))
    rwa [List.map_singleton, List.sum_singleton] at bound

end Declaration

end CodeGauge
