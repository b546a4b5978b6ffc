/-
Module: CodeGauge.Proofs.Report.Ranking
Purpose: The functions that a report ranks are the most complex ones, in the order in which they are met.
Main exports:
  pairwise_mergeSort_stable, Located, Located.RanksAbove, IsBest, isBest_take_ranked,
  Report.best_functions_ranked
-/
import CodeGauge.Proofs.Report.Totals

namespace CodeGauge

open CodeGauge.Time

/-!
Two functions of a project can agree in all that an entry says, so a ranking is told here by the places of
its functions: the number of the file and the number in the file.  No two functions have equal rank, since
of functions of one complexity the one that is met first ranks above.
-/

/-- A stable sort keeps the order of what it finds equal. -/
theorem pairwise_mergeSort_stable {α : Type} {le : α → α → Bool} {R : α → α → Prop} {items : List α}
    (trans : ∀ a b c, le a b = true → le b c = true → le a c = true)
    (total : ∀ a b, (le a b || le b a) = true) (inOrder : items.Pairwise R) :
    (items.mergeSort le).Pairwise fun a b => le a b = true ∧ (le b a = true → R a b) := by
  have sorted := List.pairwise_mergeSort (List.zipIdxLE_trans trans) (List.zipIdxLE_total total) items.zipIdx
  have apart : (items.zipIdx.mergeSort (List.zipIdxLE le)).Pairwise fun a b => a.2 ≠ b.2 := by
    rw [(List.mergeSort_perm _ _).pairwise_iff Ne.symm, ← List.pairwise_map, List.zipIdx_map_snd]
    exact List.nodup_range'
  rw [← List.mergeSort_zipIdx, List.pairwise_map]
  refine (sorted.and apart).imp_of_mem ?_
  intro first second isFirst isSecond both
  obtain ⟨less, differs⟩ := both
  rw [List.zipIdxLE] at less
  split at less
  · next below =>
    refine ⟨below, fun above => ?_⟩
    rw [if_pos above, decide_eq_true_eq] at less
    -- equal items have kept their positions, and the list was in order there
    obtain ⟨isItem, atFirst⟩ :=
      List.getElem?_eq_some_iff.mp (List.mem_zipIdx_iff_getElem?.mp ((List.mergeSort_perm _ _).mem_iff.mp isFirst))
    obtain ⟨isItem', atSecond⟩ :=
      List.getElem?_eq_some_iff.mp (List.mem_zipIdx_iff_getElem?.mp ((List.mergeSort_perm _ _).mem_iff.mp isSecond))
    have ordered := List.pairwise_iff_getElem.mp inOrder _ _ isItem isItem' (by omega)
    rwa [atFirst, atSecond] at ordered
  · exact nomatch less

/-! ### Functions and their places -/

/-- A function with the number of its file and its number in the file. -/
structure Located where
  file : Nat
  index : Nat
  function : FunctionEntry
deriving DecidableEq, Repr, Inhabited

namespace Located

/-- The function is where it is said to be. -/
def IsIn (files : List FileEntry) (l : Located) : Prop :=
  ∃ file, files[l.file]? = some file ∧ file.functionList[l.index]? = some l.function

/-- A function is met before another one. -/
def Before (a b : Located) : Prop := a.file < b.file ∨ a.file = b.file ∧ a.index < b.index

/-- A function ranks above another one: it is more complex, or as complex and met before it. -/
def RanksAbove (a b : Located) : Prop :=
  b.function.complexity < a.function.complexity ∨
    a.function.complexity = b.function.complexity ∧ a.Before b

theorem RanksAbove.le {a b : Located} (above : a.RanksAbove b) : b.function.complexity ≤ a.function.complexity := by
  rcases above with less | ⟨same, -⟩
  · exact Int64.le_of_lt less
  · exact same ▸ Int64.le_refl _

end Located

/-- The functions of files with their places, in the order in which they are met. -/
def located (files : List FileEntry) : List Located :=
  files.zipIdx.flatMap fun (file, i) => file.functionList.zipIdx.map fun (function, j) => ⟨i, j, function⟩

theorem mem_located_iff {files : List FileEntry} {l : Located} : l ∈ located files ↔ l.IsIn files := by
  rw [located, List.mem_flatMap]
  constructor
  · rintro ⟨⟨file, i⟩, isFile, member⟩
    obtain ⟨⟨function, j⟩, isFunction, rfl⟩ := List.mem_map.mp member
    exact ⟨file, List.mem_zipIdx_iff_getElem?.mp isFile, List.mem_zipIdx_iff_getElem?.mp isFunction⟩
  · rintro ⟨file, isFile, isFunction⟩
    refine ⟨(file, l.file), List.mem_zipIdx_iff_getElem?.mpr isFile, List.mem_map.mpr ?_⟩
    exact ⟨(l.function, l.index), List.mem_zipIdx_iff_getElem?.mpr isFunction, rfl⟩

theorem map_function_located (files : List FileEntry) :
    (located files).map Located.function = allFunctions files := by
  have inFile : ∀ (file : FileEntry) (i : Nat),
      (file.functionList.zipIdx.map fun (function, j) => (⟨i, j, function⟩ : Located)).map Located.function =
        file.functionList := by
    intro file i
    rw [List.map_map]
    exact List.zipIdx_map_fst 0 file.functionList
  rw [located, List.map_flatMap]
  simp only [inFile]
  rw [allFunctions, ← List.flatMap_map (fun pair : FileEntry × Nat => pair.1), List.zipIdx_map_fst]

/-- Each function is met before those behind it. -/
theorem pairwise_located (files : List FileEntry) : (located files).Pairwise Located.Before := by
  have ascending : ∀ {α : Type} (items : List α), items.zipIdx.Pairwise fun a b => a.2 < b.2 := by
    intro α items
    rw [← List.pairwise_map, List.zipIdx_map_snd]
    exact List.pairwise_lt_range'
  rw [located, List.pairwise_flatMap]
  constructor
  · rintro ⟨file, i⟩ -
    rw [List.pairwise_map]
    exact (ascending file.functionList).imp fun less => Or.inr ⟨rfl, less⟩
  · refine (ascending files).imp ?_
    rintro ⟨file, i⟩ ⟨file', i'⟩ less a isA b isB
    obtain ⟨_, -, rfl⟩ := List.mem_map.mp isA
    obtain ⟨_, -, rfl⟩ := List.mem_map.mp isB
    exact Or.inl less

/-! ### The whole ranking -/

/-- All functions of files by rank. -/
def ranked (files : List FileEntry) : List Located :=
  (located files).mergeSort fun a b => decide (b.function.complexity ≤ a.function.complexity)

theorem perm_ranked (files : List FileEntry) : (ranked files).Perm (located files) := List.mergeSort_perm ..

theorem mem_ranked_iff {files : List FileEntry} {l : Located} : l ∈ ranked files ↔ l.IsIn files := by
  rw [(perm_ranked files).mem_iff, mem_located_iff]

theorem length_ranked (files : List FileEntry) : (ranked files).length = (allFunctions files).length := by
  rw [(perm_ranked files).length_eq, ← map_function_located, List.length_map]

theorem pairwise_ranked (files : List FileEntry) : (ranked files).Pairwise Located.RanksAbove := by
  have sorted := @pairwise_mergeSort_stable _
    (fun a b : Located => decide (b.function.complexity ≤ a.function.complexity)) _ _
    (by
      intro a b c ab bc
      rw [decide_eq_true_eq] at ab bc ⊢
      exact Int64.le_trans bc ab)
    (by
      intro a b
      rw [Bool.or_eq_true, decide_eq_true_eq, decide_eq_true_eq]
      exact Int64.le_total _ _)
    (pairwise_located files)
  refine sorted.imp ?_
  rintro a b ⟨notBelow, equal⟩
  rw [decide_eq_true_eq] at notBelow
  by_cases same : a.function.complexity = b.function.complexity
  · exact Or.inr ⟨same, equal (by rw [same]; simp)⟩
  · exact Or.inl (Int64.lt_of_le_of_ne notBelow (Ne.symm same))

/-! ### The best functions -/

/-- How many functions are to be ranked: as many as asked for, or three if that is not a positive number. -/
def wanted (top : Int) : Nat := if top ≤ 0 then 3 else top.toNat

/-- Some functions are the best ones of files, at most a certain number of them: they are at places of their
own, each ranks above those behind it, and all that are left out rank below them. -/
structure IsBest (files : List FileEntry) (count : Nat) (best : List Located) : Prop where
  length_eq : best.length = min count (allFunctions files).length
  isIn : ∀ l ∈ best, l.IsIn files
  apart : (best.map fun l => (l.file, l.index)).Nodup
  ordered : best.Pairwise Located.RanksAbove
  above : ∀ other : Located, other.IsIn files → other ∉ best → ∀ l ∈ best, l.RanksAbove other

/-- The front of the whole ranking has the best functions. -/
theorem isBest_take_ranked (files : List FileEntry) (count : Nat) :
    IsBest files count ((ranked files).take count) where
  length_eq := by rw [List.length_take, length_ranked]
  isIn l member := mem_ranked_iff.mp (List.mem_of_mem_take member)
  ordered := (pairwise_ranked files).sublist (List.take_sublist ..)
  apart := by
    have places : (located files).Pairwise fun a b => (a.file, a.index) ≠ (b.file, b.index) := by
      refine (pairwise_located files).imp fun before same => ?_
      obtain ⟨sameFile, sameIndex⟩ := Prod.mk.inj same
      rcases before with less | ⟨-, less⟩
      · omega
      · omega
    rw [List.Nodup, List.pairwise_map]
    exact (((perm_ranked files).pairwise_iff Ne.symm).mpr places).sublist (List.take_sublist ..)
  above other isIn leftOut l member := by
    have whole := pairwise_ranked files
    rw [← List.take_append_drop count (ranked files), List.pairwise_append] at whole
    refine whole.2.2 l member other ?_
    have isRanked := mem_ranked_iff.mpr isIn
    rw [← List.take_append_drop count (ranked files), List.mem_append] at isRanked
    exact isRanked.resolve_left leftOut

theorem ranking_allFunctions (top : Int) (files : List FileEntry) :
    ranking top (allFunctions files) = ((ranked files).take (wanted top)).map Located.function := by
  have count : (if top ≤ 0 then defaultTop else top).toNat = wanted top := by
    rw [wanted, apply_ite Int.toNat]
    rfl
  have sorted : (ranked files).map Located.function =
      (allFunctions files).mergeSort fun f g => decide (g.complexity ≤ f.complexity) := by
    rw [ranked, ← map_function_located]
    exact List.map_mergeSort fun _ _ _ _ => rfl
  rw [ranking, count, ← sorted, List.map_take]

theorem topFunctions_assemble (runId : String) (now : Timestamp) (root : String) (files : List FileEntry)
    (warnings : List String) (top : Int) :
    (Report.assemble runId now root files warnings top).topFunctions.getD [] =
      ranking top (allFunctions files) := by
  rw [Report.assemble]
  cases ranking top (allFunctions files) <;> rfl

/-- The first one of the whole ranking is as complex as any function. -/
theorem le_complexity_of_head? {files : List FileEntry} {first : Located}
    (isFirst : (ranked files).head? = some first) {f : FunctionEntry} (member : f ∈ allFunctions files) :
    f.complexity ≤ first.function.complexity := by
  rw [← map_function_located] at member
  obtain ⟨l, isLocated, rfl⟩ := List.mem_map.mp member
  have isRanked := mem_ranked_iff.mpr (mem_located_iff.mp isLocated)
  have ordered := pairwise_ranked files
  obtain ⟨others, whole⟩ := List.head?_eq_some_iff.mp isFirst
  rw [whole, List.pairwise_cons] at ordered
  rw [whole, List.mem_cons] at isRanked
  rcases isRanked with rfl | behind
  · exact Int64.le_refl _
  · exact (ordered.1 l behind).le

/-- A function as complex as any has the largest complexity of the project. -/
theorem ProjectTotals.maxComplexity_eq {files : List FileEntry} (summedUp : ∀ file ∈ files, file.IsSummedUp)
    (nonneg : ∀ f ∈ allFunctions files, 0 ≤ f.complexity) {best : FunctionEntry}
    (listed : best ∈ allFunctions files) (upper : ∀ f ∈ allFunctions files, f.complexity ≤ best.complexity) :
    (ofFiles files).maxComplexity = best.complexity := by
  have isMax : (complexities (allFunctions files)).max? = some best.complexity.toInt := by
    rw [List.max?_eq_some_iff]
    refine ⟨List.mem_map_of_mem (List.mem_map_of_mem listed), ?_⟩
    intro _ member
    obtain ⟨_, isComplexity, rfl⟩ := List.mem_map.mp member
    obtain ⟨f, inside, rfl⟩ := List.mem_map.mp isComplexity
    exact Int64.le_iff_toInt_le.mp (upper f inside)
  rw [ofFiles_eq_ofFunctions summedUp nonneg]
  simp only [ofFunctions, isMax, Option.getD_some, Int64.ofInt_toInt]

/-- A report ranks the best functions of its files, as many as wanted.  Where more are wanted, the same ones
stand in front.  No function is more complex than the first one, whose complexity is the largest one of the
project where files are summed up and no complexity is negative. -/
theorem Report.best_functions_ranked (runId : String) (now : Timestamp) (root : String) (files : List FileEntry)
    (warnings : List String) (top : Int) :
    let report := assemble runId now root files warnings top
    (∃ best, IsBest files (wanted top) best ∧ report.topFunctions.getD [] = best.map Located.function) ∧
    (∀ more, wanted more = wanted top + 1 →
      report.topFunctions.getD [] <+: (assemble runId now root files warnings more).topFunctions.getD []) ∧
    (∀ first, (report.topFunctions.getD []).head? = some first →
      (∀ f ∈ allFunctions files, f.complexity ≤ first.complexity) ∧
      ((∀ file ∈ files, file.IsSummedUp) → (∀ f ∈ allFunctions files, 0 ≤ f.complexity) →
        first.complexity = report.project.maxComplexity)) := by
  intro report
  have isTop : report.topFunctions.getD [] = ((ranked files).take (wanted top)).map Located.function :=
    (topFunctions_assemble ..).trans (ranking_allFunctions top files)
  refine ⟨⟨_, isBest_take_ranked files (wanted top), isTop⟩, ?_, ?_⟩
  · intro more isMore
    rw [isTop, topFunctions_assemble, ranking_allFunctions, isMore]
    exact (List.take_prefix_take_left (Nat.le_succ _)).map _
  · intro first isFirst
    rw [isTop, List.head?_map, Option.map_eq_some_iff] at isFirst
    obtain ⟨l, isFirst, rfl⟩ := isFirst
    have member := List.mem_of_mem_head? isFirst
    have isHead : (ranked files).head? = some l := by
      rw [List.head?_take] at isFirst
      split at isFirst
      · exact nomatch isFirst
      · exact isFirst
    have upper : ∀ f ∈ allFunctions files, f.complexity ≤ l.function.complexity := fun f =>
      le_complexity_of_head? isHead
    refine ⟨upper, fun summedUp nonneg => ?_⟩
    have listed : l.function ∈ allFunctions files := by
      rw [← map_function_located]
      exact List.mem_map_of_mem (mem_located_iff.mpr ((isBest_take_ranked files (wanted top)).isIn l member))
    exact (ProjectTotals.maxComplexity_eq summedUp nonneg listed upper).symm

/-- Two files in which each complexity occurs twice. -/
def tied : List FileEntry := [fileWith "a.c" [1, 2], fileWith "b.c" [2, 1]]

/-- Of functions of one complexity the first one is ranked first. -/
theorem best_of_tied :
    let report := Report.assemble "one" default "p" tied [] 2
    (report.topFunctions.getD []).map (fun f => (f.filePath, f.complexity)) = [("a.c", 2), ("b.c", 2)] ∧
    (report.topFunctions.getD [] <+: (Report.assemble "one" default "p" tied [] 0).topFunctions.getD []) ∧
    report.project.maxComplexity = 2 := by
  intro report
  have isTop : report.topFunctions.getD [] = ranking 2 (allFunctions tied) := topFunctions_assemble ..
  have listed : (report.topFunctions.getD []).map (fun f => (f.filePath, f.complexity)) =
      [("a.c", 2), ("b.c", 2)] := by
    rw [isTop]
    simp [ranking, allFunctions, tied, fileWith, FileEntry.functionList, List.mergeSort,
      List.MergeSort.Internal.splitInTwo]
  obtain ⟨-, longer, first⟩ := Report.best_functions_ranked "one" default "p" tied [] 2
  refine ⟨listed, longer 0 rfl, ?_⟩
  have summedUp : ∀ file ∈ tied, file.IsSummedUp := by
    simp [tied, fileWith, FileEntry.IsSummedUp, FileEntry.functionList]
  cases whole : report.topFunctions.getD [] with
  | nil =>
    rw [whole] at listed
    cases listed
  | cons best others =>
    rw [whole] at listed
    obtain ⟨-, isLargest⟩ := first best (by rw [whole]; rfl)
    have isTwo : best.complexity = 2 := congrArg Prod.snd (List.cons.inj listed).1
    rw [← isTwo]
    exact (isLargest summedUp (by decide)).symm

end CodeGauge
