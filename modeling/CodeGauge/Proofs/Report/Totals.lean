/-
Module: CodeGauge.Proofs.Report.Totals
Purpose: The totals of a project are those of all its functions, however these are spread over files.
Main exports:
  lt_largest_map_iff, FileEntry.IsSummedUp, ProjectTotals.ofFunctions, ProjectTotals.ofFiles_eq_ofFunctions,
  Rearranged, Report.totals_of_all_functions
-/
import CodeGauge.Report.Assemble
import Mathlib.Algebra.BigOperators.Group.List.Basic
import Mathlib.Algebra.Ring.Int.Defs
import Mathlib.Data.Int.Order.Basic
import Mathlib.Data.List.Forall2

namespace CodeGauge

open CodeGauge.Number CodeGauge.Time

/-!
Most totals are added up twice, within each file and then over the files, while the functions that do not
branch are counted one by one.  Sums of words wrap, so a sum of sums is the word of one sum of integers; a
largest one of largest ones is told by the limits that it is above.
-/

/-! ### Sums and counts -/

theorem foldl_add_eq (values : List Int64) (start : Int64) :
    values.foldl (· + ·) start = start + Int64.ofInt (values.map Int64.toInt).sum := by
  induction values generalizing start with
  | nil => simp
  | cons value values ih =>
    rw [List.foldl_cons, ih, List.map_cons, List.sum_cons, Int64.ofInt_add, Int64.ofInt_toInt, Int64.add_assoc]

/-- A sum of words is the word of their sum. -/
theorem total_eq_ofInt_sum (values : List Int64) : total values = Int64.ofInt (values.map Int64.toInt).sum := by
  rw [total, foldl_add_eq, Int64.zero_add]

theorem total_cons (value : Int64) (values : List Int64) : total (value :: values) = value + total values := by
  rw [total_eq_ofInt_sum, total_eq_ofInt_sum, List.map_cons, List.sum_cons, Int64.ofInt_add, Int64.ofInt_toInt]

theorem total_append (front behind : List Int64) : total (front ++ behind) = total front + total behind := by
  simp only [total_eq_ofInt_sum, List.map_append, List.sum_append, Int64.ofInt_add]

theorem total_flatMap {α : Type} (numbers : α → List Int64) (items : List α) :
    total (items.flatMap numbers) = total (items.map fun item => total (numbers item)) := by
  induction items with
  | nil => rfl
  | cons item items ih => rw [List.flatMap_cons, List.map_cons, total_append, total_cons, ih]

theorem tally_flatMap {α β : Type} (p : β → Bool) (parts : α → List β) (items : List α) :
    tally p (items.flatMap parts) = total (items.map fun item => tally p (parts item)) := by
  induction items with
  | nil => rfl
  | cons item items ih =>
    rw [List.flatMap_cons, List.map_cons, total_cons, ← ih, tally, tally, tally, List.countP_append,
      Int64.ofNat_add]

/-- The number of some things is how many of them have a property that all have. -/
theorem ofNat_length_eq_tally {α : Type} (items : List α) :
    Int64.ofNat items.length = tally (fun _ => true) items := by
  rw [tally, List.countP_true]

/-! ### The largest complexity -/

theorem lt_foldl_larger_iff (limit : Int) (values : List Int64) (best : Int64) :
    limit < (values.foldl (fun best value => if best < value then value else best) best).toInt ↔
      limit < best.toInt ∨ ∃ value ∈ values, limit < value.toInt := by
  induction values generalizing best with
  | nil => simp
  | cons value values ih =>
    have larger : limit < (if best < value then value else best).toInt ↔
        limit < best.toInt ∨ limit < value.toInt := by
      split
      · next less =>
        rw [Int64.lt_iff_toInt_lt] at less
        omega
      · next notLess =>
        rw [Int64.lt_iff_toInt_lt] at notLess
        omega
    rw [List.foldl_cons, ih, larger, or_assoc]
    simp

/-- The largest one of some numbers is above a limit exactly if zero or one of them is. -/
theorem lt_largest_iff (limit : Int) (values : List Int64) :
    limit < (largest values).toInt ↔ limit < 0 ∨ ∃ value ∈ values, limit < value.toInt := by
  rw [largest, lt_foldl_larger_iff, Int64.toInt_zero]

/-- The largest number of some things is above a limit that is not negative exactly if that of one of
them is. -/
theorem lt_largest_map_iff {α : Type} {limit : Int} (nonneg : 0 ≤ limit) (number : α → Int64)
    (items : List α) :
    limit < (largest (items.map number)).toInt ↔ ∃ item ∈ items, limit < (number item).toInt := by
  rw [lt_largest_iff, or_iff_right (by omega)]
  constructor
  · rintro ⟨_, member, above⟩
    obtain ⟨item, listed, rfl⟩ := List.mem_map.mp member
    exact ⟨item, listed, above⟩
  · rintro ⟨item, listed, above⟩
    exact ⟨_, List.mem_map_of_mem listed, above⟩

theorem largest_flatMap {α : Type} (numbers : α → List Int64) (items : List α) :
    largest (items.flatMap numbers) = largest (items.map fun item => largest (numbers item)) := by
  rw [← Int64.toInt_inj]
  apply eq_of_forall_lt_iff
  intro limit
  by_cases negative : limit < 0
  · rw [lt_largest_iff, lt_largest_iff]
    exact iff_of_true (Or.inl negative) (Or.inl negative)
  · rw [lt_largest_iff, or_iff_right negative, lt_largest_map_iff (by omega)]
    simp only [lt_largest_iff, or_iff_right negative, List.mem_flatMap]
    constructor
    · rintro ⟨value, ⟨item, listed, member⟩, above⟩
      exact ⟨item, listed, value, member, above⟩
    · rintro ⟨item, listed, value, member, above⟩
      exact ⟨value, ⟨item, listed, member⟩, above⟩

/-- The largest one of some numbers that are not negative is their maximum, or zero if there are none. -/
theorem toInt_largest {values : List Int64} (nonneg : ∀ value ∈ values, 0 ≤ value.toInt) :
    (largest values).toInt = (values.map Int64.toInt).max?.getD 0 := by
  cases isMax : (values.map Int64.toInt).max? with
  | none =>
    obtain rfl := List.map_eq_nil_iff.mp (List.max?_eq_none_iff.mp isMax)
    rfl
  | some greatest =>
    obtain ⟨member, upper⟩ := List.max?_eq_some_iff.mp isMax
    obtain ⟨best, listed, rfl⟩ := List.mem_map.mp member
    apply eq_of_forall_lt_iff
    intro limit
    rw [lt_largest_iff, Option.getD_some]
    constructor
    · rintro (negative | ⟨value, inside, above⟩)
      · exact lt_of_lt_of_le negative (nonneg best listed)
      · exact lt_of_lt_of_le above (upper _ (List.mem_map_of_mem inside))
    · intro below
      exact Or.inr ⟨best, listed, below⟩

/-! ### Totals of one list of functions -/

/-- An entry is summed up as its functions say. -/
def FileEntry.IsSummedUp (entry : FileEntry) : Prop :=
  entry.summary = FileSummary.ofFunctions entry.functionList

/-- The complexities of functions as integers. -/
def complexities (functions : List FunctionEntry) : List Int :=
  (functions.map FunctionEntry.complexity).map Int64.toInt

namespace ProjectTotals

/-- What the functions of some number of files add up to, all counted one by one. -/
def ofFunctions (files : Nat) (functions : List FunctionEntry) : ProjectTotals :=
  let count := Int64.ofNat functions.length
  let sum := Int64.ofInt (complexities functions).sum
  let unconventional := Int64.ofNat (functions.countP fun f => !f.camelCase)
  { totalFiles := Int64.ofNat files
    totalFunctions := count
    totalComplexity := sum
    maxComplexity := Int64.ofInt ((complexities functions).max?.getD 0)
    avgComplexity := if 0 < count then quotient sum count else .zero
    zeroComplexityFunctions := Int64.ofNat (functions.countP fun f => f.complexity == 0)
    nonCamelCaseFunctions := unconventional
    nonCamelCasePct :=
      if 0 < count then
        ((Binary64.ofInt 100).mul (Binary64.ofInt unconventional.toInt)).div (Binary64.ofInt count.toInt)
      else .zero }

/-- The order of the functions does not matter. -/
theorem ofFunctions_perm {functions others : List FunctionEntry} (same : functions.Perm others) (files : Nat) :
    ofFunctions files functions = ofFunctions files others := by
  have numbers : (complexities functions).Perm (complexities others) := (same.map _).map _
  have greatest : (complexities functions).max? = (complexities others).max? := by
    apply Option.ext
    intro greatest
    simp only [List.max?_eq_some_iff, numbers.mem_iff]
  simp only [ofFunctions, same.length_eq, numbers.sum_eq, greatest, same.countP_eq]

section SummedUp

variable {files : List FileEntry} (summedUp : ∀ file ∈ files, file.IsSummedUp)

include summedUp

theorem map_summary {α : Type} (part : FileSummary → α) : files.map (fun file => part file.summary) =
    files.map fun file => part (FileSummary.ofFunctions file.functionList) :=
  List.map_congr_left fun file member => congrArg part (summedUp file member)

/-- The totals of files that are summed up are those of all their functions. -/
theorem ofFiles_eq_ofFunctions (nonneg : ∀ f ∈ allFunctions files, 0 ≤ f.complexity) :
    ofFiles files = ofFunctions files.length (allFunctions files) := by
  have counts : total (files.map fun file => file.summary.functionsCount) =
      Int64.ofNat (allFunctions files).length := by
    rw [map_summary summedUp FileSummary.functionsCount, ofNat_length_eq_tally, allFunctions, tally_flatMap]
    simp only [FileSummary.ofFunctions, ofNat_length_eq_tally]
  have sums : total (files.map fun file => file.summary.complexityTotal) =
      Int64.ofInt (complexities (allFunctions files)).sum := by
    rw [map_summary summedUp FileSummary.complexityTotal, complexities, ← total_eq_ofInt_sum,
      allFunctions, List.map_flatMap, total_flatMap]
    rfl
  have unconventional : total (files.map fun file => file.summary.nonCamelCase) =
      Int64.ofNat ((allFunctions files).countP fun f => !f.camelCase) := by
    rw [map_summary summedUp FileSummary.nonCamelCase, ← tally, allFunctions, tally_flatMap]
    rfl
  have greatest : largest (files.map fun file => file.summary.complexityMax) =
      Int64.ofInt ((complexities (allFunctions files)).max?.getD 0) := by
    have numbers : ∀ value ∈ (allFunctions files).map FunctionEntry.complexity, 0 ≤ value.toInt := by
      intro value member
      obtain ⟨f, listed, rfl⟩ := List.mem_map.mp member
      exact Int64.le_iff_toInt_le.mp (nonneg f listed)
    rw [map_summary summedUp FileSummary.complexityMax, complexities, ← toInt_largest numbers,
      Int64.ofInt_toInt, allFunctions, List.map_flatMap, largest_flatMap]
    rfl
  simp only [ofFiles, ofFunctions, counts, sums, unconventional, greatest, tally]

end SummedUp

end ProjectTotals

/-! ### Functions in another order -/

/-- The files of a project are taken in another order, and the functions of each file too. -/
def Rearranged (files others : List FileEntry) : Prop :=
  ∃ middle, files.Perm middle ∧ List.Forall₂ (fun f g => f.functionList.Perm g.functionList) middle others

theorem Rearranged.perm {files others : List FileEntry} (rearranged : Rearranged files others) :
    (allFunctions files).Perm (allFunctions others) := by
  obtain ⟨middle, moved, within⟩ := rearranged
  refine (moved.flatMap_right _).trans ?_
  induction within generalizing files with
  | nil => exact .refl _
  | cons same _ ih => exact same.append (ih (.refl _))

theorem Rearranged.length_eq {files others : List FileEntry} (rearranged : Rearranged files others) :
    files.length = others.length := by
  obtain ⟨middle, moved, within⟩ := rearranged
  exact moved.length_eq.trans within.length_eq

/-! ### What a report says of its functions -/

theorem zero_lt_ofNat_iff {n : Nat} (small : n < 2 ^ 63) : 0 < Int64.ofNat n ↔ 0 < n := by
  rw [Int64.lt_iff_toInt_lt, Int64.toInt_ofNat_of_lt small, Int64.toInt_zero]
  omega

theorem allFunctions_ne_nil_iff (files : List FileEntry) :
    allFunctions files ≠ [] ↔ ∃ file ∈ files, file.functionList ≠ [] := by
  simp [allFunctions]

section Counted

variable {files : Nat} {functions : List FunctionEntry} (small : functions.length < 2 ^ 63)
  {report : Report} (counted : report.project = ProjectTotals.ofFunctions files functions)

include small counted

theorem hasFunctions_iff : report.hasFunctions = true ↔ functions ≠ [] := by
  rw [Report.hasFunctions, counted, decide_eq_true_eq]
  exact (zero_lt_ofNat_iff small).trans List.length_pos_iff

/-- All functions are counted as not branching exactly if none of them branches. -/
theorem allZero_iff : report.allZero = true ↔ functions ≠ [] ∧ ∀ f ∈ functions, f.complexity = 0 := by
  have fewer : functions.countP (fun f => f.complexity == 0) < 2 ^ 63 :=
    Nat.lt_of_le_of_lt List.countP_le_length small
  have numbers : report.project.zeroComplexityFunctions = report.project.totalFunctions ↔
      functions.countP (fun f => f.complexity == 0) = functions.length := by
    rw [counted, ProjectTotals.ofFunctions, ← Int64.toInt_inj, Int64.toInt_ofNat_of_lt fewer,
      Int64.toInt_ofNat_of_lt small]
    omega
  rw [Report.allZero, Bool.and_eq_true, beq_iff_eq, hasFunctions_iff small counted, numbers,
    List.countP_eq_length]
  simp only [beq_iff_eq]

end Counted

/-- The maximum of complexities is zero exactly if all are, where none is negative. -/
theorem maxComplexity_eq_zero_iff {functions : List FunctionEntry}
    (nonneg : ∀ f ∈ functions, 0 ≤ f.complexity) (files : Nat) :
    (ProjectTotals.ofFunctions files functions).maxComplexity = 0 ↔ ∀ f ∈ functions, f.complexity = 0 := by
  simp only [ProjectTotals.ofFunctions]
  cases isMax : (complexities functions).max? with
  | none =>
    obtain rfl := List.map_eq_nil_iff.mp (List.map_eq_nil_iff.mp (List.max?_eq_none_iff.mp isMax))
    exact iff_of_true rfl (by simp)
  | some greatest =>
    obtain ⟨member, upper⟩ := List.max?_eq_some_iff.mp isMax
    obtain ⟨_, isComplexity, rfl⟩ := List.mem_map.mp member
    obtain ⟨best, listed, rfl⟩ := List.mem_map.mp isComplexity
    rw [Option.getD_some, Int64.ofInt_toInt]
    constructor
    · intro isZero f member
      have above := upper _ (List.mem_map_of_mem (List.mem_map_of_mem member))
      have below := Int64.le_iff_toInt_le.mp (nonneg f member)
      rw [isZero] at above
      exact Int64.toInt_inj.mp (le_antisymm above below)
    · intro allZero
      exact allZero best listed

/-- The totals of a report are those of all functions of its files, counted one by one, and so depend
neither on the order of the files nor on that of the functions in them.  Hence a report has functions exactly
if one of its files has one; and all its functions are counted as not branching exactly if it has functions
and none of them branches, which is if it has functions and their largest complexity is zero. -/
theorem Report.totals_of_all_functions {files : List FileEntry} (summedUp : ∀ file ∈ files, file.IsSummedUp)
    (nonneg : ∀ f ∈ allFunctions files, 0 ≤ f.complexity) (runId : String) (now : Timestamp) (root : String)
    (warnings : List String) (top : Int) :
    let report := assemble runId now root files warnings top
    report.project = ProjectTotals.ofFunctions files.length (allFunctions files) ∧
    (∀ others, Rearranged files others → (∀ file ∈ others, file.IsSummedUp) →
      ∀ runId now root warnings top,
        (assemble runId now root others warnings top).project = report.project) ∧
    ((allFunctions files).length < 2 ^ 63 →
      report.project.totalFunctions.toInt = (allFunctions files).length ∧
      (report.hasFunctions = true ↔ ∃ file ∈ files, file.functionList ≠ []) ∧
      (report.allZero = true ↔
        allFunctions files ≠ [] ∧ ∀ f ∈ allFunctions files, f.complexity = 0) ∧
      (report.allZero = true ↔ report.hasFunctions = true ∧ report.project.maxComplexity = 0)) := by
  intro report
  have counted : report.project = ProjectTotals.ofFunctions files.length (allFunctions files) :=
    ProjectTotals.ofFiles_eq_ofFunctions summedUp nonneg
  refine ⟨counted, ?_, fun small => ⟨?_, ?_, allZero_iff small counted, ?_⟩⟩
  · intro others rearranged summedUp' _ _ _ _ _
    have nonneg' : ∀ f ∈ allFunctions others, 0 ≤ f.complexity := fun f member =>
      nonneg f (rearranged.perm.mem_iff.mpr member)
    rw [counted, ProjectTotals.ofFunctions_perm rearranged.perm, rearranged.length_eq]
    exact ProjectTotals.ofFiles_eq_ofFunctions summedUp' nonneg'
  · rw [counted]
    exact Int64.toInt_ofNat_of_lt small
  · rw [hasFunctions_iff small counted, allFunctions_ne_nil_iff]
  · rw [allZero_iff small counted, hasFunctions_iff small counted, counted, maxComplexity_eq_zero_iff nonneg]

/-- A file with functions of some complexities, summed up. -/
def fileWith (path : String) (numbers : List Int64) : FileEntry :=
  let functions := numbers.map fun number => { (default : FunctionEntry) with filePath := path, complexity := number }
  { (default : FileEntry) with path, summary := FileSummary.ofFunctions functions, functions := some functions }

/-- Three files, the middle one without functions; the sum of their complexities does not fit a word. -/
def overflowing : List FileEntry :=
  [fileWith "a.c" [2, 9223372036854775807], fileWith "b.c" [], fileWith "c.c" [0]]

theorem totals_of_overflowing :
    (∀ file ∈ overflowing, file.IsSummedUp) ∧ (∀ f ∈ allFunctions overflowing, 0 ≤ f.complexity) ∧
    (Report.assemble "one" default "p" overflowing [] 3).project.totalComplexity = -9223372036854775807 ∧
    (Report.assemble "one" default "p" overflowing [] 3).project.maxComplexity = 9223372036854775807 ∧
    (Report.assemble "two" default "p" overflowing.reverse [] 1).project =
      (Report.assemble "one" default "p" overflowing [] 3).project ∧
    (Report.assemble "one" default "p" overflowing [] 3).hasFunctions = true ∧
    ¬ (Report.assemble "one" default "p" overflowing [] 3).allZero = true := by
  have summedUp : ∀ file ∈ overflowing, file.IsSummedUp := by
    simp [overflowing, fileWith, FileEntry.IsSummedUp, FileEntry.functionList]
  have nonneg : ∀ f ∈ allFunctions overflowing, 0 ≤ f.complexity := by decide
  obtain ⟨counted, reordered, small⟩ :=
    Report.totals_of_all_functions summedUp nonneg "one" default "p" [] 3
  obtain ⟨-, has, allZero, -⟩ := small (by decide)
  have reversed : Rearranged overflowing overflowing.reverse :=
    ⟨overflowing.reverse, (List.reverse_perm _).symm, List.forall₂_same.mpr fun file _ => .refl _⟩
  have summedUp' : ∀ file ∈ overflowing.reverse, file.IsSummedUp := fun file member =>
    summedUp file (List.mem_reverse.mp member)
  refine ⟨summedUp, nonneg, ?_, ?_, reordered _ reversed summedUp' _ _ _ _ _, ?_, ?_⟩
  · rw [counted]
    decide
  · rw [counted]
    decide
  · exact has.mpr ⟨_, List.mem_cons_self, by simp [fileWith, FileEntry.functionList]⟩
  · rw [allZero]
    decide

end CodeGauge
