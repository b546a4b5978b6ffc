/-
Module: CodeGauge.Proofs.History.Ledger
Purpose: A ledger refuses a run exactly if it has one of the same identifier, and lists the accepted runs,
  the latest one first.
Main exports:
  ReadBack, Recordable, Latest, Ledger.ofRuns, Ledger.record_new, Ledger.record_repeated,
  Ledger.list_ofRuns
-/
import CodeGauge.History.Ledger
import CodeGauge.Proofs.Report.Ranking
import CodeGauge.Proofs.Time.Order
import Mathlib.Data.List.Forall2

namespace CodeGauge

open CodeGauge.Number CodeGauge.Time

/-!
A ledger is told here by the runs that it has accepted.  What a list of the latest runs is does not speak
of rows and texts: the accepted runs are ranked by their instants, and runs of one instant by the order in
which they were accepted, and the list is the front of this ranking.
-/

/-! ### What is kept of a run -/

/-- Two numbers are equal: they are the same, or both are zero. -/
def SameNumber (x y : Binary64) : Prop := x = y ∨ x.magnitudeBits = 0 ∧ y.magnitudeBits = 0

/-- A run is read back as another one: all texts and numbers are equal, and so is the instant to the
nanosecond, which comes back with offset zero. -/
structure ReadBack (run back : Run) : Prop where
  id : back.id = run.id
  rootPath : back.rootPath = run.rootPath
  seconds : back.generatedAt.seconds = run.generatedAt.seconds
  nanos : back.generatedAt.nanos = run.generatedAt.nanos
  offset : back.generatedAt.offset = 0
  files : back.files = run.files
  functions : back.functions = run.functions
  maxComplexity : back.maxComplexity = run.maxComplexity
  avgComplexity : SameNumber run.avgComplexity back.avgComplexity
  nonCamelCasePct : SameNumber run.nonCamelCasePct back.nonCamelCasePct
  warnings : back.warnings = run.warnings

/-- A run that a ledger can keep: its year in universal time has four digits, and its average and its
percentage are numbers. -/
structure Recordable (run : Run) : Prop where
  plainYear : run.generatedAt.toUtc.hasPlainYear = true
  average : run.avgComplexity.isNaN = false
  percentage : run.nonCamelCasePct.isNaN = false

theorem sameNumber_keptNumber (x : Binary64) : SameNumber x (Row.keptNumber x) := by
  unfold Row.keptNumber
  split
  · next zero => exact Or.inr ⟨zero, by decide⟩
  · exact Or.inl rfl

theorem exists_toRun_ofRun {run : Run} (recordable : Recordable run) :
    ∃ back, (Row.ofRun run).toRun = .ok back ∧ ReadBack run back := by
  have reads : Timestamp.readSortText? (Row.ofRun run).time = some run.generatedAt.toUtc :=
    Timestamp.readSortText?_sortText recordable.plainYear
  refine ⟨_, by rw [Row.toRun, reads], ?_⟩
  constructor
  case avgComplexity => exact sameNumber_keptNumber _
  case nonCamelCasePct => exact sameNumber_keptNumber _
  all_goals rfl

/-! ### The latest runs -/

/-- Of two accepted runs, each with its position in the order of acceptance, the first one is listed in
front of the second one: it is later, or of the same instant and accepted later. -/
def ListedBefore (first second : Run × Nat) : Prop :=
  second.1.generatedAt.Before first.1.generatedAt ∨
    first.1.generatedAt.toUtc = second.1.generatedAt.toUtc ∧ second.2 < first.2

/-- How many runs a limit allows. -/
def allowed (limit : Int) : Nat := if limit ≤ 0 then 20 else limit.toNat

/-- Some runs are the latest ones of those that were accepted: the accepted runs can be ranked by instant
and acceptance, and what is listed is the front of the ranking, read back. -/
def Latest (accepted : List Run) (limit : Int) (runs : List Run) : Prop :=
  ∃ ranking : List (Run × Nat), ranking.Perm accepted.zipIdx ∧ ranking.Pairwise ListedBefore ∧
    List.Forall₂ ReadBack ((ranking.take (allowed limit)).map Prod.fst) runs

namespace Ledger

/-- The ledger that has accepted some runs, the first one first. -/
def ofRuns (accepted : List Run) : Ledger := ⟨accepted.map Row.ofRun⟩

theorem refusal?_ofRuns {accepted : List Run} {run : Run} (recordable : Recordable run) :
    (ofRuns accepted).refusal? run =
      if ∃ other ∈ accepted, other.id = run.id then some .repeated else none := by
  simp [refusal?, ofRuns, recordable.average, recordable.percentage, Row.ofRun]

theorem record_new {accepted : List Run} {run : Run} (recordable : Recordable run)
    (new : ¬ ∃ other ∈ accepted, other.id = run.id) :
    (ofRuns accepted).record run = .ok (ofRuns (accepted ++ [run])) := by
  rw [record, refusal?_ofRuns recordable, if_neg new]
  simp [ofRuns]

theorem record_repeated {accepted : List Run} {run : Run} (recordable : Recordable run)
    (old : ∃ other ∈ accepted, other.id = run.id) :
    ∃ fault, (ofRuns accepted).record run = .error fault := by
  rw [record, refusal?_ofRuns recordable, if_pos old]
  exact ⟨_, rfl⟩

theorem exists_readRows {runs : List Run} (recordable : ∀ run ∈ runs, Recordable run) :
    ∃ backs, readRows (runs.map Row.ofRun) = .ok backs ∧ List.Forall₂ ReadBack runs backs := by
  induction runs with
  | nil => exact ⟨[], rfl, .nil⟩
  | cons run runs ih =>
    obtain ⟨back, reads, isBack⟩ := exists_toRun_ofRun (recordable run List.mem_cons_self)
    obtain ⟨backs, readsRest, areBacks⟩ := ih fun other member => recordable other (List.mem_cons_of_mem run member)
    refine ⟨back :: backs, ?_, .cons isBack areBacks⟩
    rw [List.map_cons, readRows, reads]
    simp only [readsRest]

/-- Whether the text of a run's instant is not below that of another run. -/
def isNotBelow (first second : Run × Nat) : Bool :=
  decide (second.1.generatedAt.sortText ≤ first.1.generatedAt.sortText)

theorem isNotBelow_trans (a b c : Run × Nat) (ab : isNotBelow a b = true) (bc : isNotBelow b c = true) :
    isNotBelow a c = true := by
  rw [isNotBelow, decide_eq_true_eq] at *
  exact String.le_trans bc ab

theorem isNotBelow_total (a b : Run × Nat) : (isNotBelow a b || isNotBelow b a) = true := by
  rw [Bool.or_eq_true, isNotBelow, isNotBelow, decide_eq_true_eq, decide_eq_true_eq]
  exact String.le_total _ _

theorem isNotBelow_iff {first second : Run × Nat} (recordable : Recordable first.1)
    (recordable' : Recordable second.1) :
    isNotBelow first second = true ↔ ¬ first.1.generatedAt.Before second.1.generatedAt := by
  rw [isNotBelow, decide_eq_true_eq, ← String.not_lt,
    Timestamp.sortText_lt_iff recordable.plainYear recordable'.plainYear]

/-- The accepted runs in the order of the list, with their positions. -/
def ranking (accepted : List Run) : List (Run × Nat) := accepted.zipIdx.reverse.mergeSort isNotBelow

theorem perm_ranking (accepted : List Run) : (ranking accepted).Perm accepted.zipIdx :=
  (List.mergeSort_perm _ _).trans (List.reverse_perm _)

theorem recordable_of_mem_ranking {accepted : List Run} (recordable : ∀ run ∈ accepted, Recordable run)
    {place : Run × Nat} (member : place ∈ ranking accepted) : Recordable place.1 := by
  apply recordable
  exact List.mem_of_getElem? (List.mem_zipIdx_iff_getElem?.mp ((perm_ranking accepted).mem_iff.mp member))

theorem newestFirst_ofRuns (accepted : List Run) :
    (ofRuns accepted).newestFirst = ((ranking accepted).map Prod.fst).map Row.ofRun := by
  have rows : (accepted.map Row.ofRun).reverse = accepted.zipIdx.reverse.map (Row.ofRun ∘ Prod.fst) := by
    rw [← List.map_map, List.map_reverse, List.zipIdx_map_fst, List.map_reverse]
  rw [newestFirst, ofRuns, rows, List.map_map, ranking, List.map_mergeSort]
  intro a _ b _
  rfl

theorem pairwise_ranking {accepted : List Run} (recordable : ∀ run ∈ accepted, Recordable run) :
    (ranking accepted).Pairwise ListedBefore := by
  have fromLast : accepted.zipIdx.reverse.Pairwise fun a b => b.2 < a.2 := by
    rw [List.pairwise_reverse, ← List.pairwise_map, List.zipIdx_map_snd]
    exact List.pairwise_lt_range'
  have sorted := pairwise_mergeSort_stable isNotBelow_trans isNotBelow_total fromLast
  refine sorted.imp_of_mem ?_
  intro first second isFirst isSecond both
  obtain ⟨notBelow, ofEqual⟩ := both
  have forward := isNotBelow_iff (recordable_of_mem_ranking recordable isFirst)
    (recordable_of_mem_ranking recordable isSecond)
  have backward := isNotBelow_iff (recordable_of_mem_ranking recordable isSecond)
    (recordable_of_mem_ranking recordable isFirst)
  by_cases later : second.1.generatedAt.Before first.1.generatedAt
  · exact Or.inl later
  · exact Or.inr ⟨Timestamp.toUtc_eq_of_not_before (forward.mp notBelow) later, ofEqual (backward.mpr later)⟩

/-- A ledger lists the latest of the runs that it has accepted. -/
theorem list_ofRuns {accepted : List Run} (recordable : ∀ run ∈ accepted, Recordable run) (limit : Int) :
    ∃ runs, (ofRuns accepted).list limit = .ok runs ∧ Latest accepted limit runs := by
  have count : (if limit ≤ 0 then defaultLimit else limit).toNat = allowed limit := by
    rw [allowed, defaultLimit]
    split <;> rfl
  obtain ⟨runs, reads, readBack⟩ :=
    @exists_readRows (((ranking accepted).take (allowed limit)).map Prod.fst) (by
      intro run member
      obtain ⟨place, isPlace, rfl⟩ := List.mem_map.mp member
      exact recordable_of_mem_ranking recordable (List.mem_of_mem_take isPlace))
  refine ⟨runs, ?_, ranking accepted, perm_ranking accepted, pairwise_ranking recordable, readBack⟩
  rw [list, newestFirst_ofRuns, ← List.map_take, ← List.map_take, count]
  exact reads

end Ledger

end CodeGauge
