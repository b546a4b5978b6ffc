/-
Module: CodeGauge.Proofs.Analysis.Schedule
Purpose: A report does not depend on which worker measures which file when, nor on the order in which a
  search lists the files.
Main exports:
  Pool, Pool.Step, Pool.Finishes, Findings.Collects, report_independent_of_schedule
-/
import CodeGauge.Analysis.Run
import CodeGauge.FileTree.Scan
import CodeGauge.Workspace.Memory
import Mathlib.Logic.Relation

namespace CodeGauge.Analysis

/-!
Workers take the listed paths one after another and hand over an outcome for each path that some
analyser supports, in whatever order they get ready.  What has arrived is sorted, and a sort may leave
entries of equal path in any order.  No choice of these is seen in the report: what arrives is always a
permutation of the same outcomes, and entries of equal path are equal.
-/

/-- The entries that an analyser makes have the path of the file. -/
def Analyser.NamesFile (analyser : Analyser) : Prop :=
  ∀ path content entry, analyser.measure path content = .ok entry → entry.path = path

theorem Analyser.namesFile_ofExtensions (supported : Extension.Supported) :
    (ofExtensions supported).NamesFile := by
  intro path content entry measured
  cases content with
  | ok source =>
      cases measured
      rfl
  | error cause => cases measured

theorem Analyser.namesFile_refusing (ending cause : String) : (refusing ending cause).NamesFile := by
  intro path content entry measured
  cases measured

/-- Whether some analyser takes a path. -/
def isTaken (analysers : List Analyser) (path : String) : Bool := analysers.any (·.supports path)

/-- The outcomes of the paths that some analyser takes. -/
def reported (analysers : List Analyser) (read : String → Reading) (paths : List String) :
    List Arrival :=
  arrivals analysers read (paths.filter (isTaken analysers))

/-! ### Workers -/

/-- The paths that wait for a worker, the paths that workers hold, and what has arrived so far. -/
structure Pool where
  waiting : List String
  held : List String
  arrived : List Arrival

/-- What may happen next in a pool of some workers. -/
inductive Pool.Step (analysers : List Analyser) (read : String → Reading) (workers : Nat) :
    Pool → Pool → Prop where
  /-- An idle worker takes the next path. -/
  | take {path : String} {waiting held : List String} {arrived : List Arrival}
      (idle : held.length < workers) :
      Step analysers read workers ⟨path :: waiting, held, arrived⟩ ⟨waiting, path :: held, arrived⟩
  /-- A worker drops a path that no analyser takes. -/
  | drop {path : String} {waiting before after : List String} {arrived : List Arrival}
      (notTaken : isTaken analysers path = false) :
      Step analysers read workers ⟨waiting, before ++ path :: after, arrived⟩
        ⟨waiting, before ++ after, arrived⟩
  /-- A worker hands over the outcome of its path. -/
  | deliver {path : String} {waiting before after : List String} {arrived : List Arrival}
      (taken : isTaken analysers path = true) :
      Step analysers read workers ⟨waiting, before ++ path :: after, arrived⟩
        ⟨waiting, before ++ after, arrived ++ [(path, outcome analysers read path)]⟩

/-- Some workers that begin with the listed paths come to an end, and outcomes have then arrived in a
certain order. -/
def Pool.Finishes (analysers : List Analyser) (read : String → Reading) (workers : Nat)
    (listed : List String) (arrived : List Arrival) : Prop :=
  Relation.ReflTransGen (Pool.Step analysers read workers) ⟨listed, [], []⟩ ⟨[], [], arrived⟩

section Workers

variable {analysers : List Analyser} {read : String → Reading} {workers : Nat}

theorem reported_append (front behind : List String) :
    reported analysers read (front ++ behind) =
      reported analysers read front ++ reported analysers read behind := by
  simp only [reported, arrivals, List.filter_append, List.map_append]

theorem reported_cons (path : String) (paths : List String) :
    reported analysers read (path :: paths) =
      (if isTaken analysers path then [(path, outcome analysers read path)] else []) ++
        reported analysers read paths := by
  by_cases taken : isTaken analysers path = true
  · simp [reported, arrivals, taken]
  · simp [reported, arrivals, taken]

theorem reported_perm {paths others : List String} (same : paths.Perm others) :
    (reported analysers read paths).Perm (reported analysers read others) :=
  (same.filter _).map _

/-- A step keeps together what has arrived and what is still to come. -/
theorem Pool.Step.perm {pool next : Pool} (step : Pool.Step analysers read workers pool next) :
    (pool.arrived ++ reported analysers read (pool.held ++ pool.waiting)).Perm
      (next.arrived ++ reported analysers read (next.held ++ next.waiting)) := by
  cases step with
  | take idle =>
      apply List.Perm.append_left
      exact reported_perm List.perm_middle
  | drop notTaken =>
      simp [reported_append, reported_cons, notTaken]
  | @deliver path waiting before after arrived taken =>
      simp only [reported_append, reported_cons, taken, if_true, List.append_assoc]
      apply List.Perm.append_left
      exact List.perm_middle

/-- When all workers are done, one outcome has arrived for each listed path that an analyser takes. -/
theorem Pool.Finishes.perm {listed : List String} {arrived : List Arrival}
    (finishes : Pool.Finishes analysers read workers listed arrived) :
    arrived.Perm (reported analysers read listed) := by
  have along : ∀ {first last : Pool},
      Relation.ReflTransGen (Pool.Step analysers read workers) first last →
        (first.arrived ++ reported analysers read (first.held ++ first.waiting)).Perm
          (last.arrived ++ reported analysers read (last.held ++ last.waiting)) := by
    intro first last steps
    induction steps with
    | refl => exact List.Perm.refl _
    | tail _ step ih => exact ih.trans step.perm
  have whole := along finishes
  simpa [reported, arrivals] using whole.symm

/-- One worker is enough to come to an end, with the outcomes in the order of the listing. -/
theorem Pool.finishes_of_pos (enough : 0 < workers) (listed : List String) :
    Pool.Finishes analysers read workers listed (reported analysers read listed) := by
  have onwards : ∀ arrived, Relation.ReflTransGen (Pool.Step analysers read workers)
      ⟨listed, [], arrived⟩ ⟨[], [], arrived ++ reported analysers read listed⟩ := by
    induction listed with
    | nil =>
        intro arrived
        rw [show reported analysers read [] = [] from rfl, List.append_nil]
    | cons path paths ih =>
        intro arrived
        apply Relation.ReflTransGen.head (.take enough)
        rw [reported_cons]
        by_cases taken : isTaken analysers path = true
        · have delivers : Pool.Step analysers read workers ⟨paths, [] ++ path :: [], arrived⟩ _ :=
            .deliver taken
          apply Relation.ReflTransGen.head delivers
          simpa [taken] using ih (arrived ++ [(path, outcome analysers read path)])
        · rw [Bool.not_eq_true] at taken
          have drops : Pool.Step analysers read workers ⟨paths, [] ++ path :: [], arrived⟩ _ :=
            .drop taken
          apply Relation.ReflTransGen.head drops
          simpa [taken] using ih arrived
  exact onwards []

end Workers

/-! ### Sorting -/

/-- The findings are what arrived, put in order by sorts that need not keep equal items in place. -/
structure Findings.Collects (findings : Findings) (arrived : List Arrival) : Prop where
  files : findings.files.Perm (arrived.filterMap fun a => a.2.measured?)
  filesSorted : findings.files.Pairwise fun f g => f.path ≤ g.path
  warnings : findings.warnings.Perm (arrived.filterMap fun a => a.2.warning? a.1)
  warningsSorted : findings.warnings.Pairwise fun v w => v ≤ w

theorem pairwise_mergeSort_text {α : Type} (key : α → String) (items : List α) :
    (items.mergeSort fun a b => decide (key a ≤ key b)).Pairwise fun a b => key a ≤ key b := by
  have trans : ∀ a b c : α, decide (key a ≤ key b) = true → decide (key b ≤ key c) = true →
      decide (key a ≤ key c) = true := by
    intro a b c first second
    rw [decide_eq_true_eq] at first second ⊢
    exact String.le_trans first second
  have total : ∀ a b : α, (decide (key a ≤ key b) || decide (key b ≤ key a)) = true := by
    intro a b
    simpa using String.le_total (key a) (key b)
  simpa using List.pairwise_mergeSort trans total items

theorem Findings.collects_collect (arrived : List Arrival) :
    (Findings.collect arrived).Collects arrived where
  files := List.mergeSort_perm _ _
  filesSorted := pairwise_mergeSort_text FileEntry.path _
  warnings := List.mergeSort_perm _ _
  warningsSorted := pairwise_mergeSort_text id _

section Sorting

variable {analysers : List Analyser} {read : String → Reading}

/-- A path that no analyser takes has neither an entry nor a warning. -/
theorem outcome_of_not_taken {path : String} (notTaken : isTaken analysers path = false) :
    outcome analysers read path = .unsupported := by
  have none : analysers.find? (fun a => a.supports path) = none := by
    simpa [isTaken] using notTaken
  rw [outcome, none]

/-- What is made of the outcomes of all paths is made of those that are reported. -/
theorem filterMap_reported {α : Type} (made? : Arrival → Option α)
    (passed : ∀ path, made? (path, .unsupported) = none) (paths : List String) :
    (reported analysers read paths).filterMap made? =
      (arrivals analysers read paths).filterMap made? := by
  induction paths with
  | nil => rfl
  | cons path paths ih =>
      have rest : arrivals analysers read (path :: paths) =
          [(path, outcome analysers read path)] ++ arrivals analysers read paths := rfl
      rw [reported_cons, rest, List.filterMap_append, List.filterMap_append, ih]
      by_cases taken : isTaken analysers path = true
      · rw [if_pos taken]
      · rw [if_neg taken, outcome_of_not_taken (by simpa using taken)]
        simp [passed]

/-- An entry of the outcomes is the one that the outcome of its own path has. -/
theorem measured?_of_mem (named : ∀ analyser ∈ analysers, analyser.NamesFile) {paths : List String}
    {entry : FileEntry} (member : entry ∈ (reported analysers read paths).filterMap (·.2.measured?)) :
    (outcome analysers read entry.path).measured? = some entry := by
  obtain ⟨⟨path, result⟩, arrival, measured⟩ := List.mem_filterMap.1 member
  obtain ⟨_, _, pair⟩ := List.mem_map.1 arrival
  cases pair
  have pathEq : entry.path = path := by
    unfold outcome at measured
    cases found : analysers.find? (fun a => a.supports path) with
    | none => simp [found, Outcome.measured?] at measured
    | some analyser =>
        have keeps := named analyser (List.mem_of_find?_eq_some found)
        have made : ∀ content, (Outcome.ofResult (analyser.measure path content)).measured? =
            some entry → entry.path = path := by
          intro content measured
          cases result : analyser.measure path content with
          | ok other =>
              simp only [result, Outcome.ofResult, Outcome.measured?, Option.some.injEq] at measured
              exact keeps path content entry (measured ▸ result)
          | error failure => simp [result, Outcome.ofResult, Outcome.measured?] at measured
        cases reading : read path with
        | content bytes => exact made (.ok bytes) (by simpa [found, reading] using measured)
        | notOpened cause => simp [found, reading, Outcome.measured?] at measured
        | broken cause => exact made (.error cause) (by simpa [found, reading] using measured)
  rw [pathEq]
  exact measured

/-- However the outcomes arrive and are sorted, they amount to what the sorted paths amount to. -/
theorem Findings.Collects.eq_ofPaths (named : ∀ analyser ∈ analysers, analyser.NamesFile)
    {listed paths : List String} {arrived : List Arrival} {findings : Findings}
    (sameFiles : listed.Perm paths) (order : arrived.Perm (reported analysers read listed))
    (collects : findings.Collects arrived) :
    findings = Findings.ofPaths analysers read (FileTree.sorted paths) := by
  have sorted : listed.Perm (FileTree.sorted paths) :=
    sameFiles.trans (List.mergeSort_perm paths _).symm
  have sameArrivals := order.trans (reported_perm sorted)
  have sequential := Findings.collects_collect (arrivals analysers read (FileTree.sorted paths))
  have files := collects.files.trans (sameArrivals.filterMap _)
  have otherFiles := sequential.files
  rw [← filterMap_reported _ (fun _ => rfl)] at otherFiles
  have warnings := collects.warnings.trans (sameArrivals.filterMap _)
  have otherWarnings := sequential.warnings
  rw [← filterMap_reported _ (fun _ => rfl)] at otherWarnings
  have filesEq := List.Perm.eq_of_pairwise (fun f g inFindings inSequential below above => by
      -- two entries of equal path are both what the outcome of that path has
      have first := measured?_of_mem named (files.mem_iff.1 inFindings)
      have second := measured?_of_mem named (otherFiles.mem_iff.1 inSequential)
      rw [String.le_antisymm below above, second] at first
      exact (Option.some.inj first).symm)
    collects.filesSorted sequential.filesSorted (files.trans otherFiles.symm)
  have warningsEq := List.Perm.eq_of_pairwise
    (fun _ _ _ _ below above => String.le_antisymm below above)
    collects.warningsSorted sequential.warningsSorted (warnings.trans otherWarnings.symm)
  calc findings = ⟨findings.files, findings.warnings⟩ := rfl
    _ = Findings.ofPaths analysers read (FileTree.sorted paths) := by rw [filesEq, warningsEq]; rfl

theorem Findings.ofPaths_eq_collect_reported (paths : List String) :
    Findings.ofPaths analysers read paths = Findings.collect (reported analysers read paths) := by
  rw [Findings.ofPaths, Findings.collect, Findings.collect, filterMap_reported _ (fun _ => rfl),
    filterMap_reported _ (fun _ => rfl)]

end Sorting

/-! ### Reports -/

/-- The report that an analysis makes of its findings, before the history has its say. -/
def Findings.report (findings : Findings) (occasion : Occasion) (request : Request) : Report :=
  .assemble occasion.runId occasion.now request.root findings.files findings.warnings request.top

/-- Two reports say the same; only the identifier of the run and its instant may differ. -/
def SameButStamp (report other : Report) : Prop :=
  report = { other with runId := report.runId, generatedAt := report.generatedAt }

/-- Whatever the number of workers and the order of their steps, they can come to an end, and one outcome
has then arrived for each listed path that an analyser takes.  Whatever the order of arrival, of the
listing, and of entries that a sort finds equal, the report is the one of the sorted paths, measured one
after another; and so the analysis returns and leaves behind the same for every listing. -/
theorem report_independent_of_schedule {σ : Type} (w : Workspace σ) (state : σ) (request : Request)
    {analysers : List Analyser} (named : ∀ analyser ∈ analysers, analyser.NamesFile)
    {listed paths : List String} (sameFiles : listed.Perm paths) :
    (∀ workers, 0 < workers →
      (∃ arrived, Pool.Finishes analysers (w.read state) workers listed arrived) ∧
      ∀ arrived, Pool.Finishes analysers (w.read state) workers listed arrived →
        arrived.Perm (reported analysers (w.read state) listed)) ∧
    (∀ (arrived : List Arrival) (findings : Findings),
      arrived.Perm (reported analysers (w.read state) listed) → findings.Collects arrived →
        ∀ occasion other, SameButStamp (findings.report occasion request)
          (draft analysers (w.read state) other request (FileTree.sorted paths))) ∧
    ∀ occasion,
      (analysePaths w analysers occasion request state listed).result =
        (analysePaths w analysers occasion request state (FileTree.sorted paths)).result ∧
      (analysePaths w analysers occasion request state listed).state =
        (analysePaths w analysers occasion request state (FileTree.sorted paths)).state := by
  refine ⟨?_, ?_, ?_⟩
  · intro workers enough
    exact ⟨⟨_, Pool.finishes_of_pos enough listed⟩, fun _ finishes => finishes.perm⟩
  · intro arrived findings order collects occasion other
    rw [collects.eq_ofPaths named sameFiles order]
    rfl
  · intro occasion
    have collects := Findings.collects_collect (reported analysers (w.read state) listed)
    have sameDraft : draft analysers (w.read state) occasion request listed =
        draft analysers (w.read state) occasion request (FileTree.sorted paths) := by
      rw [draft, draft, Findings.ofPaths_eq_collect_reported,
        collects.eq_ofPaths named sameFiles (List.Perm.refl _)]
    unfold analysePaths
    by_cases stopped : occasion.cancelled = true
    · simp only [stopped, if_true, and_self]
    · simp only [stopped, sameDraft]
      exact ⟨rfl, rfl⟩

section Overtaking

/-- A file that can be read, one that cannot, one that is rejected and one that no analyser takes. -/
def fourFiles : Memory where
  files := [("b.c", .content [123]), ("a.c", .notOpened "locked"), ("c.x", .content []),
    ("n.txt", .content [])]
  reports := []
  runs := []
  failures := default

/-- An analyser of source files and one that rejects what it takes. -/
def twoAnalysers : List Analyser := [.ofExtensions ⟨[".c"]⟩, .refusing ".x" "unsupported syntax"]

/-- What arrives of the four files if the second one is done before the first one. -/
def overtaken : List Arrival :=
  [("a.c", .failed (.unreadable "locked")), ("b.c", .measured (FileEntry.ofSource "b.c" [123])),
    ("c.x", .failed (.rejected "unsupported syntax"))]

/-- Two workers hold the first two of four files at once, and the second one is done first. -/
theorem report_independent_of_overtaking :
    Pool.Finishes twoAnalysers (Memory.workspace.read fourFiles) 2 ["b.c", "a.c", "c.x", "n.txt"]
      overtaken ∧
    SameButStamp
      ((Findings.collect overtaken).report ⟨"one", default, 4, false⟩ ⟨"p", [], 3, false, 2⟩)
      (draft twoAnalysers (Memory.workspace.read fourFiles) ⟨"two", default, 4, false⟩
        ⟨"p", [], 3, false, 2⟩ (FileTree.sorted ["n.txt", "c.x", "a.c", "b.c"])) := by
  have named : ∀ analyser ∈ twoAnalysers, analyser.NamesFile := by
    intro analyser member
    simp only [twoAnalysers, List.mem_cons, List.not_mem_nil, or_false] at member
    rcases member with rfl | rfl
    · exact Analyser.namesFile_ofExtensions _
    · exact Analyser.namesFile_refusing _ _
  have finishes : Pool.Finishes twoAnalysers (Memory.workspace.read fourFiles) 2
      ["b.c", "a.c", "c.x", "n.txt"] overtaken := by
    apply Relation.ReflTransGen.head (.take (by decide))
    apply Relation.ReflTransGen.head (.take (by decide))
    apply Relation.ReflTransGen.head (@Pool.Step.deliver _ _ _ "a.c" _ [] ["b.c"] _ (by decide))
    apply Relation.ReflTransGen.head (@Pool.Step.deliver _ _ _ "b.c" _ [] [] _ (by decide))
    apply Relation.ReflTransGen.head (.take (by decide))
    apply Relation.ReflTransGen.head (@Pool.Step.deliver _ _ _ "c.x" _ [] [] _ (by decide))
    apply Relation.ReflTransGen.head (.take (by decide))
    exact Relation.ReflTransGen.single (@Pool.Step.drop _ _ _ "n.txt" _ [] [] _ (by decide))
  have sameFiles : ["b.c", "a.c", "c.x", "n.txt"].Perm ["n.txt", "c.x", "a.c", "b.c"] := by decide
  obtain ⟨ends, same, -⟩ := report_independent_of_schedule Memory.workspace fourFiles
    ⟨"p", [], 3, false, 2⟩ named sameFiles
  have order := (ends 2 (by decide)).2 overtaken finishes
  exact ⟨finishes, same _ _ order (Findings.collects_collect _) _ _⟩

end Overtaking

end CodeGauge.Analysis
