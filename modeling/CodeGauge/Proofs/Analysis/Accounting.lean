/-
Module: CodeGauge.Proofs.Analysis.Accounting
Purpose: Every path that a search lists is in a report once, as an entry or as a warning, unless no
  analyser supports it.
Main exports:
  Measures, Warns, AccountsFor, report_accounts_for_paths
-/
import CodeGauge.Proofs.Analysis.Effect
import CodeGauge.Proofs.Analysis.Schedule

namespace CodeGauge.Analysis

/-!
What becomes of a path is told here by rules that do not speak of outcomes: which analyser has a say,
whether the path opens, and what the analyser makes of it.  A path that some analyser supports is measured
or warned of, and never both; so entries and warnings together count the supported paths.
-/

/-! ### What becomes of a path -/

/-- The analyser that has a say on a path: it supports the path, and none before it does. -/
def IsFirst (analysers : List Analyser) (path : String) (analyser : Analyser) : Prop :=
  analyser.supports path = true ∧
    ∃ before after, analysers = before ++ analyser :: after ∧ ∀ other ∈ before, other.supports path = false

/-- What an analyser is given of a path that opens: its content, or why reading it breaks off. -/
inductive Opens : Reading → Except String Text.Bytes → Prop where
  | whole (bytes : Text.Bytes) : Opens (.content bytes) (.ok bytes)
  | broken (cause : String) : Opens (.broken cause) (.error cause)

/-- A path opens, and the analyser that has a say on it makes an entry of it. -/
inductive Measures (analysers : List Analyser) (read : String → Reading) (path : String) :
    FileEntry → Prop where
  | entry {analyser : Analyser} {content : Except String Text.Bytes} {entry : FileEntry}
      (first : IsFirst analysers path analyser) (opens : Opens (read path) content)
      (made : analyser.measure path content = .ok entry) : Measures analysers read path entry

/-- An analyser has a say on a path, and the path does not open, or cannot be read, or is rejected; the
text is what is told of it. -/
inductive Warns (analysers : List Analyser) (read : String → Reading) (path : String) : String → Prop where
  | closed {analyser : Analyser} {cause : String} (first : IsFirst analysers path analyser)
      (closed : read path = .notOpened cause) : Warns analysers read path ("read " ++ path ++ ": " ++ cause)
  | unreadable {analyser : Analyser} {content : Except String Text.Bytes} {cause : String}
      (first : IsFirst analysers path analyser) (opens : Opens (read path) content)
      (failed : analyser.measure path content = .error (.unreadable cause)) :
      Warns analysers read path ("read " ++ path ++ ": " ++ cause)
  | rejected {analyser : Analyser} {content : Except String Text.Bytes} {cause : String}
      (first : IsFirst analysers path analyser) (opens : Opens (read path) content)
      (failed : analyser.measure path content = .error (.rejected cause)) :
      Warns analysers read path ("parse " ++ path ++ ": " ++ cause)

section Fate

variable {analysers : List Analyser} {read : String → Reading} {path : String}

theorem IsFirst.supported {analyser : Analyser} (first : IsFirst analysers path analyser) :
    ∃ other ∈ analysers, other.supports path = true := by
  obtain ⟨supports, before, after, rfl, -⟩ := first
  exact ⟨analyser, by simp, supports⟩

theorem find?_eq_some_iff_isFirst {analyser : Analyser} :
    analysers.find? (fun a => a.supports path) = some analyser ↔ IsFirst analysers path analyser := by
  rw [List.find?_eq_some_iff_append, IsFirst]
  simp only [Bool.not_eq_true']

/-- The outcome of a path, by the analyser that has a say and by what it is given. -/
theorem outcome_of_opens {analyser : Analyser} {content : Except String Text.Bytes}
    (first : IsFirst analysers path analyser) (opens : Opens (read path) content) :
    outcome analysers read path = .ofResult (analyser.measure path content) := by
  rw [outcome, find?_eq_some_iff_isFirst.mpr first]
  generalize read path = reading at opens
  cases opens <;> rfl

theorem outcome_of_closed {analyser : Analyser} {cause : String} (first : IsFirst analysers path analyser)
    (closed : read path = .notOpened cause) :
    outcome analysers read path = .failed (.unreadable cause) := by
  rw [outcome, find?_eq_some_iff_isFirst.mpr first, closed]

/-- No analyser supports a path; or one has a say, and the path stays closed or opens. -/
theorem path_cases (analysers : List Analyser) (read : String → Reading) (path : String) :
    outcome analysers read path = .unsupported ∧ (∀ analyser ∈ analysers, analyser.supports path = false) ∨
    ∃ analyser, IsFirst analysers path analyser ∧
      ((∃ cause, read path = .notOpened cause) ∨ ∃ content, Opens (read path) content) := by
  cases found : analysers.find? (fun a => a.supports path) with
  | none =>
      refine Or.inl ⟨by rw [outcome, found], ?_⟩
      simpa using found
  | some analyser =>
      refine Or.inr ⟨analyser, find?_eq_some_iff_isFirst.mp found, ?_⟩
      cases read path with
      | content bytes => exact Or.inr ⟨_, .whole bytes⟩
      | notOpened cause => exact Or.inl ⟨cause, rfl⟩
      | broken cause => exact Or.inr ⟨_, .broken cause⟩

theorem measured?_eq_some_iff {entry : FileEntry} :
    (outcome analysers read path).measured? = some entry ↔ Measures analysers read path entry := by
  constructor
  · intro measured
    rcases path_cases analysers read path with
      ⟨unsupported, -⟩ | ⟨analyser, first, ⟨cause, closed⟩ | ⟨content, opens⟩⟩
    · rw [unsupported] at measured
      exact nomatch measured
    · rw [outcome_of_closed first closed] at measured
      exact nomatch measured
    · rw [outcome_of_opens first opens] at measured
      cases result : analyser.measure path content with
      | ok other =>
          rw [result] at measured
          exact .entry first opens (result.trans (congrArg Except.ok (Option.some.inj measured)))
      | error failure =>
          rw [result] at measured
          exact nomatch measured
  · rintro ⟨first, opens, made⟩
    rw [outcome_of_opens first opens, made]
    rfl

theorem warning?_eq_some_iff {text : String} :
    (outcome analysers read path).warning? path = some text ↔ Warns analysers read path text := by
  constructor
  · intro told
    rcases path_cases analysers read path with
      ⟨unsupported, -⟩ | ⟨analyser, first, ⟨cause, closed⟩ | ⟨content, opens⟩⟩
    · rw [unsupported] at told
      exact nomatch told
    · rw [outcome_of_closed first closed] at told
      obtain rfl := Option.some.inj told
      exact .closed first closed
    · rw [outcome_of_opens first opens] at told
      cases result : analyser.measure path content with
      | ok entry =>
          rw [result] at told
          exact nomatch told
      | error failure =>
          rw [result] at told
          obtain rfl := Option.some.inj told
          cases failure with
          | unreadable cause => exact .unreadable first opens result
          | rejected cause => exact .rejected first opens result
  · intro warns
    cases warns with
    | closed first closed =>
        rw [outcome_of_closed first closed]
        rfl
    | unreadable first opens failed =>
        rw [outcome_of_opens first opens, failed]
        rfl
    | rejected first opens failed =>
        rw [outcome_of_opens first opens, failed]
        rfl

/-- A path that some analyser supports is measured or warned of. -/
theorem measures_or_warns {analyser : Analyser} (member : analyser ∈ analysers)
    (supports : analyser.supports path = true) :
    (∃ entry, Measures analysers read path entry) ∨ ∃ text, Warns analysers read path text := by
  rcases path_cases analysers read path with
    ⟨-, unsupported⟩ | ⟨other, first, ⟨cause, closed⟩ | ⟨content, opens⟩⟩
  · rw [unsupported analyser member] at supports
    exact nomatch supports
  · exact Or.inr ⟨_, .closed first closed⟩
  · cases result : other.measure path content with
    | ok entry => exact Or.inl ⟨entry, .entry first opens result⟩
    | error failure =>
        cases failure with
        | unreadable cause => exact Or.inr ⟨_, .unreadable first opens result⟩
        | rejected cause => exact Or.inr ⟨_, .rejected first opens result⟩

theorem Measures.not_warns {entry : FileEntry} {text : String} (measures : Measures analysers read path entry) :
    ¬ Warns analysers read path text := by
  rw [← measured?_eq_some_iff] at measures
  rw [← warning?_eq_some_iff]
  cases fate : outcome analysers read path with
  | unsupported => simp [Outcome.warning?]
  | measured other => simp [Outcome.warning?]
  | failed failure => simp [fate, Outcome.measured?] at measures

theorem Measures.supported {entry : FileEntry} (measures : Measures analysers read path entry) :
    ∃ analyser ∈ analysers, analyser.supports path = true := by
  obtain ⟨first, -, -⟩ := measures
  exact first.supported

theorem Warns.supported {text : String} (warns : Warns analysers read path text) :
    ∃ analyser ∈ analysers, analyser.supports path = true := by
  cases warns with
  | closed first _ => exact first.supported
  | unreadable first _ _ => exact first.supported
  | rejected first _ _ => exact first.supported

theorem Measures.path_eq (named : ∀ analyser ∈ analysers, analyser.NamesFile) {entry : FileEntry}
    (measures : Measures analysers read path entry) : entry.path = path := by
  obtain ⟨⟨-, before, after, rfl, -⟩, opens, made⟩ := measures
  exact named _ (by simp) path _ entry made

end Fate

/-! ### Entries and warnings of a list of paths -/

/-- Entries and warnings account for a list of paths: there is one entry for each time that a measured
path is listed, and one warning for each time that a path is listed of which a warning is told, and both
are in order.  Where entries have the paths of their files, these are the measured ones, sorted. -/
structure AccountsFor (analysers : List Analyser) (read : String → Reading) (paths : List String)
    (files : List FileEntry) (warnings : List String) : Prop where
  entries : ∃ entryOf? : String → Option FileEntry,
    (∀ path entry, entryOf? path = some entry ↔ Measures analysers read path entry) ∧
    files.Perm (paths.filterMap entryOf?) ∧
    ((∀ analyser ∈ analysers, analyser.NamesFile) →
      files.map FileEntry.path = FileTree.sorted (paths.filter fun path => (entryOf? path).isSome))
  inPathOrder : files.Pairwise fun f g => f.path ≤ g.path
  texts : ∃ warning? : String → Option String,
    (∀ path text, warning? path = some text ↔ Warns analysers read path text) ∧
    warnings.Perm (paths.filterMap warning?)
  inTextOrder : warnings.Pairwise fun v w => v ≤ w

section Lists

variable {analysers : List Analyser} {read : String → Reading}

/-- The entry of a measured path. -/
def entryOf? (analysers : List Analyser) (read : String → Reading) (path : String) : Option FileEntry :=
  (outcome analysers read path).measured?

/-- The warning that is told of a path. -/
def warning? (analysers : List Analyser) (read : String → Reading) (path : String) : Option String :=
  (outcome analysers read path).warning? path

theorem files_ofPaths (paths : List String) : (Findings.ofPaths analysers read paths).files =
    Findings.byPath (paths.filterMap (entryOf? analysers read)) := by
  simp only [Findings.ofPaths, Findings.collect, arrivals, List.filterMap_map]
  rfl

theorem warnings_ofPaths (paths : List String) : (Findings.ofPaths analysers read paths).warnings =
    Findings.inOrder (paths.filterMap (warning? analysers read)) := by
  simp only [Findings.ofPaths, Findings.collect, arrivals, List.filterMap_map]
  rfl

/-- Where entries have the paths of their files, the entries of a list of paths have those of its measured
paths. -/
theorem map_path_entries (named : ∀ analyser ∈ analysers, analyser.NamesFile) (paths : List String) :
    (paths.filterMap (entryOf? analysers read)).map FileEntry.path =
      paths.filter fun path => (entryOf? analysers read path).isSome := by
  induction paths with
  | nil => rfl
  | cons path paths ih =>
      cases made : entryOf? analysers read path with
      | none => simp [made, ih]
      | some entry =>
          have same := (measured?_eq_some_iff.mp made).path_eq named
          simp [made, ih, same]

theorem accountsFor_ofPaths (paths : List String) : AccountsFor analysers read paths
    (Findings.ofPaths analysers read paths).files (Findings.ofPaths analysers read paths).warnings where
  entries := by
    have perm : (Findings.ofPaths analysers read paths).files.Perm
        (paths.filterMap (entryOf? analysers read)) := by
      rw [files_ofPaths]
      exact List.mergeSort_perm _ _
    refine ⟨_, fun path entry => measured?_eq_some_iff, perm, fun named => ?_⟩
    have sameMembers : ((Findings.ofPaths analysers read paths).files.map FileEntry.path).Perm
        (FileTree.sorted (paths.filter fun path => (entryOf? analysers read path).isSome)) := by
      rw [← map_path_entries named]
      exact (perm.map _).trans (List.mergeSort_perm _ _).symm
    have inOrder : ((Findings.ofPaths analysers read paths).files.map FileEntry.path).Pairwise (· ≤ ·) := by
      rw [List.pairwise_map, files_ofPaths]
      exact pairwise_mergeSort_text FileEntry.path _
    exact List.Perm.eq_of_pairwise (fun _ _ _ _ below above => String.le_antisymm below above) inOrder
      (pairwise_mergeSort_text id _) sameMembers
  inPathOrder := by
    rw [files_ofPaths]
    exact pairwise_mergeSort_text FileEntry.path _
  texts := by
    refine ⟨_, fun path text => warning?_eq_some_iff, ?_⟩
    rw [warnings_ofPaths]
    exact List.mergeSort_perm _ _
  inTextOrder := by
    rw [warnings_ofPaths]
    exact pairwise_mergeSort_text id _

/-- Only measured paths: the entries are the same, and there is no warning. -/
theorem ofPaths_measured (paths : List String) :
    Findings.ofPaths analysers read (paths.filter fun path => (entryOf? analysers read path).isSome) =
      ⟨(Findings.ofPaths analysers read paths).files, []⟩ := by
  have files : (paths.filter fun path => (entryOf? analysers read path).isSome).filterMap
      (entryOf? analysers read) = paths.filterMap (entryOf? analysers read) := by
    rw [List.filterMap_filter]
    congr 1
    funext path
    cases entryOf? analysers read path <;> rfl
  have warnings : (paths.filter fun path => (entryOf? analysers read path).isSome).filterMap
      (warning? analysers read) = [] := by
    rw [List.filterMap_eq_nil_iff]
    intro path member
    obtain ⟨entry, made⟩ := Option.isSome_iff_exists.mp (List.mem_filter.mp member).2
    rw [Option.eq_none_iff_forall_ne_some]
    intro text told
    exact (measured?_eq_some_iff.mp made).not_warns (warning?_eq_some_iff.mp told)
  calc Findings.ofPaths analysers read (paths.filter fun path => (entryOf? analysers read path).isSome)
    _ = ⟨Findings.byPath (paths.filterMap (entryOf? analysers read)), Findings.inOrder []⟩ := by
        rw [← files, ← warnings, ← files_ofPaths, ← warnings_ofPaths]
    _ = ⟨(Findings.ofPaths analysers read paths).files, []⟩ := by
        rw [files_ofPaths, Findings.inOrder, List.mergeSort_nil]

end Lists

/-! ### Reports -/

section Reports

variable {σ : Type}

/-- What the history adds to the warnings of a report: nothing, or that it could not be written. -/
def ToldByHistory (told : List String) : Prop := told = [] ∨ ∃ text, told = ["history: " ++ text]

/-- Once its run has been offered to the history, a report is the same but for what the history adds to
its warnings. -/
theorem exists_told_by_history (w : Workspace σ) (request : Request) (state : σ) (report : Report) :
    ∃ told, ToldByHistory told ∧
      (recordRun w request state report).1 = { report with warnings := report.warnings ++ told } := by
  have same : report = { report with warnings := report.warnings ++ [] } := by rw [List.append_nil]
  unfold recordRun
  split
  · exact ⟨[], Or.inl rfl, same⟩
  split
  · exact ⟨[], Or.inl rfl, same⟩
  split
  · exact ⟨[], Or.inl rfl, same⟩
  · exact ⟨_, Or.inr ⟨_, rfl⟩, rfl⟩

/-- The warnings of a report that the history has not told. -/
def fileWarnings (report : Report) : List String :=
  report.warnings.filter fun text => !"history: ".toList.isPrefixOf text.toList

theorem fileWarnings_append_told (report : Report) {told : List String} (byHistory : ToldByHistory told) :
    fileWarnings { report with warnings := report.warnings ++ told } = fileWarnings report := by
  have unseen : told.filter (fun text => !"history: ".toList.isPrefixOf text.toList) = [] := by
    rcases byHistory with rfl | ⟨text, rfl⟩
    · rfl
    · simp
  rw [fileWarnings, fileWarnings, List.filter_append, unseen, List.append_nil]

/-- No warning on a file is taken for one that the history has told. -/
theorem fileWarnings_draft (analysers : List Analyser) (read : String → Reading) (occasion : Occasion)
    (request : Request) (paths : List String) : fileWarnings (draft analysers read occasion request paths) =
      (draft analysers read occasion request paths).warnings := by
  rw [fileWarnings, List.filter_eq_self]
  intro text member
  have isWarning : text ∈ (Findings.ofPaths analysers read paths).warnings := member
  rw [warnings_ofPaths, Findings.inOrder, List.mem_mergeSort, List.mem_filterMap] at isWarning
  obtain ⟨path, -, warns⟩ := isWarning
  cases warning?_eq_some_iff.mp warns with
  | closed => simp [List.isPrefixOf]
  | unreadable => simp [List.isPrefixOf]
  | rejected => simp [List.isPrefixOf]

/-- Two reports say the same of the files. -/
structure SameFindings (first second : Report) : Prop where
  files : first.files = second.files
  project : first.project = second.project
  topFunctions : first.topFunctions = second.topFunctions
  warnings : fileWarnings first = fileWarnings second

/-- What is left when a run has been offered to the history: nothing new, or what recording it leaves. -/
theorem state_recordRun (w : Workspace σ) (request : Request) (state : σ) (report : Report) :
    (recordRun w request state report).2.1 = state ∨ ∃ record, w.record = some record ∧
      (recordRun w request state report).2.1 = (record state request.root report.toRun).2 := by
  unfold recordRun
  split
  · exact Or.inl rfl
  next record isRecord =>
  split
  · exact Or.inl rfl
  refine Or.inr ⟨record, isRecord, ?_⟩
  split
  · next recorded => rw [recorded]
  · next failed => rw [failed]

/-- A report is kept exactly if what the history makes of it is saved. -/
theorem keep_eq_ok_iff (w : Workspace σ) (request : Request) (state : σ) (report kept : Report) :
    (keep w request state report).result = .ok kept ↔ kept = (recordRun w request state report).1 ∧
      (w.save (recordRun w request state report).2.1 request.root kept).1 = .ok () := by
  simp only [keep]
  split
  · next saved =>
    rw [Except.ok.injEq, eq_comm]
    constructor
    · rintro rfl
      exact ⟨rfl, by rw [saved]⟩
    · exact And.left
  · next failed =>
    refine ⟨nofun, ?_⟩
    rintro ⟨rfl, saved⟩
    rw [failed] at saved
    exact nomatch saved

theorem state_keep (w : Workspace σ) (request : Request) (state : σ) (report : Report) :
    (keep w request state report).state =
      (w.save (recordRun w request state report).2.1 request.root (recordRun w request state report).1).2 := by
  simp only [keep]
  split
  · next saved => rw [saved]
  · next failed => rw [failed]

/-- Keeping a report gives it back with what the history adds, or fails in saving it. -/
theorem keep_cases (w : Workspace σ) (request : Request) (state : σ) (report : Report) :
    ∃ told, ToldByHistory told ∧
      ((∃ fault, (keep w request state report).result = .error (.within "save report" fault)) ∨
        (keep w request state report).result = .ok { report with warnings := report.warnings ++ told }) := by
  obtain ⟨told, byHistory, isTold⟩ := exists_told_by_history w request state report
  refine ⟨told, byHistory, ?_⟩
  simp only [keep, ← isTold]
  split
  · exact Or.inr rfl
  · exact Or.inl ⟨_, rfl⟩

/-- An analysis that returns a report returns the one on the paths of its search, with what the history
adds. -/
theorem exists_draft_of_analyse {w : Workspace σ} {analysers : List Analyser} {occasion : Occasion}
    {request : Request} {state : σ} {report : Report}
    (returned : (analyse w analysers occasion request state).result = .ok report) :
    ∃ paths told, Admitted w occasion request state paths ∧ ToldByHistory told ∧
      report = { draft analysers (w.read state) occasion request paths with
        warnings := (draft analysers (w.read state) occasion request paths).warnings ++ told } := by
  rcases analyse_cases w analysers occasion request state with
    ⟨fault, -, result, -⟩ | ⟨paths, admitted, result, -⟩
  · rw [result] at returned
    exact nomatch returned
  · obtain ⟨told, byHistory, ⟨fault, failed⟩ | kept⟩ :=
      keep_cases w request state (draft analysers (w.read state) occasion request paths)
    · rw [result, failed] at returned
      exact nomatch returned
    · rw [result, kept, Except.ok.injEq] at returned
      exact ⟨paths, told, admitted, byHistory, returned.symm⟩

/-- A draft depends on what is read of its paths, and on the occasion in its identifier and its instant. -/
theorem draft_congr {analysers : List Analyser} {read read' : String → Reading} {occasion later : Occasion}
    {request : Request} {paths : List String} (same : ∀ path ∈ paths, read' path = read path) :
    draft analysers read' later request paths =
      { draft analysers read occasion request paths with runId := later.runId, generatedAt := later.now } := by
  have arrive : arrivals analysers read' paths = arrivals analysers read paths := by
    apply List.map_congr_left
    intro path member
    rw [outcome, outcome, same path member]
  have findings : Findings.ofPaths analysers read' paths = Findings.ofPaths analysers read paths := by
    rw [Findings.ofPaths, Findings.ofPaths, arrive]
  rw [draft, draft, findings]
  rfl

/-- The same workspace, but every search lists certain paths. -/
def listing (w : Workspace σ) (paths : List String) : Workspace σ := { w with scan := fun _ _ _ => .ok paths }

theorem getD_givenList {α : Type} (items : List α) : (givenList items).getD [] = items := by
  cases items <;> rfl

/-- An analysis that has found some paths keeps the report on them. -/
theorem result_of_admitted {w : Workspace σ} {analysers : List Analyser} {occasion : Occasion}
    {request : Request} {state : σ} {paths : List String}
    (admitted : Admitted w occasion request state paths) :
    (analyse w analysers occasion request state).result =
      (keep w request state (draft analysers (w.read state) occasion request paths)).result := by
  rcases analyse_cases w analysers occasion request state with
    ⟨fault, refused, -, -⟩ | ⟨others, admitted', result, -⟩
  · exact absurd refused admitted.not_refused
  · rw [result, Except.ok.inj (admitted'.found.symm.trans admitted.found)]

/-- The report on the measured paths alone is the one on all paths without its warnings. -/
theorem draft_measured (analysers : List Analyser) (read : String → Reading) (occasion : Occasion)
    (request : Request) (paths : List String) :
    draft analysers read occasion request
        (paths.filter fun path => (entryOf? analysers read path).isSome) =
      { draft analysers read occasion request paths with warnings := [] } := by
  simp only [draft, ofPaths_measured]
  rfl

/-- A report accounts for the paths that the search has listed, each as often as it is listed: entries and
warnings are what the rules on paths say, in order, and behind the warnings stands at most one on the
history.  A path that some analyser supports has an entry or a warning and not both, and any other path has
neither.  If the search listed the measured paths alone, the analysis would, unless its report cannot be
saved, return the same files, totals and ranking, with no warning on files. -/
theorem report_accounts_for_paths {w : Workspace σ} {analysers : List Analyser} {occasion : Occasion}
    {request : Request} {state : σ} {report : Report}
    (returned : (analyse w analysers occasion request state).result = .ok report) :
    ∃ paths warnings told, w.scan state request.root request.extensions = .ok paths ∧
      AccountsFor analysers (w.read state) paths (report.files.getD []) warnings ∧
      report.warnings = warnings ++ told ∧ ToldByHistory told ∧
      (∀ path,
        ((∃ analyser ∈ analysers, analyser.supports path = true) ↔
          (∃ entry, Measures analysers (w.read state) path entry) ∨
            ∃ text, Warns analysers (w.read state) path text) ∧
        ∀ entry text, ¬ (Measures analysers (w.read state) path entry ∧
          Warns analysers (w.read state) path text)) ∧
      ∀ isMeasured : String → Bool,
        (∀ path, isMeasured path = true ↔ ∃ entry, Measures analysers (w.read state) path entry) →
        paths.filter isMeasured ≠ [] →
        (∃ fault, (analyse (listing w (paths.filter isMeasured)) analysers occasion request state).result =
          .error (.within "save report" fault)) ∨
        ∃ other,
          (analyse (listing w (paths.filter isMeasured)) analysers occasion request state).result = .ok other ∧
          other.files = report.files ∧ other.project = report.project ∧
          other.topFunctions = report.topFunctions ∧ ToldByHistory other.warnings := by
  obtain ⟨paths, told, admitted, byHistory, rfl⟩ := exists_draft_of_analyse returned
  refine ⟨paths, _, told, admitted.found, ?_, rfl, byHistory, ?_, ?_⟩
  · have whole : (givenList (Findings.ofPaths analysers (w.read state) paths).files).getD [] =
        (Findings.ofPaths analysers (w.read state) paths).files := getD_givenList _
    simp only [draft, Report.assemble, whole]
    exact accountsFor_ofPaths paths
  · intro path
    refine ⟨⟨?_, ?_⟩, fun entry text both => both.1.not_warns both.2⟩
    · rintro ⟨analyser, member, supports⟩
      exact measures_or_warns member supports
    · rintro (⟨entry, measures⟩ | ⟨text, warns⟩)
      · exact measures.supported
      · exact warns.supported
  · intro isMeasured tells some
    have same : isMeasured = fun path => (entryOf? analysers (w.read state) path).isSome := by
      funext path
      rw [Bool.eq_iff_iff, tells, Option.isSome_iff_exists]
      simp only [entryOf?, measured?_eq_some_iff]
    subst same
    obtain ⟨told', byHistory', fails | keeps⟩ := keep_cases
      (listing w (paths.filter fun path => (entryOf? analysers (w.read state) path).isSome)) request state
      { draft analysers (w.read state) occasion request paths with warnings := [] }
    all_goals rw [result_of_admitted ⟨admitted.rooted, rfl, some, admitted.going⟩,
      show (listing w _).read = w.read from rfl, draft_measured]
    · exact Or.inl fails
    · exact Or.inr ⟨_, keeps, rfl, rfl, rfl, byHistory'⟩

/-- Of four files one is measured, one is closed, one is rejected and one is not supported: the report on
all of them is the one on the measured file with two warnings more. -/
theorem report_accounts_for_four_files :
    ∃ report other : Report,
      (analyse Memory.workspace twoAnalysers ⟨"one", default, 4, false⟩ ⟨"p", [], 3, false, 2⟩ fourFiles).result =
        .ok report ∧
      report.warnings = ["parse c.x: unsupported syntax", "read a.c: locked"] ∧
      (analyse (listing Memory.workspace ["b.c"]) twoAnalysers ⟨"one", default, 4, false⟩
        ⟨"p", [], 3, false, 2⟩ fourFiles).result = .ok other ∧
      other.files = report.files ∧ ToldByHistory other.warnings := by
  have returned : (analyse Memory.workspace twoAnalysers ⟨"one", default, 4, false⟩ ⟨"p", [], 3, false, 2⟩
      fourFiles).result = .ok (draft twoAnalysers (Memory.workspace.read fourFiles)
        ⟨"one", default, 4, false⟩ ⟨"p", [], 3, false, 2⟩ ["b.c", "a.c", "c.x", "n.txt"]) := rfl
  obtain ⟨paths, warnings, told, found, -, -, -, -, alone⟩ := report_accounts_for_paths returned
  obtain rfl : ["b.c", "a.c", "c.x", "n.txt"] = paths := Except.ok.inj found
  have tells : ∀ path, (entryOf? twoAnalysers (Memory.workspace.read fourFiles) path).isSome = true ↔
      ∃ entry, Measures twoAnalysers (Memory.workspace.read fourFiles) path entry := by
    intro path
    rw [Option.isSome_iff_exists]
    simp only [entryOf?, measured?_eq_some_iff]
  have measured : ["b.c", "a.c", "c.x", "n.txt"].filter
      (fun path => (entryOf? twoAnalysers (Memory.workspace.read fourFiles) path).isSome) = ["b.c"] := by
    decide +kernel
  have told : ["b.c", "a.c", "c.x", "n.txt"].filterMap
      (warning? twoAnalysers (Memory.workspace.read fourFiles)) =
        ["read a.c: locked", "parse c.x: unsupported syntax"] := by
    decide +kernel
  have warned : (Findings.ofPaths twoAnalysers (Memory.workspace.read fourFiles)
      ["b.c", "a.c", "c.x", "n.txt"]).warnings = ["parse c.x: unsupported syntax", "read a.c: locked"] := by
    rw [warnings_ofPaths, told]
    simp [Findings.inOrder, List.mergeSort, List.MergeSort.Internal.splitInTwo]
  obtain ⟨fault, fails⟩ | ⟨other, returns, files, -, -, byHistory⟩ := alone _ tells (by simp [measured])
  · rw [measured] at fails
    exact nomatch fails
  · rw [measured] at returns
    exact ⟨_, other, returned, warned, returns, files, byHistory⟩

end Reports

end CodeGauge.Analysis
