/-
Module: CodeGauge.Proofs.FileTree.History
Purpose: The run history of a root is a faithful log: every sequence of calls is answered as a ledger of
  the accepted runs answers it.
Main exports:
  FileTree.Unopened, FileTree.Stores, FileTree.History.Call, FileTree.History.Faithful,
  FileTree.History.faithful_of_unopened
-/
import CodeGauge.Proofs.FileTree.Database
import CodeGauge.Proofs.History.Ledger

namespace CodeGauge.FileTree

open CodeGauge.Text

/-!
Between two calls a file tree either is as it was in the beginning, or it holds the file of the history and
nothing beside it.  Opening the history gives the same ledger in both cases, and closing it leaves the
second one; so each call is answered from the ledger, and the ledger has the runs that were accepted.
-/

instance (tree : FileTree) (finalLink : Bool) (path : String) (place : Place) :
    Decidable (tree.resolve finalLink path = .ok (.vacant place)) :=
  match tree.resolve finalLink path with
  | .ok (.vacant other) => decidable_of_iff (other = place) (by simp)
  | .ok (.existing _ _) | .error _ => isFalse (by simp)

/-- The tree in which the work folder of a root has been made. -/
def prepared (tree : FileTree) (root : String) : FileTree := (tree.makeFolders (workPath root)).2

/-- A root without a database: the path of the history is a plain name, its folder can be made, and nothing
is in the folder under the names of the database and its companions, whose path is not too long. -/
structure Unopened (tree : FileTree) (root : String) (folder : Place) : Prop where
  plain : Database.IsPlain (historyPath root)
  current : IsFolderAt tree.top tree.current
  makes : (tree.makeFolders (workPath root)).1 = .ok ()
  vacant : (tree.prepared root).resolve false (historyPath root) = .ok (.vacant (folder ++ ["history.db"]))
  alone : ∀ which : Companion,
    (tree.prepared root).top.find? (which.place (folder ++ ["history.db"])) = none
  short : ¬ maxDatabasePath < pathSize (folder ++ ["history.db"])

/-- A tree stores a history: it is the tree of the beginning and the history is empty, or the history is in
its file. -/
def Stores (beginning : FileTree) (root : String) (folder : Place) (history : Ledger) (tree : FileTree) :
    Prop :=
  tree = beginning ∧ history = .empty ∨
    Desk (beginning.prepared root) folder (some (.ledger history)) none tree

/-- A history without runs has no latest runs. -/
theorem list_empty (limit : Int) : Ledger.empty.list limit = .ok [] := by
  simp [Ledger.list, Ledger.newestFirst, Ledger.empty, Ledger.readRows]

/-- The history is opened where its folder can be made and its database connected to. -/
theorem openHistory_of_connect {tree ready opened : FileTree} {root : String} {connection : Connection}
    (makes : tree.makeFolders (workPath root) = (.ok (), ready))
    (connects : (connect (historyPath root)).on ready = (.ok connection, opened)) :
    openHistory false tree root = (.ok connection, opened) := by
  simp only [openHistory, makes, Bool.false_eq_true, if_false, connects, during]

section Root

variable {beginning : FileTree} {root : String} {folder : Place}

namespace Unopened

variable (unopened : Unopened beginning root folder)

include unopened

theorem makeFolders_eq : beginning.makeFolders (workPath root) = (.ok (), beginning.prepared root) :=
  Prod.ext unopened.makes rfl

theorem followable : Followable (historyPath root) := followable_of_resolve unopened.vacant

theorem workLeads : WorkLeads (beginning.prepared root) root folder ∧
    (beginning.prepared root).top.find? (folder ++ ["history.db"]) = none := by
  have vacant : (beginning.prepared root).resolve false (workFile root "history.db") =
    .ok (.vacant (folder ++ ["history.db"])) := unopened.vacant
  obtain ⟨other, leads⟩ := exists_workLeads plainName_history vacant
  obtain ⟨links, resolves⟩ := leads.resolve plainName_history (followable_of_resolve vacant) false
  rw [vacant, follow_lastName (isName_of_plainName plainName_history) (by decide)] at resolves
  cases found : (beginning.prepared root).top.find? (other ++ ["history.db"]) with
  | none =>
    rw [found] at resolves
    obtain rfl : folder = other := by simpa using resolves
    exact ⟨leads, found⟩
  | some node =>
    rw [found] at resolves
    exact nomatch resolves

/-- In the beginning nothing is on the desk. -/
theorem desk : Desk (beginning.prepared root) folder none none (beginning.prepared root) := by
  obtain ⟨leads, nothing⟩ := unopened.workLeads
  refine ⟨.refl _, leads.isFolderAt, nothing, ?_, ?_, ?_⟩
  · rw [← journal_place]
    exact unopened.alone .journal
  · rw [Option.map_none, ← log_place]
    exact unopened.alone .log
  · rw [← index_place]
    exact unopened.alone .index

/-- Where all folders and links of the prepared tree are, making the work folder changes nothing. -/
theorem makeFolders_of_keeps {tree : FileTree} (keeps : Keeps (beginning.prepared root) tree) :
    tree.makeFolders (workPath root) = (.ok (), tree) := by
  obtain ⟨-, leadTo⟩ := makeEach_spec unopened.current unopened.makeFolders_eq
  apply makeEach_of_leadsTo
  intro path member
  exact (leadTo path member).of_keeps keeps

/-- Where the file of the history resolves to. -/
theorem resolve_of_desk {tree : FileTree} {file : Option Content}
    (desk : Desk (beginning.prepared root) folder file none tree) :
    tree.resolve true (historyPath root) =
      match file with
      | none => .ok (.vacant (folder ++ ["history.db"]))
      | some content => .ok (.existing (folder ++ ["history.db"]) (.file content)) := by
  have leads : WorkLeads tree root folder := by
    rw [WorkLeads, desk.keeps.start]
    exact unopened.workLeads.1.of_keeps desk.keeps
  obtain ⟨links, resolves⟩ := leads.resolve plainName_history unopened.followable true
  rw [show historyPath root = workFile root "history.db" from rfl, resolves,
    follow_name (isName_of_plainName plainName_history) (by decide), desk.file]
  cases file <;> rfl

/-- Opening the history gives its ledger. -/
theorem exists_openHistory {tree : FileTree} {history : Ledger}
    (stores : Stores beginning root folder history tree) : ∃ opened content log,
    openHistory false tree root = (.ok ⟨some (folder ++ ["history.db"]), history, false⟩, opened) ∧
      Desk (beginning.prepared root) folder (some content) (some log) opened := by
  rcases stores with ⟨rfl, rfl⟩ | desk
  · obtain ⟨opened, connects, desk⟩ := unopened.desk.connect_fresh (source_historyPath unopened.plain)
      unopened.short (unopened.resolve_of_desk unopened.desk)
    exact ⟨opened, _, _, openHistory_of_connect unopened.makeFolders_eq connects, desk⟩
  · obtain ⟨opened, connects, desk'⟩ := desk.connect_again (source_historyPath unopened.plain) unopened.short
      (unopened.resolve_of_desk desk)
    exact ⟨opened, _, _, openHistory_of_connect (unopened.makeFolders_of_keeps desk.keeps) connects, desk'⟩

/-- Recording a run is answered by the ledger, and the tree stores what the ledger is then. -/
theorem recordRun_of_stores {tree : FileTree} {history : Ledger}
    (stores : Stores beginning root folder history tree) (run : Run) :
    (recordRun false tree root run).1 = (history.record run).map (fun _ => ()) ∧
      Stores beginning root folder ((history.record run).toOption.getD history)
        (recordRun false tree root run).2 := by
  obtain ⟨opened, content, log, opens, desk⟩ := unopened.exists_openHistory stores
  cases records : history.record run with
  | error fault =>
    obtain ⟨closed, closes, desk'⟩ := desk.close history
    simp only [recordRun, opens, Connection.record, Bool.false_eq_true, if_false, records, closes]
    exact ⟨rfl, Or.inr desk'⟩
  | ok after =>
    obtain ⟨closed, closes, desk'⟩ := desk.close after
    simp only [recordRun, opens, Connection.record, Bool.false_eq_true, if_false, records, closes]
    exact ⟨rfl, Or.inr desk'⟩

/-- Listing runs is answered by the ledger, which stays as it is. -/
theorem listRuns_of_stores {tree : FileTree} {history : Ledger}
    (stores : Stores beginning root folder history tree) (limit : Int) :
    (listRuns false tree root limit).1 = history.list limit ∧
      Stores beginning root folder history (listRuns false tree root limit).2 := by
  obtain ⟨opened, content, log, opens, desk⟩ := unopened.exists_openHistory stores
  obtain ⟨closed, closes, desk'⟩ := desk.close history
  rw [listRuns]
  split
  · next missing =>
    rcases stores with ⟨rfl, rfl⟩ | stored
    · exact ⟨(list_empty limit).symm, Or.inl ⟨rfl, rfl⟩⟩
    · rw [status, unopened.resolve_of_desk stored] at missing
      cases missing
  · simp only [opens, closes, true_and]
    exact Or.inr desk'

end Unopened

end Root

/-! ### Sequences of calls -/

namespace History

/-- What is asked of the history of a root. -/
inductive Call where
  | record (run : Run)
  | list (limit : Int)
deriving DecidableEq, Repr

/-- How a call is answered. -/
inductive Answer where
  | recorded (result : Except Fault Unit)
  | listed (result : Except Fault (List Run))
deriving DecidableEq

/-- Carry out a call. -/
def perform (root : String) (tree : FileTree) : Call → Answer × FileTree
  | .record run =>
      let (result, tree) := recordRun false tree root run
      (.recorded result, tree)
  | .list limit =>
      let (result, tree) := listRuns false tree root limit
      (.listed result, tree)

/-- The answers to calls that are carried out one after another. -/
def answers (root : String) : FileTree → List Call → List Answer
  | _, [] => []
  | tree, call :: calls =>
      let (answer, tree) := perform root tree call
      answer :: answers root tree calls

/-- Calls are answered as by a log that has accepted some runs: a run is refused if one of its identifier
was accepted, and else accepted; a list has the latest of the runs accepted so far. -/
inductive Faithful : List Run → List Call → List Answer → Prop where
  | done {accepted : List Run} : Faithful accepted [] []
  | accepts {accepted : List Run} {run : Run} {calls : List Call} {answers : List Answer}
      (new : ¬ ∃ other ∈ accepted, other.id = run.id)
      (rest : Faithful (accepted ++ [run]) calls answers) :
      Faithful accepted (.record run :: calls) (.recorded (.ok ()) :: answers)
  | refuses {accepted : List Run} {run : Run} {calls : List Call} {answers : List Answer} {fault : Fault}
      (old : ∃ other ∈ accepted, other.id = run.id) (rest : Faithful accepted calls answers) :
      Faithful accepted (.record run :: calls) (.recorded (.error fault) :: answers)
  | lists {accepted : List Run} {limit : Int} {runs : List Run} {calls : List Call} {answers : List Answer}
      (latest : Latest accepted limit runs) (rest : Faithful accepted calls answers) :
      Faithful accepted (.list limit :: calls) (.listed (.ok runs) :: answers)

theorem faithful_of_stores {beginning tree : FileTree} {root : String} {folder : Place}
    (unopened : Unopened beginning root folder) {accepted : List Run}
    (stores : Stores beginning root folder (.ofRuns accepted) tree)
    (keptWell : ∀ run ∈ accepted, Recordable run) (calls : List Call)
    (recordable : ∀ run, .record run ∈ calls → Recordable run) :
    Faithful accepted calls (answers root tree calls) := by
  induction calls generalizing accepted tree with
  | nil => exact .done
  | cons call calls ih =>
    have recordableRest : ∀ run, .record run ∈ calls → Recordable run := by
      intro run member
      exact recordable run (List.mem_cons_of_mem call member)
    cases call with
    | record run =>
      have isRecordable := recordable run List.mem_cons_self
      obtain ⟨answer, stores'⟩ := unopened.recordRun_of_stores stores run
      simp only [answers, perform]
      by_cases old : ∃ other ∈ accepted, other.id = run.id
      · obtain ⟨fault, refused⟩ := Ledger.record_repeated isRecordable old
        rw [refused] at answer stores'
        rw [show (recordRun false tree root run).1 = .error fault from answer]
        exact .refuses old (ih stores' keptWell recordableRest)
      · rw [Ledger.record_new isRecordable old] at answer stores'
        rw [show (recordRun false tree root run).1 = .ok () from answer]
        refine .accepts old (ih stores' ?_ recordableRest)
        intro other member
        rcases List.mem_append.mp member with before | last
        · exact keptWell other before
        · rw [List.mem_singleton.mp last]
          exact isRecordable
    | list limit =>
      obtain ⟨answer, stores'⟩ := unopened.listRuns_of_stores stores limit
      obtain ⟨runs, lists, latest⟩ := Ledger.list_ofRuns keptWell limit
      simp only [answers, perform]
      rw [answer, lists]
      exact .lists latest (ih stores' keptWell recordableRest)

/-- The run history of a root is a faithful log of the runs that were accepted, from the first call on. -/
theorem faithful_of_unopened {tree : FileTree} {root : String} {folder : Place}
    (unopened : Unopened tree root folder) (calls : List Call)
    (recordable : ∀ run, .record run ∈ calls → Recordable run) :
    Faithful [] calls (answers root tree calls) := by
  have stores : Stores tree root folder (.ofRuns []) tree := Or.inl ⟨rfl, rfl⟩
  exact faithful_of_stores unopened stores (by simp) calls recordable

/-- A folder for a project, which has nothing in it. -/
def emptyProject (name : String) : FileTree := ⟨.cons name (.folder .nil) .nil, []⟩

/-- A run of an identifier at an instant, with an average of one half. -/
def sampleRun (id : String) (instant : Time.Timestamp) : Run :=
  { (default : Run) with id, generatedAt := instant, avgComplexity := ⟨0x3FE0000000000000⟩ }

theorem recordable_sampleRun (id : String) {instant : Time.Timestamp}
    (plainYear : instant.toUtc.hasPlainYear = true) : Recordable (sampleRun id instant) :=
  ⟨plainYear, rfl, rfl⟩

/-- Two runs of one instant that is told with different offsets, and a third one whose identifier is
taken. -/
def sampleCalls : List Call :=
  [.record (sampleRun "a" ⟨1700000000, Time.Nanos.ofNat 5, 3600⟩), .record (sampleRun "b" ⟨1700000000, Time.Nanos.ofNat 5, -7200⟩),
    .record (sampleRun "a" ⟨1800000000, Time.Nanos.ofNat 0, 0⟩), .list 1, .list 0]

theorem unopened_emptyProject : Unopened (emptyProject "p") "p" ["p", ".cqa"] where
  plain := ⟨by decide, by decide⟩
  current := ⟨_, rfl⟩
  makes := by decide +kernel
  vacant := by decide +kernel
  alone which := by cases which <;> decide +kernel
  short := by decide

theorem faithful_sampleCalls : Faithful [] sampleCalls (answers "p" (emptyProject "p") sampleCalls) := by
  apply faithful_of_unopened unopened_emptyProject
  intro run member
  simp only [sampleCalls, List.mem_cons, Call.record.injEq, reduceCtorEq, List.not_mem_nil, or_false] at member
  rcases member with rfl | rfl | rfl
  all_goals exact recordable_sampleRun _ (by decide +kernel)

/-- Where a question mark is in the name of a root, the history is written to another file than the one that
is looked for: a run that was recorded is not listed. -/
theorem recorded_but_not_listed :
    Recordable (sampleRun "r" ⟨1735689600, 0, 0⟩) ∧
    answers "p?x" (emptyProject "p?x") [.record (sampleRun "r" ⟨1735689600, 0, 0⟩), .list 0] =
      [.recorded (.ok ()), .listed (.ok [])] ∧
    ¬ Faithful [] [.record (sampleRun "r" ⟨1735689600, 0, 0⟩), .list 0]
      (answers "p?x" (emptyProject "p?x") [.record (sampleRun "r" ⟨1735689600, 0, 0⟩), .list 0]) := by
  have isAnswered : answers "p?x" (emptyProject "p?x") [.record (sampleRun "r" ⟨1735689600, 0, 0⟩), .list 0] =
      [.recorded (.ok ()), .listed (.ok [])] := by
    decide +kernel
  refine ⟨recordable_sampleRun _ (by decide +kernel), isAnswered, ?_⟩
  rw [isAnswered]
  intro faithful
  cases faithful with
  | accepts _ rest =>
    cases rest with
    | lists latest _ =>
      obtain ⟨ranking, perm, -, listed⟩ := latest
      have whole : ranking.length = 1 := perm.length_eq
      have count := listed.length_eq
      simp [whole, allowed] at count

end History

end CodeGauge.FileTree
