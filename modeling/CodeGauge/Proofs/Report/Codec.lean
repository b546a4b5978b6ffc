/-
Module: CodeGauge.Proofs.Report.Codec
Purpose: A report is read back from its JSON, and which reports have one.
Main exports:
  Report.restored, Report.isWritable_of_same
-/
import CodeGauge.Proofs.Document.Codec
import CodeGauge.Report.Codec

namespace CodeGauge

open Codec RecordField CodeGauge.Json

variable {room : Nat}

theorem FunctionEntry.restores (f : FunctionEntry) : FunctionEntry.codec.Restores (room + 1) f :=
  restores_record
    (.cons (restores_part (restores_text _) _ _) <| .cons (restores_part (restores_text _) _ _) <|
      .cons (restores_part (restores_text _) _ _) <| .cons (restores_part (restores_int _) _ _) <|
      .cons (restores_part (restores_int _) _ _) <| .cons (restores_part (restores_bool _) _ _) <|
      .cons (restores_part (restores_int _) _ _) <| .cons (restores_part (restores_int _) _ _) .nil)
    (by decide) (fun _ => rfl)

theorem FileSummary.restores (s : FileSummary) : FileSummary.codec.Restores (room + 1) s :=
  restores_record
    (.cons (restores_part (restores_int _) _ _) <| .cons (restores_part (restores_int _) _ _) <|
      .cons (restores_part (restores_int _) _ _) <| .cons (restores_part (restores_number _) _ _) <|
      .cons (restores_part (restores_int _) _ _) .nil)
    (by decide) (fun _ => rfl)

theorem FileEntry.restores (f : FileEntry) : FileEntry.codec.Restores (room + 3) f :=
  restores_record
    (.cons (restores_part (restores_text _) _ _) <| .cons (restores_part (restores_text _) _ _) <|
      .cons (restores_part (restores_int _) _ _) <| .cons (restores_part (restores_int _) _ _) <|
      .cons (restores_part (FileSummary.restores _) _ _) <|
      .cons (restores_part (restores_list fun _ _ f _ => f.restores) _ _) .nil)
    (by decide) (fun _ => rfl)

theorem ProjectTotals.restores (p : ProjectTotals) : ProjectTotals.codec.Restores (room + 1) p :=
  restores_record
    (.cons (restores_part (restores_int _) _ _) <| .cons (restores_part (restores_int _) _ _) <|
      .cons (restores_part (restores_int _) _ _) <| .cons (restores_part (restores_int _) _ _) <|
      .cons (restores_part (restores_number _) _ _) <| .cons (restores_part (restores_int _) _ _) <|
      .cons (restores_part (restores_int _) _ _) <| .cons (restores_part (restores_number _) _ _) .nil)
    (by decide) (fun _ => rfl)

theorem MetricInfo.restores (m : MetricInfo) : MetricInfo.codec.Restores (room + 1) m :=
  restores_record
    (.cons (restores_part (restores_text _) _ _) <| .cons (restores_part (restores_text _) _ _) <|
      .cons (restores_part (restores_text _) _ _) <| .cons (restores_part (restores_text _) _ _) .nil)
    (by decide) (fun _ => rfl)

namespace Report

/-- A report whose offset has whole minutes is restored from its JSON.  It is read into an empty report,
because warnings are left out if there are none. -/
theorem restored {r : Report} (whole : 60 ∣ r.generatedAt.offset) {json : Json}
    (written : (codec.write r).toJson = .ok json) :
    Readable (room + 5) json ∧ codec.decode? json = some r := by
  obtain ⟨readable, reads⟩ : Readable (room + 5) json ∧ _ := read_record
    (.cons (restores_part (restores_text _) _ _) <| .cons (restores_part (restores_text _) _ _) <|
      .cons (restores_part (restores_time whole) _ _) <|
      .cons (restores_part (restores_list fun _ _ f _ => f.restores) _ _) <|
      .cons (restores_part (ProjectTotals.restores _) _ _) <|
      .cons (restores_part (restores_list fun _ _ f _ => f.restores) _ _) <|
      .cons (restores_part (restores_list fun _ _ m _ => m.restores) _ _) <|
      .cons (restores_unlessEmpty (fun _ _ => restores_text _) _ _) .nil)
    (by decide) written
  refine ⟨readable, (reads default).trans ?_⟩
  cases r with
  | mk runId rootPath generatedAt files project topFunctions metricMetadata warnings =>
    cases warnings <;> rfl

/-- A report that says the same of its files as one that can be written can be written, whatever its warnings
are, if its instant can. -/
theorem isWritable_of_same {r other : Report} (writable : (codec.write r).IsWritable)
    (sameFiles : other.files = r.files) (sameProject : other.project = r.project)
    (sameTop : other.topFunctions = r.topFunctions) (sameMetadata : other.metricMetadata = r.metricMetadata)
    (plainYear : other.generatedAt.hasPlainYear = true) (plainOffset : other.generatedAt.hasPlainOffset = true) :
    (codec.write other).IsWritable := by
  have isTime : (Document.time other.generatedAt).IsWritable :=
    ⟨_, by rw [Document.toJson, Document.timeJson, plainYear, plainOffset]; rfl⟩
  rw [codec, record, Document.isWritable_record_iff] at writable ⊢
  simp only [List.filterMap_cons, part, unlessEmpty, Option.map_some, List.filterMap_nil, List.forall_mem_cons]
    at writable ⊢
  obtain ⟨-, -, -, files, project, top, metadata, -⟩ := writable
  rw [sameFiles, sameProject, sameTop, sameMetadata]
  refine ⟨⟨_, rfl⟩, ⟨_, rfl⟩, isTime, files, project, top, metadata, ?_⟩
  intro field member
  cases empty : other.warnings.isEmpty with
  | true => simp [empty] at member
  | false =>
    obtain rfl : field = ("warnings", Codec.text.list.write (some other.warnings)) := by simpa [empty] using member
    exact Document.isWritable_texts other.warnings

end Report

end CodeGauge
