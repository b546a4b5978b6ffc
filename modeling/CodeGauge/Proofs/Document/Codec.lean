/-
Module: CodeGauge.Proofs.Document.Codec
Purpose: Reading a value back from the JSON that its document is written as.
Main exports:
  Codec.Restores, RecordField.Restores, Codec.restores_list, Codec.read_record, Document.IsWritable
-/
import CodeGauge.Document.Codec
import CodeGauge.Proofs.Json.Reader
import CodeGauge.Proofs.Time.Timestamp
import Mathlib.Data.List.Forall2

namespace CodeGauge

open CodeGauge.Json CodeGauge.Number CodeGauge.Text CodeGauge.Time

/-!
A codec restores a value if the JSON that the value is written as, where there is one, is read back as
the value, whatever was there before.  Lists and records restore their values if their items and parts
do, so a codec that is put together from others needs no argument of its own.
-/

theorem except_bind_eq_ok {ε β γ : Type} {x : Except ε β} {f : β → Except ε γ} {c : γ} :
    x >>= f = .ok c ↔ ∃ b, x = .ok b ∧ f b = .ok c := by
  cases x <;> simp [bind, Except.bind]

theorem except_map_eq_ok {ε β γ : Type} {x : Except ε β} {f : β → γ} {c : γ} :
    x.map f = .ok c ↔ ∃ b, x = .ok b ∧ f b = c := by
  cases x <;> simp [Except.map]

/-- What a value is written as, if it can be, is a readable JSON value, nested at most `room` deep, and is
read into any other value as the value. -/
def Codec.Restores {α : Type} (codec : Codec α) (room : Nat) (v : α) : Prop :=
  ∀ json, (codec.write v).toJson = .ok json →
    Readable room json ∧ ∀ old, codec.read old [json] = some v

namespace Codec

variable {room : Nat}

/-! ### Values without parts -/

/-- One JSON value other than `null` replaces a value without parts. -/
theorem read_plain {α : Type} {write : α → Document} {value? : Json → Option α} {json : Json} {v : α}
    (isValue : value? json = some v) (given : json ≠ .null) (old : α) :
    (plain write value?).read old [json] = some v := by
  have replaced : replace value? old json = some v := by
    rw [replace, isValue]
    exact fun null => given null
  simp only [plain, List.foldlM_cons, List.foldlM_nil, replaced, Option.bind_eq_bind, Option.bind_some]
  rfl

theorem restores_bool (v : Bool) : bool.Restores room v := by
  rintro _ ⟨⟩
  exact ⟨.bool v, read_plain rfl (by simp)⟩

theorem restores_text (v : String) : text.Restores room v := by
  rintro _ ⟨⟩
  exact ⟨.string v, read_plain rfl (by simp)⟩

theorem isLiteral_toString (i : Int) : IsLiteral (toString i) := by
  refine ⟨decide (i < 0), ⟨Nat.toDigits 10 i.natAbs, [], none, isNumber_toDigits _, ?_, by simp, by simp⟩, ?_⟩
  · by_cases zero : i.natAbs = 0
    · rw [zero]
      exact Or.inl (Nat.toDigits_zero 10)
    · exact Or.inr (head?_toDigits_ne zero)
  · rw [← String.toList_inj, toList_toString, String.toList_ofList]
    simp [Numeral.text, Numeral.fractionText, Numeral.exponentText]

theorem word?_toString (v : Int64) : word? (toString v.toInt) = some v := by
  have number := isNumber_toDigits v.toInt.natAbs
  have digits : (!(Nat.toDigits 10 v.toInt.natAbs).isEmpty
      && (Nat.toDigits 10 v.toInt.natAbs).all Char.isDigit) = true := by
    simp [number.nonempty, List.all_eq_true.mpr number.digits]
  have range : Int64.minValue.toInt ≤ v.toInt ∧ v.toInt ≤ Int64.maxValue.toInt :=
    ⟨v.minValue_le_toInt, v.toInt_le⟩
  rw [word?, toList_toString]
  by_cases negative : v.toInt < 0
  · have value : -(v.toInt.natAbs : Int) = v.toInt := by omega
    simp only [if_pos negative, digits, if_true, Binary64.digitsValue_toDigits, value, if_pos range,
      Int64.ofInt_toInt]
  · have value : (v.toInt.natAbs : Int) = v.toInt := by omega
    rw [if_neg negative]
    split
    next sign =>
    split at sign
    · next minus => exact absurd (number.digits '-' (by rw [minus]; exact List.mem_cons_self)) (by decide)
    · obtain ⟨rfl, rfl⟩ := Prod.mk.inj sign
      simp only [digits, if_true, Bool.false_eq_true, if_false, Binary64.digitsValue_toDigits, value,
        if_pos range, Int64.ofInt_toInt]

theorem restores_int (v : Int64) : int.Restores room v := by
  rintro _ ⟨⟩
  exact ⟨.number (isLiteral_toString _), read_plain (word?_toString v) (by simp [Json.int])⟩

theorem restores_number (v : Binary64) : number.Restores room v := by
  intro json written
  change Document.numberJson v = .ok json at written
  rw [Document.numberJson] at written
  split at written
  · next finite =>
    obtain rfl := Except.ok.inj written
    obtain ⟨n, isText, -⟩ := Binary64.exists_write_eq finite Document.jsonStyle
    have value : finite? (v.write Document.jsonStyle) = some v := by
      rw [finite?, Binary64.read?_write finite, Option.filter_some, if_pos finite]
    exact ⟨.number ⟨_, n, isText⟩, read_plain value (by simp)⟩
  · exact absurd written (by simp)

theorem restores_time {v : Timestamp} (whole : 60 ∣ v.offset) : time.Restores room v := by
  intro json written
  change Document.timeJson v = .ok json at written
  rw [Document.timeJson] at written
  split at written
  · exact absurd written (by simp)
  split at written
  · exact absurd written (by simp)
  next year offset =>
  obtain rfl := Except.ok.inj written
  have value : Timestamp.read? v.writePrecise = some v :=
    Timestamp.read?_writePrecise (by simpa using year) (by simpa using offset) whole
  exact ⟨.string _, read_plain value (by simp)⟩

/-! ### Lists -/

/-- A single list gives one JSON value for each place. -/
theorem addItems_nil (jsons : List Json) : addItems [] jsons = jsons.map ([·]) := by
  induction jsons with
  | nil => rfl
  | cons json jsons ih => rw [addItems, ih, List.map_cons]

section Lists

variable {α : Type} {codec : Codec α}

/-- The items of a list that is written are restored one by one. -/
theorem restores_of_itemsJson {items : List α} (restores : ∀ item ∈ items, codec.Restores room item)
    {jsons : List Json} (written : Document.itemsJson (items.map codec.write) = .ok jsons) :
    (∀ json ∈ jsons, Readable room json) ∧
      List.Forall₂ (fun item json => ∀ old, codec.read old [json] = some item) items jsons := by
  induction items generalizing jsons with
  | nil =>
    obtain rfl := Except.ok.inj written
    exact ⟨by simp, .nil⟩
  | cons item items ih =>
    rw [List.map_cons, Document.itemsJson] at written
    obtain ⟨json, first, written⟩ := except_bind_eq_ok.mp written
    obtain ⟨others, rest, written⟩ := except_bind_eq_ok.mp written
    obtain rfl := Except.ok.inj written
    obtain ⟨readable, reads⟩ := restores item List.mem_cons_self json first
    obtain ⟨allReadable, allRead⟩ := ih (fun i member => restores i (List.mem_cons_of_mem _ member)) rest
    exact ⟨List.forall_mem_cons.mpr ⟨readable, allReadable⟩, .cons reads allRead⟩

variable [Inhabited α]


theorem readColumns_singletons {items : List α} {jsons : List Json}
    (reads : List.Forall₂ (fun item json => ∀ old, codec.read old [json] = some item) items jsons)
    (old : List α) : readColumns codec old (jsons.map ([·])) = some items := by
  induction reads generalizing old with
  | nil => rfl
  | cons first _ ih => simp [readColumns, first, ih]

theorem restores_noList : codec.list.Restores (room + 1) none := by
  rintro _ ⟨⟩
  exact ⟨.null, fun _ => rfl⟩

/-- A list is restored if its items are. -/
theorem restores_items {items : List α} (restores : ∀ item ∈ items, codec.Restores room item) :
    codec.list.Restores (room + 1) (some items) := by
  intro json written
  change (Document.itemsJson (items.map codec.write)).map Json.array = .ok json at written
  obtain ⟨jsons, all, rfl⟩ := except_map_eq_ok.mp written
  obtain ⟨readable, reads⟩ := restores_of_itemsJson restores all
  refine ⟨.array readable, fun old => ?_⟩
  have columns := readColumns_singletons reads (old.getD [])
  have length := reads.length_eq
  cases jsons with
  | nil =>
    obtain rfl := List.eq_nil_of_length_eq_zero length
    rfl
  | cons json jsons =>
    change readRows codec old ⟨addItems [] (json :: jsons), (json :: jsons).length⟩ = _
    rw [addItems_nil, readRows, if_neg (by simp), columns, ← length]
    simp

theorem restores_list {items? : Option (List α)}
    (restores : ∀ items ∈ items?, ∀ item ∈ items, codec.Restores room item) :
    codec.list.Restores (room + 1) items? := by
  cases items? with
  | none => exact restores_noList
  | some items => exact restores_items (restores items rfl)

end Lists

/-! ### Records -/

theorem saying_cons_self (name : String) (json : Json) (entries : List (List Char × Json)) :
    saying name ((foldName name, json) :: entries) = json :: saying name entries := by
  simp [saying]

theorem saying_cons_of_ne {name : String} {folded : List Char} (apart : folded ≠ foldName name)
    (json : Json) (entries : List (List Char × Json)) :
    saying name ((folded, json) :: entries) = saying name entries := by
  simp [saying, apart]

theorem saying_eq_nil {name : String} {entries : List (List Char × Json)}
    (absent : ∀ entry ∈ entries, entry.1 ≠ foldName name) : saying name entries = [] := by
  rw [saying, List.filterMap_eq_nil_iff]
  intro entry member
  simp [absent entry member]

end Codec

namespace RecordField

open Codec

variable {ρ : Type} {room : Nat}

/-- What a part is written as, or its absence, is read so that it changes any record in the same way. -/
structure Restores (field : RecordField ρ) (room : Nat) (v : ρ) (change : ρ → ρ) : Prop where
  written : ∀ doc json, field.write v = some doc → doc.toJson = .ok json →
    Readable room json ∧ ∀ r, field.read r [json] = some (change r)
  leftOut : field.write v = none → ∀ r, field.read r [] = some (change r)

theorem restores_part {α : Type} {codec : Codec α} {get : ρ → α} {v : ρ}
    (restores : codec.Restores room (get v)) (name : String) (set : ρ → α → ρ) :
    (part name codec get set).Restores room v (fun r => set r (get v)) where
  written doc json isDoc isJson := by
    obtain rfl := Option.some.inj isDoc
    obtain ⟨readable, reads⟩ := restores json isJson
    exact ⟨readable, fun r => by simp [part, reads]⟩
  leftOut none := by simp [part] at none

/-- A list that is left out leaves the list that is there. -/
theorem restores_unlessEmpty {α : Type} [Inhabited α] {codec : Codec α} {get : ρ → List α} {v : ρ}
    (restores : ∀ item ∈ get v, codec.Restores room item) (name : String) (set : ρ → List α → ρ) :
    (unlessEmpty name codec get set).Restores (room + 1) v
      (fun r => set r (if (get v).isEmpty then get r else get v)) where
  written doc json isDoc isJson := by
    simp only [unlessEmpty] at isDoc
    split at isDoc
    · exact absurd isDoc (by simp)
    next some =>
    obtain rfl := Option.some.inj isDoc
    obtain ⟨readable, reads⟩ := restores_items restores json isJson
    exact ⟨readable, fun r => by simp [unlessEmpty, reads, some]⟩
  leftOut none r := by
    have empty : (get v).isEmpty = true := by simpa [unlessEmpty] using none
    simp only [unlessEmpty, if_pos empty]
    rfl

end RecordField

namespace Codec

open RecordField

variable {ρ : Type} {room : Nat}

/-- The names and documents of the parts of a record that are written. -/
def partDocuments (fields : List (RecordField ρ)) (v : ρ) : List (String × Document) :=
  fields.filterMap fun field => (field.write v).map fun value => (field.name, value)

/-- Entries with their names folded, as a record looks them up. -/
def foldEntries (entries : List (String × Json)) : List (List Char × Json) :=
  entries.map fun entry => (foldName entry.1, entry.2)

/-- What the JSON of some parts of a record does when entries that agree with it are read. -/
structure ReadsBack (fields : List (RecordField ρ)) (room : Nat) (changes : List (ρ → ρ))
    (jsons : List (String × Json)) : Prop where
  readable : ∀ entry ∈ jsons, Readable room entry.2
  named : ∀ entry ∈ foldEntries jsons, ∃ field ∈ fields, entry.1 = foldName field.name
  reads : ∀ entries,
    (∀ field ∈ fields, saying field.name entries = saying field.name (foldEntries jsons)) →
      ∀ old, fields.foldlM (fun r field => field.read r (saying field.name entries)) old
        = some (changes.foldl (fun r change => change r) old)

section Parts

variable {field : RecordField ρ} {fields : List (RecordField ρ)} {change : ρ → ρ}
  {changes : List (ρ → ρ)} {json : Json} {jsons : List (String × Json)}

/-- JSON of other parts says nothing about a part. -/
theorem ReadsBack.silent (back : ReadsBack fields room changes jsons)
    (apart : foldName field.name ∉ fields.map fun field => foldName field.name) :
    saying field.name (foldEntries jsons) = [] :=
  saying_eq_nil fun entry member same => by
    obtain ⟨other, isOther, isName⟩ := back.named entry member
    exact apart (List.mem_map.mpr ⟨other, isOther, isName.symm.trans same⟩)

theorem ReadsBack.leftOut (back : ReadsBack fields room changes jsons)
    (apart : foldName field.name ∉ fields.map fun field => foldName field.name)
    (reads : ∀ r, field.read r [] = some (change r)) :
    ReadsBack (field :: fields) room (change :: changes) jsons where
  readable := back.readable
  named entry member :=
    have ⟨other, isOther, isName⟩ := back.named entry member
    ⟨other, List.mem_cons_of_mem _ isOther, isName⟩
  reads entries agree old := by
    have others := back.reads entries (fun f member => agree f (List.mem_cons_of_mem _ member)) (change old)
    have own : saying field.name entries = [] :=
      (agree field List.mem_cons_self).trans (back.silent apart)
    simp only [List.foldlM_cons, own, reads old]
    exact others

theorem ReadsBack.written (back : ReadsBack fields room changes jsons)
    (apart : foldName field.name ∉ fields.map fun field => foldName field.name)
    (readable : Readable room json) (reads : ∀ r, field.read r [json] = some (change r)) :
    ReadsBack (field :: fields) room (change :: changes) ((field.name, json) :: jsons) where
  readable := List.forall_mem_cons.mpr ⟨readable, back.readable⟩
  named entry member := by
    rcases List.mem_cons.mp member with rfl | behind
    · exact ⟨field, List.mem_cons_self, rfl⟩
    · obtain ⟨other, isOther, isName⟩ := back.named entry behind
      exact ⟨other, List.mem_cons_of_mem _ isOther, isName⟩
  reads entries agree old := by
    have agreeBehind : ∀ f ∈ fields, saying f.name entries = saying f.name (foldEntries jsons) := by
      intro f member
      have differs : foldName field.name ≠ foldName f.name := fun same =>
        apart (List.mem_map.mpr ⟨f, member, same.symm⟩)
      exact (agree f (List.mem_cons_of_mem _ member)).trans (saying_cons_of_ne differs json _)
    have own : saying field.name entries = [json] :=
      calc saying field.name entries = saying field.name ((foldName field.name, json) :: foldEntries jsons) :=
            agree field List.mem_cons_self
        _ = [json] := by rw [saying_cons_self, back.silent apart]
    have others := back.reads entries agreeBehind (change old)
    simp only [List.foldlM_cons, own, reads old]
    exact others

/-- Parts with different names are read each from its own JSON. -/
theorem readsBack_of_fieldsJson {v : ρ}
    (restores : List.Forall₂ (fun field change => field.Restores room v change) fields changes)
    (distinct : (fields.map fun field => foldName field.name).Nodup)
    (written : Document.fieldsJson (partDocuments fields v) = .ok jsons) :
    ReadsBack fields room changes jsons := by
  induction restores generalizing jsons with
  | nil =>
    obtain rfl := Except.ok.inj written
    exact ⟨by simp, by simp [foldEntries], fun _ _ _ => rfl⟩
  | @cons field change fields changes first _ ih =>
    rw [List.map_cons, List.nodup_cons] at distinct
    cases isDoc : field.write v with
    | none =>
      have same : partDocuments (field :: fields) v = partDocuments fields v := by
        simp [partDocuments, isDoc]
      rw [same] at written
      exact (ih distinct.2 written).leftOut distinct.1 (first.leftOut isDoc)
    | some doc =>
      have split : partDocuments (field :: fields) v = (field.name, doc) :: partDocuments fields v := by
        simp [partDocuments, isDoc]
      rw [split, Document.fieldsJson] at written
      obtain ⟨json, isJson, written⟩ := except_bind_eq_ok.mp written
      obtain ⟨others, isOthers, written⟩ := except_bind_eq_ok.mp written
      obtain rfl := Except.ok.inj written
      obtain ⟨readable, reads⟩ := first.written doc json isDoc isJson
      exact (ih distinct.2 isOthers).written distinct.1 readable reads

/-- A record that is written is read back part by part. -/
theorem read_record {v : ρ}
    (restores : List.Forall₂ (fun field change => field.Restores room v change) fields changes)
    (distinct : (fields.map fun field => foldName field.name).Nodup)
    (written : ((record fields).write v).toJson = .ok json) :
    Readable (room + 1) json ∧
      ∀ old, (record fields).read old [json] = some (changes.foldl (fun r change => change r) old) := by
  change (Document.fieldsJson (partDocuments fields v)).map Json.object = .ok json at written
  obtain ⟨jsons, all, rfl⟩ := except_map_eq_ok.mp written
  have back := readsBack_of_fieldsJson restores distinct all
  refine ⟨.object back.readable, fun old => ?_⟩
  have entries : entries? [.object jsons] = some (foldEntries jsons) := by
    simp [entries?, foldEntries]
  simp only [record, entries]
  exact back.reads _ (fun _ _ => rfl) old

/-- A record is restored if its parts are and make up the record. -/
theorem restores_record {v : ρ}
    (restores : List.Forall₂ (fun field change => field.Restores room v change) fields changes)
    (distinct : (fields.map fun field => foldName field.name).Nodup)
    (complete : ∀ old, changes.foldl (fun r change => change r) old = v) :
    (record fields).Restores (room + 1) v := fun _ written =>
  have ⟨readable, reads⟩ := read_record restores distinct written
  ⟨readable, fun old => (reads old).trans (congrArg some (complete old))⟩

end Parts

end Codec

/-! ### Documents that have a JSON text -/

namespace Document

/-- A document has a JSON text. -/
def IsWritable (document : Document) : Prop := ∃ json, document.toJson = .ok json

theorem exists_fieldsJson_iff (fields : List (String × Document)) :
    (∃ jsons, fieldsJson fields = .ok jsons) ↔ ∀ field ∈ fields, field.2.IsWritable := by
  induction fields with
  | nil => simp [fieldsJson]
  | cons field fields ih =>
    rw [List.forall_mem_cons, ← ih, fieldsJson]
    constructor
    · rintro ⟨jsons, written⟩
      obtain ⟨first, isFirst, written⟩ := except_bind_eq_ok.mp written
      obtain ⟨others, areOthers, -⟩ := except_bind_eq_ok.mp written
      exact ⟨⟨first, isFirst⟩, others, areOthers⟩
    · rintro ⟨⟨first, isFirst⟩, others, areOthers⟩
      exact ⟨(field.1, first) :: others, by rw [isFirst, areOthers]; rfl⟩

/-- A record has a JSON text if all its parts have one. -/
theorem isWritable_record_iff (fields : List (String × Document)) :
    (Document.record fields).IsWritable ↔ ∀ field ∈ fields, field.2.IsWritable := by
  rw [← exists_fieldsJson_iff, IsWritable, toJson]
  cases fieldsJson fields <;> simp [Except.map]

theorem isWritable_texts (texts : List String) : (Document.list (texts.map .text)).IsWritable := by
  have items : ∃ jsons, itemsJson (texts.map .text) = .ok jsons := by
    induction texts with
    | nil => exact ⟨[], rfl⟩
    | cons first texts ih =>
      obtain ⟨jsons, written⟩ := ih
      exact ⟨.string first :: jsons, by rw [List.map_cons, itemsJson, written]; rfl⟩
  obtain ⟨jsons, written⟩ := items
  exact ⟨.array jsons, by rw [toJson, written]; rfl⟩

end Document

end CodeGauge
