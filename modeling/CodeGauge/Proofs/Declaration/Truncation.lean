/-
Module: CodeGauge.Proofs.Declaration.Truncation
Purpose: A text that is cut short keeps exactly the functions that were closed in front of the cut,
  with all that is reported of them.
Main exports:
  declares_append_iff, extract_append_filter, closingOffset?, extract_truncated
-/
import CodeGauge.Proofs.Declaration.Extraction
import CodeGauge.Proofs.Source.Locality
import Mathlib.Data.List.Sort

namespace CodeGauge.Declaration

open CodeGauge.Source CodeGauge.Text

/-!
Whether a function is declared is decided by the tokens through the brace that closes its body.  A cut
may change the last token into others, but none of these is a closing brace, so no function ends in
them.
-/

/-! ### Tokens behind a function -/

section Append

variable {tokens behind : List Token} {name close stop : Nat}

/-- A function is declared by all tokens that agree through its closing brace. -/
private theorem Declares.of_agree {others : List Token} (declares : Declares tokens name close stop)
    (inside : stop < others.length)
    (same : ∀ index, index ≤ stop → others[index]? = tokens[index]?)
    (closes : ∀ opening closing start last, last ≤ stop →
      Closes opening closing tokens start last → Closes opening closing others start last) :
    Declares others name close stop := by
  have parametersBehind := declares.parameters.behind
  have bodyBehind := declares.body.behind
  refine ⟨declares.first, by omega, ?_, ?_, ?_, ?_, ?_, ?_⟩
  · rw [same name (by omega)]
    exact declares.named
  · rw [same (name - 1) (by omega)]
    exact declares.typed
  · rw [same (name + 1) (by omega)]
    exact declares.opened
  · exact closes _ _ _ _ (by omega) declares.parameters
  · rw [same (close + 1) (by omega)]
    exact declares.braced
  · exact closes _ _ _ _ (Nat.le_refl stop) declares.body

/-- A function is declared by the tokens through its closing brace. -/
theorem declares_append_iff (inside : stop < tokens.length) :
    Declares (tokens ++ behind) name close stop ↔ Declares tokens name close stop := by
  have same : ∀ index, index ≤ stop → (tokens ++ behind)[index]? = tokens[index]? := by
    intro index bound
    exact List.getElem?_append_left (by omega)
  constructor
  · intro declares
    apply declares.of_agree inside
    · intro index bound
      exact (same index bound).symm
    · intro opening closing start last bound
      exact (closes_append_iff (by omega)).1
  · intro declares
    apply declares.of_agree _ same
    · intro opening closing start last bound
      exact (closes_append_iff (by omega)).2
    · rw [List.length_append]
      omega

/-- The body of a function ends at a closing brace. -/
theorem Declares.brace (declares : Declares tokens name close stop) :
    ∃ line, tokens[stop]? = some (.symbol '}' line) := by
  obtain ⟨braceLine, braceEq⟩ := declares.braced
  obtain ⟨token, tokenEq, isClose⟩ := declares.body.isSymbol (by decide) braceEq rfl
  obtain ⟨line, rfl⟩ := isSymbol_iff.1 isClose
  exact ⟨line, tokenEq⟩

end Append

theorem mem_extract_append_iff {tokens behind : List Token} {d : Declaration} :
    d ∈ extract tokens ↔ d ∈ extract (tokens ++ behind) ∧ d.body.stop < tokens.length := by
  rw [mem_extract_iff, mem_extract_iff]
  constructor
  · rintro ⟨name, close, stop, declares, rfl⟩
    have inside := declares.body.inside
    exact ⟨⟨name, close, stop, (declares_append_iff inside).2 declares, rfl⟩, Int.ofNat_lt.2 inside⟩
  · rintro ⟨⟨name, close, stop, declares, rfl⟩, inside⟩
    exact ⟨name, close, stop, (declares_append_iff (Int.ofNat_lt.1 inside)).1 declares, rfl⟩

/-- Functions in the order of their names are determined by which they are. -/
theorem eq_of_pairwise_name {first second : List Declaration}
    (firstOrder : first.Pairwise (fun d e => d.name < e.name))
    (secondOrder : second.Pairwise (fun d e => d.name < e.name))
    (same : ∀ d, d ∈ first ↔ d ∈ second) : first = second := by
  have : Std.Irrefl (fun d e : Declaration => d.name < e.name) := ⟨fun d => Int.lt_irrefl d.name⟩
  have : Std.Antisymm (fun d e : Declaration => d.name < e.name) :=
    ⟨fun d e before after => absurd before (Int.lt_asymm after)⟩
  exact firstOrder.eq_of_mem_iff secondOrder same

/-- The functions of some tokens are those of more tokens that end among the first. -/
theorem extract_append_filter (tokens behind : List Token) :
    extract tokens =
      (extract (tokens ++ behind)).filter (fun d => decide (d.body.stop < (tokens.length : Int))) := by
  apply eq_of_pairwise_name (extract_pairwise_name tokens)
  · exact (extract_pairwise_name (tokens ++ behind)).filter _
  · intro d
    rw [List.mem_filter, decide_eq_true_iff]
    exact mem_extract_append_iff

/-! ### What is read off a function -/

/-- Two buffers have the same tokens where a function is, and so the same entry for it. -/
structure ReadsAlike (b c : Buffer) (d : Declaration) : Prop where
  name : d.nameToken b = d.nameToken c
  parameters : b.slice? d.parameters = c.slice? d.parameters
  body : b.slice? d.body = c.slice? d.body
  entry : FunctionEntry.ofDeclaration b d = FunctionEntry.ofDeclaration c d

theorem ReadsAlike.symm {b c : Buffer} {d : Declaration} (alike : ReadsAlike b c d) :
    ReadsAlike c b d :=
  ⟨alike.name.symm, alike.parameters.symm, alike.body.symm, alike.entry.symm⟩

theorem ReadsAlike.trans {a b c : Buffer} {d : Declaration} (first : ReadsAlike a b d)
    (second : ReadsAlike b c d) : ReadsAlike a c d :=
  ⟨first.name.trans second.name, first.parameters.trans second.parameters,
    first.body.trans second.body, first.entry.trans second.entry⟩

/-- Tokens behind a function do not change what is read off it. -/
theorem readsAlike_append {tokens : List Token} {d : Declaration} (found : d ∈ extract tokens)
    (path : String) (behind : List Token) : ReadsAlike ⟨path, tokens⟩ ⟨path, tokens ++ behind⟩ d := by
  obtain ⟨name, close, stop, declares, rfl⟩ := mem_extract_iff.1 found
  obtain ⟨text, line, named, -⟩ := declares.named
  have parametersBehind := declares.parameters.behind
  have bodyBehind := declares.body.behind
  have inside := declares.body.inside
  have longer : Declares (tokens ++ behind) name close stop := (declares_append_iff inside).2 declares
  have namedLonger : (tokens ++ behind)[name]? = some (.word text line) := by
    rw [List.getElem?_append_left (by omega)]
    exact named
  have bodySame : (tokens ++ behind).take stop = tokens.take stop :=
    List.take_append_of_le_length (by omega)
  have parametersSame : (tokens ++ behind).take close = tokens.take close :=
    List.take_append_of_le_length (by omega)
  let short : Buffer := ⟨path, tokens⟩
  let long : Buffer := ⟨path, tokens ++ behind⟩
  constructor
  · exact (token_of_getElem? (b := short) named).trans (token_of_getElem? (b := long) namedLonger).symm
  · rw [Declares.slice?_parameters (b := short) declares, Declares.slice?_parameters (b := long) longer]
    exact congrArg (fun taken => some (List.drop (name + 2) taken)) parametersSame.symm
  · rw [Declares.slice?_body (b := short) declares, Declares.slice?_body (b := long) longer]
    exact congrArg (fun taken => some (List.drop (close + 2) taken)) bodySame.symm
  · rw [Declares.entry_eq (b := short) declares named, Declares.entry_eq (b := long) longer namedLonger]
    simp only [short, long, bodySame]

/-! ### Texts cut short -/

/-- How many bytes stand in front of the brace that closes a function of a text. -/
def closingOffset? (source : Bytes) (d : Declaration) : Option Nat :=
  ((significant [] (segments source))[d.body.stop.toNat]?).map (fun place => place.1.length)

/-- The token that closes a function is a brace of the text. -/
theorem exists_closing_place {source : Bytes} {d : Declaration}
    (found : d ∈ extract (tokenize source)) :
    ∃ before line, (tokenize source)[d.body.stop.toNat]? = some (.symbol '}' line) ∧
      (significant [] (segments source))[d.body.stop.toNat]? = some (before, ⟨.symbol '}', [125]⟩) ∧
      closingOffset? source d = some before.length ∧ before ++ [125] <+: source := by
  obtain ⟨name, close, stop, declares, rfl⟩ := mem_extract_iff.1 found
  obtain ⟨line, braceEq⟩ := declares.brace
  obtain ⟨before, place, within⟩ := exists_brace_place braceEq
  refine ⟨before, line, braceEq, place, ?_, within⟩
  exact congrArg (Option.map fun place => place.1.length) place

section CutAt

variable {front behind part : Bytes} {kept more : List Segment}

/-- The part that a cut leaves of a segment ends no function. -/
theorem extract_front_eq_kept (cut : CutAt front behind kept more part) :
    extract (tokenize front) = extract (tokensFrom 1 kept) := by
  have ended := extract_append_filter (tokensFrom 1 kept)
    (tokensFrom (lineBehind 1 kept) (segments part))
  rw [← cut.tokenize_front] at ended
  rw [ended, eq_comm, List.filter_eq_self]
  intro d found
  obtain ⟨name, close, stop, declares, rfl⟩ := mem_extract_iff.1 found
  obtain ⟨line, braceEq⟩ := declares.brace
  exact decide_eq_true (Int.ofNat_lt.2 (cut.brace_kept braceEq))

/-- The functions of the whole text that the cut keeps are closed in front of it. -/
theorem extract_kept_eq_filter (cut : CutAt front behind kept more part) :
    extract (tokensFrom 1 kept) = (extract (tokenize (front ++ behind))).filter
      (fun d => (closingOffset? (front ++ behind) d).any (fun offset => offset < front.length)) := by
  rw [extract_append_filter (tokensFrom 1 kept) (tokensFrom (lineBehind 1 kept) more),
    ← cut.tokenize_whole]
  apply List.filter_congr
  intro d found
  obtain ⟨before, -, -, place, offset, -⟩ := exists_closing_place found
  obtain ⟨name, close, stop, -, rfl⟩ := mem_extract_iff.1 found
  rw [offset, Option.any_some, decide_eq_decide, ← cut.brace_kept_iff place]
  exact Int.ofNat_lt

end CutAt

/-- A text that is cut short, at any byte, has exactly those functions of the whole text whose closing
brace stands in front of the cut, in the same order, with the same indices and all that is read off
them.  The token that closes a function is a brace of the text. -/
theorem extract_truncated (path : String) (front behind : Bytes) :
    (extract (Buffer.ofSource path front).tokens =
      (extract (Buffer.ofSource path (front ++ behind)).tokens).filter
        (fun d => (closingOffset? (front ++ behind) d).any (fun offset => offset < front.length))) ∧
    (∀ d ∈ extract (Buffer.ofSource path (front ++ behind)).tokens,
      ∃ before rest line, front ++ behind = before ++ 125 :: rest ∧
        closingOffset? (front ++ behind) d = some before.length ∧
        (Buffer.ofSource path (front ++ behind)).tokens[d.body.stop.toNat]? =
          some (.symbol '}' line)) ∧
    ∀ d ∈ extract (Buffer.ofSource path front).tokens,
      ReadsAlike (Buffer.ofSource path front) (Buffer.ofSource path (front ++ behind)) d := by
  obtain ⟨kept, more, part, cut⟩ := exists_cutAt front behind
  have keptFunctions := extract_front_eq_kept cut
  refine ⟨keptFunctions.trans (extract_kept_eq_filter cut), ?_, ?_⟩
  · intro d found
    obtain ⟨before, line, braceEq, -, offset, rest, joins⟩ := exists_closing_place found
    refine ⟨before, rest, line, ?_, offset, braceEq⟩
    rw [← joins, List.append_assoc, List.singleton_append]
  · intro d found
    have isKept : d ∈ extract (tokensFrom 1 kept) := keptFunctions ▸ found
    rw [Buffer.ofSource, Buffer.ofSource, cut.tokenize_front, cut.tokenize_whole]
    exact (readsAlike_append isKept path _).symm.trans (readsAlike_append isKept path _)

end CodeGauge.Declaration
