/-
Module: CodeGauge.Yaml.Value
Purpose: What a YAML document stands for.
Main exports:
  Yaml.Atom, Yaml.Value, Yaml.Value.entriesOf?, Yaml.read?
-/
import CodeGauge.Text.Base64
import CodeGauge.Yaml.Node.Basic
import CodeGauge.Yaml.Resolve

namespace CodeGauge.Yaml

open CodeGauge.Text CodeGauge.Number CodeGauge.Time

/-!
A tag says what a scalar is to be read as; a scalar that cannot be read so is refused.  Two keys of one
map that are written alike are refused.  A map may take over entries of other maps, as far as it has no
entries of those names itself.  What is referred to is read anew at every reference; a node may not
refer to itself, and a document in which nearly all of what is read is read through references is
refused.
-/

/-- What a scalar stands for.  A text may hold any bytes. -/
inductive Atom where
  | null
  | bool (value : Bool)
  | int (value : Int)
  | number (value : Binary64)
  | time (value : Timestamp)
  | text (value : Bytes)
deriving DecidableEq, Repr, Inhabited

/-- What a node stands for. -/
inductive Value where
  | atom (value : Atom)
  | list (items : List Value)
  | map (entries : List (Value × Value))
deriving Repr, Inhabited

/-! ### Scalars -/

/-- What a text without quotes and tag stands for. -/
def Atom.ofPlain (text : String) : Atom :=
  match resolve text with
  | .null => .null
  | .bool value => .bool value
  | .int value => .int value
  | .number value => .number value
  | .time value => .time value
  | .text => .text (Utf8.encode text)

/-- What a text stands for that is tagged as anything but a time. -/
def Atom.ofTimeless (text : String) : Atom :=
  match resolve text with
  | .time _ =>
    match resolveDigits text with
    | .int value => .int value
    | .number value => .number value
    | _ => .text (Utf8.encode text)
  | _ => .ofPlain text

/-- What a text stands for under a tag.  A tag of no known meaning leaves it a text. -/
def Atom.ofTagged? (tag text : String) : Option Atom :=
  match tag, Atom.ofTimeless text with
  | "!!str", _ => some (.text (Utf8.encode text))
  | "!!binary", _ => (Base64.decode? text).map .text
  | "!!null", .null => some .null
  | "!!null", _ => none
  | "!!bool", .bool value => some (.bool value)
  | "!!bool", _ => none
  | "!!int", .int value => some (.int value)
  | "!!int", _ => none
  | "!!float", .number value => some (.number value)
  | "!!float", .int value =>
    if value ≤ Int64.maxValue.toInt then some (.number (.ofInt value)) else none
  | "!!float", _ => none
  | "!!timestamp", _ =>
    match Atom.ofPlain text with
    | .time value => some (.time value)
    | _ => none
  | _, _ => some (.text (Utf8.encode text))

/-- What a scalar stands for. -/
def Atom.ofScalar? (tag : Option String) (text : String) (isPlain : Bool) : Option Atom :=
  match tag with
  | some tag => ofTagged? tag text
  | none => some (if isPlain then ofPlain text else .text (Utf8.encode text))

/-! ### Nodes -/

/-- How much has been read, and how much of it through references. -/
structure Effort where
  nodes : Nat
  referred : Nat

/-- The share of what is read that may be read through references, in hundredths: nearly all of a small
document, and less of a large one. -/
def allowedShare (nodes : Nat) : Nat :=
  if nodes ≤ 400000 then 99
  else if 4000000 ≤ nodes then 10
  else 99 - 89 * (nodes - 400000) / 3600000

/-- Whether the share of what is read through references is too large. -/
def Effort.isExcessive (effort : Effort) : Bool :=
  100 < effort.referred && 1000 < effort.nodes
    && allowedShare effort.nodes * effort.nodes < 100 * effort.referred

/-- Making out what nodes stand for. -/
abbrev Evaluate := StateT Effort Option

/-- Count one more node. -/
def Evaluate.count (isReferred : Bool) : Evaluate Unit := do
  let effort ← get
  let effort : Effort := ⟨effort.nodes + 1, effort.referred + (if isReferred then 1 else 0)⟩
  if effort.isExcessive then failure else set effort

/-- Whether two keys are written alike. -/
def Node.isLike : Node → Node → Bool
  | .scalar _ a _, .scalar _ b _ => a == b
  | .sequence _, .sequence _ => true
  | .mapping _, .mapping _ => true
  | .reference a _, .reference b _ => a == b
  | _, _ => false

/-- Whether two of some entries have keys that are written alike. -/
def hasLikeKeys : List (Node × Node) → Bool
  | [] => false
  | (key, _) :: rest => rest.any (fun entry => entry.1.isLike key) || hasLikeKeys rest

/-- Whether a key asks for the entries of other maps. -/
def Node.isMerge : Node → Bool
  | .scalar none "<<" isPlain => isPlain
  | .scalar (some tag) "<<" _ => tag == "!!merge"
  | _ => false

/-- What evaluation knows besides the node at hand: the named nodes, and those that are being read
through a reference. -/
structure Surrounding where
  named : List (Nat × Node)
  active : List Nat

/-- Whether something is read through a reference. -/
def Surrounding.isReferred (s : Surrounding) : Bool := !s.active.isEmpty

/-- The node of a reference and what is known inside of it. -/
def Surrounding.enter? (s : Surrounding) (number : Nat) : Option (Node × Surrounding) :=
  if s.active.contains number then none
  else
    match s.named.find? (fun n => n.1 == number) with
    | some (_, node) => some (node, { s with active := number :: s.active })
    | none => none

/-- Whether a node is a map, perhaps through a reference. -/
def Surrounding.isMap (s : Surrounding) : Node → Bool
  | .mapping _ => true
  | .reference _ number =>
    match s.named.find? (fun n => n.1 == number) with
    | some (_, .mapping _) => true
    | _ => false
  | _ => false

/-- Entries of a map, and the keys that may not be taken over any more. -/
structure Merged where
  entries : List (Value × Value)
  taken : List Atom

mutual

/-- What a node stands for. -/
def evaluate : Nat → Surrounding → Node → Evaluate Value
  | 0, _, _ => failure
  | fuel + 1, s, node => do
    Evaluate.count s.isReferred
    match node with
    | .scalar tag text isPlain =>
      match Atom.ofScalar? tag text isPlain with
      | some atom => pure (.atom atom)
      | none => failure
    | .sequence items => pure (.list (← evaluateItems fuel s items))
    | .mapping entries =>
      let namesOnly := entries.all fun entry => nameOnly fuel s entry.1
      let merged ← evaluateMap fuel s namesOnly entries none
      pure (.map merged.entries)
    | .reference _ number =>
      match s.enter? number with
      | some (node, s) => evaluate fuel s node
      | none => failure

/-- Whether a key is a text. -/
def nameOnly : Nat → Surrounding → Node → Bool
  | 0, _, _ => false
  | fuel + 1, s, node =>
    match node with
    | .scalar (some tag) _ _ => tag == "!!str" || tag == "!!merge"
    | .scalar none text isPlain => !isPlain || text == "<<" || resolve text == .text
    | .reference _ number =>
      match s.enter? number with
      | some (node, s) => nameOnly fuel s node
      | none => false
    | _ => false

/-- What some nodes stand for. -/
def evaluateItems : Nat → Surrounding → List Node → Evaluate (List Value)
  | 0, _, _ => failure
  | _ + 1, _, [] => pure []
  | fuel + 1, s, item :: items => do
    let value ← evaluate fuel s item
    let values ← evaluateItems fuel s items
    pure (value :: values)

/-- The text of a key in a map whose keys are texts; nothing if the key stands for nothing. -/
def evaluateName : Nat → Surrounding → Node → Evaluate (Option Atom)
  | 0, _, _ => failure
  | fuel + 1, s, node => do
    Evaluate.count s.isReferred
    match node with
    | .scalar tag text isPlain =>
      match Atom.ofScalar? tag text isPlain with
      | none => failure
      | some .null => pure none
      | some atom =>
        match tag, atom with
        | some "!!binary", .text bytes => pure (some (.text bytes))
        | _, _ => pure (some (.text (Utf8.encode text)))
    | .reference _ number =>
      match s.enter? number with
      | some (node, s) => evaluateName fuel s node
      | none => failure
    | _ => failure

/-- What a key of a map stands for; nothing if its entry does not count.  A key is no list or map. -/
def evaluateKey : Nat → Surrounding → Bool → Node → Evaluate (Option Atom)
  | 0, _, _, _ => failure
  | fuel + 1, s, namesOnly, node => do
    if namesOnly then evaluateName fuel s node
    else
      match ← evaluate fuel s node with
      | .atom atom => pure (some atom)
      | _ => failure

/-- The entries of a map with those that it takes over.  If the map is itself being taken over, the
keys that may not be are given. -/
def evaluateMap : Nat → Surrounding → Bool → List (Node × Node) → Option (List Atom) → Evaluate Merged
  | 0, _, _, _, _ => failure
  | fuel + 1, s, namesOnly, entries, taken => do
    if hasLikeKeys entries then failure
    else
      let own := entries.filter (fun entry => !entry.1.isMerge)
      let merged ← evaluateEntries fuel s namesOnly own taken.isSome ⟨[], taken.getD []⟩
      match (entries.filter (fun entry => entry.1.isMerge)).getLast? with
      | none => pure merged
      | some (_, source) =>
        let taken ← if taken.isSome then pure merged.taken else evaluateKeys fuel s entries
        let merged := ⟨merged.entries, taken⟩
        if s.isMap source then mergeFrom fuel s namesOnly source merged
        else
          match source with
          | .sequence sources =>
            if sources.all s.isMap then mergeAll fuel s namesOnly sources merged else failure
          | _ => failure

/-- The entries of a map that count, behind some others. -/
def evaluateEntries :
    Nat → Surrounding → Bool → List (Node × Node) → Bool → Merged → Evaluate Merged
  | 0, _, _, _, _, _ => failure
  | _ + 1, _, _, [], _, merged => pure merged
  | fuel + 1, s, namesOnly, (keyNode, valueNode) :: rest, isTaken, merged => do
    match ← evaluateKey fuel s namesOnly keyNode with
    | none => evaluateEntries fuel s namesOnly rest isTaken merged
    | some key =>
      if isTaken && merged.taken.contains key then evaluateEntries fuel s namesOnly rest isTaken merged
      else
        let value ← evaluate fuel s valueNode
        let taken := if isTaken then key :: merged.taken else merged.taken
        evaluateEntries fuel s namesOnly rest isTaken
          ⟨merged.entries ++ [(.atom key, value)], taken⟩

/-- What the keys of a map stand for. -/
def evaluateKeys : Nat → Surrounding → List (Node × Node) → Evaluate (List Atom)
  | 0, _, _ => failure
  | _ + 1, _, [] => pure []
  | fuel + 1, s, (node, _) :: rest => do
    match ← evaluate fuel s node with
    | .atom key =>
      let keys ← evaluateKeys fuel s rest
      pure (key :: keys)
    | _ => failure

/-- Take over the entries of a map. -/
def mergeFrom : Nat → Surrounding → Bool → Node → Merged → Evaluate Merged
  | 0, _, _, _, _ => failure
  | fuel + 1, s, namesOnly, node, merged => do
    Evaluate.count s.isReferred
    match node with
    | .mapping entries =>
      let more ← evaluateMap fuel s namesOnly entries (some merged.taken)
      pure ⟨merged.entries ++ more.entries, more.taken⟩
    | .reference _ number =>
      match s.enter? number with
      | some (node, s) => mergeFrom fuel s namesOnly node merged
      | none => failure
    | _ => failure

/-- Take over the entries of several maps. -/
def mergeAll : Nat → Surrounding → Bool → List Node → Merged → Evaluate Merged
  | 0, _, _, _, _ => failure
  | _ + 1, _, _, [], merged => pure merged
  | fuel + 1, s, namesOnly, node :: nodes, merged => do
    let merged ← mergeFrom fuel s namesOnly node merged
    mergeAll fuel s namesOnly nodes merged

end

/-! ### Documents -/

/-- The names and values of a map whose keys are texts. -/
def namedValues (entries : List (Value × Value)) : List (Bytes × Value) :=
  entries.filterMap fun entry =>
    match entry.1 with
    | .atom (.text name) => some (name, entry.2)
    | _ => none

/-- The entries of the map that a graph is, or of no map if it is nothing. -/
def entriesOf? (size : Nat) (graph : Graph) : Option (List (Bytes × Value)) :=
  let s : Surrounding := ⟨graph.named, []⟩
  let fuel := (4 * size + 16) * (graph.named.length + 1)
  let run (entries : List (Node × Node)) : Option (List (Bytes × Value)) :=
    match (evaluateMap fuel s true entries none).run ⟨2, 0⟩ with
    | some (merged, _) => some (namedValues merged.entries)
    | none => none
  match graph.root with
  | .mapping entries => run entries
  | .scalar tag text isPlain => if Atom.ofScalar? tag text isPlain = some .null then some [] else none
  | _ => none

/-- The entries of the map that the first document of a stream is. -/
def read? (bytes : Bytes) : Option (List (Bytes × Value)) :=
  let stream := Stream.ofBytes bytes
  (Graph.ofStream? stream).bind (entriesOf? stream.chars.length)

end CodeGauge.Yaml
