/-
Module: CodeGauge.Yaml.Node.Basic
Purpose: The nodes of a YAML document, and reading them from its tokens.
Main exports:
  Yaml.Node, Yaml.Graph, Yaml.Graph.ofTokens?
-/
import CodeGauge.Yaml.Token.Queue

namespace CodeGauge.Yaml

/-!
A node may be given a name and be referred to further on, also from inside of itself, so the nodes of a
document form a graph: a tree together with the named nodes.  A name may be given again; a reference
means the last node before it that has the name.
-/

/-- A node.  Its tag is left out if it has none or one that says nothing. -/
inductive Node where
  | scalar (tag : Option String) (text : String) (isPlain : Bool)
  | sequence (items : List Node)
  | mapping (entries : List (Node × Node))
  /-- What has been given a name before; `number` counts the names that are given. -/
  | reference (name : String) (number : Nat)
deriving Repr, Inhabited

/-- A node with the named nodes. -/
structure Graph where
  root : Node
  named : List (Nat × Node)
deriving Repr, Inhabited

/-- The part of a tag that the tags of the language have in common, and what it is shortened to. -/
def tagFamily : String := "tag:yaml.org,2002:"

/-- A tag in short. -/
def shortTag (tag : String) : String :=
  if tagFamily.isPrefixOf tag then "!!" ++ String.ofList (tag.toList.drop tagFamily.length) else tag

/-- The handles that every document has. -/
def standardHandles : List (String × String) := [("!", "!"), ("!!", tagFamily)]

/-- What is known while nodes are read. -/
structure Reading where
  tokens : Tokens
  /-- The handles for tags and what they stand for. -/
  handles : List (String × String)
  /-- The names that are given, the last one first, with their numbers. -/
  names : List (String × Nat)
  named : List (Nat × Node)

/-- Reading something of a document. -/
abbrev Read := StateT Reading Option

/-- The next token, which stays the next one. -/
def Read.peek : Read Token := do
  let reading ← get
  match reading.tokens.next? with
  | some (token, tokens) =>
    set { reading with tokens := tokens }
    pure token
  | none => failure

/-- Go over the next token. -/
def Read.drop : Read Unit := modify fun reading => { reading with tokens := reading.tokens.drop }

/-- Give a name to the node that is about to be read; the number of the name. -/
def Read.name (name : String) : Read Nat :=
  modifyGet fun reading =>
    let number := reading.names.length
    (number, { reading with names := (name, number) :: reading.names })

/-- Keep a node under the number of its name, if it has one. -/
def Read.keep (number : Option Nat) (node : Node) : Read Node := do
  match number with
  | some number => modify fun reading => { reading with named := (number, node) :: reading.named }
  | none => pure ()
  pure node

/-- The tag of a handle and a suffix, or none if it says nothing. -/
def Read.tag (handle suffix : String) : Read (Option String) := do
  let full ←
    if handle.isEmpty then pure suffix
    else
      match (← get).handles.find? (fun h => h.1 == handle) with
      | some (_, meaning) => pure (meaning ++ suffix)
      | none => failure
  if full.isEmpty then failure
  else pure (if full = "!" then none else some (shortTag full))

/-- What stands before a node: its name, its tag, and whether there is any of them. -/
structure Properties where
  anchor : Option String
  tag : Option String
  isTagged : Bool

/-- Read what stands before a node: a name and a tag, in any order. -/
def Read.properties : Read Properties := do
  match ← Read.peek with
  | .anchor name =>
    Read.drop
    match ← Read.peek with
    | .tag handle suffix =>
      Read.drop
      pure ⟨some name, ← Read.tag handle suffix, true⟩
    | _ => pure ⟨some name, none, false⟩
  | .tag handle suffix =>
    Read.drop
    match ← Read.peek with
    | .anchor name =>
      Read.drop
      pure ⟨some name, ← Read.tag handle suffix, true⟩
    | _ => pure ⟨none, ← Read.tag handle suffix, true⟩
  | _ => pure ⟨none, none, false⟩

/-- A node that is not there. -/
def Node.absent : Node := .scalar none "" true

mutual

/-- Read a node.  Outside of brackets it may be a block, and as part of an entry a list whose dashes are
not indented. -/
def Read.node : Nat → Bool → Bool → Read Node
  | 0, _, _ => failure
  | fuel + 1, inBlock, mayDash => do
    match ← Read.peek with
    | .reference name =>
      Read.drop
      match (← get).names.find? (fun n => n.1 == name) with
      | some (_, number) => pure (.reference name number)
      | none => failure
    | _ =>
      let properties ← Read.properties
      let number ← properties.anchor.mapM Read.name
      match ← Read.peek with
      | .scalar text isPlain =>
        Read.drop
        Read.keep number (.scalar properties.tag text isPlain)
      | .flowSequenceStart =>
        Read.drop
        Read.keep number (.sequence (← Read.flowItems fuel true []))
      | .flowMappingStart =>
        Read.drop
        Read.keep number (.mapping (← Read.flowEntries fuel true []))
      | token =>
        if mayDash && token == .blockEntry then
          Read.keep number (.sequence (← Read.dashes fuel []))
        else if inBlock && token == .blockSequenceStart then
          Read.drop
          Read.keep number (.sequence (← Read.blockItems fuel []))
        else if inBlock && token == .blockMappingStart then
          Read.drop
          Read.keep number (.mapping (← Read.blockEntries fuel []))
        else if properties.anchor.isSome || properties.isTagged then
          Read.keep number (.scalar properties.tag "" true)
        else failure

/-- Read a node, unless one of some tokens is next. -/
def Read.nodeUnless : Nat → List Token → Bool → Bool → Read Node
  | 0, _, _, _ => failure
  | fuel + 1, stops, inBlock, mayDash => do
    if stops.contains (← Read.peek) then pure .absent else Read.node fuel inBlock mayDash

/-- Read the further items of an indented list; those before are given backwards. -/
def Read.blockItems : Nat → List Node → Read (List Node)
  | 0, _ => failure
  | fuel + 1, items => do
    match ← Read.peek with
    | .blockEntry =>
      Read.drop
      let item ← Read.nodeUnless fuel [.blockEntry, .blockEnd] true false
      Read.blockItems fuel (item :: items)
    | .blockEnd =>
      Read.drop
      pure items.reverse
    | _ => failure

/-- Read the further items of a list that is not indented. -/
def Read.dashes : Nat → List Node → Read (List Node)
  | 0, _ => failure
  | fuel + 1, items => do
    match ← Read.peek with
    | .blockEntry =>
      Read.drop
      let item ← Read.nodeUnless fuel [.blockEntry, .key, .value, .blockEnd] true false
      Read.dashes fuel (item :: items)
    | _ => pure items.reverse

/-- Read the further entries of an indented map. -/
def Read.blockEntries : Nat → List (Node × Node) → Read (List (Node × Node))
  | 0, _ => failure
  | fuel + 1, entries => do
    match ← Read.peek with
    | .key =>
      Read.drop
      let key ← Read.nodeUnless fuel [.key, .value, .blockEnd] true true
      let value ← Read.blockValue fuel
      Read.blockEntries fuel ((key, value) :: entries)
    | .blockEnd =>
      Read.drop
      pure entries.reverse
    | _ => failure

/-- Read the value of an entry of an indented map. -/
def Read.blockValue : Nat → Read Node
  | 0 => failure
  | fuel + 1 => do
    match ← Read.peek with
    | .value =>
      Read.drop
      Read.nodeUnless fuel [.key, .value, .blockEnd] true true
    | _ => pure .absent

/-- Read the further items of a list in brackets. -/
def Read.flowItems : Nat → Bool → List Node → Read (List Node)
  | 0, _, _ => failure
  | fuel + 1, isFirst, items => do
    match ← Read.peek with
    | .flowSequenceEnd =>
      Read.drop
      pure items.reverse
    | token =>
      if !isFirst then
        if token == .flowEntry then Read.drop else failure
      match ← Read.peek with
      | .flowSequenceEnd =>
        Read.drop
        pure items.reverse
      | .key =>
        Read.drop
        let entry ← Read.flowPair fuel
        Read.flowItems fuel false (.mapping [entry] :: items)
      | _ =>
        let item ← Read.node fuel false false
        Read.flowItems fuel false (item :: items)

/-- Read the one entry of a map without brackets inside of a list in brackets.  Where its key should
be, a mark that cannot begin one is passed over. -/
def Read.flowPair : Nat → Read (Node × Node)
  | 0 => failure
  | fuel + 1 => do
    let stops : List Token := [.value, .flowEntry, .flowSequenceEnd]
    if stops.contains (← Read.peek) then
      Read.drop
      pure (.absent, ← Read.flowValue fuel .flowSequenceEnd)
    else
      let key ← Read.node fuel false false
      pure (key, ← Read.flowValue fuel .flowSequenceEnd)

/-- Read the value of an entry in brackets that end with the given token. -/
def Read.flowValue : Nat → Token → Read Node
  | 0, _ => failure
  | fuel + 1, bracket => do
    match ← Read.peek with
    | .value =>
      Read.drop
      Read.nodeUnless fuel [.flowEntry, bracket] false false
    | _ => pure .absent

/-- Read the further entries of a map in brackets. -/
def Read.flowEntries : Nat → Bool → List (Node × Node) → Read (List (Node × Node))
  | 0, _, _ => failure
  | fuel + 1, isFirst, entries => do
    match ← Read.peek with
    | .flowMappingEnd =>
      Read.drop
      pure entries.reverse
    | token =>
      if !isFirst then
        if token == .flowEntry then Read.drop else failure
      match ← Read.peek with
      | .flowMappingEnd =>
        Read.drop
        pure entries.reverse
      | .key =>
        Read.drop
        let key ← Read.nodeUnless fuel [.value, .flowEntry, .flowMappingEnd] false false
        let value ← Read.flowValue fuel .flowMappingEnd
        Read.flowEntries fuel false ((key, value) :: entries)
      | _ =>
        let key ← Read.node fuel false false
        Read.flowEntries fuel false ((key, .absent) :: entries)

end

/-- Read directives: a version, which has to be 1.1, and handles, each of them once. -/
def Read.directives : Nat → Bool → Read Unit
  | 0, _ => failure
  | fuel + 1, hasVersion => do
    match ← Read.peek with
    | .version major minor =>
      if hasVersion || major != 1 || minor != 1 then failure
      else
        Read.drop
        Read.directives fuel true
    | .handle name meaning =>
      if (← get).handles.any (fun h => h.1 == name) then failure
      else
        modify fun reading => { reading with handles := reading.handles ++ [(name, meaning)] }
        Read.drop
        Read.directives fuel hasVersion
    | _ => pure ()

/-- Read the first document of a stream, if it has any. -/
def Read.document (fuel : Nat) : Read (Option Node) := do
  let _ ← Read.peek
  Read.drop
  match ← Read.peek with
  | .streamEnd => pure none
  | token =>
    let isExplicit :=
      match token with
      | .version _ _ | .handle _ _ | .documentStart => true
      | _ => false
    if isExplicit then Read.directives fuel false
    modify fun reading => { reading with handles := reading.handles ++ standardHandles }
    let root ←
      if !isExplicit then Read.node fuel true false
      else if (← Read.peek) != .documentStart then failure
      else
        Read.drop
        match ← Read.peek with
        | .version _ _ | .handle _ _ | .documentStart | .documentEnd | .streamEnd => pure .absent
        | _ => Read.node fuel true false
    let _ ← Read.peek
    pure (some root)

/-- The graph of the first document of a stream; an absent node if there is none. -/
def Graph.ofStream? (stream : Stream) : Option Graph :=
  let reading : Reading := ⟨.start stream, [], [], []⟩
  match (Read.document (8 * stream.chars.length + 16)).run reading with
  | some (root, reading) => some ⟨root.getD .absent, reading.named⟩
  | none => none

end CodeGauge.Yaml
