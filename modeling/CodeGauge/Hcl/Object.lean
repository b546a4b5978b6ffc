/-
Module: CodeGauge.Hcl.Object
Purpose: Trees of named values that are written as one object in the manner of JSON.
Main exports:
  Hcl.objectTokens, Hcl.flatten, Hcl.objectItems?
-/
import CodeGauge.Hcl.Tree

namespace CodeGauge.Hcl

open CodeGauge.Text CodeGauge.Number

/-!
A text that begins with a brace is an object in the manner of JSON.  It is read only as far as it is
needed: an object ends with the first token behind an item that is no comma, whatever that token is, and
what follows the outermost object does not matter.  A closing brace in place of an item ends the object
too.  In lists, truth values and opening brackets are passed over.

An object whose values are all objects, and a list of objects, are several items with the same names in
front rather than one.
-/

/-! ### Tokens -/

/-- The bytes of a character by its number, if there is such a character. -/
def validCharacter? (n : Nat) : Option Bytes :=
  if n.isValidChar then some (Utf8.encodeChar (Char.ofNat n)) else none

/-- The bytes of a string and the rest, given what follows its opening quote.  Nothing is inserted here,
so that all escapes count. -/
def plainQuoted? : Nat → List Char → Option (Bytes × List Char)
  | 0, _ => none
  | _, [] => none
  | fuel + 1, c :: rest =>
    if c = '"' then some ([], rest)
    else if c = '\n' ∨ c.toNat = 0 then none
    else if c = '\\' then do
      let (bytes, behind) ← escape? validCharacter? rest
      let (more, behind) ← plainQuoted? fuel behind
      some (bytes ++ more, behind)
    else (plainQuoted? fuel rest).map fun (more, behind) => (Utf8.encodeChar c ++ more, behind)

/-- The number at the front of a text that begins with a digit, and the rest.  A zero is followed by no
digit, and not by the end of the text either. -/
def plainNumber? (sign : List Char) (cs : List Char) : Option (Literal × List Char) :=
  let digits := cs.takeWhile Char.isDigit
  match withFraction (sign ++ digits) (cs.drop digits.length) with
  | (.whole written, rest) =>
    if digits.head? = some '0' && (1 < digits.length || rest.isEmpty) then none
    else some (.whole written, rest)
  | found => some found

/-- The words that are tokens. -/
def wordToken? (word : List Char) : Option Token :=
  if word = "true".toList then some (.literal (.truth true))
  else if word = "false".toList then some (.literal (.truth false))
  else if word = "null".toList then some (.literal (.text []))
  else none

/-- The token at the front of a text and the rest. -/
def objectFront? (c : Char) (rest : List Char) : Option (Token × List Char) :=
  let literal (found : Literal × List Char) : Token × List Char := (.literal found.1, found.2)
  let isStop (rest : List Char) : Bool := rest.head?.any (fun c => c.toNat == 0)
  let bounded (found : Token × List Char) : Option (Token × List Char) :=
    if isStop found.2 then none else some found
  if c = '_' ∨ isLetter c then do
    let word := (c :: rest).takeWhile (fun c => isLetterOrDigit c || c == '-')
    bounded (← wordToken? word, (c :: rest).drop word.length)
  else if c.isDigit then ((plainNumber? [] (c :: rest)).map literal).bind bounded
  else if c = '"' then
    (plainQuoted? (rest.length + 1) rest).map fun (value, rest) => (.literal (.text value), rest)
  else if c = '.' then some (((pointNumber? rest).map literal).getD (.sign, rest))
  else if c = ':' then some (.colon, rest)
  else if c = '-' then
    if rest.head?.any Char.isDigit then ((plainNumber? ['-'] rest).map literal).bind bounded else none
  else if c.toNat = 0 then some (.stop, rest)
  else (signToken? c).map fun token => (token, rest)

/-- The tokens of a text up to the first fault; the text itself may end with one. -/
def objectTokensFrom (isFaulty : Bool) : Nat → List Char → List Token
  | 0, _ => [.fault]
  | _, [] => if isFaulty then [.fault] else []
  | fuel + 1, c :: rest =>
    if isGap c then objectTokensFrom isFaulty fuel rest
    else
      match objectFront? c rest with
      | none => [.fault]
      | some (token, rest) =>
        if isFaulty && rest.isEmpty && !(signToken? c).isSome && c != ':' && c != '"' then [.fault]
        else token :: objectTokensFrom isFaulty fuel rest

/-- The characters of a text up to the first byte that spells none, and whether there is one. -/
def soundFront (bytes : Bytes) : List Char × Bool :=
  let spellings := Utf8.spellings bytes
  let sound := spellings.takeWhile fun (c, bytes) => !(c == replacement && bytes.length == 1)
  (sound.map Prod.fst, sound.length < spellings.length)

/-- The tokens of a text. -/
def objectTokens (bytes : Bytes) : List Token :=
  let (chars, isFaulty) := soundFront bytes
  objectTokensFrom isFaulty (chars.length + 1) chars

/-! ### Items -/

mutual

/-- Read a value; `fuel` bounds the number of steps. -/
def objectValue : Nat → List Token → Outcome Node
  | 0, _ => .wrong false [.fault]
  | _ + 1, [] | _ + 1, .stop :: _ => .ended
  | fuel + 1, token :: rest =>
    match token with
    | .literal value => .found (.literal value) rest
    | .openBrace => objectMembers fuel [] rest
    | .openBracket => objectList fuel [] rest
    | .fault => .wrong false [.fault]
    | token => .wrong (token = .closeBrace) rest

/-- Read an object behind its opening brace and the items read so far. -/
def objectMembers : Nat → List Item → List Token → Outcome Node
  | 0, _, _ => .wrong false [.fault]
  | fuel + 1, items, tokens =>
    match objectItem fuel [] tokens with
    | .ended => .found (.object items) []
    | .wrong true rest => .found (.object items) rest
    | .wrong false rest => .wrong false rest
    | .found item rest =>
      match rest with
      | .comma :: rest => objectMembers fuel (items ++ [item]) rest
      | .fault :: rest => .wrong false (.fault :: rest)
      | _ :: rest => .found (.object (items ++ [item])) rest
      | [] => .found (.object (items ++ [item])) []

/-- Read a list behind its opening bracket and the elements read so far. -/
def objectList : Nat → List Node → List Token → Outcome Node
  | 0, _, _ => .wrong false [.fault]
  | _ + 1, _, [] => .wrong false []
  | fuel + 1, nodes, token :: rest =>
    match token with
    | .closeBracket => .found (.list nodes) rest
    | .comma | .openBracket | .literal (.truth _) => objectList fuel nodes rest
    | .literal value => objectList fuel (nodes ++ [.literal value]) rest
    | .openBrace =>
      match objectMembers fuel [] rest with
      | .found node rest => objectList fuel (nodes ++ [node]) rest
      | stop => stop
    | .fault => .wrong false [.fault]
    | token => .wrong (token = .closeBrace) rest

/-- Read an item behind its names read so far. -/
def objectItem : Nat → List Bytes → List Token → Outcome Item
  | 0, _, _ => .wrong false [.fault]
  | _ + 1, _, [] | _ + 1, _, .stop :: _ => .ended
  | fuel + 1, names, token :: rest =>
    match token with
    | .literal (.text name) => objectItem fuel (names ++ [name]) rest
    | .colon =>
      if names.isEmpty then .wrong false rest else (objectValue fuel rest).map (Item.mk names)
    | .fault => .wrong false [.fault]
    | token => .wrong (token = .closeBrace) rest

end

/-! ### Flattening -/

/-- Whether a value is an object. -/
def Node.isObject : Node → Bool
  | .object _ => true
  | _ => false

/-- The items that an item is at this level: several, if its value is made of objects only. -/
def flattenItem : Nat → Item → List Item
  | 0, item => [item]
  | fuel + 1, .mk names (.object items) =>
    if items.isEmpty || items.any (fun item => !item.value.isObject) then [.mk names (.object items)]
    else items.flatMap fun item => flattenItem fuel (.mk (names ++ item.names) item.value)
  | fuel + 1, .mk names (.list nodes) =>
    if nodes.isEmpty || nodes.any (fun node => !node.isObject) then [.mk names (.list nodes)]
    else nodes.flatMap fun node => flattenItem fuel (.mk names node)
  | _ + 1, item => [item]

mutual

/-- A value with all items in it flattened. -/
def flattenNode : Nat → Node → Node
  | 0, node => node
  | fuel + 1, .object items => .object (flattenItems fuel items)
  | fuel + 1, .list nodes => .list (nodes.map (flattenNode fuel))
  | _ + 1, node => node

/-- Items flattened at their level and below it. -/
def flattenItems : Nat → List Item → List Item
  | 0, items => items
  | fuel + 1, items =>
    (items.flatMap (flattenItem fuel)).map fun item => .mk item.names (flattenNode fuel item.value)

end

/-- The items of an object in the manner of JSON. -/
def objectItems? (bytes : Bytes) : Option (List Item) :=
  let tokens := objectTokens bytes
  let fuel := 4 * tokens.length + 8
  match tokens with
  | .openBrace :: rest =>
    match objectMembers fuel [] rest with
    | .found (.object items) _ => some (flattenItems fuel items)
    | _ => none
  | _ => none

end CodeGauge.Hcl
