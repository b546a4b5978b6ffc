/-
Module: CodeGauge.Hcl.Tree
Purpose: Trees of named values, and reading them from the tokens of HCL.
Main exports:
  Hcl.Node, Hcl.Item, Hcl.Outcome, Hcl.items?
-/
import CodeGauge.Hcl.Token

namespace CodeGauge.Hcl

open CodeGauge.Text

/-!
An item is a name, an equals sign and a value, or one or more names and an object.  Objects are items in
braces, with or without commas between them; lists need commas.

A text may end behind an equals sign, and the item that lacks its value is then left out.  In an object
it is likewise left out if a closing brace stands in place of the value or in its list, but then this
brace does not count, and there has to be another one to close the object.
-/

mutual

/-- A value. -/
inductive Node where
  | literal (value : Literal)
  | list (nodes : List Node)
  | object (items : List Item)

/-- A value with its names, the outermost one first. -/
inductive Item where
  | mk (names : List Bytes) (value : Node)

end

/-- The names of an item. -/
def Item.names : Item → List Bytes
  | .mk names _ => names

/-- The value of an item. -/
def Item.value : Item → Node
  | .mk _ value => value

/-- What reading something off the front of some tokens gives. -/
inductive Outcome (α : Type) where
  /-- The thing, and the tokens behind it. -/
  | found (value : α) (rest : List Token)
  /-- Nothing, because there are no more tokens. -/
  | ended
  /-- Nothing, because of a token that cannot stand there, which may be a closing brace, and the tokens
  behind it. -/
  | wrong (isBrace : Bool) (rest : List Token)

/-- Make something of what was found. -/
def Outcome.map {α β : Type} (f : α → β) : Outcome α → Outcome β
  | .found value rest => .found (f value) rest
  | .ended => .ended
  | .wrong isBrace rest => .wrong isBrace rest

/-- The tokens behind a comma, if there is one at the front. -/
def afterComma : List Token → List Token
  | .comma :: rest => rest
  | tokens => tokens

/-- An object that is to be closed here. -/
def closeObject (items : List Item) : List Token → Outcome Node
  | .closeBrace :: rest => .found (.object items) rest
  | _ :: rest => .wrong false rest
  | [] => .wrong false []

/-- The name that a token is. -/
def Token.name? : Token → Option Bytes
  | .name word => some word
  | .literal (.text word) => some word
  | _ => none

mutual

/-- Read a value; `fuel` bounds the number of steps. -/
def readValue : Nat → List Token → Outcome Node
  | 0, _ => .wrong false []
  | _ + 1, [] => .ended
  | fuel + 1, token :: rest =>
    match token with
    | .literal value => .found (.literal value) rest
    | .openBrace => readObject fuel rest
    | .openBracket => readList fuel false [] rest
    | .closeBrace => .wrong true rest
    | _ => .wrong false rest

/-- Read an object behind its opening brace. -/
def readObject : Nat → List Token → Outcome Node
  | 0, _ => .wrong false []
  | fuel + 1, tokens =>
    match readItems fuel true [] tokens with
    | (items, .found _ rest) | (items, .wrong true rest) => closeObject items rest
    | (_, .wrong false rest) => .wrong false rest
    | (_, .ended) => .wrong false []

/-- Read a list behind its opening bracket and the elements read so far.  A comma has to follow an
element other than a list. -/
def readList : Nat → Bool → List Node → List Token → Outcome Node
  | 0, _, _, _ => .wrong false []
  | _ + 1, _, _, [] => .wrong false []
  | fuel + 1, needsComma, nodes, token :: rest =>
    if token = .closeBracket then .found (.list nodes) rest
    else if token = .comma then readList fuel false nodes rest
    else if needsComma then .wrong (token = .closeBrace) rest
    else
      match token with
      | .literal value => readList fuel true (nodes ++ [.literal value]) rest
      | .openBrace =>
        match readObject fuel rest with
        | .found node rest => readList fuel true (nodes ++ [node]) rest
        | stop => stop
      | .openBracket =>
        match readList fuel false [] rest with
        | .found node rest => readList fuel false (nodes ++ [node]) rest
        | stop => stop
      | token => .wrong (token = .closeBrace) rest

/-- Read an item behind its names read so far. -/
def readItem : Nat → List Bytes → List Token → Outcome Item
  | 0, _, _ => .wrong false []
  | _ + 1, names, [] => if names.isEmpty then .ended else .wrong false []
  | fuel + 1, names, token :: rest =>
    match token.name? with
    | some name => readItem fuel (names ++ [name]) rest
    | none =>
      if token = .equals ∧ names.length = 1 then (readValue fuel rest).map (Item.mk names)
      else if token = .openBrace ∧ !names.isEmpty then (readObject fuel rest).map (Item.mk names)
      else .wrong false rest

/-- Read items behind those read so far, up to the closing brace if they are `inside` an object.  The
items are given even if something wrong follows them. -/
def readItems : Nat → Bool → List Item → List Token → List Item × Outcome Unit
  | 0, _, items, _ => (items, .wrong false [])
  | fuel + 1, inside, items, tokens =>
    if inside && tokens.head? == some .closeBrace then (items, .found () tokens)
    else
      match readItem fuel [] tokens with
      | .found item rest => readItems fuel inside (items ++ [item]) (afterComma rest)
      | .ended => (items, .found () [])
      | .wrong isBrace rest => (items, .wrong isBrace rest)

end

/-- The items of some tokens, or nothing if they are not made of items.  No token takes more than four
steps. -/
def items? (tokens : List Token) : Option (List Item) :=
  match readItems (4 * tokens.length + 8) false [] tokens with
  | (items, .found _ _) => some items
  | _ => none

end CodeGauge.Hcl
