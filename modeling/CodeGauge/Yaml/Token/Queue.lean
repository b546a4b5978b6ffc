/-
Module: CodeGauge.Yaml.Token.Queue
Purpose: The tokens of a YAML stream, found as far ahead as is needed to know the next of them.
Main exports:
  Yaml.Tokens, Tokens.start, Tokens.next?, Tokens.drop
-/
import CodeGauge.Yaml.Token.Text
import Std.Data.HashMap

namespace CodeGauge.Yaml

/-!
That a scalar, or a whole bracket, is the key of an entry shows only at the colon behind it.  The place
of everything that may be such a key is therefore kept; at the colon the token for a key is put in at
that place, and the token for the start of a map before it if the map begins there.  Such a key has to
be on one line and near its colon.  A line that is further to the left than what came before ends the
maps and lists in between.  At least three tokens are always looked at, so that a fault is found that
much ahead of its place.
-/

/-- A place at which the key of an entry may begin. -/
structure KeyPlace where
  isPossible : Bool
  /-- Whether nothing but a key can stand there. -/
  isRequired : Bool
  /-- The number of the token there. -/
  number : Nat
  index : Nat
  line : Nat
  column : Nat
deriving DecidableEq, Repr, Inhabited

/-- No place. -/
def KeyPlace.none : KeyPlace := ⟨false, false, 0, 0, 0, 0⟩

/-- The tokens of a stream, and what has to be known to find more of them. -/
structure Tokens where
  cursor : Cursor
  /-- Whether something behind the characters of the stream cannot be read. -/
  isFaulty : Bool
  /-- Whether the stream begins with a mark, over and above the one for its encoding. -/
  isMarked : Bool
  /-- The tokens that are found and not yet used. -/
  queue : List Token
  /-- The number of tokens that are used. -/
  used : Nat
  /-- The column of the innermost map or list outside of brackets, and those around it, innermost last. -/
  indent : Int
  outer : Array Int
  /-- Whether a key may begin at the cursor. -/
  mayBeKey : Bool
  /-- The last place for a key outside of brackets and in every open bracket, innermost last. -/
  places : Array KeyPlace
  /-- The depth of the place that was kept for the token of a number. -/
  depths : Std.HashMap Nat Nat

namespace Tokens

/-- The tokens of a stream. -/
def start (stream : Stream) : Tokens where
  cursor := .start stream.chars
  isFaulty := stream.isFaulty
  isMarked := stream.chars.head?.any (fun c => c.toNat == 0xFEFF)
  queue := [.streamStart]
  used := 0
  indent := -1
  outer := #[]
  mayBeKey := true
  places := #[.none]
  depths := {}

/-- The number of open brackets. -/
def depth (t : Tokens) : Nat := t.places.size - 1

/-- Whether a bracket is open. -/
def inFlow (t : Tokens) : Bool := 0 < t.depth

/-- The innermost place for a key. -/
def place (t : Tokens) : KeyPlace := t.places.back?.getD .none

/-- The number of the next token to be found. -/
def nextNumber (t : Tokens) : Nat := t.used + t.queue.length

/-- Change the innermost place for a key. -/
def setPlace (t : Tokens) (place : KeyPlace) : Tokens := { t with places := t.places.pop.push place }

/-- Forget that the place for the token of a number is kept. -/
def forget (t : Tokens) (number : Nat) : Tokens :=
  { t with depths := t.depths.erase number }

/-- Put a token behind the others. -/
def push (t : Tokens) (token : Token) : Tokens := { t with queue := t.queue ++ [token] }

/-- Put a token before the one of a number. -/
def insert (t : Tokens) (number : Nat) (token : Token) : Tokens :=
  let at_ := number - t.used
  { t with queue := t.queue.take at_ ++ token :: t.queue.drop at_ }

/-- Move the cursor. -/
def moveTo (t : Tokens) (cursor : Cursor) : Tokens := { t with cursor := cursor }

/-- Go over one character and put a token for it behind the others. -/
def pushMark (t : Tokens) (token : Token) : Tokens := (t.moveTo t.cursor.skip).push token

/-! ### Places for keys -/

/-- Whether a key may still have begun at a place; nothing if there should have been one. -/
def isOpen? (t : Tokens) (place : KeyPlace) : Option Bool :=
  if !place.isPossible then some false
  else if place.line < t.cursor.line ∨ place.index + 1024 < t.cursor.index then
    if place.isRequired then none else some false
  else some true

/-- Give up the innermost place for a key; nothing if there should have been one. -/
def dropPlace? (t : Tokens) : Option Tokens :=
  let place := t.place
  if !place.isPossible then some t
  else if place.isRequired then none
  else some ((t.setPlace { place with isPossible := false }).forget place.number)

/-- Keep the cursor as a place for a key, if a key may begin there. -/
def keepPlace? (t : Tokens) : Option Tokens :=
  if !t.mayBeKey then some t
  else
    let place : KeyPlace :=
      ⟨true, !t.inFlow && t.indent == Int.ofNat t.cursor.column, t.nextNumber, t.cursor.index, t.cursor.line,
        t.cursor.column⟩
    t.dropPlace?.map fun t =>
      { t.setPlace place with depths := t.depths.insert place.number t.depth }

/-- The place that was kept for the next token, and its depth. -/
def placeOfNext? (t : Tokens) : Option (Nat × KeyPlace) := do
  let depth ← t.depths[t.used]?
  let place ← t.places[depth]?
  pure (depth, place)

/-! ### Indentation -/

/-- The number of maps and lists, and of brackets, that may be open at once. -/
def maxDepth : Nat := 10000

/-- Open a map or list at a column, before the token of a number or behind all tokens. -/
def openAt? (t : Tokens) (column : Nat) (number : Option Nat) (token : Token) : Option Tokens :=
  if !t.inFlow && t.indent < Int.ofNat column then
    if maxDepth ≤ t.outer.size then none
    else
      let t := { t with indent := Int.ofNat column, outer := t.outer.push t.indent }
      match number with
      | some number => some (t.insert number token)
      | none => some (t.push token)
  else some t

/-- Close the maps and lists right of a column, at most `count` of them. -/
def closeMany (column : Int) : Nat → Tokens → Tokens
  | 0, t => t
  | count + 1, t =>
    if t.inFlow || t.indent ≤ column then t
    else
      match t.outer.back? with
      | none => t
      | some around =>
        closeMany column count { t.push .blockEnd with indent := around, outer := t.outer.pop }

/-- Close the maps and lists right of a column. -/
def close (t : Tokens) (column : Int) : Tokens := closeMany column t.outer.size t

/-! ### Single tokens -/

/-- The end of the stream. -/
def endStream? (t : Tokens) : Option Tokens := do
  let cursor := t.cursor
  let cursor := if cursor.column = 0 then cursor else { cursor with column := 0, line := cursor.line + 1 }
  let t ← ((t.moveTo cursor).close (-1)).dropPlace?
  pure ({ t with mayBeKey := false }.push .streamEnd)

/-- A directive. -/
def directive? (t : Tokens) : Option Tokens := do
  let t ← (t.close (-1)).dropPlace?
  let (token, cursor) ← Yaml.directive? t.cursor
  pure (({ t with mayBeKey := false }.moveTo cursor).push token)

/-- A mark between documents. -/
def documentMark? (t : Tokens) (token : Token) : Option Tokens := do
  let t ← (t.close (-1)).dropPlace?
  pure (({ t with mayBeKey := false }.moveTo (t.cursor.skipMany 3)).push token)

/-- An opening bracket. -/
def openBracket? (t : Tokens) (token : Token) : Option Tokens := do
  let t ← t.keepPlace?
  if maxDepth ≤ t.depth then none
  else
    let place := { KeyPlace.none with number := t.nextNumber }
    pure ({ t with places := t.places.push place, mayBeKey := true }.pushMark token)

/-- A closing bracket. -/
def closeBracket? (t : Tokens) (token : Token) : Option Tokens := do
  let t ← t.dropPlace?
  let t := if t.inFlow then { t.forget t.place.number with places := t.places.pop } else t
  pure ({ t with mayBeKey := false }.pushMark token)

/-- A comma between brackets. -/
def flowEntry? (t : Tokens) : Option Tokens :=
  t.dropPlace?.map fun t => { t with mayBeKey := true }.pushMark .flowEntry

/-- A dash. -/
def blockEntry? (t : Tokens) : Option Tokens := do
  if !t.inFlow && !t.mayBeKey then none
  else
    let t ← (← t.openAt? t.cursor.column none .blockSequenceStart).dropPlace?
    pure ({ t with mayBeKey := true }.pushMark .blockEntry)

/-- A question mark. -/
def key? (t : Tokens) : Option Tokens := do
  if !t.inFlow && !t.mayBeKey then none
  else
    let t ← (← t.openAt? t.cursor.column none .blockMappingStart).dropPlace?
    pure ({ t with mayBeKey := !t.inFlow }.pushMark .key)

/-- A colon. -/
def value? (t : Tokens) : Option Tokens := do
  let place := t.place
  if ← t.isOpen? place then
    let t := t.insert place.number .key
    let t ← t.openAt? place.column (some place.number) .blockMappingStart
    let t := (t.setPlace { place with isPossible := false }).forget place.number
    pure ({ t with mayBeKey := false }.pushMark .value)
  else
    let t := t.setPlace { place with isPossible := false }
    if !t.inFlow && !t.mayBeKey then none
    else
      let t ← t.openAt? t.cursor.column none .blockMappingStart
      pure ({ t with mayBeKey := !t.inFlow }.pushMark .value)

/-- The name of what follows, or of what came before. -/
def named? (t : Tokens) (token : String → Token) : Option Tokens := do
  let t ← t.keepPlace?
  let (name, cursor) ← name? t.cursor
  pure (({ t with mayBeKey := false }.moveTo cursor).push (token name))

/-- A tag. -/
def tag? (t : Tokens) : Option Tokens := do
  let t ← t.keepPlace?
  let (token, cursor) ← Yaml.tag? t.cursor
  pure (({ t with mayBeKey := false }.moveTo cursor).push token)

/-- A scalar in a block. -/
def blockScalar? (t : Tokens) : Option Tokens := do
  let t ← t.dropPlace?
  let (text, cursor) ← Yaml.blockScalar? t.indent t.cursor
  pure (({ t with mayBeKey := true }.moveTo cursor).push (.scalar text false))

/-- A scalar in quotes. -/
def quotedScalar? (t : Tokens) : Option Tokens := do
  let t ← t.keepPlace?
  let (text, cursor) ← Yaml.quotedScalar? t.cursor
  pure (({ t with mayBeKey := false }.moveTo cursor).push (.scalar text false))

/-- A scalar without quotes. -/
def plainScalar? (t : Tokens) : Option Tokens := do
  let t ← t.keepPlace?
  let (text, isBroken, cursor) ← Yaml.plainScalar? t.inFlow (t.indent + 1).toNat t.cursor
  pure (({ t with mayBeKey := isBroken }.moveTo cursor).push (.scalar text true))

/-! ### The next token of the stream -/

/-- Go over gaps, comments and line breaks.  Where a key may begin a tab is no gap. -/
def skipSpace : Nat → Tokens → Tokens
  | 0, t => t
  | fuel + 1, t =>
    let cursor := t.cursor
    let cursor :=
      if t.isMarked && cursor.column == 0 && !cursor.isShort 3 then cursor.skip else cursor
    let isTabGap := t.inFlow || !t.mayBeKey
    let cursor := cursor.skipWhile (fun c => c == ' ' || (c == '\t' && isTabGap))
    let cursor := if cursor.peek = '#' then comments cursor.bound cursor else cursor
    if isBreak cursor.peek then
      skipSpace fuel { t with cursor := cursor.skipBreak, mayBeKey := t.mayBeKey || !t.inFlow }
    else { t with cursor := cursor }

/-- The characters that begin no scalar without quotes, or only before a character that is no gap. -/
def plainStops : List Char :=
  ['-', '?', ':', ',', '[', ']', '{', '}', '#', '&', '*', '!', '|', '>', '\'', '"', '%', '@', '`']

/-- Whether a scalar without quotes begins at a place. -/
def beginsPlain (inFlow : Bool) (c next : Char) : Bool :=
  !(endsWord c || plainStops.contains c) || (c == '-' && !isGap next)
    || (!inFlow && (c == '?' || c == ':') && !endsWord next)

/-- Find the token at the cursor, which is neither a directive nor a mark between documents. -/
def mark? (t : Tokens) : Option Tokens :=
  let c := t.cursor.peek
  let next := t.cursor.peekAt 1
  if c = '[' then t.openBracket? .flowSequenceStart
  else if c = '\x7b' then t.openBracket? .flowMappingStart
  else if c = ']' then t.closeBracket? .flowSequenceEnd
  else if c = '\x7d' then t.closeBracket? .flowMappingEnd
  else if c = ',' then t.flowEntry?
  else if c = '-' ∧ endsWord next then t.blockEntry?
  else if c = '?' ∧ (t.inFlow ∨ endsWord next) then t.key?
  else if c = ':' ∧ (t.inFlow ∨ endsWord next) then t.value?
  else if c = '*' then t.named? .reference
  else if c = '&' then t.named? .anchor
  else if c = '!' then t.tag?
  else if (c = '|' ∨ c = '>') ∧ !t.inFlow then t.blockScalar?
  else if c = '\'' ∨ c = '"' then t.quotedScalar?
  else if beginsPlain t.inFlow c next then t.plainScalar?
  else none

/-- Find the next token of the stream. -/
def more? (t : Tokens) : Option Tokens :=
  let t := skipSpace t.cursor.bound t
  let t := t.close (Int.ofNat t.cursor.column)
  if t.isFaulty && t.cursor.isShort 4 then none
  else if t.cursor.rest.isEmpty then t.endStream?
  else if t.cursor.column = 0 ∧ t.cursor.peek = '%' then t.directive?
  else if t.cursor.atDocumentMark then
    t.documentMark? (if t.cursor.peek = '-' then .documentStart else .documentEnd)
  else
    t.mark?.map fun t =>
      if t.queue.getLast? = some .blockEntry then t else t.moveTo (lineComment t.cursor)

/-- Find tokens until it is known what the next one is. -/
def ahead? : Nat → Tokens → Option Tokens
  | 0, _ => none
  | fuel + 1, t =>
    if 2 < t.queue.length then
      match t.placeOfNext? with
      | none => some t
      | some (depth, place) =>
        match t.isOpen? place with
        | none => none
        | some true => t.more?.bind (ahead? fuel)
        | some false =>
          some { t with places := t.places.modify depth (fun p => { p with isPossible := false }) }
    else t.more?.bind (ahead? fuel)

/-- The next token, with the tokens as they are then known. -/
def next? (t : Tokens) : Option (Token × Tokens) := do
  let t ← ahead? (t.cursor.bound + 3) t
  let token ← t.queue.head?
  pure (token, t)

/-- The tokens behind the next one. -/
def drop (t : Tokens) : Tokens := { t with queue := t.queue.drop 1, used := t.used + 1 }

end Tokens

end CodeGauge.Yaml
