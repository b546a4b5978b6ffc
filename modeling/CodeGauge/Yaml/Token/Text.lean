/-
Module: CodeGauge.Yaml.Token.Text
Purpose: The texts of YAML tokens: comments, directives, names, tags and the five ways of writing a
  scalar.
Main exports:
  Yaml.lineComment, Yaml.comments, Yaml.directive?, Yaml.name?, Yaml.tag?, Yaml.blockScalar?,
  Yaml.quotedScalar?, Yaml.plainScalar?
-/
import CodeGauge.Number.Integer
import CodeGauge.Yaml.Cursor
import CodeGauge.Yaml.Token.Basic

namespace CodeGauge.Yaml

open CodeGauge.Number.Integer (hexNumber?)

/-!
A scalar may run over several lines.  In quotes and without them, the gaps around line breaks do not
count, a single line break reads as a blank, and of several the first is left out; only the two breaks
for paragraphs and lines of Unicode stay what they are.  In a block the lines below its head belong to
it as far as they are indented.
-/

/-! ### Comments -/

/-- How far ahead a comment is looked for. -/
def commentReach : Nat := 512

/-- The place behind a comment on the line of the token before it, if there is one. -/
def lineComment (cursor : Cursor) : Cursor :=
  let gaps := (cursor.rest.takeWhile isGap).length
  if cursor.breaks = 0 ∧ gaps < commentReach ∧ cursor.peekAt gaps = '#' then cursor.toLineEnd
  else cursor

/-- Go over gaps and line breaks, `count` characters in all. -/
def skipLoose : Nat → Cursor → Cursor
  | 0, cursor => cursor
  | count + 1, cursor =>
    match cursor.rest with
    | '\r' :: '\n' :: _ => skipLoose (count - 1) cursor.skipBreak
    | c :: _ => if isBreak c then skipLoose count cursor.skipBreak else skipLoose count cursor.skip
    | [] => cursor

/-- The place behind a comment and all comments below it between which there is nothing else. -/
def comments : Nat → Cursor → Cursor
  | 0, cursor => cursor
  | fuel + 1, cursor =>
    let cursor := cursor.toLineEnd
    let isLoose (c : Char) : Bool := isGap c || c == '\n' || c == '\r'
    let loose := (cursor.rest.takeWhile isLoose).length
    if (cursor.peek = '\n' ∨ cursor.peek = '\r') ∧ loose < commentReach ∧ cursor.peekAt loose = '#' then
      comments fuel (skipLoose loose cursor)
    else cursor

/-! ### Names and tags -/

/-- A letter, digit, underscore or dash. -/
def isNameChar (c : Char) : Bool := c.isAlphanum || c == '_' || c == '-'

/-- The name behind the mark of an anchor or a reference. -/
def name? (cursor : Cursor) : Option (String × Cursor) :=
  let (name, cursor) := cursor.skip.takeWhile isNameChar
  let next := cursor.peek
  if !name.isEmpty && (endsWord next || ['?', ':', ',', ']', '}', '%', '@', '`'].contains next) then
    some (String.ofList name, cursor)
  else none

/-- The characters of a tag behind its handle. -/
def isTagChar (c : Char) : Bool :=
  isNameChar c
    || [';', '/', '?', ':', '@', '&', '=', '+', '$', ',', '.', '!', '~', '*', '\'', '(', ')', '[', ']',
        '%'].contains c

/-- A byte written as a percent sign and two digits. -/
def octet? : List Char → Option (UInt8 × List Char)
  | '%' :: a :: b :: rest => (hexNumber? [a, b]).map fun n => (UInt8.ofNat n, rest)
  | _ => none

/-- The further bytes of a character, `count` of them, each written as a percent sign and digits. -/
def tailOctets? : Nat → List Char → Option (List UInt8)
  | 0, _ => some []
  | count + 1, cs => do
    let (octet, rest) ← octet? cs
    if Text.Utf8.isTail octet then (tailOctets? count rest).map (octet :: ·) else none

/-- A character whose bytes are written as percent signs and digits, and how many places they take. -/
def escapedOctets? (cs : List Char) : Option (Char × Nat) := do
  let (octet, rest) ← octet? cs
  let width := if octet < 0x80 then 1 else if octet &&& 0xE0 == 0xC0 then 2
    else if octet &&& 0xF0 == 0xE0 then 3 else if octet &&& 0xF8 == 0xF0 then 4 else 0
  if width = 0 then none
  else
    let tail ← tailOctets? (width - 1) rest
    pure ((Text.Utf8.decodeFirst octet tail).1, 3 * width)

/-- The part of a tag behind its handle, given backwards as far as it is known. -/
def tagSuffix? : Nat → List Char → Cursor → Option (List Char × Cursor)
  | 0, _, _ => none
  | fuel + 1, text, cursor =>
    if cursor.peek = '%' then
      match escapedOctets? cursor.rest with
      | some (c, width) => tagSuffix? fuel (c :: text) (cursor.skipMany width)
      | none => none
    else if isTagChar cursor.peek then tagSuffix? fuel (cursor.peek :: text) cursor.skip
    else some (text.reverse, cursor)

/-- The handle at the front of a tag: an exclamation mark, and perhaps a name with another one. -/
def tagHandle (cursor : Cursor) : List Char × Cursor :=
  let (name, cursor) := cursor.skip.takeWhile isNameChar
  if cursor.peek = '!' then ('!' :: (name ++ ['!']), cursor.skip) else ('!' :: name, cursor)

/-- A tag: one in angle brackets, which needs no handle, or a handle and what follows it. -/
def tag? (cursor : Cursor) : Option (Token × Cursor) := do
  let (token, cursor) ←
    if cursor.peekAt 1 = '<' then do
      let (suffix, cursor) ← tagSuffix? cursor.bound [] (cursor.skipMany 2)
      if !suffix.isEmpty && cursor.peek == '>' then
        some (Token.tag "" (String.ofList suffix), cursor.skip)
      else none
    else do
      let (handle, cursor) := tagHandle cursor
      if 1 < handle.length && handle.getLast? == some '!' then
        let (suffix, cursor) ← tagSuffix? cursor.bound [] cursor
        if suffix.isEmpty then none
        else some (Token.tag (String.ofList handle) (String.ofList suffix), cursor)
      else
        let (suffix, cursor) ← tagSuffix? cursor.bound (handle.drop 1).reverse cursor
        some (if suffix.isEmpty then Token.tag "" "!" else Token.tag "!" (String.ofList suffix), cursor)
  if endsWord cursor.peek then some (token, cursor) else none

/-! ### Directives -/

/-- A number of one or two digits. -/
def versionNumber? (cursor : Cursor) : Option (Nat × Cursor) :=
  let (digits, cursor) := cursor.takeWhile Char.isDigit
  if digits.isEmpty ∨ 2 < digits.length then none
  else some (digits.foldl (fun n c => n * 10 + (c.toNat - 48)) 0, cursor)

/-- The version of the language. -/
def version? (cursor : Cursor) : Option (Token × Cursor) := do
  let (major, cursor) ← versionNumber? (cursor.skipWhile isGap)
  if cursor.peek = '.' then
    let (minor, cursor) ← versionNumber? cursor.skip
    some (.version major minor, cursor)
  else none

/-- A handle for tags and its meaning. -/
def handleMeaning? (cursor : Cursor) : Option (Token × Cursor) := do
  let cursor := cursor.skipWhile isGap
  if cursor.peek ≠ '!' then none
  else
    let (handle, cursor) := tagHandle cursor
    if handle ≠ ['!'] ∧ (handle.length = 1 ∨ handle.getLast? ≠ some '!') then none
    else if !isGap cursor.peek then none
    else
      let cursor := cursor.skipWhile isGap
      let (meaning, cursor) ← tagSuffix? cursor.bound [] cursor
      if meaning.isEmpty ∨ !endsWord cursor.peek then none
      else some (.handle (String.ofList handle) (String.ofList meaning), cursor)

/-- A directive, which takes up a line of its own. -/
def directive? (cursor : Cursor) : Option (Token × Cursor) := do
  let (name, cursor) := cursor.skip.takeWhile isNameChar
  let (token, cursor) ←
    if !endsWord cursor.peek then none
    else if name = "YAML".toList then version? cursor
    else if name = "TAG".toList then handleMeaning? cursor
    else none
  let cursor := cursor.skipWhile isGap
  let cursor := if cursor.peek = '#' then cursor.toLineEnd else cursor
  if endsLine cursor.peek then some (token, cursor.skipBreak) else none

/-! ### Scalars in blocks -/

/-- How the line breaks at the end of a block are kept. -/
inductive Ending where
  | one
  | none
  | all
deriving DecidableEq, Repr, Inhabited

/-- The ending that a mark asks for. -/
def Ending.ofMark? (c : Char) : Option Ending :=
  if c = '+' then some .all else if c = '-' then some .none else Option.none

/-- The marks at the head of a block: what happens to its end, and by how much it is indented, which is
zero if that is not said. -/
def blockMarks? (cursor : Cursor) : Option (Ending × Nat × Cursor) :=
  let step (c : Char) : Nat := c.toNat - 48
  match Ending.ofMark? cursor.peek with
  | some ending =>
    let cursor := cursor.skip
    if !cursor.peek.isDigit then some (ending, 0, cursor)
    else if cursor.peek = '0' then none
    else some (ending, step cursor.peek, cursor.skip)
  | none =>
    if !cursor.peek.isDigit then some (.one, 0, cursor)
    else if cursor.peek = '0' then none
    else
      let size := step cursor.peek
      let cursor := cursor.skip
      match Ending.ofMark? cursor.peek with
      | some ending => some (ending, size, cursor.skip)
      | none => some (.one, size, cursor)

/-- The empty lines at a place in a block of a known indentation, or of none yet, which is zero: what
they add, the widest column that is reached, and the place in the line behind them. -/
def blockBreaks? : Nat → Nat → Nat → List Char → Cursor → Option (List Char × Nat × Cursor)
  | 0, _, _, _, _ => none
  | fuel + 1, indent, widest, breaks, cursor =>
    let blanks := (cursor.rest.takeWhile isSpace).length
    let cursor := cursor.skipMany (if indent = 0 then blanks else min blanks (indent - cursor.column))
    let widest := max widest cursor.column
    if (indent = 0 ∨ cursor.column < indent) ∧ cursor.peek = '\t' then none
    else if isBreak cursor.peek then
      let (text, cursor) := cursor.readBreak
      blockBreaks? fuel indent widest (breaks ++ text) cursor
    else some (breaks, widest, cursor)

/-- What is known of a block so far: its text, given backwards, the break at the end of its last line,
the empty lines behind that, and whether its last line began with a gap. -/
structure BlockSoFar where
  text : List Char
  lastBreak : List Char
  empty : List Char
  ledByGap : Bool

/-- The lines of a block of the given indentation. -/
def blockLines? (isFolded : Bool) (indent : Nat) :
    Nat → BlockSoFar → Cursor → Option (BlockSoFar × Cursor)
  | 0, _, _ => none
  | fuel + 1, soFar, cursor =>
    if cursor.column = indent ∧ cursor.peek ≠ endMark then do
      let byGap := isGap cursor.peek
      let folds := isFolded && !soFar.ledByGap && !byGap && soFar.lastBreak.head? == some '\n'
      let joint := if !folds then soFar.lastBreak else if soFar.empty.isEmpty then [' '] else []
      let (line, cursor) := cursor.takeWhile (fun c => !isBreak c)
      let (lastBreak, cursor) := cursor.readBreak
      let (empty, _, cursor) ← blockBreaks? cursor.bound indent 0 [] cursor
      let text := line.reverse ++ (soFar.empty.reverse ++ (joint.reverse ++ soFar.text))
      blockLines? isFolded indent fuel ⟨text, lastBreak, empty, byGap⟩ cursor
    else some (soFar, cursor)

/-- A scalar in a block, whose first mark tells whether its lines are joined; `parent` is the
indentation of what it belongs to, or less than zero. -/
def blockScalar? (parent : Int) (cursor : Cursor) : Option (String × Cursor) := do
  let isFolded := cursor.peek == '>'
  let (ending, step, cursor) ← blockMarks? cursor.skip
  let cursor := cursor.skipWhile isGap
  let cursor := if cursor.peek = '#' then cursor.toLineEnd else cursor
  if !endsLine cursor.peek then none
  else
    let cursor := cursor.skipBreak
    let stated := if step = 0 then 0 else parent.toNat + step
    let (empty, widest, cursor) ← blockBreaks? cursor.bound stated 0 [] cursor
    let indent := if stated = 0 then max (max widest (parent + 1).toNat) 1 else stated
    let (block, cursor) ←
      blockLines? isFolded indent cursor.bound ⟨[], [], empty, false⟩ cursor
    let kept :=
      match ending with
      | .none => []
      | .one => block.lastBreak
      | .all => block.lastBreak ++ block.empty
    pure (String.ofList (block.text.reverse ++ kept), cursor)

/-! ### Gaps -/

/-- The gap between two words of a scalar: the blanks if it is all on one line, else its first line
break and the further ones. -/
structure Gap where
  isBroken : Bool
  blanks : List Char
  firstBreak : List Char
  breaks : List Char

/-- No gap. -/
def Gap.empty : Gap := ⟨false, [], [], []⟩

/-- What a gap reads as. -/
def Gap.text (gap : Gap) : List Char :=
  if !gap.isBroken then gap.blanks
  else if gap.firstBreak.head? = some '\n' then if gap.breaks.isEmpty then [' '] else gap.breaks
  else gap.firstBreak ++ gap.breaks

/-- The gap at a place.  On a further line a tab may not stand left of the column `floor`. -/
def gap? (floor : Nat) : Nat → Gap → Cursor → Option (Gap × Cursor)
  | 0, _, _ => none
  | fuel + 1, gap, cursor =>
    let c := cursor.peek
    if isGap c then
      if !gap.isBroken then gap? floor fuel { gap with blanks := gap.blanks ++ [c] } cursor.skip
      else if c = '\t' ∧ cursor.column < floor then none
      else gap? floor fuel gap cursor.skip
    else if isBreak c then
      let (text, cursor) := cursor.readBreak
      if gap.isBroken then gap? floor fuel { gap with breaks := gap.breaks ++ text } cursor
      else gap? floor fuel { gap with isBroken := true, firstBreak := text } cursor
    else some (gap, cursor)

/-! ### Scalars in quotes -/

/-- The character that a letter behind a backslash stands for. -/
def escaped? (c : Char) : Option Char :=
  match c with
  | '0' => some endMark
  | 'a' => some (Char.ofNat 7)
  | 'b' => some (Char.ofNat 8)
  | 't' | '\t' => some '\t'
  | 'n' => some '\n'
  | 'v' => some (Char.ofNat 11)
  | 'f' => some (Char.ofNat 12)
  | 'r' => some '\r'
  | 'e' => some (Char.ofNat 0x1B)
  | ' ' => some ' '
  | '"' => some '"'
  | '\'' => some '\''
  | '\\' => some '\\'
  | 'N' => some (Char.ofNat 0x85)
  | '_' => some (Char.ofNat 0xA0)
  | 'L' => some (Char.ofNat 0x2028)
  | 'P' => some (Char.ofNat 0x2029)
  | _ => none

/-- The number of digits behind a letter that announces a character by its number. -/
def escapeDigits? (c : Char) : Option Nat :=
  if c = 'x' then some 2 else if c = 'u' then some 4 else if c = 'U' then some 8 else none

/-- The character that an escape at a place stands for, and the place behind it. -/
def escape? (cursor : Cursor) : Option (Char × Cursor) :=
  match escapeDigits? (cursor.peekAt 1) with
  | some count => do
    let digits := (cursor.rest.drop 2).take count
    let n ← hexNumber? digits
    if digits.length = count ∧ n.isValidChar then
      some (Char.ofNat n, cursor.skipMany (2 + count))
    else none
  | none => (escaped? (cursor.peekAt 1)).map fun c => (c, cursor.skipMany 2)

/-- The characters up to a gap, the closing quote or an escaped line break, which is gone over; the
text before them is given backwards. -/
def quotedWord? (quote : Char) : Nat → List Char → Cursor → Option (List Char × Bool × Cursor)
  | 0, _, _ => none
  | fuel + 1, text, cursor =>
    let c := cursor.peek
    if endsWord c then some (text, false, cursor)
    else if c = quote then
      if quote = '\'' ∧ cursor.peekAt 1 = '\'' then
        quotedWord? quote fuel ('\'' :: text) (cursor.skipMany 2)
      else some (text, false, cursor)
    else if c = '\\' ∧ quote = '"' then
      if isBreak (cursor.peekAt 1) then some (text, true, cursor.skip.skipBreak)
      else
        match escape? cursor with
        | some (c, cursor) => quotedWord? quote fuel (c :: text) cursor
        | none => none
    else quotedWord? quote fuel (c :: text) cursor.skip

/-- The text up to the closing quote, given backwards as far as it is known, and the place behind. -/
def quotedFrom? (quote : Char) : Nat → List Char → Cursor → Option (String × Cursor)
  | 0, _, _ => none
  | fuel + 1, text, cursor =>
    if cursor.atDocumentMark ∨ cursor.rest.isEmpty then none
    else do
      let (text, isBroken, cursor) ← quotedWord? quote cursor.bound text cursor
      if cursor.peek = quote then some (String.ofList text.reverse, cursor.skip)
      else
        let (gap, cursor) ←
          gap? 0 cursor.bound { Gap.empty with isBroken := isBroken } cursor
        quotedFrom? quote fuel (gap.text.reverse ++ text) cursor

/-- A scalar in quotes, the first of which is ahead. -/
def quotedScalar? (cursor : Cursor) : Option (String × Cursor) :=
  quotedFrom? cursor.peek cursor.bound [] cursor.skip

/-! ### Scalars without quotes -/

/-- The characters that end a scalar without quotes inside of brackets. -/
def flowMarks : List Char := [',', '?', '[', ']', '{', '}']

/-- The characters up to one that ends a word of a scalar without quotes. -/
def plainWord (inFlow : Bool) : List Char → List Char
  | [] => []
  | c :: rest =>
    if endsWord c || (c == ':' && endsWord (rest.headD endMark)) || (inFlow && flowMarks.contains c) then
      []
    else c :: plainWord inFlow rest

/-- The text of a scalar without quotes, given backwards as far as it is known, with the gap before the
next word; whether a line ended behind it, and the place there. -/
def plainFrom? (inFlow : Bool) (floor : Nat) :
    Nat → List Char → Gap → Cursor → Option (String × Bool × Cursor)
  | 0, _, _, _ => none
  | fuel + 1, text, gap, cursor =>
    let done (text : List Char) (isBroken : Bool) (cursor : Cursor) : Option (String × Bool × Cursor) :=
      some (String.ofList text.reverse, isBroken, cursor)
    if cursor.atDocumentMark ∨ cursor.peek = '#' then done text gap.isBroken cursor
    else
      let word := plainWord inFlow cursor.rest
      if word.isEmpty then done text gap.isBroken cursor
      else
        let text := word.reverse ++ (gap.text.reverse ++ text)
        let cursor := cursor.skipMany word.length
        if !(isGap cursor.peek || isBreak cursor.peek) then done text false cursor
        else
          match gap? floor cursor.bound Gap.empty cursor with
          | none => none
          | some (gap, cursor) =>
            if !inFlow ∧ cursor.column < floor then done text gap.isBroken cursor
            else plainFrom? inFlow floor fuel text gap cursor

/-- A scalar without quotes; on further lines it stands right of the column `floor` or at it. -/
def plainScalar? (inFlow : Bool) (floor : Nat) (cursor : Cursor) : Option (String × Bool × Cursor) :=
  plainFrom? inFlow floor cursor.bound [] Gap.empty cursor

end CodeGauge.Yaml
