/-
Module: CodeGauge.Properties
Purpose: Reading lines of a name and a text, in which a text may refer to others by name.
Main exports:
  Properties.Entry, Properties.entries?, Properties.expand?, Properties.read?
-/
import CodeGauge.Number.Integer
import CodeGauge.Text.Utf8

namespace CodeGauge.Properties

open CodeGauge.Text CodeGauge.Number

/-!
A line has a name and a text, between which stand blanks, at most one equals sign or colon, and blanks.
Lines that begin with a number sign or an exclamation mark are comments.  A backslash takes away the
meaning of the character behind it, and at the end of a line it joins the next line to the text.  The
file is read character by character; what a character means depends on the `Place` that it stands in.

A text refers to another one by its name between `${` and a closing brace, and the reference is
replaced by the other text, or by a variable of the environment if no line has the name.  A text that
refers to itself, however indirectly, has no meaning.
-/

/-! ### Characters -/

/-- The characters that end a line. -/
def isLineEnd (c : Char) : Bool := c == '\n' || c == '\r'

/-- A blank, a tab or a form feed. -/
def isGap (c : Char) : Bool := c == ' ' || c == '\t' || c.toNat == 12

/-- The characters that may stand between a name and its text. -/
def isSign (c : Char) : Bool := c == '=' || c == ':'

/-- The character that a backslash and a character stand for. -/
def escaped (c : Char) : Char :=
  if c = 'f' then Char.ofNat 12
  else if c = 'n' then '\n'
  else if c = 'r' then '\r'
  else if c = 't' then '\t'
  else c

/-! ### Lines -/

/-- What stands right before a character of a name or a text. -/
inductive Before where
  /-- Nothing that changes its meaning. -/
  | plain
  /-- A backslash. -/
  | backslash
  /-- A backslash, the letter `u` and some digits, given backwards. -/
  | number (digits : List Char)
  /-- A backslash and the end of a line, and blanks. -/
  | joint
deriving DecidableEq, Repr, Inhabited

/-- The place of a character in a file.  Names and texts are given backwards. -/
inductive Place where
  /-- In front of a line. -/
  | start
  | comment
  | inName (name : List Char) (before : Before)
  /-- Between a name and its text, behind the sign that divides them if `signed`. -/
  | between (name : List Char) (signed : Bool)
  | inText (name text : List Char) (before : Before)
deriving DecidableEq, Repr, Inhabited

/-- A name and its text. -/
abbrev Entry := List Char × List Char

/-- A file as far as it is read: its lines, the last one first, and the place reached. -/
structure Progress where
  entries : List Entry
  place : Place
deriving DecidableEq, Repr, Inhabited

/-- What a name or a text is behind a backslash and one more character. -/
def afterBackslash (written : List Char) (c : Char) : List Char × Before :=
  if c = 'u' then (written, .number []) else (escaped c :: written, .plain)

/-- What a name or a text is behind one more digit of a character that is given by its number. -/
def afterDigit? (written digits : List Char) (c : Char) : Option (List Char × Before) := do
  let digits := c :: digits
  let n ← Integer.hexNumber? digits.reverse
  some (if digits.length < 4 then (written, .number digits) else (charOfNumber n :: written, .plain))

/-- Add a line to those read. -/
def Progress.finish (entries : List Entry) (name text : List Char) : Progress :=
  ⟨(name.reverse, text.reverse) :: entries, .start⟩

/-- The progress by a character of a text that has its plain meaning. -/
def textPlain (entries : List Entry) (name text : List Char) (c : Char) : Progress :=
  if c = '\\' then ⟨entries, .inText name text .backslash⟩
  else if isLineEnd c then .finish entries name text
  else ⟨entries, .inText name (c :: text) .plain⟩

/-- The progress by a character of a text. -/
def textStep? (entries : List Entry) (name text : List Char) (c : Char) : Before → Option Progress
  | .plain => some (textPlain entries name text c)
  | .joint =>
      some (if isGap c then ⟨entries, .inText name text .joint⟩ else textPlain entries name text c)
  | .backslash =>
      if isLineEnd c then some ⟨entries, .inText name text .joint⟩
      else
        let (text, before) := afterBackslash text c
        some ⟨entries, .inText name text before⟩
  | .number digits => do
      let (text, before) ← afterDigit? text digits c
      some ⟨entries, .inText name text before⟩

/-- The progress by a character between a name and its text. -/
def betweenStep (entries : List Entry) (name : List Char) (signed : Bool) (c : Char) : Progress :=
  if isGap c then ⟨entries, .between name signed⟩
  else if isSign c && !signed then ⟨entries, .between name true⟩
  else textPlain entries name [] c

/-- The progress by a character of a name that has its plain meaning; there is no empty name. -/
def namePlain? (entries : List Entry) (name : List Char) (c : Char) : Option Progress :=
  if c = '\\' then some ⟨entries, .inName name .backslash⟩
  else if isGap c || isSign c || isLineEnd c then
    if name.isEmpty then none else some (betweenStep entries name false c)
  else some ⟨entries, .inName (c :: name) .plain⟩

/-- The progress by a character of a name. -/
def nameStep? (entries : List Entry) (name : List Char) (c : Char) : Before → Option Progress
  | .plain | .joint => namePlain? entries name c
  | .backslash =>
      let (name, before) := afterBackslash name c
      some ⟨entries, .inName name before⟩
  | .number digits => do
      let (name, before) ← afterDigit? name digits c
      some ⟨entries, .inName name before⟩

/-- The progress by one character, unless it cannot stand in its place. -/
def Progress.step? (progress : Progress) (c : Char) : Option Progress :=
  let entries := progress.entries
  match progress.place with
  | .start =>
      if isLineEnd c || isGap c then some progress
      else if c = '#' ∨ c = '!' then some ⟨entries, .comment⟩
      else namePlain? entries [] c
  | .comment => some (if isLineEnd c then ⟨entries, .start⟩ else progress)
  | .inName name before => nameStep? entries name c before
  | .between name signed => some (betweenStep entries name signed c)
  | .inText name text before => textStep? entries name text c before

/-- The lines of a file that ends here, unless it cannot end here. -/
def Progress.close? (progress : Progress) : Option (List Entry) :=
  match progress.place with
  | .start | .comment => some progress.entries.reverse
  | .inName name .plain => some (progress.entries.reverse ++ [(name.reverse, [])])
  | .between name _ => some (progress.entries.reverse ++ [(name.reverse, [])])
  | .inText name text .plain | .inText name text .joint =>
      some (progress.entries.reverse ++ [(name.reverse, text.reverse)])
  | _ => none

/-- The lines of a file, or nothing if it is not made of such lines. -/
def entries? (cs : List Char) : Option (List Entry) := do
  (← cs.foldlM Progress.step? ⟨[], .start⟩).close?

/-! ### References -/

/-- The text of a name; of several lines the last one counts. -/
def lookup? (entries : List Entry) (name : List Char) : Option (List Char) :=
  (entries.reverse.find? (fun entry => entry.1 == name)).map Prod.snd

/-- The names of a file, each at the place where it first stands. -/
def names : List Entry → List (List Char)
  | [] => []
  | (name, _) :: entries => name :: (names entries).filter (fun other => other != name)

/-- The part of a text in front of the first reference, and the part behind its opening. -/
def opening? : List Char → Option (List Char × List Char)
  | [] => none
  | c :: rest =>
    match c, rest with
    | '$', '\x7b' :: after => some ([], after)
    | _, _ => (opening? rest).map fun (front, after) => (c :: front, after)

/-- The name up to the closing brace, and what stands behind the brace. -/
def closing? (cs : List Char) : Option (List Char × List Char) :=
  let name := cs.takeWhile (fun c => c != '\x7d')
  match cs.drop name.length with
  | [] => none
  | _ :: after => some (name, after)

/-- Replace the references of a text by what `value?` gives for their names, at most `fuel` of them.
After each one the text is looked at from its beginning. -/
def replace? (value? : List Char → Option (List Char)) : Nat → List Char → Option (List Char)
  | 0, _ => none
  | fuel + 1, cs =>
    match opening? cs with
    | none => some cs
    | some (front, after) => do
      let (name, behind) ← closing? after
      let value ← value? name
      replace? value? fuel (front ++ value ++ behind)

/-- The text of a name without references, given the names that led to it; references may lead to each
other only so often. -/
def meaning? (value : List Char → List Char) (fuel : Nat) :
    Nat → List (List Char) → List Char → Option (List Char)
  | 0, _, _ => none
  | depth + 1, path, cs =>
    replace? (fun name =>
      if path.contains name then none
      else meaning? value fuel depth (name :: path) (value name)) fuel cs

/-- How often references may lead from one text to the next, the first one counted. -/
def maxDepth : Nat := 64

/-- A bound on the number of references that are replaced in one text. -/
def maxReferences : Nat := Nat.pow 2 64

/-- The texts of all names without references, or nothing if one of them has no meaning. -/
def expand? (variableValue : String → Option String) (entries : List Entry) : Option (List Entry) :=
  let value (name : List Char) : List Char :=
    (lookup? entries name).getD (((variableValue (String.ofList name)).getD "").toList)
  (names entries).mapM fun name =>
    (meaning? value maxReferences maxDepth [name] (value name)).map fun text => (name, text)

/-- The names and texts of a file, in the order in which the names first stand in it. -/
def read? (variableValue : String → Option String) (cs : List Char) : Option (List Entry) := do
  expand? variableValue (← entries? cs)

end CodeGauge.Properties
