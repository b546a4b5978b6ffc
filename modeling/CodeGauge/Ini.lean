/-
Module: CodeGauge.Ini
Purpose: The sections of a file that is divided into sections of assignments.
Main exports:
  Ini.sections?
-/
import CodeGauge.Text.Blank
import CodeGauge.Text.Bytes

namespace CodeGauge.Ini

open CodeGauge.Text

/-!
A line is the head of a section, an assignment to a name, or a comment.  All that a reader of settings
asks of such a file is whether it is well formed and which sections have assignments: whatever is
assigned belongs to a section, so it is the setting of no name by itself.  An assigned text may go on in
the lines below it, in quotes of its own or behind a backslash.
-/

/-- The section of the assignments above the first head. -/
def firstSection : Bytes := Utf8.encode "DEFAULT"

/-- A file without the byte order mark at its front. -/
def unmarked : Bytes → Bytes
  | 0xFE :: 0xFF :: rest => rest
  | 0xFF :: 0xFE :: rest => rest
  | 0xEF :: 0xBB :: 0xBF :: rest => rest
  | bytes => bytes

/-- The lines of a file, each with the line feed that ends it. -/
def lines : Bytes → List Bytes
  | [] => [[]]
  | b :: rest =>
    if b = 10 then [b] :: lines rest
    else
      match lines rest with
      | [] => [[b]]
      | line :: more => (b :: line) :: more

/-- Three double quotes. -/
def tripleQuote : Bytes := Utf8.encode "\"\"\""

/-- A back quote. -/
def backQuote : Bytes := [0x60]

/-- The quote that a name begins with. -/
def nameQuote? (line : Bytes) : Option Bytes :=
  if line.head? = some (ascii '"') then
    some (if 6 < line.length && tripleQuote.isPrefixOf line then tripleQuote else [ascii '"'])
  else if line.head? = some 0x60 then some backQuote
  else none

/-- What stands behind the first sign of an assignment. -/
def behindSign? (bytes : Bytes) : Option Bytes :=
  match bytes.dropWhile (fun b => !isOneOf "=:" b) with
  | [] => none
  | _ :: behind => some behind

/-- The text that a line assigns.  There is no empty name. -/
def assigned? (line : Bytes) : Option Bytes :=
  match nameQuote? line with
  | some quote => do
    let (name, behind) ← findBytes? quote (line.drop quote.length)
    if (trimBytes name).isEmpty then none else behindSign? behind
  | none => if line.head?.any (isOneOf "=:") then none else behindSign? line

/-- What the lines below a line belong to. -/
inductive Mode where
  /-- To themselves. -/
  | plain
  /-- To a text that a quote closes. -/
  | quoted (quote : Bytes)
  /-- To a text that ends with the first line that does not end with a backslash. -/
  | continued
deriving DecidableEq, Repr, Inhabited

/-- What follows a text whose last line is this one. -/
def modeBehind (line : Bytes) : Mode :=
  if (trimBytes line).getLast? = some (ascii '\\') then .continued else .plain

/-- What follows the line of an assignment of this text. -/
def modeAfter (text : Bytes) : Mode :=
  let text := trimFront text
  let unclosed (quote : Bytes) : Mode :=
    if (findBytes? quote (text.drop quote.length)).isSome then .plain else .quoted quote
  if 3 < text.length && tripleQuote.isPrefixOf text then unclosed tripleQuote
  else if text.head? = some 0x60 then unclosed backQuote
  else modeBehind text

/-- The name in the head of a section: up to the last closing bracket of the line. -/
def sectionName? (line : Bytes) : Option Bytes := do
  let i ← lastIndex? (ascii ']') line
  let name := (line.take i).drop 1
  if name.isEmpty then none else some name

/-- The sections of the assignments in some lines, in their order; `inside` is the section that the
first line belongs to. -/
def sectionsOf? : Mode → Bytes → List Bytes → Option (List Bytes)
  | .quoted _, _, [] => none
  | _, _, [] => some []
  | .quoted quote, inside, line :: rest =>
    sectionsOf? (if (findBytes? quote line).isSome then .plain else .quoted quote) inside rest
  | .continued, inside, line :: rest => sectionsOf? (modeBehind line) inside rest
  | .plain, inside, line :: rest =>
    let line := trimFront line
    if line.isEmpty || line.head?.any (isOneOf "#;") then sectionsOf? .plain inside rest
    else if line.head? = some (ascii '[') then do
      sectionsOf? .plain (← sectionName? line) rest
    else do
      let text ← assigned? line
      (sectionsOf? (modeAfter text) inside rest).map (inside :: ·)

/-- The sections of a file that have assignments, one for each of these, or nothing if the file is not
well formed. -/
def sections? (bytes : Bytes) : Option (List Bytes) :=
  sectionsOf? .plain firstSection (lines (unmarked bytes))

end CodeGauge.Ini
