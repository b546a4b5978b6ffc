/-
Module: CodeGauge.Table.Layout
Purpose: Tables of text with a heading and a rule below it.
Main exports:
  Table, Table.render
-/
import CodeGauge.Table.Wrap
import CodeGauge.Text.Blank

namespace CodeGauge

open CodeGauge.Text

/-!
A column is as wide as its widest line.  Headings are in capitals and centred, numbers stand at the
right of their column and everything else at the left.  A cell of several lines makes its row that
high.  Columns are divided by a bar; there is no frame, but two blanks stand where it would be.
-/

/-- Headings and rows.  The headings are ASCII. -/
structure Table where
  headings : List String
  rows : List (List String)
  /-- Whether long lines of a cell are broken. -/
  wraps : Bool
deriving DecidableEq, Repr, Inhabited

namespace Table

/-- The lines of a cell, and the cells that its column needs for it. -/
structure Cell where
  lines : List (List Char)
  width : Nat
deriving DecidableEq, Repr, Inhabited

/-- The cells beyond which a line is broken. -/
def wrapWidth : Nat := 30

/-- The cells of the widest of some lines, and at least `least`. -/
def widest (least : Nat) (lines : List (List Char)) : Nat :=
  (lines.map shownWidth).foldl max least

/-- A text as a cell.  Lines that are broken anew are taken for one paragraph first, and fit the widest
of them. -/
def Cell.ofText (wraps : Bool) (text : String) : Cell :=
  let lines := split '\n' text.toList
  let width := widest 0 lines
  if wraps then
    let limit := min width wrapWidth
    let broken := wrap limit (join [' '] lines)
    ⟨broken, widest limit broken⟩
  else ⟨lines, width⟩

/-- The column widths that some rows need. -/
def columnWidths (rows : List (List Cell)) : List Nat :=
  rows.foldl (fun widths row =>
    widths.zipIdx.map (fun (width, i) => max width ((row[i]?.map Cell.width).getD 0)))
    ((rows.head?.getD []).map fun _ => 0)

/-! ### Placing text in a column -/

/-- Blanks that fill a text up to a width. -/
def gap (width : Nat) (text : List Char) : Nat := width - shownWidth text

/-- Text at the left of its column. -/
def atLeft (width : Nat) (text : List Char) : List Char :=
  text ++ List.replicate (gap width text) ' '

/-- Text at the right of its column. -/
def atRight (width : Nat) (text : List Char) : List Char :=
  List.replicate (gap width text) ' ' ++ text

/-- Text in the middle of its column, or half a cell left of it. -/
def centred (width : Nat) (text : List Char) : List Char :=
  let left := gap width text / 2
  List.replicate left ' ' ++ text ++ List.replicate (gap width text - left) ' '

/-- Groups of three digits behind a first group of one to three. -/
def isGrouped (digits : List Char) : Bool :=
  match split ',' digits with
  | [] => false
  | first :: groups =>
      1 ≤ first.length && first.length ≤ 3 && first.all Char.isDigit
        && groups.all (fun group => group.length == 3 && group.all Char.isDigit)

/-- Whether a text is a decimal number, perhaps with a sign, commas and a fraction. -/
def isDecimal (text : List Char) : Bool :=
  let unsigned := match trimList text with
    | '-' :: rest => rest
    | other => other
  let whole := unsigned.takeWhile (fun c => c != '.')
  let wholeFits := (!whole.isEmpty && whole.all Char.isDigit) || isGrouped whole
  match unsigned.dropWhile (fun c => c != '.') with
  | [] => wholeFits
  | _ :: fraction => wholeFits && !fraction.isEmpty && fraction.all Char.isDigit

/-- Text placed by what it is. -/
def placed (width : Nat) (text : List Char) : List Char :=
  if isDecimal text then atRight width text else atLeft width text

/-! ### Lines -/

/-- A line of the table: what stands in the columns, with a blank on either side. -/
def line (parts : List (List Char)) : List Char :=
  ' ' :: (join ['|'] (parts.map fun part => ' ' :: part ++ [' ']) ++ [' ', '\n'])

/-- The rule below the headings. -/
def rule (widths : List Nat) : List Char :=
  '-' :: (join ['+'] (widths.map fun width => List.replicate (width + 2) '-') ++ ['-', '\n'])

/-- The heading line. -/
def headingLine (widths : List Nat) (headings : List String) : List Char :=
  line ((widths.zip headings).map fun (width, heading) =>
    centred width (heading.toList.map Char.toUpper))

/-- The lines of a row.  A cell without a line there shows two blanks. -/
def rowLines (widths : List Nat) (row : List Cell) : List Char :=
  let height := (row.map fun cell => cell.lines.length).foldl max 0
  (List.range height).flatMap fun i =>
    line ((widths.zip row).map fun (width, cell) => placed width (cell.lines.getD i [' ', ' ']))

/-- The table as text. -/
def render (t : Table) : String :=
  let headings := t.headings.map (Cell.ofText t.wraps)
  let rows := t.rows.map fun row => row.map (Cell.ofText t.wraps)
  let widths := columnWidths (headings :: rows)
  String.ofList (headingLine widths t.headings ++ rule widths ++ rows.flatMap (rowLines widths))

end Table

end CodeGauge
