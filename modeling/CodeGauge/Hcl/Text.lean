/-
Module: CodeGauge.Hcl.Text
Purpose: The texts of HCL: strings in quotes, with insertions in them, and blocks of lines.
Main exports:
  Hcl.escape?, Hcl.closing?, Hcl.quoted?, Hcl.Block, Hcl.block?
-/
import CodeGauge.Number.Integer
import CodeGauge.Text.Bytes
import CodeGauge.Text.DecimalDigit
import CodeGauge.Text.Letter

namespace CodeGauge.Hcl

open CodeGauge.Text CodeGauge.Number

/-!
A string stands in double quotes.  An insertion, from `${` to its closing brace, is kept as it is
written, and may hold quotes and line breaks; everywhere else a backslash begins an escape.  An escape
may stand for a byte that spells no character by itself.

A block of lines begins with `<<` and a mark and ends with a line that holds the mark alone.  With a
dash before the mark, all lines lose the indentation of the last one, if all of them have it.
-/

/-! ### Escapes -/

/-- The character that a backslash and a letter stand for. -/
def escaped? (c : Char) : Option Char :=
  match c with
  | 'a' => some (Char.ofNat 7)
  | 'b' => some (Char.ofNat 8)
  | 'f' => some (Char.ofNat 12)
  | 'n' => some '\n'
  | 'r' => some '\r'
  | 't' => some '\t'
  | 'v' => some (Char.ofNat 11)
  | '\\' => some '\\'
  | '"' => some '"'
  | _ => none

/-- The number of hexadecimal digits behind a letter. -/
def hexWidth? (c : Char) : Option Nat :=
  if c = 'x' then some 2 else if c = 'u' then some 4 else if c = 'U' then some 8 else none

/-- The value of an octal digit. -/
def octalValue? (c : Char) : Option Nat := (Integer.digitValue? c).filter (· < 8)

/-- What an escape stands for, given what follows the backslash, and the rest.  `character?` gives the
bytes of a character by its number. -/
def escape? (character? : Nat → Option Bytes) : List Char → Option (Bytes × List Char)
  | [] => none
  | c :: rest =>
    match hexWidth? c with
    | some width => do
      let digits := rest.take width
      let n ← Integer.hexNumber? digits
      if digits.length < width then none
      else
        let bytes ← if c = 'x' then some [UInt8.ofNat n] else character? n
        some (bytes, rest.drop width)
    | none =>
      match octalValue? c with
      | some first => do
        let more ← (rest.take 2).mapM octalValue?
        let n := more.foldl (fun n d => n * 8 + d) first
        if more.length < 2 || 255 < n then none else some ([UInt8.ofNat n], rest.drop 2)
      | none => (escaped? c).map fun c => (Utf8.encodeChar c, rest)

/-- The bytes of a character by its number.  Of a number above all signed words of 32 bits the lowest
byte counts. -/
def character? (n : Nat) : Option Bytes :=
  if 0x80000000 ≤ n then some [UInt8.ofNat n]
  else if 0x10FFFF < n then none
  else some (Utf8.encodeChar (charOfNumber n))

/-! ### Strings -/

/-- The depth of braces behind a character in an insertion. -/
def depthAfter (depth : Nat) (c : Char) : Nat :=
  if c = '\x7b' then depth + 1 else if c = '\x7d' then depth - 1 else depth

/-- What stands before the closing quote of a string and behind it; `depth` is the depth of braces in an
insertion, and zero outside of one. -/
def closing? : Nat → List Char → Option (List Char × List Char)
  | _, [] => none
  | depth, c :: rest =>
    if depth = 0 ∧ c = '\n' then none
    else if depth = 0 ∧ c = '"' then some ([], rest)
    else
      match c, rest with
      | '\\', d :: rest => (closing? depth rest).map fun (inside, behind) => (c :: d :: inside, behind)
      | '$', '\x7b' :: rest =>
        (closing? (depth + 1) rest).map fun (inside, behind) => (c :: '\x7b' :: inside, behind)
      | _, rest =>
        (closing? (if depth = 0 then 0 else depthAfter depth c) rest).map fun (inside, behind) =>
          (c :: inside, behind)

/-- The bytes that the inside of a string stands for.  Escapes have to be sound in insertions too; the
replacement character cannot stand there. -/
def unquoted? : Nat → Nat → List Char → Option Bytes
  | _, _, [] => some []
  | 0, _, _ => none
  | fuel + 1, depth, c :: rest =>
    if c = '\\' then do
      let (bytes, behind) ← escape? (if depth = 0 then character? else fun _ => some []) rest
      let written := (c :: rest).take (rest.length + 1 - behind.length)
      let value := if depth = 0 then bytes else written.flatMap Utf8.encodeChar
      some (value ++ (← unquoted? fuel depth behind))
    else if depth = 0 then
      match c, rest with
      | '$', '\x7b' :: behind => do some (Utf8.encode "$\x7b" ++ (← unquoted? fuel 1 behind))
      | _, _ => do some (Utf8.encodeChar c ++ (← unquoted? fuel 0 rest))
    else if c = replacement then none
    else do some (Utf8.encodeChar c ++ (← unquoted? fuel (depthAfter depth c) rest))

/-- The bytes of a string and the rest, given what follows its opening quote. -/
def quoted? (cs : List Char) : Option (Bytes × List Char) := do
  let (inside, behind) ← closing? 0 cs
  some (← unquoted? (inside.length + 1) 0 inside, behind)

/-! ### Blocks of lines -/

/-- The characters of names and marks. -/
def isLetterOrDigit (c : Char) : Bool := c == '_' || isLetter c || isDecimalDigit c

/-- The mark of a block, with the dash before it, and what stands below its line. -/
def mark? (cs : List Char) : Option (List Char × List Char) :=
  let dash := cs.take (if cs.head? = some '-' then 1 else 0)
  let letters := (cs.drop dash.length).takeWhile isLetterOrDigit
  let name := dash ++ letters
  match cs.drop name.length with
  | '\n' :: below => if letters.isEmpty then none else some (name, below)
  | '\r' :: '\n' :: below => some (name ++ ['\r'], below)
  | _ => none

/-- A block of lines as it is written: its mark, and everything below the line of the mark. -/
structure Block where
  mark : Bytes
  body : Bytes
deriving DecidableEq, Repr, Inhabited

/-- The blanks before the mark in the last line of a block. -/
def isIndent (b : UInt8) : Bool := (9 ≤ b && b ≤ 13) || b == 32

/-- Whether a block is to lose its indentation. -/
def isDashed (mark : Bytes) : Bool := mark.head? == some (ascii '-')

/-- Whether a line ends the block of a mark. -/
def endsBlock (mark line : Bytes) : Bool :=
  let name := if isDashed mark then mark.drop 1 else mark
  let rest := line.dropWhile isIndent
  mark.length ≤ line.length && name.isPrefixOf rest && (rest.drop name.length).all (· == 13)

/-- What belongs to a block below its first line, and the rest; `line` is the line so far, backwards. -/
def blockBody? (mark : Bytes) : Bytes → List Char → Option (Bytes × List Char)
  | _, [] => none
  | line, c :: rest =>
    if c = '\n' then
      if endsBlock mark line.reverse then some ([10], rest)
      else (blockBody? mark [] rest).map fun (body, behind) => (10 :: body, behind)
    else
      (blockBody? mark ((Utf8.encodeChar c).reverse ++ line) rest).map fun (body, behind) =>
        (Utf8.encodeChar c ++ body, behind)

/-- A block and the rest, given what follows the two signs that begin it. -/
def block? (cs : List Char) : Option (Block × List Char) := do
  let (mark, below) ← mark? cs
  let mark := mark.flatMap Utf8.encodeChar
  let (body, behind) ← blockBody? mark [] below
  some (⟨mark, body⟩, behind)

/-- A byte string without some of its last bytes. -/
def withoutLast (count : Nat) (bytes : Bytes) : Bytes := bytes.take (bytes.length - count)

/-- The lines of a byte string. -/
def linesOf : Bytes → List Bytes
  | [] => [[]]
  | b :: rest =>
    if b = 10 then [] :: linesOf rest
    else
      match linesOf rest with
      | [] => [[b]]
      | line :: lines => (b :: line) :: lines

/-- Lines with line feeds between them. -/
def joinLines : List Bytes → Bytes
  | [] => []
  | [line] => line
  | line :: lines => line ++ 10 :: joinLines lines

/-- The text that a block stands for.  If it is dashed, but a line lacks the indentation of the last
one, only the last line loses its blanks. -/
def Block.text (block : Block) : Bytes :=
  let size := block.mark.length
  if isDashed block.mark then
    let lines := linesOf (withoutLast size block.body)
    let indent := lines.getLastD []
    if lines.all (fun line => indent.isPrefixOf line) then
      joinLines ((lines.dropLast.map fun line => line.drop indent.length) ++ [[]])
    else
      let text := withoutLast (size + 1) block.body
      (text.reverse.dropWhile (fun b => b == 32 || b == 9)).reverse
  else withoutLast (size + 1) block.body

end CodeGauge.Hcl
