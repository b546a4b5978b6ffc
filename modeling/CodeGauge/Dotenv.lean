/-
Module: CodeGauge.Dotenv
Purpose: Reading assignments of texts to variables, as a shell has them.
Main exports:
  Dotenv.lines?, Dotenv.assignment?, Dotenv.read?
-/
import CodeGauge.Text.Blank
import CodeGauge.Text.Bytes
import CodeGauge.Text.Utf16

namespace CodeGauge.Dotenv

open CodeGauge.Text

/-!
A line assigns a text to a variable; it may begin with the word `export`, and end with a comment.  A
text in quotes may run over several lines.  In a text that is not in single quotes, a dollar sign and a
name in capitals stand for the variable of that name: one of the environment, or else one that the file
has assigned before.  A file that does not begin with a byte order mark is taken byte by byte, so that
a text may hold bytes that spell no character.
-/

/-! ### Bytes -/

/-- The blanks of a line: tabs, line breaks, form feeds and spaces. -/
def isGap (b : UInt8) : Bool := b == 9 || b == 10 || b == 12 || b == 13 || b == 32

/-- The capitals, digits and underscores that names in texts are made of. -/
def isMentioned (b : UInt8) : Bool :=
  (ascii 'A' ≤ b && b ≤ ascii 'Z') || (ascii '0' ≤ b && b ≤ ascii '9') || b == ascii '_'

/-- The characters of names that are assigned to. -/
def isNameByte (b : UInt8) : Bool :=
  isMentioned b || (ascii 'a' ≤ b && b ≤ ascii 'z') || b == ascii '.'

/-- A file in UTF-8, whatever byte order mark tells how it is encoded. -/
def recoded : Bytes → Bytes
  | 0xEF :: 0xBB :: 0xBF :: rest => (Utf8.decodeBroken rest).flatMap Utf8.encodeChar
  | 0xFF :: 0xFE :: rest => (Utf16.decode .lowFirst rest).flatMap Utf8.encodeChar
  | 0xFE :: 0xFF :: rest => (Utf16.decode .highFirst rest).flatMap Utf8.encodeChar
  | bytes => bytes

/-! ### Lines -/

/-- The lines of a file, which a carriage return, a line feed or both of them end. -/
def physicalLines : Bytes → List Bytes
  | [] => [[]]
  | 13 :: 10 :: rest => [] :: physicalLines rest
  | b :: rest =>
    if b = 13 ∨ b = 10 then [] :: physicalLines rest
    else
      match physicalLines rest with
      | [] => [[b]]
      | line :: lines => (b :: line) :: lines

/-- The first length that a line is too long at. -/
def maxLineLength : Nat := 65536

/-- The sides of the first equals sign, or of the first colon if there is none. -/
def sides? (line : Bytes) : Option (Bytes × Bytes) :=
  let separator := if line.contains (ascii '=') then ascii '=' else ascii ':'
  let name := line.takeWhile (· != separator)
  match line.drop name.length with
  | [] => none
  | _ :: value => some (name, value)

/-- The quote that a line opens and leaves open. -/
def openQuote? (line : Bytes) : Option UInt8 :=
  match sides? line with
  | none | some ([], _) => none
  | some (_, value) =>
    match trimBytes value with
    | [] => none
    | quote :: rest =>
      if !isOneOf "\"'" quote then none
      else
        match lastIndex? quote (trimBytes rest) with
        | some i => if (quote :: rest)[i]? = some (ascii '\\') then some quote else none
        | none => some quote

/-- Whether a further line closes a quote: its last one counts, unless a backslash stands before it. -/
def closes (quote : UInt8) (text : Bytes) : Bool :=
  match lastIndex? quote text with
  | none => false
  | some i => i == 0 || text[i - 1]? != some (ascii '\\')

/-- The assignments that some lines are.  A text in quotes that is still open is given as its quote and
what it is so far. -/
def gather? : Option (UInt8 × Bytes) → List Bytes → Option (List Bytes)
  | none, [] => some []
  | some _, [] => none
  | some (quote, sofar), line :: lines =>
    if maxLineLength ≤ line.length then none
    else
      let joined := sofar ++ 10 :: line
      if closes quote line then (gather? none lines).map (joined :: ·)
      else gather? (some (quote, joined)) lines
  | none, line :: lines =>
    if maxLineLength ≤ line.length then none
    else
      let trimmed := trimBytes line
      if trimmed.isEmpty || trimmed.head? == some (ascii '#') then gather? none lines
      else
        match openQuote? trimmed with
        | some quote => gather? (some (quote, trimmed)) lines
        | none => (gather? none lines).map (trimmed :: ·)

/-- The assignments of a file, with the lines of every one joined. -/
def lines? (bytes : Bytes) : Option (List Bytes) := gather? none (physicalLines (recoded bytes))

/-! ### Assignments -/

/-- Whether nothing but blanks and a comment follows. -/
def isTail (bytes : Bytes) : Bool :=
  match bytes.dropWhile isGap with
  | [] => true
  | b :: rest => b == ascii '#' && !rest.contains 10

/-- The text in quotes at the front: up to the last quote behind which the line may end. -/
def quotedFront? (quote : UInt8) (bytes : Bytes) : Option Bytes :=
  if bytes.head? = some quote then
    ((List.range bytes.length).reverse.find? fun i =>
      0 < i && bytes[i]? == some quote && isTail (bytes.drop (i + 1))).map fun i => bytes.take (i + 1)
  else none

/-- The text at the front that is not in quotes, which may be empty: up to a comment. -/
def bareFront? (bytes : Bytes) : Option Bytes :=
  let bare := bytes.takeWhile (fun b => b != ascii '#' && b != 10)
  if isTail (bytes.drop bare.length) then some bare else none

/-- The text that a line assigns, given what stands behind the sign. -/
def front? (bytes : Bytes) : Option Bytes :=
  ((quotedFront? (ascii '\'') bytes).or (quotedFront? (ascii '"') bytes)).or (bareFront? bytes)

/-- The text behind a name.  Behind an equals sign all blanks are left out, and behind a colon, which
has to have one, as few as will do. -/
def assigned? (bytes : Bytes) : Option Bytes :=
  match bytes.dropWhile isGap with
  | [] => none
  | sign :: rest =>
    if sign = ascii '=' then front? (rest.dropWhile isGap)
    else if bytes.head? = some (ascii ':') then
      let gaps := (rest.takeWhile isGap).length
      (List.range gaps).findSome? fun i => front? (rest.drop (i + 1))
    else none

/-- A name and the text assigned to it. -/
def named? (line : Bytes) : Option (Bytes × Bytes) :=
  let name := line.takeWhile isNameByte
  if name.isEmpty then none else (assigned? (line.drop name.length)).map fun text => (name, text)

/-- The line behind the word that hands a variable on. -/
def exported? (line : Bytes) : Option Bytes :=
  let word := Utf8.encode "export"
  let behind := line.drop word.length
  if line.take word.length = word && behind.head?.any isGap then some (behind.dropWhile isGap)
  else none

/-- The name of an assignment and its text as written. -/
def written? (line : Bytes) : Option (Bytes × Bytes) :=
  (((exported? line).bind named?).or (named? line)).map fun (name, text) => (name, trimBytes text)

/-! ### Texts -/

/-- Replace a backslash and a letter by a byte. -/
def replaceEscape (letter : Char) (byte : UInt8) : Bytes → Bytes
  | [] => []
  | [b] => [b]
  | a :: b :: rest =>
    if a = ascii '\\' ∧ b = ascii letter then byte :: replaceEscape letter byte rest
    else a :: replaceEscape letter byte (b :: rest)

/-- Drop the backslash in front of everything but dollar signs. -/
def dropBackslashes : Bytes → Bytes
  | [] => []
  | [b] => [b]
  | a :: b :: rest =>
    if a = ascii '\\' ∧ b ≠ ascii '$' then b :: dropBackslashes rest
    else a :: dropBackslashes (b :: rest)

/-- A mention of a variable behind a dollar sign: the name, and what is written for it. -/
def mention (bytes : Bytes) : Bytes × Bytes :=
  let opening := bytes.take (if bytes.head? = some 0x7B then 1 else 0)
  let behind := bytes.drop opening.length
  let name := behind.takeWhile isMentioned
  let closing := if (behind.drop name.length).head? = some 0x7D then [0x7D] else []
  (name, opening ++ name ++ closing)

/-- Replace the variables of a text.  A backslash in front of a dollar sign goes, and the mention behind
it stays. -/
def expand (value : Bytes → Bytes) : Nat → Bytes → Bytes
  | 0, bytes => bytes
  | _, [] => []
  | fuel + 1, b :: rest =>
    if b = ascii '\\' ∧ rest.head? = some (ascii '$') then
      let (_, written) := mention (rest.drop 1)
      ascii '$' :: written ++ expand value fuel (rest.drop (1 + written.length))
    else if b = ascii '$' then
      let (name, written) := mention rest
      (if name.isEmpty then b :: written else value name)
        ++ expand value fuel (rest.drop written.length)
    else b :: expand value fuel rest

/-- Whether a text stands between two quotes of a kind. -/
def isBetween (quote : Char) (text : Bytes) : Bool :=
  2 ≤ text.length && text.head? == some (ascii quote) && text.getLast? == some (ascii quote)

/-- The text that is written so. -/
def meaning (value : Bytes → Bytes) (written : Bytes) : Bytes :=
  let inside := written.tail.dropLast
  if isBetween '\'' written then inside
  else
    let text :=
      if isBetween '"' written then
        dropBackslashes (replaceEscape 'r' 13 (replaceEscape 'n' 10 inside))
      else written
    expand value (text.length + 1) text

/-- The value of a variable: that of the environment, or the last one assigned before. -/
def valueOf (variableValue : String → Option String) (before : List (Bytes × Bytes))
    (name : Bytes) : Bytes :=
  match variableValue (Utf8.decodeText name) with
  | some value => Utf8.encode value
  | none => ((before.reverse.find? (fun entry => entry.1 == name)).map Prod.snd).getD []

/-- The assignments of a file, or nothing if one of its lines is none. -/
def read? (variableValue : String → Option String) (bytes : Bytes) :
    Option (List (Bytes × Bytes)) := do
  (← lines? bytes).foldlM (fun before line => do
    let (name, written) ← written? line
    some (before ++ [(name, meaning (valueOf variableValue before) written)])) []

end CodeGauge.Dotenv
