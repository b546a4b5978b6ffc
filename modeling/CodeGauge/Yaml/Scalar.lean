/-
Module: CodeGauge.Yaml.Scalar
Purpose: The four ways of writing a text in YAML, and which of them a text gets.
Main exports:
  Yaml.Traits, Yaml.Style, Yaml.styleOf, Yaml.scalar
-/
import CodeGauge.Yaml.Resolve

namespace CodeGauge.Yaml

/-!
A text with a line feed is written as a literal block; a text that an unquoted reader would take for
something else is double-quoted; any other text stays plain.  A style that cannot hold the text gives
way to the next: plain to single quotes, single quotes and blocks to double quotes.  Lines are never
folded.
-/

/-- The characters that break a line. -/
def isBreak (c : Char) : Bool :=
  c == '\n' || c == '\r' || c.toNat == 0x85 || c.toNat == 0x2028 || c.toNat == 0x2029

/-- The characters that may stand in a text without an escape. -/
def isShown (c : Char) : Bool :=
  let n := c.toNat
  n == 0x0A || (0x20 ≤ n && n ≤ 0x7E) || (0xA0 ≤ n && n ≤ 0xFFFD && n != 0xFEFF)

/-- A blank or a tab. -/
def isGap (c : Char) : Bool := c == ' ' || c == '\t'

/-- Characters that may not begin a plain text. -/
def leadIndicators : List Char :=
  ['#', ',', '[', ']', '{', '}', '&', '*', '!', '|', '>', '\'', '"', '%', '@', '`']

/-- Whether nothing or a gap follows. -/
def endsOrGap (rest : List Char) : Bool := rest.head?.all isGap

/-- Whether a plain text beginning like this would be taken for structure. -/
def leadIndicates : List Char → Bool
  | [] => false
  | '-' :: '-' :: '-' :: _ => true
  | '.' :: '.' :: '.' :: _ => true
  | c :: rest =>
      leadIndicators.contains c || ((c == '-' || c == '?' || c == ':') && endsOrGap rest)

/-- Whether a later part of a plain text would be taken for structure: a colon at the end or before a
gap, or a number sign behind white space. -/
def innerIndicates : List Char → Bool
  | before :: c :: rest =>
      (c == ':' && endsOrGap rest)
        || (c == '#' && (isGap before || isBreak before || before.toNat == 0))
        || innerIndicates (c :: rest)
  | _ => false

/-- Whether some two neighbours have two properties. -/
def hasPair (first second : Char → Bool) : List Char → Bool
  | a :: b :: rest => (first a && second b) || hasPair first second (b :: rest)
  | _ => false

/-- A blank. -/
def isSpace (c : Char) : Bool := c == ' '

/-- Whether a text begins or ends with a character of a kind. -/
def atEnds (p : Char → Bool) (cs : List Char) : Bool := cs.head?.any p || cs.getLast?.any p

/-- Whether a text has a character that needs an escape, tabs left aside. -/
def hasSpecial (cs : List Char) : Bool := cs.any fun c => c != '\t' && !isShown c

/-- Whether single quotes can hold a text. -/
def singleQuotesHold (cs : List Char) : Bool :=
  !hasPair isBreak isSpace cs && !hasPair isSpace isBreak cs && !cs.contains '\t' && !hasSpecial cs

/-- Whether a text can stand without quotes. -/
def plainHolds (cs : List Char) : Bool :=
  singleQuotesHold cs && !atEnds isSpace cs && !cs.any isBreak
    && !leadIndicates cs && !innerIndicates cs

/-- Whether a literal block can hold a text. -/
def literalHolds (cs : List Char) : Bool :=
  !cs.getLast?.any isSpace && !hasPair isSpace isBreak cs && !hasSpecial cs

/-- The ways of writing a text. -/
inductive Style where
  | plain
  | singleQuoted
  | doubleQuoted
  | literal
deriving DecidableEq, Repr, Inhabited

/-- The way a text is written. -/
def styleOf (s : String) : Style :=
  let cs := s.toList
  if cs.contains '\n' then if literalHolds cs then .literal else .doubleQuoted
  else if !readsAsText s then .doubleQuoted
  else if plainHolds cs then .plain
  else if singleQuotesHold cs then .singleQuoted
  else .doubleQuoted

/-! ### Writing -/

/-- A number in `count` hexadecimal digits of upper case. -/
def upperHex (count n : Nat) : List Char :=
  match count with
  | 0 => []
  | count + 1 => upperHex count (n / 16) ++ [(Nat.digitChar (n % 16)).toUpper]

/-- The letter of an escape that has one. -/
def escapeLetter? (c : Char) : Option Char :=
  match c.toNat with
  | 0 => some '0'
  | 7 => some 'a'
  | 8 => some 'b'
  | 9 => some 't'
  | 10 => some 'n'
  | 11 => some 'v'
  | 12 => some 'f'
  | 13 => some 'r'
  | 0x1B => some 'e'
  | 0x22 => some '"'
  | 0x5C => some '\\'
  | 0x85 => some 'N'
  | 0xA0 => some '_'
  | 0x2028 => some 'L'
  | 0x2029 => some 'P'
  | _ => none

/-- One character between double quotes, where all of them may have to be escaped. -/
def doubleQuotedChar (escapesAll : Bool) (c : Char) : List Char :=
  if isShown c && !isBreak c && c != '"' && c != '\\' && !escapesAll then [c]
  else
    match escapeLetter? c with
    | some letter => ['\\', letter]
    | none =>
      let n := c.toNat
      if n ≤ 0xFF then '\\' :: 'x' :: upperHex 2 n
      else if n ≤ 0xFFFF then '\\' :: 'u' :: upperHex 4 n
      else '\\' :: 'U' :: upperHex 8 n

/-- A text between double quotes.  In one that begins with a byte order mark, nothing shows as itself. -/
def doubleQuoted (cs : List Char) : List Char :=
  '"' :: (cs.flatMap (doubleQuotedChar (cs.head?.any (fun c => c.toNat == 0xFEFF))) ++ ['"'])

/-- Characters between single quotes, where a line behind a break is indented. -/
def singleQuotedBody (indent : Nat) : Bool → List Char → List Char
  | _, [] => []
  | atLineStart, c :: rest =>
      if isBreak c then c :: singleQuotedBody indent true rest
      else if isSpace c then c :: singleQuotedBody indent atLineStart rest
      else
        (if atLineStart then List.replicate indent ' ' else [])
          ++ (if c = '\'' then ['\'', '\''] else [c]) ++ singleQuotedBody indent false rest

/-- A text between single quotes. -/
def singleQuoted (indent : Nat) (cs : List Char) : List Char :=
  '\'' :: (singleQuotedBody indent false cs ++ ['\''])

/-- How a block keeps the line breaks at its end: none, one, or all of them. -/
def chomping (cs : List Char) : List Char :=
  match cs.reverse with
  | [] => ['-']
  | [last] => if isBreak last then ['+'] else ['-']
  | last :: before :: _ => if !isBreak last then ['-'] else if isBreak before then ['+'] else []

/-- The lines of a block.  The line of the block's head ends where the first line of the text begins,
or with the first break of a text that begins with one. -/
def literalBody (indent : Nat) : Bool → Bool → List Char → List Char
  | _, _, [] => []
  | breaks, fresh, c :: rest =>
      if isBreak c then c :: literalBody indent true true rest
      else if breaks then
        (if fresh then [] else ['\n']) ++ List.replicate indent ' ' ++ c
          :: literalBody indent false false rest
      else c :: literalBody indent false false rest

/-- The step of indentation. -/
def indentStep : Nat := 2

/-- A text as a literal block.  A block that begins with white space states its indentation. -/
def literal (indent : Nat) (cs : List Char) : List Char :=
  let stated := cs.head?.any (fun c => isSpace c || isBreak c)
  '|' :: ((if stated then [Nat.digitChar indentStep] else []) ++ chomping cs
    ++ literalBody indent true false cs)

/-- A text, whose further lines are indented by `indent` blanks. -/
def scalar (indent : Nat) (s : String) : List Char :=
  match styleOf s with
  | .plain => s.toList
  | .singleQuoted => singleQuoted indent s.toList
  | .doubleQuoted => doubleQuoted s.toList
  | .literal => literal indent s.toList

end CodeGauge.Yaml
