/-
Module: CodeGauge.Log
Purpose: Log events, their levels and their lines.
Main exports:
  Log.Level, Log.Level.parse, Log.Event, Log.Event.write, Log.write
-/
import CodeGauge.Render.Paint
import CodeGauge.Table.Width
import CodeGauge.Text.Blank
import CodeGauge.Text.LowerCase
import CodeGauge.Text.Quoted
import CodeGauge.Text.Split

namespace CodeGauge.Log

open CodeGauge.Text

/-!
An event has a level, a message and named values.  It is written on one line that begins with four
letters for the level and the program's name; a value of several lines is written below its name, each
line behind a bar.  A few names stand for parts of the line itself.  Events below a chosen level are
left out.  On a terminal the level has a colour, and all that is neither message nor value is faint.
-/

/-- How much an event matters. -/
inductive Level where
  | debug
  | info
  | warn
  | error
  | fatal
deriving DecidableEq, Repr, Inhabited

namespace Level

/-- All levels, the least one first. -/
def all : List Level := [.debug, .info, .warn, .error, .fatal]

/-- The name by which a user chooses the level. -/
def name : Level → String
  | .debug => "debug"
  | .info => "info"
  | .warn => "warn"
  | .error => "error"
  | .fatal => "fatal"

/-- The four letters that begin a line. -/
def mark : Level → String
  | .debug => "DEBU"
  | .info => "INFO"
  | .warn => "WARN"
  | .error => "ERRO"
  | .fatal => "FATA"

/-- The numbers of the terminal code for the level. -/
def code : Level → String
  | .debug => "1;94"
  | .info => "1;96"
  | .warn => "1;93"
  | .error => "1;91"
  | .fatal => "1;95"

/-- The place of a level in their order. -/
def rank : Level → Nat
  | .debug => 0
  | .info => 1
  | .warn => 2
  | .error => 3
  | .fatal => 4

/-- The level that is chosen by saying nothing. -/
def default : Level := .warn

/-- The level of a name in any letter case, the default one for a blank name, or what is wrong with
the name. -/
def parse (name : Bytes) : Except String Level :=
  let text := lower (Utf8.decodeText name)
  if (trim text).isEmpty then .ok default
  else
    match all.find? (fun level => level.name == text) with
    | some level => .ok level
    | none =>
        .error ("invalid log level " ++ quotedBytes name ++ ": invalid level: " ++ quoted text)

end Level

/-- An event: its level, its message, and named values. -/
structure Event where
  level : Level
  message : String
  fields : List (String × String)
deriving DecidableEq, Repr, Inhabited

/-- Names that stand for a part of the line of which only a text can be the value. -/
def textNames : List String := ["caller", "prefix"]

/-- Names and values that follow each other.  A last name without a value is given one that says so;
where only a text can be the value the name is blotted out, and so is not written. -/
def pairUp : List String → List (String × String)
  | [] => []
  | [name] => [(if textNames.contains name then "" else name, "missing value")]
  | name :: value :: rest => (name, value) :: pairUp rest

/-! ### Writing -/

/-- The character that stands for bytes that are no text. -/
def replacementChar : Char := Char.ofNat 0xFFFD

/-- Whether a value has to be quoted because of a character. -/
def isUnquotable (c : Char) : Bool :=
  c == '"' || c == '=' || c == replacementChar || isBlank c || !isPrintable c

/-- One character of a value; quotes are escaped only inside quotes. -/
def escapeChar (inQuotes : Bool) (c : Char) : List Char :=
  if c = '"' then if inQuotes then ['\\', '"'] else ['"']
  else if isPrintable c then [c]
  else
    match controlLetter? c with
    | some letter => ['\\', letter]
    | none =>
      let n := c.toNat
      if n < 0x20 then '\\' :: 'x' :: hexDigits 2 n
      else if n < 0x10000 then '\\' :: 'u' :: hexDigits 4 n
      else '\\' :: 'U' :: hexDigits 8 n

/-- The numbers of the terminal code for names and for what stands around values. -/
def faint : String := "2"

/-- The numbers of the terminal code for the name of the program. -/
def strong : String := "1;2"

/-- Characters of a line between the terminal code with some numbers and its end, or by themselves. -/
def paint (coloured : Bool) (numbers : String) (cs : List Char) : List Char :=
  if coloured then Render.code numbers ++ cs ++ Render.reset else cs

/-- Tabs as four blanks. -/
def expandTabs (cs : List Char) : List Char :=
  cs.flatMap fun c => if c = '\t' then [' ', ' ', ' ', ' '] else [c]

/-- The characters of a line outside of terminal codes.  A code begins with an escape character and ends
with the first letter or at sign behind it. -/
def withoutCodes : Bool → List Char → List Char
  | _, [] => []
  | inCode, c :: rest =>
    if c.toNat = 0x1B then withoutCodes true rest
    else if inCode then withoutCodes (!(c == '@' || c.isAlpha)) rest
    else c :: withoutCodes false rest

/-- The cells that a line takes; terminal codes take none. -/
def lineWidth (line : List Char) : Nat :=
  ((withoutCodes false line).map Table.charWidth).foldl (· + ·) 0

/-- Tabs as blanks, and all lines painted and filled up to the same width. -/
def evenLines (coloured : Bool) (numbers : String) (cs : List Char) : List Char :=
  let lines := (split '\n' (expandTabs cs)).map (paint coloured numbers)
  let width := (lines.map lineWidth).foldl max 0
  Text.join ['\n'] (lines.map fun line => line ++ List.replicate (width - lineWidth line) ' ')

/-- What stands before a line of a value. -/
def bar : List Char := "  │ ".toList

/-- The lines of a value, each behind a bar.  The last line is ended if more follows; a value that ends
with a line break has no line behind it. -/
def barredLines (coloured more : Bool) : List (List Char) → List Char
  | [] => []
  | [last] =>
      if last.isEmpty then []
      else
        paint coloured faint bar ++ last.flatMap (escapeChar false) ++ (if more then ['\n'] else [])
  | line :: lines =>
      paint coloured faint bar ++ line.flatMap (escapeChar false)
        ++ '\n' :: barredLines coloured more lines

/-- A named value with what separates it from what is before it. -/
def namedText (coloured more : Bool) (name value : String) : List Char :=
  let key := evenLines coloured faint name.toList ++ paint coloured faint ['=']
  if name.isEmpty then []
  else if value.isEmpty then ' ' :: key ++ ['"', '"']
  else if value.toList.contains '\n' then
    '\n' :: ' ' :: ' ' :: key ++ '\n' :: barredLines coloured more (split '\n' value.toList)
  else if value.toList.any isUnquotable then
    ' ' :: key ++ '"' :: value.toList.flatMap (escapeChar true) ++ ['"']
  else ' ' :: key ++ value.toList

/-- A value with what separates it from what is before it.  Five names stand for parts of the line, and
their values are written as such: a text is neither a time nor a level, and is left out as one. -/
def fieldText (coloured more : Bool) (name value : String) : List Char :=
  if name = "time" ∨ name = "level" then []
  else if name = "caller" then ' ' :: evenLines coloured faint ('<' :: value.toList ++ ['>'])
  else if name = "prefix" then ' ' :: evenLines coloured strong (value.toList ++ [':'])
  else if name = "msg" then ' ' :: expandTabs value.toList
  else namedText coloured more name value

/-- All named values. -/
def fieldsText (coloured : Bool) : List (String × String) → List Char
  | [] => []
  | (name, value) :: rest =>
      fieldText coloured (!rest.isEmpty) name value ++ fieldsText coloured rest

/-- The name of the program that logs. -/
def programName : String := "cqa"

/-- The line of an event.  An empty message is left out. -/
def Event.write (coloured : Bool) (e : Event) : List Char :=
  paint coloured e.level.code e.level.mark.toList
    ++ ' ' :: paint coloured strong (programName.toList ++ [':'])
    ++ (if e.message.isEmpty then [] else ' ' :: expandTabs e.message.toList)
    ++ fieldsText coloured e.fields ++ ['\n']

/-- The lines of the events that are not below a level, with terminal codes or without. -/
def write (coloured : Bool) (threshold : Level) (events : List Event) : String :=
  String.ofList
    ((events.filter fun e => threshold.rank ≤ e.level.rank).flatMap (Event.write coloured))

end CodeGauge.Log
