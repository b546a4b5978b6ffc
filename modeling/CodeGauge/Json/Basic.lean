/-
Module: CodeGauge.Json.Basic
Purpose: JSON values and their indented text.
Main exports:
  Json, Json.quote, Json.layout, Json.render
-/

namespace CodeGauge

/-!
Saved reports, rendered reports and settings files share one value type.  A number is kept as the
text it is written with, so that reading and writing never round.  Text is written with an indent of
two blanks, one field or item a line, and strings escape what could end a script or a line in a page
that embeds them: angle brackets, ampersands and the two separator characters.
-/

/-- A JSON value; the fields of an object keep their order. -/
inductive Json where
  | null
  | bool (value : Bool)
  | number (literal : String)
  | string (text : String)
  /-- A string in which the number of a character is written without need, so that it is not written
  as other strings are. -/
  | spelled (text : String)
  | array (items : List Json)
  | object (fields : List (String × Json))
deriving Repr, Inhabited

namespace Json

/-! ### Strings -/

/-- A hexadecimal digit in lower case. -/
def hexDigit (n : Nat) : Char :=
  if n < 10 then Char.ofNat (48 + n) else Char.ofNat (87 + n)

/-- A code unit as an escape of four hexadecimal digits. -/
def unitEscape (n : Nat) : List Char :=
  ['\\', 'u', hexDigit (n / 4096 % 16), hexDigit (n / 256 % 16), hexDigit (n / 16 % 16),
    hexDigit (n % 16)]

/-- One character inside quotes. -/
def escapeChar (c : Char) : List Char :=
  if c = '"' then ['\\', '"']
  else if c = '\\' then ['\\', '\\']
  else if c.toNat = 8 then ['\\', 'b']
  else if c.toNat = 9 then ['\\', 't']
  else if c.toNat = 10 then ['\\', 'n']
  else if c.toNat = 12 then ['\\', 'f']
  else if c.toNat = 13 then ['\\', 'r']
  else if c.toNat < 32 ∨ c = '<' ∨ c = '>' ∨ c = '&' ∨ c.toNat = 0x2028 ∨ c.toNat = 0x2029 then
    unitEscape c.toNat
  else [c]

/-- A string in quotes. -/
def quote (s : String) : List Char :=
  '"' :: (s.toList.flatMap escapeChar ++ ['"'])

/-! ### Layout -/

/-- A new line with the indent of a nesting depth. -/
def newLine (depth : Nat) : List Char :=
  '\n' :: List.replicate (2 * depth) ' '

mutual
/-- The text of a value at a nesting depth. -/
def layout (depth : Nat) : Json → List Char
  | .null => ['n', 'u', 'l', 'l']
  | .bool true => ['t', 'r', 'u', 'e']
  | .bool false => ['f', 'a', 'l', 's', 'e']
  | .number literal => literal.toList
  | .string text | .spelled text => quote text
  | .array [] => ['[', ']']
  | .array (item :: items) =>
      '[' :: (newLine (depth + 1) ++ layout (depth + 1) item ++ layoutItems (depth + 1) items
        ++ newLine depth ++ [']'])
  | .object [] => ['{', '}']
  | .object ((name, value) :: fields) =>
      '{' :: (newLine (depth + 1) ++ quote name ++ ':' :: ' ' :: layout (depth + 1) value
        ++ layoutFields (depth + 1) fields ++ newLine depth ++ ['}'])

/-- The items of an array behind the first one. -/
def layoutItems (depth : Nat) : List Json → List Char
  | [] => []
  | item :: items => ',' :: (newLine depth ++ layout depth item ++ layoutItems depth items)

/-- The fields of an object behind the first one. -/
def layoutFields (depth : Nat) : List (String × Json) → List Char
  | [] => []
  | (name, value) :: fields =>
      ',' :: (newLine depth ++ quote name ++ ':' :: ' ' :: layout depth value
        ++ layoutFields depth fields)
end

/-- The text of a value, with a line break at the end. -/
def render (value : Json) : String :=
  String.ofList (layout 0 value ++ ['\n'])

/-! ### Building -/

/-- An integer. -/
def int (i : Int) : Json := .number (toString i)

/-- A list that may be absent. -/
def list? {α : Type} (f : α → Json) : Option (List α) → Json
  | none => .null
  | some items => .array (items.map f)

end Json

end CodeGauge
