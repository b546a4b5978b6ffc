/-
Module: CodeGauge.Toml.Text
Purpose: The texts of TOML: gaps and comments, strings, and keys.
Main exports:
  Toml.isSound, Toml.skipped, Toml.endLine?, Toml.string?, Toml.KeyPath, Toml.keyPath?
-/
import CodeGauge.Number.Integer

namespace CodeGauge.Toml

open CodeGauge.Number

/-!
No text holds control characters but tabs and line breaks, and a carriage return stands only in front of
a line feed; this is so for the whole text, comments and strings included.  Strings stand in single or
double quotes, or in three of them if they have several lines, and escapes are for double quotes only.
-/

/-- The names that lead to a key. -/
abbrev KeyPath := List String

/-- A blank or a tab. -/
def isGap (c : Char) : Bool := c == ' ' || c == '\t'

/-- Drop blanks and tabs off the front. -/
def skipGap (cs : List Char) : List Char := cs.dropWhile isGap

/-- Controls that may stand nowhere. -/
def isForbidden (c : Char) : Bool :=
  (c.toNat < 0x20 && c != '\t' && c != '\n' && c != '\r') || c.toNat == 0x7F

/-- Whether a text holds nothing that may stand nowhere. -/
def isSound : List Char → Bool
  | [] => true
  | '\r' :: rest => rest.head? == some '\n' && isSound rest
  | c :: rest => !isForbidden c && isSound rest

/-- What follows the line break at the front, if there is one. -/
def newline? : List Char → Option (List Char)
  | '\n' :: rest => some rest
  | '\r' :: '\n' :: rest => some rest
  | _ => none

/-- What follows a comment at the front, if there is one: the end of its line. -/
def skipComment (cs : List Char) : List Char :=
  if cs.head? = some '#' then cs.dropWhile (fun c => c != '\n' && c != '\r') else cs

/-- What follows a line of which nothing is left but perhaps a comment. -/
def endLine? (cs : List Char) : Option (List Char) :=
  let rest := skipComment (skipGap cs)
  if rest.isEmpty then some [] else newline? rest

/-- Drop gaps, line breaks and comments off the front. -/
def skipLines : Nat → List Char → List Char
  | 0, cs => cs
  | fuel + 1, cs =>
    let rest := skipComment (skipGap cs)
    match newline? rest with
    | some rest => skipLines fuel rest
    | none => rest

/-- Drop gaps, line breaks and comments off the front. -/
def skipped (cs : List Char) : List Char := skipLines (cs.length + 1) cs

/-! ### Strings -/

/-- The character whose number some hexadecimal digits write. -/
def hexChar? (digits : List Char) : Option Char := do
  let n ← Integer.hexNumber? digits
  if n.isValidChar then some (Char.ofNat n) else none

/-- The character that a letter behind a backslash stands for. -/
def escaped? (c : Char) : Option Char :=
  match c with
  | 'b' => some (Char.ofNat 8)
  | 't' => some '\t'
  | 'n' => some '\n'
  | 'f' => some (Char.ofNat 12)
  | 'r' => some '\r'
  | 'e' => some (Char.ofNat 27)
  | '"' => some '"'
  | '\\' => some '\\'
  | _ => none

/-- An escape behind its backslash, and what follows it. -/
def escape? (cs : List Char) : Option (Char × List Char) :=
  let numbered (width : Nat) (rest : List Char) : Option (Char × List Char) :=
    if rest.length < width then none
    else (hexChar? (rest.take width)).map fun c => (c, rest.drop width)
  match cs with
  | 'u' :: rest => numbered 4 rest
  | 'U' :: rest => numbered 8 rest
  | c :: rest => (escaped? c).map fun c => (c, rest)
  | [] => none

/-- A text up to its closing double quote, read so far backwards. -/
def basicFrom : Nat → List Char → List Char → Option (String × List Char)
  | 0, _, _ => none
  | _ + 1, _, [] => none
  | fuel + 1, soFar, c :: rest =>
    if c = '"' then some (String.ofList soFar.reverse, rest)
    else if c = '\\' then
      match escape? rest with
      | some (char, rest) => basicFrom fuel (char :: soFar) rest
      | none => none
    else if (newline? (c :: rest)).isSome then none
    else basicFrom fuel (c :: soFar) rest

/-- A text up to its closing single quote. -/
def literal? (cs : List Char) : Option (String × List Char) :=
  let text := cs.takeWhile (fun c => c != '\'')
  match cs.drop text.length with
  | _ :: rest => if text.contains '\n' then none else some (String.ofList text, rest)
  | [] => none

/-- How many quotes are at the front. -/
def quoteRun (quote : Char) (cs : List Char) : Nat := (cs.takeWhile (fun c => c == quote)).length

/-- A text of several lines up to three closing quotes, read so far backwards.  Two more quotes in front
of these belong to the text, and a backslash at the end of a line takes all gaps and line breaks behind
it away. -/
def multilineFrom (quote : Char) : Nat → List Char → List Char → Option (String × List Char)
  | 0, _, _ => none
  | _ + 1, _, [] => none
  | fuel + 1, soFar, c :: rest =>
    if c = quote then
      let run := quoteRun quote (c :: rest)
      if 5 < run then none
      else if 3 ≤ run then
        some (String.ofList (List.replicate (run - 3) quote ++ soFar).reverse, (c :: rest).drop run)
      else multilineFrom quote fuel (c :: soFar) rest
    else if c = '\\' ∧ quote = '"' then
      match newline? (skipGap rest) with
      | some rest =>
        multilineFrom quote fuel soFar (rest.dropWhile (fun d => isGap d || d == '\n' || d == '\r'))
      | none =>
        match escape? rest with
        | some (char, rest) => multilineFrom quote fuel (char :: soFar) rest
        | none => none
    else multilineFrom quote fuel (c :: soFar) rest

/-- A text behind an opening quote of either kind, or behind three of them if that is allowed. -/
def string? (manyLines : Bool) (quote : Char) (cs : List Char) : Option (String × List Char) :=
  if manyLines && cs.take 2 == [quote, quote] then
    let body := cs.drop 2
    multilineFrom quote (body.length + 1) [] ((newline? body).getD body)
  else if quote = '"' then basicFrom (cs.length + 1) [] cs
  else literal? cs

/-! ### Keys -/

/-- Characters of a key without quotes. -/
def isKeyChar (c : Char) : Bool := c.isAlphanum || c == '-' || c == '_'

/-- One name of a key. -/
def keyPart? (cs : List Char) : Option (String × List Char) :=
  match cs with
  | '"' :: rest => string? false '"' rest
  | '\'' :: rest => string? false '\'' rest
  | cs =>
    let name := cs.takeWhile isKeyChar
    if name.isEmpty then none else some (String.ofList name, cs.drop name.length)

/-- The names of a key, with points between them. -/
def keyPath? : Nat → List Char → Option (KeyPath × List Char)
  | 0, _ => none
  | fuel + 1, cs =>
    match keyPart? cs with
    | none => none
    | some (name, rest) =>
      match skipGap rest with
      | '.' :: more =>
        match keyPath? fuel (skipGap more) with
        | some (names, rest) => some (name :: names, rest)
        | none => none
      | rest => some ([name], rest)

end CodeGauge.Toml
