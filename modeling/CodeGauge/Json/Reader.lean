/-
Module: CodeGauge.Json.Reader
Purpose: Reading the first JSON value of a text.
Main exports:
  Json.Reading, Json.readFirst, Json.readAll?
-/
import CodeGauge.Json.Basic
import CodeGauge.Number.Integer

namespace CodeGauge.Json

open CodeGauge.Number.Integer (hexValue?)

/-!
A reader takes one value off the front of a text.  It tells apart a text that ends before the value
does from a text in which a character is wrong; of two faults the first one in the text decides.
Strings may hold any character from the space on; a surrogate that is not half of a pair reads as
the replacement character.  Arrays and objects may be nested ten thousand deep.
-/

/-- What reading something off the front of a text gives. -/
inductive Reading (α : Type) where
  /-- The value, and the text behind it. -/
  | found (value : α) (rest : List Char)
  /-- The text ends inside the value. -/
  | cut
  /-- A character of the text is wrong. -/
  | wrong
deriving Repr, Inhabited

/-- Go on with what was read. -/
def Reading.andThen {α β : Type} (r : Reading α) (next : α → List Char → Reading β) : Reading β :=
  match r with
  | .found value rest => next value rest
  | .cut => .cut
  | .wrong => .wrong

/-- The four white space characters of JSON. -/
def isSpace (c : Char) : Bool :=
  c == ' ' || c == '\t' || c == '\n' || c == '\r'

/-- Drop white space off the front. -/
def skip (cs : List Char) : List Char := cs.dropWhile isSpace

/-- Take a fixed word off the front. -/
def readWord {α : Type} (value : α) : List Char → List Char → Reading α
  | [], rest => .found value rest
  | _ :: _, [] => .cut
  | c :: word, d :: rest => if c = d then readWord value word rest else .wrong

/-! ### Strings -/

/-- Read `count` hexadecimal digits behind those read so far. -/
def readHex (soFar : Nat) : Nat → List Char → Reading Nat
  | 0, rest => .found soFar rest
  | _ + 1, [] => .cut
  | count + 1, c :: rest =>
    match hexValue? c with
    | some v => readHex (soFar * 16 + v) count rest
    | none => .wrong

/-- The character that an escape letter other than `u` stands for. -/
def escapeValue? (c : Char) : Option Char :=
  if c = '"' ∨ c = '\\' ∨ c = '/' then some c
  else if c = 'b' then some (Char.ofNat 8)
  else if c = 'f' then some (Char.ofNat 12)
  else if c = 'n' then some '\n'
  else if c = 'r' then some '\r'
  else if c = 't' then some '\t'
  else none

/-- The units of a string: whole characters, and code units of escapes that are still to be
paired. -/
inductive Piece where
  | char (c : Char)
  | unit (n : Nat)
deriving DecidableEq, Repr, Inhabited

/-- Read the rest of a string up to its closing quote. -/
def readPieces (soFar : List Piece) : List Char → Reading (List Piece)
  | [] => .cut
  | '"' :: rest => .found soFar.reverse rest
  | ['\\'] => .cut
  | '\\' :: 'u' :: a :: b :: c :: d :: rest =>
    match readHex 0 4 [a, b, c, d] with
    | .found n _ => readPieces (.unit n :: soFar) rest
    | _ => .wrong
  | '\\' :: 'u' :: few =>
    match readHex 0 4 few with
    | .wrong => .wrong
    | _ => .cut
  | '\\' :: e :: rest =>
    match escapeValue? e with
    | some c => readPieces (.char c :: soFar) rest
    | none => .wrong
  | c :: rest => if c.toNat < 32 then .wrong else readPieces (.char c :: soFar) rest

/-- The characters of a string: a leading unit and a trailing unit that follows it make one
character, any other surrogate the replacement character. -/
def joinPieces : List Piece → List Char
  | [] => []
  | .char c :: rest => c :: joinPieces rest
  | .unit n :: rest =>
      if n < 0xD800 ∨ 0xDFFF < n then Char.ofNat n :: joinPieces rest
      else
        match rest with
        | .unit m :: rest' =>
            if n ≤ 0xDBFF ∧ 0xDC00 ≤ m ∧ m ≤ 0xDFFF then
              Char.ofNat (0x10000 + (n - 0xD800) * 0x400 + (m - 0xDC00)) :: joinPieces rest'
            else Char.ofNat 0xFFFD :: joinPieces (.unit m :: rest')
        | other => Char.ofNat 0xFFFD :: joinPieces other
termination_by pieces => pieces.length

/-- Read a name behind its opening quote. -/
def readName (cs : List Char) : Reading String :=
  (readPieces [] cs).andThen fun pieces rest => .found (String.ofList (joinPieces pieces)) rest

/-- Whether the number of a character is given that is not written so. -/
def Piece.isNeedless : Piece → Bool
  | .char _ => false
  | .unit n => escapeChar (Char.ofNat n) != unitEscape n

/-- The value of a string with some pieces. -/
def ofPieces (pieces : List Piece) : Json :=
  let text := String.ofList (joinPieces pieces)
  if pieces.any Piece.isNeedless then .spelled text else .string text

/-! ### Numbers -/

/-- Read at least one digit. -/
def readDigits : List Char → Reading (List Char)
  | [] => .cut
  | c :: rest =>
      if c.isDigit then .found ((c :: rest).takeWhile Char.isDigit) ((c :: rest).dropWhile Char.isDigit)
      else .wrong

/-- Read the whole part: a lone zero, or digits that begin with another one. -/
def readWhole : List Char → Reading (List Char)
  | '0' :: rest => .found ['0'] rest
  | cs => readDigits cs

/-- Read a fraction if there is a point. -/
def readFraction : List Char → Reading (List Char)
  | '.' :: rest => (readDigits rest).andThen fun digits rest => .found ('.' :: digits) rest
  | cs => .found [] cs

/-- Read an exponent if there is a mark for one. -/
def readExponent : List Char → Reading (List Char)
  | e :: rest =>
      if e = 'e' ∨ e = 'E' then
        match rest with
        | sign :: rest' =>
            if sign = '+' ∨ sign = '-' then
              (readDigits rest').andThen fun digits rest => .found (e :: sign :: digits) rest
            else (readDigits rest).andThen fun digits rest => .found (e :: digits) rest
        | [] => .cut
      else .found [] (e :: rest)
  | [] => .found [] []

/-- Read a number; its text is its value. -/
def readNumber (cs : List Char) : Reading String :=
  let (sign, unsigned) := match cs with
    | '-' :: rest => (['-'], rest)
    | other => ([], other)
  (readWhole unsigned).andThen fun whole rest =>
    (readFraction rest).andThen fun fraction rest =>
      (readExponent rest).andThen fun exponent rest =>
        .found (String.ofList (sign ++ whole ++ fraction ++ exponent)) rest

/-! ### Values -/

/-- How deep arrays and objects may be nested. -/
def maxDepth : Nat := 10000

mutual
/-- Read a value behind white space.  The first argument bounds the number of steps, the second one
counts the levels that may still be opened. -/
def readValue : Nat → Nat → List Char → Reading Json
  | 0, _, _ => .wrong
  | fuel + 1, room, cs =>
    match skip cs with
    | [] => .cut
    | '{' :: rest =>
        match room with
        | 0 => .wrong
        | room + 1 =>
          match skip rest with
          | [] => .cut
          | '}' :: rest => .found (.object []) rest
          | cs => (readFields fuel room [] cs).andThen fun fields rest => .found (.object fields) rest
    | '[' :: rest =>
        match room with
        | 0 => .wrong
        | room + 1 =>
          match skip rest with
          | [] => .cut
          | ']' :: rest => .found (.array []) rest
          | cs => (readItems fuel room [] cs).andThen fun items rest => .found (.array items) rest
    | '"' :: rest => (readPieces [] rest).andThen fun pieces rest => .found (ofPieces pieces) rest
    | 't' :: rest => readWord (.bool true) ['r', 'u', 'e'] rest
    | 'f' :: rest => readWord (.bool false) ['a', 'l', 's', 'e'] rest
    | 'n' :: rest => readWord .null ['u', 'l', 'l'] rest
    | c :: rest =>
        if c = '-' ∨ c.isDigit then
          (readNumber (c :: rest)).andThen fun literal rest => .found (.number literal) rest
        else .wrong

/-- Read the items of an array up to its end. -/
def readItems : Nat → Nat → List Json → List Char → Reading (List Json)
  | 0, _, _, _ => .wrong
  | fuel + 1, room, soFar, cs =>
    (readValue fuel room cs).andThen fun item rest =>
      match skip rest with
      | [] => .cut
      | ',' :: rest => readItems fuel room (item :: soFar) rest
      | ']' :: rest => .found (item :: soFar).reverse rest
      | _ => .wrong

/-- Read the fields of an object up to its end. -/
def readFields : Nat → Nat → List (String × Json) → List Char → Reading (List (String × Json))
  | 0, _, _, _ => .wrong
  | fuel + 1, room, soFar, cs =>
    match skip cs with
    | [] => .cut
    | '"' :: rest =>
      (readName rest).andThen fun name rest =>
        match skip rest with
        | [] => .cut
        | ':' :: rest =>
          (readValue fuel room rest).andThen fun value rest =>
            match skip rest with
            | [] => .cut
            | ',' :: rest => readFields fuel room ((name, value) :: soFar) rest
            | '}' :: rest => .found ((name, value) :: soFar).reverse rest
            | _ => .wrong
        | _ => .wrong
    | _ => .wrong
end

/-- Read the first value of a text.  Every step takes a character, so twice the length of the text
is enough steps. -/
def readFirst (cs : List Char) : Reading Json :=
  readValue (2 * cs.length + 2) maxDepth cs

/-- The only value of a text, if there is nothing but white space behind it. -/
def readAll? (cs : List Char) : Option Json :=
  match readFirst cs with
  | .found value rest => if (skip rest).isEmpty then some value else none
  | _ => none

end CodeGauge.Json
