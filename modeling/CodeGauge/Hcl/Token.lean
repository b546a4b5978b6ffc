/-
Module: CodeGauge.Hcl.Token
Purpose: The tokens of HCL.
Main exports:
  Hcl.Literal, Hcl.Token, Hcl.number?, Hcl.tokens?
-/
import CodeGauge.Hcl.Text

namespace CodeGauge.Hcl

open CodeGauge.Text CodeGauge.Number

/-!
Blanks and comments divide tokens and are none themselves.  A number is kept as it is written, because
only its use decides what it is read as; what follows the mark of an exponent belongs to the number even
if it is no digit.
-/

/-- A value that is a single token. -/
inductive Literal where
  /-- A string. -/
  | text (value : Bytes)
  /-- A block of lines. -/
  | lines (value : Bytes)
  /-- A number without a point or an exponent. -/
  | whole (written : List Char)
  /-- A number with one. -/
  | fraction (written : List Char)
  | truth (value : Bool)
deriving DecidableEq, Repr, Inhabited

/-- The tokens. -/
inductive Token where
  | name (value : Bytes)
  | literal (value : Literal)
  | openBrace
  | closeBrace
  | openBracket
  | closeBracket
  | comma
  | equals
  | colon
  /-- An end of the text with more behind it. -/
  | stop
  /-- A sign that has no use. -/
  | sign
  /-- Something that is no token. -/
  | fault
deriving DecidableEq, Repr, Inhabited

/-- The blanks between tokens. -/
def isGap (c : Char) : Bool := c == ' ' || c == '\t' || c == '\n' || c == '\r'

/-! ### Numbers -/

/-- What belongs to an exponent behind its mark, and the rest.  A character that is no digit belongs to
it where the first digit should be. -/
def exponent (cs : List Char) : List Char × List Char :=
  let sign := cs.take (if cs.head? = some '-' ∨ cs.head? = some '+' then 1 else 0)
  let behind := cs.drop sign.length
  let digits := behind.takeWhile Char.isDigit
  if digits.isEmpty then (sign ++ behind.take 1, behind.drop 1)
  else (sign ++ digits, behind.drop digits.length)

/-- A number of which the whole part is known, and the rest. -/
def withFraction (whole : List Char) (cs : List Char) : Literal × List Char :=
  match cs with
  | [] => (.whole whole, [])
  | c :: rest =>
    if c = 'e' ∨ c = 'E' then
      let (power, rest) := exponent rest
      (.fraction (whole ++ c :: power), rest)
    else if c = '.' then
      let digits := rest.takeWhile Char.isDigit
      let fraction := whole ++ c :: digits
      match rest.drop digits.length with
      | [] => (.fraction fraction, [])
      | e :: behind =>
        if e = 'e' ∨ e = 'E' then
          let (power, rest) := exponent behind
          (.fraction (fraction ++ e :: power), rest)
        else (.fraction fraction, e :: behind)
    else (.whole whole, c :: rest)

/-- A number that begins with a zero, given what follows it, and the rest.  In base 8 only the digit
behind the zero may be an eight or a nine, as far as tokens go. -/
def zeroNumber? (front : List Char) (cs : List Char) : Option (Literal × List Char) :=
  match cs with
  | mark :: rest =>
    if mark = 'x' ∨ mark = 'X' then
      let digits := rest.takeWhile (fun c => (Integer.hexValue? c).isSome)
      if digits.isEmpty then none
      else some (.whole (front ++ mark :: digits), rest.drop digits.length)
    else
      let digits := cs.takeWhile Char.isDigit
      match withFraction (front ++ digits) (cs.drop digits.length) with
      | (.whole written, rest) =>
        if (digits.drop 1).any (fun c => c == '8' || c == '9') then none
        else some (.whole written, rest)
      | found => some found
  | [] => some (.whole front, [])

/-- The number at the front of a text that begins with a digit, and the rest; `sign` stands before it. -/
def number? (sign : List Char) (cs : List Char) : Option (Literal × List Char) :=
  match cs with
  | '0' :: rest => zeroNumber? (sign ++ ['0']) rest
  | cs =>
    let digits := cs.takeWhile Char.isDigit
    some (withFraction (sign ++ digits) (cs.drop digits.length))

/-- The number behind a point, if there is one, and the rest. -/
def pointNumber? (cs : List Char) : Option (Literal × List Char) :=
  let digits := cs.takeWhile Char.isDigit
  let rest := cs.drop digits.length
  let mark := rest.take (if rest.head? = some 'e' ∨ rest.head? = some 'E' then 1 else 0)
  if digits.isEmpty then none else some (.fraction ('.' :: digits ++ mark), rest.drop mark.length)

/-! ### All tokens -/

/-- What follows a comment that ends with a star and a slash. -/
def afterComment? : List Char → Option (List Char)
  | [] => none
  | '*' :: '/' :: rest => some rest
  | _ :: rest => afterComment? rest

/-- The signs that are tokens by themselves. -/
def signToken? (c : Char) : Option Token :=
  match c with
  | '[' => some .openBracket
  | ']' => some .closeBracket
  | '\x7b' => some .openBrace
  | '\x7d' => some .closeBrace
  | ',' => some .comma
  | _ => none

/-- The characters that a name may go on with. -/
def isNameChar (c : Char) : Bool := isLetterOrDigit c || c == '-' || c == '.'

/-- A name; two of them are truth values. -/
def nameToken (name : List Char) : Token :=
  if name = "true".toList then .literal (.truth true)
  else if name = "false".toList then .literal (.truth false)
  else .name (name.flatMap Utf8.encodeChar)

/-- What stands at the front of a text, a token or a comment, and the rest. -/
def front? (c : Char) (rest : List Char) : Option (Option Token × List Char) :=
  let literal (found : Literal × List Char) : Option Token × List Char :=
    (some (.literal found.1), found.2)
  if c = '_' ∨ isLetter c then
    let name := (c :: rest).takeWhile isNameChar
    some (some (nameToken name), (c :: rest).drop name.length)
  else if c.isDigit then (number? [] (c :: rest)).map literal
  else if c = '"' then (quoted? rest).map fun (value, rest) => literal (.text value, rest)
  else if c = '#' then some (none, rest.dropWhile (fun c => c != '\n'))
  else if c = '/' then
    match rest with
    | '/' :: rest => some (none, rest.dropWhile (fun c => c != '\n'))
    | '*' :: rest => (afterComment? rest).map fun rest => (none, rest)
    | _ => none
  else if c = '<' then
    match rest with
    | '<' :: rest => (block? rest).map fun (block, rest) => literal (.lines block.text, rest)
    | _ => none
  else if c = '=' then some (some .equals, rest)
  else if c = '.' then some (((pointNumber? rest).map literal).getD (some .sign, rest))
  else if c = '+' then some (some .sign, rest)
  else if c = '-' then
    if rest.head?.any Char.isDigit then (number? ['-'] rest).map literal else some (some .sign, rest)
  else (signToken? c).map fun token => (some token, rest)

/-- The tokens of a text, at most `fuel` of them and their gaps. -/
def tokensFrom? : Nat → List Char → Option (List Token)
  | _, [] => some []
  | 0, _ => none
  | fuel + 1, c :: rest =>
    if isGap c then tokensFrom? fuel rest
    else do
      let (token, rest) ← front? c rest
      some (token.toList ++ (← tokensFrom? fuel rest))

/-- A text with line feeds in place of the pairs of a carriage return and a line feed. -/
def withLineFeeds : List Char → List Char
  | '\r' :: '\n' :: rest => '\n' :: withLineFeeds rest
  | c :: rest => c :: withLineFeeds rest
  | [] => []

/-- The characters that no text holds: the null character, and one that is put to private use. -/
def isForbidden (c : Char) : Bool := c.toNat == 0 || c.toNat == 0xE123

/-- The tokens of a text, or nothing if something in it is no token. -/
def tokens? (text : List Char) : Option (List Token) :=
  if text.any isForbidden then none
  else
    let text := withLineFeeds text
    tokensFrom? (text.length + 1) text

end CodeGauge.Hcl
