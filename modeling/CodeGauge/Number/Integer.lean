/-
Module: CodeGauge.Number.Integer
Purpose: Reading whole numbers that may have a base mark, and telling why a text is none.
Main exports:
  Integer.Fault, Integer.hexNumber?, Integer.readUnsigned, Integer.read, Integer.separatesDigits
-/

namespace CodeGauge.Number.Integer

/-!
A whole number is written in base ten, or in base 2, 8 or 16 behind a mark: `0b`, `0o`, `0x`, or a lone
leading zero for base 8.  Underscores may separate digits from each other and from the mark.  Digits
are read from the left, and the first fault met is the one that is told; that a number is too large is
told as soon as its digits so far are.
-/

/-- Why a text is not a whole number. -/
inductive Fault where
  | malformed
  | outOfRange
deriving DecidableEq, Repr, Inhabited

/-- The value of a digit or letter. -/
def digitValue? (c : Char) : Option Nat :=
  if '0' ≤ c ∧ c ≤ '9' then some (c.toNat - 48)
  else if 'a' ≤ c ∧ c ≤ 'z' then some (c.toNat - 87)
  else if 'A' ≤ c ∧ c ≤ 'Z' then some (c.toNat - 55)
  else none

/-- The value of a hexadecimal digit. -/
def hexValue? (c : Char) : Option Nat := (digitValue? c).filter (· < 16)

/-- The number that some hexadecimal digits spell. -/
def hexNumber? (digits : List Char) : Option Nat :=
  digits.foldlM (fun n c => (hexValue? c).map (fun d => n * 16 + d)) 0

/-- What stood last in a run of digits and underscores. -/
inductive Last where
  | start
  | digit
  | underscore
  | other
deriving DecidableEq, Repr, Inhabited

/-- Whether every underscore from here on stands between digits. -/
def underscoresFit (hex : Bool) : Last → List Char → Bool
  | last, [] => last != .underscore
  | last, c :: rest =>
      if c.isDigit || (hex && (digitValue? c).any (· < 16)) then underscoresFit hex .digit rest
      else if c == '_' then last == .digit && underscoresFit hex .underscore rest
      else last != .underscore && underscoresFit hex .other rest

/-- Drop a sign off the front. -/
def unsigned : List Char → List Char
  | '-' :: rest => rest
  | '+' :: rest => rest
  | cs => cs

/-- Whether every underscore of a number stands between digits, where a base mark counts as one. -/
def separatesDigits (cs : List Char) : Bool :=
  match unsigned cs with
  | '0' :: mark :: rest =>
      if mark = 'x' ∨ mark = 'X' then underscoresFit true .digit rest
      else if mark = 'b' ∨ mark = 'B' ∨ mark = 'o' ∨ mark = 'O' then underscoresFit false .digit rest
      else underscoresFit false .start ('0' :: mark :: rest)
  | other => underscoresFit false .start other

/-- The base that a number is written in, and its digits. -/
def baseOf : List Char → Nat × List Char
  | '0' :: mark :: digit :: rest =>
      if mark = 'b' ∨ mark = 'B' then (2, digit :: rest)
      else if mark = 'o' ∨ mark = 'O' then (8, digit :: rest)
      else if mark = 'x' ∨ mark = 'X' then (16, digit :: rest)
      else (8, mark :: digit :: rest)
  | '0' :: rest => (8, rest)
  | cs => (10, cs)

/-- The first number that does not fit 64 bits. -/
def unsignedLimit : Nat := 0x10000000000000000

/-- The first number that does not fit a signed word of 64 bits. -/
def signedLimit : Nat := 0x8000000000000000

/-- Read digits of a base behind the value read so far, passing over underscores. -/
def readDigits (base : Nat) : Nat → List Char → Except Fault Nat
  | value, [] => .ok value
  | value, c :: rest =>
      if c = '_' then readDigits base value rest
      else
        match digitValue? c with
        | none => .error .malformed
        | some digit =>
            if base ≤ digit then .error .malformed
            else if unsignedLimit ≤ value * base + digit then .error .outOfRange
            else readDigits base (value * base + digit) rest

/-- Read a number without a sign that fits 64 bits. -/
def readUnsigned (cs : List Char) : Except Fault Nat :=
  if cs.isEmpty then .error .malformed
  else
    let (base, digits) := baseOf cs
    match readDigits base 0 digits with
    | .ok value => if cs.contains '_' && !separatesDigits cs then .error .malformed else .ok value
    | .error fault => .error fault

/-- The number of a sign and a magnitude, if it fits a signed word of 64 bits. -/
def withSign (isNegative : Bool) (magnitude : Nat) : Except Fault Int :=
  if isNegative then
    if signedLimit < magnitude then .error .outOfRange else .ok (-(magnitude : Int))
  else if signedLimit ≤ magnitude then .error .outOfRange
  else .ok magnitude

/-- Read a number with or without a sign that fits a signed word of 64 bits. -/
def read (s : String) : Except Fault Int :=
  match readUnsigned (unsigned s.toList) with
  | .error fault => .error fault
  | .ok magnitude => withSign (s.toList.head? = some '-') magnitude

/-- Read a number with or without a sign in a given base, without marks and underscores, that fits a
signed word of 64 bits. -/
def readInBase (base : Nat) (cs : List Char) : Except Fault Int :=
  let digits := unsigned cs
  if digits.isEmpty || digits.contains '_' then .error .malformed
  else
    match readDigits base 0 digits with
    | .error fault => .error fault
    | .ok magnitude => withSign (cs.head? = some '-') magnitude

end CodeGauge.Number.Integer
