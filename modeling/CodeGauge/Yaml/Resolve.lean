/-
Module: CodeGauge.Yaml.Resolve
Purpose: What an unquoted YAML text stands for.
Main exports:
  Yaml.Resolved, Yaml.resolve, Yaml.readsAsText
-/
import CodeGauge.Number.Decimal
import CodeGauge.Number.Integer
import CodeGauge.Text.Split
import CodeGauge.Time.Timestamp

namespace CodeGauge.Yaml

open CodeGauge.Number CodeGauge.Time

/-!
An unquoted text may stand for nothing, a truth value, a number or a time.  Which of these is tried
depends on its first character.  Underscores in numbers are left out.  A writer that wants a text to
be read as a text must quote it in all these cases, and does so in two more that older readers take
for something else: the words for on and off, and numbers in base sixty.
-/

/-- What an unquoted text stands for. -/
inductive Resolved where
  | null
  | bool (value : Bool)
  | int (value : Int)
  | number (value : Binary64)
  | time (value : Timestamp)
  | text
deriving DecidableEq, Repr, Inhabited

/-- The words with a meaning of their own. -/
def words : List (String × Resolved) :=
  [("true", .bool true), ("True", .bool true), ("TRUE", .bool true),
   ("false", .bool false), ("False", .bool false), ("FALSE", .bool false),
   ("", .null), ("~", .null), ("null", .null), ("Null", .null), ("NULL", .null),
   (".nan", .number .nan), (".NaN", .number .nan), (".NAN", .number .nan),
   (".inf", .number .infinity), (".Inf", .number .infinity), (".INF", .number .infinity),
   ("+.inf", .number .infinity), ("+.Inf", .number .infinity), ("+.INF", .number .infinity),
   ("-.inf", .number .negInfinity), ("-.Inf", .number .negInfinity), ("-.INF", .number .negInfinity)]

/-! ### Times -/

/-- One or two digits at the start of a text, and what follows them. -/
def shortNumber? (cs : List Char) : Option (Nat × List Char) :=
  (Timestamp.digits? 2 cs).orElse fun _ => Timestamp.digits? 1 cs

/-- A date with months and days of one or two digits, and what follows it. -/
def date? (cs : List Char) : Option (Date × List Char) := do
  let (year, cs) ← Timestamp.digits? 4 cs
  let cs ← Timestamp.expect? '-' cs
  let (month, cs) ← shortNumber? cs
  let cs ← Timestamp.expect? '-' cs
  let (day, cs) ← shortNumber? cs
  pure (⟨year, month, day⟩, cs)

/-- A time of day with fields of one or two digits and perhaps a fraction: hour, minute, second,
nanoseconds, and what follows it. -/
def clock? (cs : List Char) : Option (Nat × Nat × Nat × Nat × List Char) := do
  let (hour, cs) ← shortNumber? cs
  let cs ← Timestamp.expect? ':' cs
  let (minute, cs) ← shortNumber? cs
  let cs ← Timestamp.expect? ':' cs
  let (second, cs) ← shortNumber? cs
  let (nanos, cs) := Timestamp.fraction cs
  pure (hour, minute, second, nanos, cs)

/-- The time of day and the zone behind a date: none of them, or behind a `T` both, or behind blanks a
time of day without a zone. -/
def clockAndZone? (cs : List Char) : Option (Nat × Nat × Nat × Nat × Int) :=
  match cs with
  | [] => some (0, 0, 0, 0, 0)
  | mark :: rest =>
      if mark = 'T' ∨ mark = 't' then do
        let (hour, minute, second, nanos, rest) ← clock? rest
        let offset ← Timestamp.offset? rest
        pure (hour, minute, second, nanos, offset)
      else if mark = ' ' then do
        let (hour, minute, second, nanos, rest) ← clock? (rest.dropWhile (fun c => c == ' '))
        if rest.isEmpty then pure (hour, minute, second, nanos, 0) else none
      else none

/-- The instant that a text stands for: a date, perhaps with a time of day. -/
def time? (cs : List Char) : Option Timestamp := do
  let (date, cs) ← date? cs
  let (hour, minute, second, nanos, offset) ← clockAndZone? cs
  let seconds ← Timestamp.localSeconds? date.year.toNat date.month date.day hour minute second
  pure ⟨seconds - offset, Nanos.ofNat nanos, offset⟩

/-! ### Numbers -/

/-- A whole number with a mark for base 2 or 8, whose sign stands behind the mark. -/
def marked? (cs : List Char) : Option Int :=
  match cs with
  | '0' :: 'b' :: number => (Integer.readInBase 2 number).toOption
  | '0' :: 'o' :: number => (Integer.readInBase 8 number).toOption
  | _ => none

/-- A decimal number that is finite. -/
def decimal? (cs : List Char) : Option Binary64 :=
  let digitsFirst := (Integer.unsigned cs).head?.any (fun c => c.isDigit || c == '.')
  if digitsFirst then (Binary64.read? (String.ofList cs)).filter Binary64.isFinite else none

/-- A text that begins with a digit or a sign, if it is no time. -/
def resolveDigits (s : String) : Resolved :=
  let plain := s.toList.filter (fun c => c != '_')
  match Integer.read (String.ofList plain) with
  | .ok value => .int value
  | .error _ =>
    match Integer.readUnsigned plain with
    | .ok value => .int value
    | .error _ =>
      match decimal? plain with
      | some value => .number value
      | none =>
        match marked? plain with
        | some value => .int value
        | none => .text

/-- A text that begins with a digit or a sign. -/
def resolveNumber (s : String) : Resolved :=
  match time? s.toList with
  | some time => .time time
  | none => resolveDigits s

/-- A text that begins with a point. -/
def resolvePoint (s : String) : Resolved :=
  if s.toList.contains '_' && !Integer.separatesDigits s.toList then .text
  else
    match decimal? (s.toList.filter (fun c => c != '_')) with
    | some value => .number value
    | none => .text

/-- What an unquoted text stands for. -/
def resolve (s : String) : Resolved :=
  match words.find? (fun entry => entry.1 == s) with
  | some (_, meaning) => meaning
  | none =>
    match s.toList with
    | [] => .null
    | c :: _ =>
        if c.isDigit || c == '+' || c == '-' then resolveNumber s
        else if c == '.' then resolvePoint s
        else .text

/-! ### What older readers resolve -/

/-- The words for on and off. -/
def oldWords : List String :=
  ["y", "Y", "yes", "Yes", "YES", "on", "On", "ON", "n", "N", "no", "No", "NO", "off", "Off", "OFF"]

/-- A place of a number in base sixty: one digit, or two below sixty. -/
def isSixtieth (place : List Char) : Bool :=
  match place with
  | [d] => d.isDigit
  | [t, d] => '0' ≤ t && t ≤ '5' && d.isDigit
  | _ => false

/-- A digit or an underscore. -/
def isDigitOrUnderscore (c : Char) : Bool := c.isDigit || c == '_'

/-- A number in base sixty: a place that begins with a digit, more places behind colons, and perhaps a
fraction. -/
def isBaseSixty (s : String) : Bool :=
  let cs := Integer.unsigned s.toList
  let whole := cs.takeWhile (fun c => c != '.')
  let fraction := (cs.dropWhile (fun c => c != '.')).drop 1
  match Text.split ':' whole with
  | first :: place :: places =>
      first.head?.any Char.isDigit && first.all isDigitOrUnderscore
        && (place :: places).all isSixtieth && fraction.all isDigitOrUnderscore
  | _ => false

/-- Whether every reader takes the unquoted text for a text. -/
def readsAsText (s : String) : Bool :=
  resolve s == .text && !oldWords.contains s && !isBaseSixty s

end CodeGauge.Yaml
