/-
Module: CodeGauge.Time.Timestamp
Purpose: Instants with a zone offset, and their texts.
Main exports:
  Nanos, Timestamp, Timestamp.write, Timestamp.writePrecise, Timestamp.describe, Timestamp.read?,
  Timestamp.sortText, Timestamp.readSortText?
-/
import CodeGauge.Time.Civil

namespace CodeGauge.Time

/-!
A report carries the instant at which it was made, to the nanosecond, and the zone offset it was
written with.  Texts follow RFC 3339.  The run history keeps a text of its own, always in UTC and of
fixed width, so that texts of years 0 to 9999 order as their instants do.
-/

/-- Nanoseconds within a second. -/
abbrev Nanos := Fin 1000000000

/-- What a number of nanoseconds has beyond whole seconds. -/
def Nanos.ofNat (n : Nat) : Nanos := Fin.ofNat 1000000000 n

/-- An instant as seconds since the start of 1970 in UTC and nanoseconds within the second, with a
zone offset in seconds east of UTC. -/
structure Timestamp where
  seconds : Int
  nanos : Nanos
  offset : Int
deriving DecidableEq, Repr

namespace Timestamp

/-- The first instant of the year one, which stands for "no time". -/
def zero : Timestamp := ⟨-62135596800, 0, 0⟩

instance : Inhabited Timestamp := ⟨zero⟩

/-- Whether the instant is the first one of the year one. -/
def isZero (t : Timestamp) : Bool := t.seconds == zero.seconds && t.nanos == 0

/-- The instant a number of nanoseconds, perhaps negative or more than a second, after a number of
seconds since the start of 1970. -/
def ofUnix (seconds nanos : Int) : Timestamp :=
  ⟨seconds + nanos.fdiv 1000000000, Nanos.ofNat (nanos.fmod 1000000000).toNat, 0⟩

/-- The same instant with offset zero. -/
def toUtc (t : Timestamp) : Timestamp := { t with offset := 0 }

/-! ### Writing -/

/-- A natural number in at least `width` digits. -/
def padded (width n : Nat) : List Char :=
  let digits := Nat.toDigits 10 n
  List.replicate (width - digits.length) '0' ++ digits

/-- A year in at least four digits, behind a minus sign if it is negative. -/
def yearText (year : Int) : List Char :=
  if year < 0 then '-' :: padded 4 year.natAbs else padded 4 year.natAbs

/-- The local calendar date. -/
def date (t : Timestamp) : Date := Date.ofDayNumber ((t.seconds + t.offset).fdiv 86400)

/-- The local second of the day. -/
def secondOfDay (t : Timestamp) : Nat := ((t.seconds + t.offset).fmod 86400).toNat

/-- Date and time of day, to the second. -/
def dateTimeText (t : Timestamp) : List Char :=
  let d := t.date
  let s := t.secondOfDay
  yearText d.year ++ '-' :: padded 2 d.month ++ '-' :: padded 2 d.day ++ 'T' :: padded 2 (s / 3600)
    ++ ':' :: padded 2 (s / 60 % 60) ++ ':' :: padded 2 (s % 60)

/-- The offset: `Z` for none, else a sign, hours and minutes. -/
def offsetText (t : Timestamp) : List Char :=
  if t.offset = 0 then ['Z']
  else
    let minutes := t.offset.tdiv 60
    (if minutes < 0 then '-' else '+') :: padded 2 (minutes.natAbs / 60)
      ++ ':' :: padded 2 (minutes.natAbs % 60)

/-- Nine digits of nanoseconds without the zeros at the end, behind a point; nothing for a whole
second. -/
def fractionText (nanos : Nat) : List Char :=
  if nanos = 0 then []
  else '.' :: ((padded 9 nanos).reverse.dropWhile (fun c => c == '0')).reverse

/-- The text to the second. -/
def write (t : Timestamp) : String :=
  String.ofList (t.dateTimeText ++ t.offsetText)

/-- The text with as many fraction digits as the instant needs. -/
def writePrecise (t : Timestamp) : String :=
  String.ofList (t.dateTimeText ++ fractionText t.nanos ++ t.offsetText)

/-- The text by which the run history orders instants: UTC, and always nine fraction digits. -/
def sortText (t : Timestamp) : String :=
  String.ofList (t.toUtc.dateTimeText ++ '.' :: padded 9 t.nanos ++ ['Z'])

/-- The offset as a sign, hours and minutes. -/
def plainOffsetText (t : Timestamp) : List Char :=
  let minutes := t.offset.tdiv 60
  (if minutes < 0 then '-' else '+') :: padded 2 (minutes.natAbs / 60)
    ++ padded 2 (minutes.natAbs % 60)

/-- The text in four words: date, time of day, offset, and the name of the zone, which is the offset
again unless that is none. -/
def describe (t : Timestamp) : String :=
  let moment := t.dateTimeText.map (fun c => if c = 'T' then ' ' else c)
  let zone := if t.offset = 0 then "UTC".toList else t.plainOffsetText
  String.ofList (moment ++ fractionText t.nanos ++ ' ' :: t.plainOffsetText ++ ' ' :: zone)

/-! ### Reading -/

/-- The value of decimal digits. -/
def digitsValue (cs : List Char) : Nat :=
  cs.foldl (fun n c => n * 10 + (c.toNat - 48)) 0

/-- Exactly `count` digits at the start, and what follows them. -/
def digits? (count : Nat) (cs : List Char) : Option (Nat × List Char) :=
  let front := cs.take count
  if front.length = count ∧ front.all Char.isDigit then some (digitsValue front, cs.drop count)
  else none

/-- The given character at the start, and what follows it. -/
def expect? (c : Char) : List Char → Option (List Char)
  | d :: rest => if c = d then some rest else none
  | [] => none

/-- An hour of two digits, or of one where no second digit follows. -/
def hour? (cs : List Char) : Option (Nat × List Char) :=
  match digits? 2 cs with
  | some found => some found
  | none => digits? 1 cs

/-- A fraction of a second behind a point or a comma, of which nine digits count; nothing is
consumed if there is none. -/
def fraction (cs : List Char) : Nat × List Char :=
  match cs with
  | mark :: d :: rest =>
      if (mark == '.' || mark == ',') && d.isDigit then
        let run := (d :: rest).takeWhile Char.isDigit
        let kept := run.take 9
        (digitsValue kept * Nat.pow 10 (9 - kept.length), (d :: rest).dropWhile Char.isDigit)
      else (0, cs)
  | _ => (0, cs)

/-- The offset at the end of a text, in seconds. -/
def offset? (cs : List Char) : Option Int :=
  match cs with
  | ['Z'] => some 0
  | sign :: rest => do
      let (hours, rest) ← digits? 2 rest
      let rest ← expect? ':' rest
      let (minutes, rest) ← digits? 2 rest
      if rest.isEmpty && hours ≤ 24 && minutes ≤ 60 then
        let seconds : Int := (hours * 60 + minutes) * 60
        if sign = '+' then some seconds else if sign = '-' then some (-seconds) else none
      else none
  | [] => none

/-- A local date and time, checked against the calendar, as seconds since the start of 1970. -/
def localSeconds? (year month day hour minute second : Nat) : Option Int :=
  if 1 ≤ month ∧ month ≤ 12 ∧ 1 ≤ day ∧ day ≤ daysInMonth year month
      ∧ hour < 24 ∧ minute < 60 ∧ second < 60 then
    some (Date.dayNumber ⟨year, month, day⟩ * 86400 + (hour * 3600 + minute * 60 + second : Nat))
  else none

/-- Date and time of day at the start of a text: the fields, and what follows them. -/
def dateTime? (cs : List Char) : Option (Int × List Char) := do
  let (year, cs) ← digits? 4 cs
  let cs ← expect? '-' cs
  let (month, cs) ← digits? 2 cs
  let cs ← expect? '-' cs
  let (day, cs) ← digits? 2 cs
  let cs ← expect? 'T' cs
  let (hour, cs) ← hour? cs
  let cs ← expect? ':' cs
  let (minute, cs) ← digits? 2 cs
  let cs ← expect? ':' cs
  let (second, cs) ← digits? 2 cs
  let seconds ← localSeconds? year month day hour minute second
  pure (seconds, cs)

/-- Read a text with an offset and perhaps a fraction. -/
def read? (s : String) : Option Timestamp := do
  let (seconds, cs) ← dateTime? s.toList
  let (nanos, cs) := fraction cs
  let offset ← offset? cs
  pure ⟨seconds - offset, Nanos.ofNat nanos, offset⟩

/-- Read a text that the run history keeps. -/
def readSortText? (s : String) : Option Timestamp := do
  let (seconds, cs) ← dateTime? s.toList
  let cs ← expect? '.' cs
  let (nanos, cs) ← digits? 9 cs
  if cs = ['Z'] then pure ⟨seconds, Nanos.ofNat nanos, 0⟩ else none

/-! ### Limits of the strict text -/

/-- Whether the year can be written in four digits without a sign. -/
def hasPlainYear (t : Timestamp) : Bool := 0 ≤ t.date.year && t.date.year ≤ 9999

/-- Whether the offset has less than 24 hours. -/
def hasPlainOffset (t : Timestamp) : Bool := t.offset.natAbs / 3600 < 24

end Timestamp

end CodeGauge.Time
