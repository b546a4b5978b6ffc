/-
Module: CodeGauge.Toml.Scalar
Purpose: The numbers, dates and times of TOML.
Main exports:
  Toml.Scalar, Toml.whole?, Toml.number?, Toml.time?, Toml.word?
-/
import CodeGauge.Number.Decimal
import CodeGauge.Text.Split
import CodeGauge.Time.Timestamp
import CodeGauge.Toml.Text

namespace CodeGauge.Toml

open CodeGauge.Number CodeGauge.Time

/-!
Underscores may stand between the digits of a number, and no zero in front of others.  A date and a time
of day stand together with a `T` or a blank between them.  With an offset they are an instant, which
shows as one; without it they show as written, but for the `T` and for a fraction of at most nine digits.
-/

/-- A value that is no string, list or table. -/
inductive Scalar where
  | whole (value : Int)
  | number (value : Binary64)
  /-- A date, a time of day or both, without an offset, as it is shown. -/
  | moment (shown : String)
  | instant (value : Timestamp)
deriving DecidableEq, Repr, Inhabited

/-! ### Numbers -/

/-- Digits in groups between which single underscores stand. -/
def areDigits (isDigit : Char → Bool) (cs : List Char) : Bool :=
  (Text.split '_' cs).all fun group => !group.isEmpty && group.all isDigit

/-- A whole number without a sign, in base ten and without zeros in front. -/
def isPlainWhole (cs : List Char) : Bool :=
  areDigits Char.isDigit cs && (cs.length == 1 || cs.head? != some '0')

/-- A whole number, in base ten or behind the mark of another base. -/
def whole? (cs : List Char) : Option Int :=
  let isMarked : Bool :=
    match cs with
    | '0' :: 'x' :: digits => areDigits (fun c => (Integer.hexValue? c).isSome) digits
    | '0' :: 'o' :: digits => areDigits (fun c => '0' ≤ c && c ≤ '7') digits
    | '0' :: 'b' :: digits => areDigits (fun c => c == '0' || c == '1') digits
    | _ => false
  if isMarked || isPlainWhole (Integer.unsigned cs) then
    (Integer.read (String.ofList (cs.filter (fun c => c != '_')))).toOption
  else none

/-- A number with a fraction or an exponent, or a word for one without digits; it has to be in range. -/
def number? (cs : List Char) : Option Binary64 :=
  let digits := Integer.unsigned cs
  let isExponent (c : Char) : Bool := c == 'e' || c == 'E'
  let mantissa := digits.takeWhile (fun c => !isExponent c)
  let exponent := digits.drop mantissa.length
  let wholePart := mantissa.takeWhile (fun c => c != '.')
  let fraction := mantissa.drop wholePart.length
  let isRight := isPlainWhole wholePart
    && (fraction.isEmpty || areDigits Char.isDigit (fraction.drop 1))
    && (exponent.isEmpty || areDigits Char.isDigit (Integer.unsigned (exponent.drop 1)))
    && !(fraction.isEmpty && exponent.isEmpty)
  if String.ofList digits = "inf" then
    some (if cs.head? = some '-' then .negInfinity else .infinity)
  else if String.ofList digits = "nan" then some .nan
  else if isRight then
    (Binary64.read? (String.ofList (cs.filter (fun c => c != '_')))).filter Binary64.isFinite
  else none

/-! ### Dates and times -/

/-- A date as it is written, with its day number, and what follows it. -/
def date? (cs : List Char) : Option (Int × List Char) := do
  let (year, rest) ← Timestamp.digits? 4 cs
  let rest ← Timestamp.expect? '-' rest
  let (month, rest) ← Timestamp.digits? 2 rest
  let rest ← Timestamp.expect? '-' rest
  let (day, rest) ← Timestamp.digits? 2 rest
  if 1 ≤ month ∧ month ≤ 12 ∧ 1 ≤ day ∧ day ≤ daysInMonth year month then
    some (Date.dayNumber ⟨year, month, day⟩, rest)
  else none

/-- A time of day: its second, the digits of its fraction, of which nine count, and what follows it.  A
minute may have a leap second. -/
def clock? (cs : List Char) : Option (Nat × List Char × List Char) := do
  let (hour, rest) ← Timestamp.digits? 2 cs
  let rest ← Timestamp.expect? ':' rest
  let (minute, rest) ← Timestamp.digits? 2 rest
  let rest ← Timestamp.expect? ':' rest
  let (second, rest) ← Timestamp.digits? 2 rest
  if 23 < hour ∨ 59 < minute ∨ 60 < second then none
  else
    let seconds := (hour * 60 + minute) * 60 + second
    match rest with
    | '.' :: rest =>
      let digits := rest.takeWhile Char.isDigit
      if digits.isEmpty then none else some (seconds, digits.take 9, rest.drop digits.length)
    | rest => some (seconds, [], rest)

/-- An offset that makes up the whole of a text, in seconds. -/
def offset? (cs : List Char) : Option Int :=
  match cs with
  | ['Z'] | ['z'] => some 0
  | sign :: rest => do
    let (hours, rest) ← Timestamp.digits? 2 rest
    let rest ← Timestamp.expect? ':' rest
    let (minutes, rest) ← Timestamp.digits? 2 rest
    if !rest.isEmpty || 23 < hours || 59 < minutes then none
    else
      let seconds : Int := (hours * 60 + minutes) * 60
      if sign = '+' then some seconds else if sign = '-' then some (-seconds) else none
  | [] => none

/-- A time of day as it is shown. -/
def clockText (written fraction : List Char) : List Char :=
  written.take 8 ++ (if fraction.isEmpty then [] else '.' :: fraction)

/-- The date and time that a word is. -/
def dateTime? (cs : List Char) : Option Scalar := do
  let (day, rest) ← date? cs
  match rest with
  | [] => some (.moment (String.ofList cs))
  | mark :: clock =>
    if !(mark == 'T' || mark == 't' || mark == ' ') then none
    else
      let (second, fraction, rest) ← clock? clock
      if rest.isEmpty then
        some (.moment (String.ofList (cs.take 10 ++ 'T' :: clockText clock fraction)))
      else
        let offset ← offset? rest
        let nanos := Timestamp.digitsValue fraction * Nat.pow 10 (9 - fraction.length)
        some (.instant ⟨day * 86400 + second - offset, Nanos.ofNat nanos, offset⟩)

/-- The date, time of day or both that a word is. -/
def time? (cs : List Char) : Option Scalar :=
  match clock? cs with
  | some (_, fraction, rest) =>
    if rest.isEmpty then some (.moment (String.ofList (clockText cs fraction))) else none
  | none => dateTime? cs

/-- Whether a date or a time of day begins here: two digits and a colon, or four and a dash. -/
def beginsTime (cs : List Char) : Bool :=
  let digits := (cs.take 5).takeWhile Char.isDigit
  let behind := (cs.drop digits.length).head?
  (digits.length == 2 && behind == some ':') || (digits.length == 4 && behind == some '-')

/-- The characters of dates and times. -/
def isTimeChar (c : Char) : Bool :=
  c.isDigit || ['-', '+', ':', '.', 'T', 't', 'Z', 'z'].contains c

/-- The word of a date or time: its characters, and once a blank with a digit behind it. -/
def timeWord (cs : List Char) : List Char :=
  let word := cs.takeWhile isTimeChar
  match cs.drop word.length with
  | ' ' :: rest =>
    if rest.head?.any Char.isDigit then word ++ ' ' :: rest.takeWhile isTimeChar else word
  | _ => word

/-! ### Words -/

/-- A character that ends a number. -/
def endsWord (c : Char) : Bool := isGap c || [',', ']', '\x7d', '#', '\n', '\r'].contains c

/-- A number or a time at the front, and what follows it. -/
def word? (cs : List Char) : Option (Scalar × List Char) :=
  if beginsTime cs then
    let word := timeWord cs
    (time? word).map fun value => (value, cs.drop word.length)
  else
    let word := cs.takeWhile (fun c => !endsWord c)
    (((whole? word).map Scalar.whole).or ((number? word).map Scalar.number)).map fun value =>
      (value, cs.drop word.length)

end CodeGauge.Toml
