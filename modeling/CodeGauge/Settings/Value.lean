/-
Module: CodeGauge.Settings.Value
Purpose: Values of settings, and reading each of them as a text, a whole number or a truth value.
Main exports:
  Settings.Value, Value.toText, Value.toInt, Value.toBool, Settings.Entries, Settings.truth?
-/
import CodeGauge.Number.Decimal
import CodeGauge.Number.Integer
import CodeGauge.Text.LowerCase
import CodeGauge.Text.Utf8

namespace CodeGauge.Settings

open CodeGauge.Number CodeGauge.Text

/-!
A setting is asked for as a text, a whole number or a truth value, and whatever value was given for it
is read as that.  A value that cannot be read so counts as empty, zero or false.
-/

/-- The value of a setting. -/
inductive Value where
  | text (value : String)
  /-- A text with bytes in it that spell no character. -/
  | bytes (value : Bytes)
  | whole (value : Int)
  | number (value : Binary64)
  | truth (value : Bool)
  /-- Something else, with the text that it is shown as; lists and tables show as nothing. -/
  | other (shown : String)
  /-- No value, which counts as if the name were not there. -/
  | nothing
deriving DecidableEq, Repr, Inhabited

/-- Names and values of settings. -/
abbrev Entries := List (String × Value)

/-- The truth value that a text stands for. -/
def truth? (text : String) : Option Bool :=
  if ["1", "t", "T", "TRUE", "true", "True"].contains text then some true
  else if ["0", "f", "F", "FALSE", "false", "False"].contains text then some false
  else none

/-- The characters before the last point behind which there are zeros and points only, given backwards;
nothing if there is no such point.  There has to be a zero behind it. -/
def beforeZeros? : Bool → List Char → Option (List Char)
  | _, [] => none
  | seenZero, c :: rest =>
    if c = '.' then if seenZero then some rest else beforeZeros? false rest
    else if c = '0' then beforeZeros? true rest
    else none

/-- A decimal number without its fraction, if that is nothing but zeros. -/
def withoutZeroFraction (text : String) : String :=
  match beforeZeros? false text.toList.reverse with
  | some whole => String.ofList whole.reverse
  | none => text

/-- The signed word of 64 bits that a whole number is congruent to. -/
def toWord (i : Int) : Int := (Int64.ofInt i).toInt

/-- The whole part of a number, or the least word if it is no word. -/
def wholePart (x : Binary64) : Int :=
  let magnitude : Int := (x.scaled / Binary64.unit : Nat)
  let signed := if x.isNegative then -magnitude else magnitude
  if x.isFinite && Int64.minValue.toInt ≤ signed && signed ≤ Int64.maxValue.toInt then signed
  else Int64.minValue.toInt

namespace Value

/-- The text of some bytes. -/
def ofBytes (bytes : Bytes) : Value :=
  let text := Utf8.decodeText bytes
  if Utf8.encode text = bytes then .text text else .bytes bytes

/-- A value as a text. -/
def toText : Value → String
  | .text value => value
  | .bytes value => Utf8.decodeText value
  | .whole value => toString value
  | .number value => value.write Binary64.plainStyle
  | .truth value => if value then "true" else "false"
  | .other shown => shown
  | .nothing => ""

/-- A value as the bytes of a text. -/
def toBytes : Value → Bytes
  | .bytes value => value
  | value => Utf8.encode value.toText

/-- A value as a whole number. -/
def toInt : Value → Int
  | .bytes _ => 0
  | .text value => (Integer.read (withoutZeroFraction value)).toOption.getD 0
  | .whole value => toWord value
  | .number value => wholePart value
  | .truth value => if value then 1 else 0
  | .other _ => 0
  | .nothing => 0

/-- A value as a truth value. -/
def toBool : Value → Bool
  | .bytes _ => false
  | .text value => (truth? value).getD false
  | .whole value => value != 0
  | .number value => value.magnitudeBits != 0
  | .truth value => value
  | .other _ => false
  | .nothing => false

end Value

/-- The value of a name, in which letter case does not matter.  A spelling with upper case goes before
the one without, and of one spelling the last value counts. -/
def lookup? (entries : Entries) (name : String) : Option Value :=
  let named := entries.filter (fun e => lower e.1 == lower name)
  let chosen := ((named.filter (fun e => e.1 != lower name)).getLast?).or named.getLast?
  match chosen with
  | none => none
  | some (_, .nothing) => none
  | some (_, value) => some value

end CodeGauge.Settings
