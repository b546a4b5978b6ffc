/-
Module: CodeGauge.Database.Query
Purpose: Options in the name of a database.
Main exports:
  Database.Query, Database.Query.read, Database.Query.values, Database.Query.first?
-/
import CodeGauge.Database.Obstacle
import CodeGauge.Number.Integer
import CodeGauge.Text.Bytes
import CodeGauge.Text.Split

namespace CodeGauge.Database

open CodeGauge.Text CodeGauge.Number

/-!
Options stand one after another with ampersands between them, each with a name, an equals sign and a
value.  A plus sign stands for a blank, and a percent sign and two hexadecimal digits for the byte of
that number.
-/

/-- Options with their values, in the order in which they stand. -/
abbrev Query := List (Bytes × Bytes)

/-- The byte that two hexadecimal digits spell. -/
def hexByte? (high low : UInt8) : Option UInt8 := do
  let h ← Integer.hexValue? (Char.ofNat high.toNat)
  let l ← Integer.hexValue? (Char.ofNat low.toNat)
  pure (UInt8.ofNat (16 * h + l))

/-- The bytes that a part of an option stands for. -/
def unescape : Bytes → Except Obstacle Bytes
  | [] => .ok []
  | b :: rest =>
    if b = ascii '%' then
      match rest with
      | high :: low :: behind =>
        match hexByte? high low with
        | some byte => (unescape behind).map (byte :: ·)
        | none => .error (.badEscape [b, high, low])
      | short => .error (.badEscape (b :: short))
    else (unescape rest).map ((if b = ascii '+' then ascii ' ' else b) :: ·)

/-- The part in front of the first occurrence of an ASCII character, and the part behind it. -/
def cutAt (c : Char) (bytes : Bytes) : Bytes × Bytes :=
  (bytes.takeWhile (· != ascii c), (bytes.dropWhile (· != ascii c)).drop 1)

/-- One option. -/
def readOption (part : Bytes) : Except Obstacle (Bytes × Bytes) := do
  let (name, value) := cutAt '=' part
  let name ← unescape name
  let value ← unescape value
  pure (name, value)

namespace Query

/-- The options of a text.  A semicolon anywhere is the obstacle that counts, and else the first one. -/
def read (text : Bytes) : Except Obstacle Query :=
  if text.contains (ascii ';') then .error .semicolon
  else ((split (ascii '&') text).filter (fun part => !part.isEmpty)).mapM readOption

/-- All values of an option. -/
def values (query : Query) (name : String) : List Bytes :=
  (query.filter (fun option => option.1 == Utf8.encode name)).map Prod.snd

/-- The first value of an option, if it is not empty. -/
def first? (query : Query) (name : String) : Option Bytes :=
  (query.values name).head?.filter (fun value => !value.isEmpty)

end Query

end CodeGauge.Database
