/-
Module: CodeGauge.Command.Arguments
Purpose: Reading the arguments of a command.
Main exports:
  Command.Arguments, Command.Mistake, Command.readArguments
-/
import CodeGauge.Command.Flag
import CodeGauge.Fault
import CodeGauge.Text.Utf8

namespace CodeGauge.Command

open CodeGauge.Text CodeGauge.Settings CodeGauge.Number

/-!
An argument that begins with two dashes is a flag, whose value follows an equals sign or is the next
argument; a flag for a truth value never takes the next argument.  Flags and other arguments may be
mixed; two dashes alone end the flags.  There are no flags of one letter but the one for help.
-/

/-- What the arguments say. -/
structure Arguments where
  /-- The flags that are given, in order; of a flag that is given twice the last value counts. -/
  given : Entries
  /-- The other arguments. -/
  operands : List String
deriving DecidableEq, Repr, Inhabited

/-- What is wrong with arguments. -/
inductive Mistake where
  | badSyntax (argument : String)
  | unknownFlag (name : String)
  /-- A letter that is no flag: the first byte behind the dash, and all that is behind the dash. -/
  | unknownLetter (letter : Char) (letters : String)
  | missingValue (argument : String)
  | notWhole (value name : String) (cause : Integer.Fault)
  | notTruth (value name : String)
  /-- Help is asked for, which ends the reading like a mistake. -/
  | help
deriving DecidableEq, Repr, Inhabited

/-- A character between single quotes. -/
def quotedLetter (c : Char) : String :=
  let inside := if c = '\'' then ['\\', '\''] else if c = '"' then ['"'] else quotedChar c
  String.ofList ('\'' :: (inside ++ ['\'']))

/-- Why a text is no whole number, in words. -/
def wholeReason : Integer.Fault → String
  | .malformed => "invalid syntax"
  | .outOfRange => "value out of range"

/-- What a refusal of a flag's value says. -/
def invalidValue (value name reader reason : String) : String :=
  "invalid argument " ++ quoted value ++ " for " ++ quoted ("--" ++ name) ++ " flag: " ++ reader
    ++ ": parsing " ++ quoted value ++ ": " ++ reason

/-- The fault that a mistake is. -/
def Mistake.fault : Mistake → Fault
  | .badSyntax argument => .other ("bad flag syntax: " ++ argument)
  | .unknownFlag name => .other ("unknown flag: --" ++ name)
  | .unknownLetter letter letters =>
      .other ("unknown shorthand flag: " ++ quotedLetter letter ++ " in -" ++ letters)
  | .missingValue argument => .other ("flag needs an argument: " ++ argument)
  | .notWhole value name cause =>
      .other (invalidValue value name "strconv.ParseInt" (wholeReason cause))
  | .notTruth value name => .other (invalidValue value name "strconv.ParseBool" "invalid syntax")
  | .help => .helpRequested

/-- The value of a flag that is given as a text. -/
def Flag.read (flag : Flag) (value : String) : Except Mistake Value :=
  match flag.kind with
  | .text _ => .ok (.text value)
  | .whole _ =>
    match Integer.read value with
    | .ok number => .ok (.whole number)
    | .error cause => .error (.notWhole value flag.name cause)
  | .truth _ =>
    match truth? value with
    | some truth => .ok (.truth truth)
    | none => .error (.notTruth value flag.name)

/-- The name and, behind an equals sign, the value in the text of a flag. -/
def splitFlag (text : List Char) : String × Option String :=
  let name := text.takeWhile (fun c => c != '=')
  let value :=
    match text.drop name.length with
    | [] => none
    | _ :: value => some (String.ofList value)
  (String.ofList name, value)

/-- Add the value of a flag. -/
def Arguments.give (arguments : Arguments) (flag : Flag) (value : String) : Except Mistake Arguments :=
  match flag.read value with
  | .ok value => .ok { arguments with given := arguments.given ++ [(flag.name, value)] }
  | .error mistake => .error mistake

/-- Add arguments that are no flags. -/
def Arguments.leave (arguments : Arguments) (operands : List String) : Arguments :=
  { arguments with operands := arguments.operands ++ operands }

/-- The mistake in an argument that begins with a single dash, if it is one.  Letters that begin a
setting of a test run are let pass. -/
def letterMistake? (letters : List Char) : Option Mistake :=
  if "test.".toList.isPrefixOf letters then none
  else
    match Utf8.encode (String.ofList (letters.take 1)) with
    | [] => none
    | byte :: _ =>
      if byte = 104 then some .help
      else some (.unknownLetter (Char.ofNat byte.toNat) (String.ofList letters))

/-- What an argument is. -/
inductive Word where
  /-- The end of the flags. -/
  | stop
  | operand
  | mistake (mistake : Mistake)
  /-- Something to pass over. -/
  | nothing
  /-- A flag with its value. -/
  | value (flag : Flag) (value : String)
  /-- A flag whose value is the next argument. -/
  | flag (flag : Flag)
deriving DecidableEq, Repr, Inhabited

/-- What an argument is to a command that has some flags. -/
def classify (flags : List Flag) (argument : String) : Word :=
  match argument.toList with
  | ['-', '-'] => .stop
  | '-' :: '-' :: text =>
    if text.head? = some '-' ∨ text.head? = some '=' then .mistake (.badSyntax argument)
    else
      let (name, value?) := splitFlag text
      match flags.find? (fun flag => flag.name == name) with
      | none => .mistake (if name = "help" then .help else .unknownFlag name)
      | some flag =>
        match value?, flag.kind with
        | some value, _ => .value flag value
        | none, .truth _ => .value flag "true"
        | none, _ => .flag flag
  | '-' :: letter :: letters =>
    match letterMistake? (letter :: letters) with
    | some mistake => .mistake mistake
    | none => .nothing
  | _ => .operand

/-- Read arguments behind those read so far; `awaiting` is a flag that waits for its value, with the
argument that named it. -/
def readFrom (flags : List Flag) : Option (Flag × String) → Arguments → List String →
    Except Mistake Arguments
  | none, soFar, [] => .ok soFar
  | some (_, argument), _, [] => .error (.missingValue argument)
  | some (flag, _), soFar, value :: rest =>
    match soFar.give flag value with
    | .error mistake => .error mistake
    | .ok soFar => readFrom flags none soFar rest
  | none, soFar, argument :: rest =>
    match classify flags argument with
    | .stop => .ok (soFar.leave rest)
    | .operand => readFrom flags none (soFar.leave [argument]) rest
    | .mistake mistake => .error mistake
    | .nothing => readFrom flags none soFar rest
    | .flag flag => readFrom flags (some (flag, argument)) soFar rest
    | .value flag value =>
      match soFar.give flag value with
      | .error mistake => .error mistake
      | .ok soFar => readFrom flags none soFar rest

/-- Read the arguments of a command that has some flags. -/
def readArguments (flags : List Flag) (arguments : List String) : Except Mistake Arguments :=
  readFrom flags none ⟨[], []⟩ arguments

end CodeGauge.Command
