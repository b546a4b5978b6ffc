/-
Module: CodeGauge.Command.Session
Purpose: What a command works with: its root directory and its settings.
Main exports:
  Command.Surroundings, Surroundings.root, Command.Session, Surroundings.readSettings, Command.prepare
-/
import CodeGauge.Analysis.Run
import CodeGauge.Command.Arguments
import CodeGauge.Settings.File
import CodeGauge.Text.Expand

namespace CodeGauge.Command

open CodeGauge.Settings CodeGauge.Analysis

/-!
A setting is taken from the first of these places that has it: the command line, the environment, the
settings file of the root directory, and the flag itself.  The root directory is the first operand; if
there is none, it is a setting too, but one that the file has no say in, because it is settled before the
file is looked for.
-/

/-- What a command finds around it. -/
structure Surroundings where
  /-- The environment. -/
  environment : List (String × String)
  /-- The directory from which paths start. -/
  directory : String
  /-- The analysers to use in place of those for the chosen extensions, if there are any. -/
  analysers : List Analyser
  /-- What an analysis needs to know. -/
  occasion : Occasion

/-- The value of a variable of the environment. -/
def Surroundings.variableValue (around : Surroundings) (name : String) : Option String :=
  (around.environment.find? (fun v => v.1 == name)).map Prod.snd

/-- The value of a variable of the environment; an empty one counts as none. -/
def Surroundings.lookupVariable (around : Surroundings) (name : String) : Option String :=
  (around.variableValue name).filter (fun value => !value.isEmpty)

/-- The variable that gives a flag its value. -/
def Flag.variableName (flag : Flag) : String :=
  "CQA_" ++ String.ofList (flag.name.toList.map fun c => if c = '-' then '_' else c.toUpper)

/-- The value of a flag, if a settings file has some entries. -/
def Surroundings.value (around : Surroundings) (arguments : Arguments) (fileEntries : Entries)
    (flag : Flag) : Value :=
  let fromVariable := (around.lookupVariable flag.variableName).map Value.text
  (((lookup? arguments.given flag.name).or fromVariable).or (lookup? fileEntries flag.name)).getD
    flag.initial

/-- The root directory, for which no settings file has been read. -/
def Surroundings.root (around : Surroundings) (arguments : Arguments) : String :=
  arguments.operands.headD (around.value arguments [] .path).toText

/-- What a command works with. -/
structure Session where
  around : Surroundings
  arguments : Arguments
  /-- The root directory. -/
  root : String
  /-- The path of the settings file, if there is one. -/
  fileName : Option String
  fileEntries : Entries

namespace Session

/-- The value of a flag. -/
def value (session : Session) (flag : Flag) : Value :=
  session.around.value session.arguments session.fileEntries flag

/-- A setting as a text. -/
def text (session : Session) (flag : Flag) : String := (session.value flag).toText

/-- A setting as the bytes of a text. -/
def bytes (session : Session) (flag : Flag) : Text.Bytes := (session.value flag).toBytes

/-- A setting as a whole number. -/
def whole (session : Session) (flag : Flag) : Int := (session.value flag).toInt

/-- A setting as a truth value. -/
def truth (session : Session) (flag : Flag) : Bool := (session.value flag).toBool

end Session

/-- The directory of the settings file for a root, in which variables are replaced by their values. -/
def Surroundings.settingsFolder (around : Surroundings) (root : String) : String :=
  Text.expand (fun name => (around.lookupVariable name).getD "") root

/-- The path of a settings file as it is shown: from the top of the file system on. -/
def Surroundings.shownPath (around : Surroundings) (folder name : String) : String :=
  if Path.isRooted folder then Path.join [folder, name]
  else Path.join [around.directory, folder, name]

/-- The first settings file of a directory: its name, its format and what it gives when it is read. -/
def settingsFile? (reading? : String → Option Reading) (folder : String) :
    Option (String × Format × Reading) :=
  fileNames.findSome? fun (name, format) =>
    (reading? (Path.join [folder, name])).map fun reading => (name, format, reading)

/-- The settings of what a file gives. -/
def readEntries (around : Surroundings) (format : Format) : Reading → Except Fault Entries
  | .notOpened cause | .broken cause => .error (.other cause)
  | .content bytes =>
    match read? around.variableValue format bytes with
    | none => .error (.malformed "the file does not have its format")
    | some entries => .ok entries

/-- The settings file of a root directory, if there is one: its path as it is shown, and its entries.  It is
a fault if the file is there and cannot be read. -/
def Surroundings.readSettings (around : Surroundings) (reading? : String → Option Reading)
    (root : String) : Except Fault (Option (String × Entries)) :=
  let folder := around.settingsFolder root
  match if root.isEmpty then none else settingsFile? reading? folder with
  | none => .ok none
  | some (name, format, reading) =>
    match readEntries around format reading with
    | .error fault => .error (.within "read config file" fault)
    | .ok entries => .ok (some (around.shownPath folder name, entries))

/-- Read the arguments of a command, settle its root directory, and read the settings file of this
directory. -/
def prepare (around : Surroundings) (reading? : String → Option Reading) (command : Command)
    (arguments : List String) : Except Fault Session :=
  match readArguments command.flags arguments with
  | .error mistake => .error mistake.fault
  | .ok arguments =>
    let root := around.root arguments
    match around.readSettings reading? root with
    | .error fault => .error fault
    | .ok file => .ok ⟨around, arguments, root, file.map Prod.fst, (file.map Prod.snd).getD []⟩

end CodeGauge.Command
