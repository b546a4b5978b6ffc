/-
Module: CodeGauge.Fault
Purpose: Why a command fails.
Main exports:
  Fault, Fault.cause, Fault.message
-/

namespace CodeGauge

/-!
A fault has a cause and any number of layers around it that say what was being done.  The message
names the layers from the outside in and then the cause.
-/

/-- Why a command fails. -/
inductive Fault where
  /-- The command was told to stop. -/
  | cancelled
  /-- A root directory has no file to analyse. -/
  | noSourceFiles (root : String)
  /-- No report has been saved yet. -/
  | noReport
  /-- A function is more complex than allowed. -/
  | overThreshold (highest limit : Int)
  /-- The user asked for help. -/
  | helpRequested
  /-- A text does not have the form that it should have. -/
  | malformed (detail : String)
  /-- Anything that needs no name of its own. -/
  | other (text : String)
  /-- A fault that came up while something was done. -/
  | within (doing : String) (fault : Fault)
deriving DecidableEq, Repr, Inhabited

namespace Fault

/-- What is left of a fault when all layers are taken off. -/
def cause : Fault → Fault
  | .within _ fault => fault.cause
  | fault => fault

/-- The fault in words. -/
def message : Fault → String
  | .cancelled => "context canceled"
  | .noSourceFiles root => "no source files found under " ++ root
  | .noReport => "no saved report, run analyze first"
  | .overThreshold highest limit =>
      "complexity threshold exceeded: max complexity " ++ toString highest ++ " > " ++ toString limit
  | .helpRequested => "help requested"
  | .malformed detail => detail
  | .other text => text
  | .within doing fault => doing ++ ": " ++ fault.message

end Fault

end CodeGauge
