/-
Module: CodeGauge.Text.Expand
Purpose: Variables in a text, replaced by their values.
Main exports:
  Text.Mention, Text.mention, Text.expand, Text.mentions
-/

namespace CodeGauge.Text

/-!
A dollar sign and a name stand for the value of the variable of that name.  The name is one special
character, or a run of letters, digits and underscores, or whatever stands between braces.  Braces with
nothing in them are dropped, and so is one that is never closed; a dollar sign in front of anything
else stands for itself.
-/

/-- What a dollar sign may be followed by. -/
inductive Mention where
  /-- A variable, and what follows its name. -/
  | named (name : String) (rest : List Char)
  /-- Braces without a name, and what follows them. -/
  | dropped (rest : List Char)
  /-- Nothing that concerns the dollar sign. -/
  | absent
deriving DecidableEq, Repr, Inhabited

/-- The characters that are a name each. -/
def specialNames : List Char := "*#$@!?-0123456789".toList

/-- The characters of longer names. -/
def isNameChar (c : Char) : Bool := c.isAlphanum || c == '_'

/-- What follows a dollar sign. -/
def mention : List Char → Mention
  | [] => .absent
  | c :: rest =>
    if c = '\x7b' then
      let inside := rest.takeWhile (fun d => d != '\x7d')
      match rest.drop inside.length with
      | [] => .dropped rest
      | _ :: after => if inside.isEmpty then .dropped after else .named (String.ofList inside) after
    else if specialNames.contains c then .named (String.singleton c) rest
    else
      let name := (c :: rest).takeWhile isNameChar
      if name.isEmpty then .absent
      else .named (String.ofList name) ((c :: rest).drop name.length)

/-- Replace the variables of a text; `fuel` bounds the number of steps. -/
def expandFrom (value : String → String) : Nat → List Char → List Char
  | 0, cs => cs
  | _ + 1, [] => []
  | fuel + 1, c :: rest =>
    if c = '$' then
      match mention rest with
      | .named name rest => (value name).toList ++ expandFrom value fuel rest
      | .dropped rest => expandFrom value fuel rest
      | .absent => c :: expandFrom value fuel rest
    else c :: expandFrom value fuel rest

/-- Replace the variables of a text by their values.  Every step consumes a character. -/
def expand (value : String → String) (text : String) : String :=
  String.ofList (expandFrom value (text.length + 1) text.toList)

/-- The names of the variables of a text; `fuel` bounds the number of steps. -/
def mentionsFrom : Nat → List Char → List String
  | 0, _ => []
  | _ + 1, [] => []
  | fuel + 1, c :: rest =>
    if c = '$' then
      match mention rest with
      | .named name rest => name :: mentionsFrom fuel rest
      | .dropped rest => mentionsFrom fuel rest
      | .absent => mentionsFrom fuel rest
    else mentionsFrom fuel rest

/-- The names of the variables of a text, on which alone its expansion depends. -/
def mentions (text : String) : List String := mentionsFrom (text.length + 1) text.toList

end CodeGauge.Text
