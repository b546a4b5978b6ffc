/-
Module: CodeGauge.Database.Pragma
Purpose: Statements that set up a connection.
Main exports:
  Database.Pragma.Token, Database.Pragma.tokens, Database.Pragma.check
-/
import CodeGauge.Database.Obstacle
import CodeGauge.Number.Integer
import CodeGauge.Text.Bytes

namespace CodeGauge.Database.Pragma

open CodeGauge.Text CodeGauge.Number

/-!
A statement names a property of the connection, perhaps with the database that it is of, and may give it
a value: `name`, `name = value` or `name(value)`.  Properties that are not known are passed over, so
all that can go wrong is the form of the statement and the name of the database.  The first word or sign
that does not fit is the one that is complained about.
-/

/-! ### Words and signs -/

/-- What a word or a sign is. -/
inductive Kind where
  /-- A name, also one between quotes. -/
  | name
  /-- A word that names nothing. -/
  | keyword
  /-- A text between single quotes. -/
  | text
  | number
  | plus
  | minus
  | equals
  | opening
  | closing
  | point
  | semicolon
  /-- A word or sign of other statements. -/
  | other
  /-- What is no word and no sign. -/
  | illegal
deriving DecidableEq, Repr, Inhabited

/-- A word or a sign as it is written. -/
structure Token where
  kind : Kind
  written : Bytes
deriving DecidableEq, Repr, Inhabited

/-- Words that name nothing. -/
def keywords : List String :=
  ["add", "all", "alter", "and", "as", "autoincrement", "between", "case", "check", "collate", "commit",
   "constraint", "create", "default", "deferrable", "delete", "distinct", "drop", "else", "escape",
   "except", "exists", "foreign", "from", "group", "having", "in", "index", "insert", "intersect",
   "into", "is", "isnull", "join", "limit", "not", "nothing", "notnull", "null", "on", "or", "order",
   "primary", "references", "returning", "select", "set", "table", "then", "to", "transaction", "union",
   "unique", "update", "using", "values", "when", "where"]

/-- Keywords that are values all the same. -/
def valueKeywords : List String := ["on", "delete", "default"]

/-- An ASCII text in lower case. -/
def lowerWord (bytes : Bytes) : String := String.ofList (bytes.map fun b => (Char.ofNat b.toNat).toLower)

/-- Whether a byte is a decimal digit. -/
def isDigitByte (b : UInt8) : Bool := ascii '0' ≤ b && b ≤ ascii '9'

/-- Whether a byte can begin a name. -/
def isNameStart (b : UInt8) : Bool :=
  0x80 ≤ b || (Char.ofNat b.toNat).isAlpha || b == ascii '_'

/-- Whether a byte can stand in a name. -/
def isNameByte (b : UInt8) : Bool := isNameStart b || isDigitByte b || b == ascii '$'

/-- Whether a byte is white space. -/
def isSpace (b : UInt8) : Bool := isOneOf " \t\n\r\x0c" b

/-- How many bytes a text takes up to the quote that ends it; a doubled quote does not. -/
def quotedSize? (quote : UInt8) : Bytes → Option Nat
  | [] => none
  | b :: rest =>
    if b = quote then
      match rest with
      | next :: behind => if next = quote then (quotedSize? quote behind).map (· + 2) else some 1
      | [] => some 1
    else (quotedSize? quote rest).map (· + 1)

/-- Whether a byte is a hexadecimal digit. -/
def isHexByte (b : UInt8) : Bool := (Integer.hexValue? (Char.ofNat b.toNat)).isSome

/-- What follows the fraction at the front of some bytes, if there is one. -/
def afterFraction : Bytes → Bytes
  | [] => []
  | b :: rest => if b = ascii '.' then rest.dropWhile isDigitByte else b :: rest

/-- What follows the exponent at the front of some bytes, if there is one. -/
def afterExponent : Bytes → Bytes
  | [] => []
  | b :: rest =>
    let digits := if rest.head?.any (isOneOf "+-") then rest.drop 1 else rest
    if isOneOf "eE" b && digits.head?.any isDigitByte then digits.dropWhile isDigitByte
    else b :: rest

/-- What follows the number at the front of some bytes. -/
def afterNumber (bytes : Bytes) : Bytes :=
  let digits := bytes.drop 2
  if bytes.head? == some (ascii '0') && (bytes.drop 1).head?.any (isOneOf "xX")
      && digits.head?.any isHexByte then digits.dropWhile isHexByte
  else afterExponent (afterFraction (bytes.dropWhile isDigitByte))

/-- How many bytes of a name that begins with a sign stand at the front.  Brackets may stand behind it. -/
def variableSize (bytes : Bytes) : Nat :=
  let size := (bytes.takeWhile isNameByte).length
  match bytes.drop size with
  | b :: rest =>
    let inside := rest.takeWhile (fun b => !isSpace b && b != ascii ')')
    if 0 < size && b = ascii '(' && (rest.drop inside.length).head? == some (ascii ')') then
      size + inside.length + 2
    else size
  | [] => size

/-- A sign of one byte. -/
def signKind (b : UInt8) : Kind :=
  if b = ascii '+' then .plus
  else if b = ascii '-' then .minus
  else if b = ascii '=' then .equals
  else if b = ascii '(' then .opening
  else if b = ascii ')' then .closing
  else if b = ascii ';' then .semicolon
  else if b = ascii '.' then .point
  else if isOneOf "*/%<>|,&~" b then .other
  else .illegal

/-- The signs of two characters that are not the same as one. -/
def longSigns : List String := ["!=", "<=", "<>", ">=", "<<", ">>", "||", "->"]

/-- The kind of what stands at the front and the number of its bytes behind the first one. -/
def front (b : UInt8) (rest : Bytes) : Kind × Nat :=
  if isOneOf "xX" b && rest.head? == some (ascii '\'') then
    let inside := (rest.drop 1).takeWhile isHexByte
    let isClosed := ((rest.drop 1).drop inside.length).head? == some (ascii '\'')
    if isClosed && inside.length % 2 = 0 then (.other, inside.length + 2)
    else
      let size := ((rest.drop 1).takeWhile (· != ascii '\'')).length + 1
      (.illegal, min rest.length (size + 1))
  else if isNameStart b then
    let size := (rest.takeWhile isNameByte).length
    let word := lowerWord (b :: rest.take size)
    (if keywords.contains word then .keyword else .name, size)
  else if isDigitByte b || (b == ascii '.' && rest.head?.any isDigitByte) then
    let behind := afterNumber (b :: rest)
    let excess := (behind.takeWhile isNameByte).length
    (if excess = 0 then .number else .illegal, rest.length - behind.length + excess)
  else if isOneOf "'\"\x60" b then
    match quotedSize? b rest with
    | some size => (if b = ascii '\'' then .text else .name, size)
    | none => (.illegal, rest.length)
  else if b = ascii '[' then
    if rest.contains (ascii ']') then (.name, (rest.takeWhile (· != ascii ']')).length + 1)
    else (.illegal, rest.length)
  else if isOneOf "$@:#" b then
    let size := variableSize rest
    (if size = 0 then .illegal else .other, size)
  else if b = ascii '?' then (.other, (rest.takeWhile isDigitByte).length)
  else if b = ascii '=' && rest.head? == some (ascii '=') then (.equals, 1)
  else if longSigns.contains (Utf8.decodeText (b :: rest.take 1)) then (.other, 1)
  else (signKind b, 0)

/-- The bytes behind a comment. -/
def afterComment (bytes : Bytes) : Bytes :=
  if (Utf8.encode "--").isPrefixOf bytes then bytes.dropWhile (· != ascii '\n')
  else
    match findBytes? (Utf8.encode "*/") (bytes.drop 2) with
    | some (_, behind) => behind
    | none => []

/-- Whether a comment begins. -/
def isComment (bytes : Bytes) : Bool :=
  (Utf8.encode "--").isPrefixOf bytes || ((Utf8.encode "/*").isPrefixOf bytes && 2 < bytes.length)

/-- The words and signs of a text.  At most `fuel` steps are taken. -/
def tokensFrom : Nat → Bytes → List Token
  | 0, _ => []
  | _, [] => []
  | fuel + 1, b :: rest =>
    if isSpace b then tokensFrom fuel rest
    else if isComment (b :: rest) then tokensFrom fuel (afterComment (b :: rest))
    else
      let (kind, size) := front b rest
      ⟨kind, b :: rest.take size⟩ :: tokensFrom fuel (rest.drop size)

/-- The words and signs of a text. -/
def tokens (text : Bytes) : List Token := tokensFrom text.length text

/-! ### Form -/

/-- What may come next. -/
inductive Expected where
  /-- The name of a property or of the database that it is of. -/
  | name
  | afterName (name : Bytes)
  /-- The name of a property of a database. -/
  | property
  | afterProperty
  | value (inBrackets : Bool)
  | signedNumber (inBrackets : Bool)
  | closing
  | ending
  /-- The word that begins a statement. -/
  | statement
deriving DecidableEq, Repr, Inhabited

/-- Whether a statement may end here. -/
def Expected.mayEnd : Expected → Bool
  | .afterName _ | .afterProperty | .ending | .statement => true
  | _ => false

/-- How far a statement has been read. -/
structure Progress where
  expected : Expected
  /-- The database that the statement is about, if it names one. -/
  database : Option Bytes
deriving DecidableEq, Repr, Inhabited

/-- The complaint about what does not fit. -/
def complaint (token : Token) : Obstacle :=
  if token.kind = .illegal then
    .statement ("unrecognized token: \"" ++ Utf8.decodeText token.written ++ "\"")
  else .statement ("near \"" ++ Utf8.decodeText token.written ++ "\": syntax error")

/-- What may come behind a value. -/
def afterValue (inBrackets : Bool) : Expected := if inBrackets then .closing else .ending

/-- Whether a database of the given name is connected. -/
def isConnected (name : Bytes) : Bool := ["main", "temp"].contains (lowerWord name)

/-- What may come behind a word or a sign, if that one fits. -/
def advance? (expected : Expected) (token : Token) : Option Expected :=
  match expected with
  | .name =>
    match token.kind with
    | .name | .text => some (.afterName token.written)
    | _ => none
  | .property =>
    match token.kind with
    | .name | .text => some .afterProperty
    | _ => none
  | .afterName _ =>
    match token.kind with
    | .point => some .property
    | .equals => some (.value false)
    | .opening => some (.value true)
    | _ => none
  | .afterProperty =>
    match token.kind with
    | .equals => some (.value false)
    | .opening => some (.value true)
    | _ => none
  | .value inBrackets =>
    match token.kind with
    | .name | .text | .number => some (afterValue inBrackets)
    | .plus | .minus => some (.signedNumber inBrackets)
    | .keyword =>
        if valueKeywords.contains (lowerWord token.written) then some (afterValue inBrackets) else none
    | _ => none
  | .signedNumber inBrackets => if token.kind = .number then some (afterValue inBrackets) else none
  | .closing => if token.kind = .closing then some .ending else none
  | .ending => none
  | .statement => if lowerWord token.written = "pragma" then some .name else none

/-- The end of a statement. -/
def Progress.finish (progress : Progress) : Except Obstacle Unit :=
  match progress.database with
  | some name =>
      if isConnected name then .ok ()
      else .error (.statement ("unknown database " ++ Utf8.decodeText name))
  | none => .ok ()

/-- Read a word or a sign. -/
def Progress.read (progress : Progress) (token : Token) : Except Obstacle Progress :=
  if token.kind = .semicolon ∧ progress.expected.mayEnd then
    progress.finish.map fun _ => ⟨.statement, none⟩
  else
    match progress.expected, advance? progress.expected token with
    | .afterName name, some .property => .ok ⟨.property, some name⟩
    | _, some expected => .ok ⟨expected, progress.database⟩
    | _, none => .error (complaint token)

/-- What is wrong with a statement that sets a property. -/
def check (property : Bytes) : Except Obstacle Unit := do
  let last ← (tokens property).foldlM Progress.read ⟨.name, none⟩
  if last.expected.mayEnd then last.finish else throw (.statement "incomplete input")

end CodeGauge.Database.Pragma
