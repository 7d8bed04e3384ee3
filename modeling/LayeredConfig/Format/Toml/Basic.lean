import LayeredConfig.Format.Cursor
import LayeredConfig.Value.Render

set_option autoImplicit false

/-!
# The reader of TOML

What all parts of the reader share: the causes for which a text is not TOML, and the classes of
characters.

## Main definitions

* `Toml.Reason`, `Toml.Error` — why and where a text is not TOML.
* `Toml.Read` — an action of the reader.
-/

namespace LayeredConfig.Format.Toml

/-- A dotted key, by its parts. -/
abbrev Key := List String

/-- Why a text is not TOML. -/
inductive Reason where
  /-- No statement begins so. -/
  | badStatement
  /-- Something follows a statement on its line. -/
  | trailing
  /-- A text does not end with the delimiter that it needs. -/
  | unclosed (delimiter : String)
  /-- A control character stands in a comment or in a literal text. -/
  | strayCharacter (c : Char)
  /-- A control character stands in a basic text. -/
  | illegalCharacter (c : Char)
  /-- A basic text does not end. -/
  | openText
  /-- No escape begins so. -/
  | badEscape
  /-- Hexadecimal digits have to stand here. -/
  | badCode
  /-- The code of an escape is no character. -/
  | noCharacter
  /-- No part of a key begins so. -/
  | badKey
  /-- An equals sign has to follow the key. -/
  | expectedEquals
  /-- A table is declared twice. -/
  | declaredTwice (key : Key)
  /-- A table is declared that other keys have already filled. -/
  | redefined (key : Key)
  /-- An inline table or an array is extended. -/
  | immutable (key : Key)
  /-- A value is there already. -/
  | overwritten
  /-- A key stands twice in an inline table. -/
  | repeatedKey (name : String)
  /-- The name of a table is not closed. -/
  | openHeader
  /-- The name of an array of tables is not closed. -/
  | openArrayHeader
  /-- An array is not closed. -/
  | openArray
  /-- An inline table is not closed. -/
  | openTable
  /-- There is no such date. -/
  | badMoment
  /-- No value begins so. -/
  | badValue
deriving DecidableEq, Repr

/-- A key as messages show it. -/
def keyLiteral (key : Key) : String :=
  (Datum.tuple (key.map Datum.text)).literal

/-- A character as messages show it. -/
def charLiteral (c : Char) : String :=
  Text.quoted (String.singleton c)

/-- The wording of a reason. -/
def Reason.text : Reason → String
  | .badStatement => "Invalid statement"
  | .trailing => "Expected newline or end of document after a statement"
  | .unclosed delimiter => "Expected " ++ Text.quoted delimiter
  | .strayCharacter c => "Found invalid character " ++ charLiteral c
  | .illegalCharacter c => "Illegal character " ++ charLiteral c
  | .openText => "Unterminated string"
  | .badEscape => "Unescaped '\\' in a string"
  | .badCode => "Invalid hex value"
  | .noCharacter => "Escaped character is not a Unicode scalar value"
  | .badKey => "Invalid initial character for a key part"
  | .expectedEquals => "Expected '=' after a key in a key/value pair"
  | .declaredTwice key => "Cannot declare " ++ keyLiteral key ++ " twice"
  | .redefined key => "Cannot redefine namespace " ++ keyLiteral key
  | .immutable key => "Cannot mutate immutable namespace " ++ keyLiteral key
  | .overwritten => "Cannot overwrite a value"
  | .repeatedKey name => "Duplicate inline table key " ++ Text.quoted name
  | .openHeader => "Expected ']' at the end of a table declaration"
  | .openArrayHeader => "Expected ']]' at the end of an array declaration"
  | .openArray => "Unclosed array"
  | .openTable => "Unclosed inline table"
  | .badMoment => "Invalid date or datetime"
  | .badValue => "Invalid value"

/-- Why data cannot be read. -/
inductive Error where
  /-- The text is not TOML at a place. -/
  | malformed (reason : Reason) (pos : Nat)
  /-- An integer has too many digits. -/
  | tooManyDigits (count : Nat)
deriving DecidableEq, Repr

/-- The wording of a fault with its place in the text. -/
def located (text : List Char) (reason : Reason) (pos : Nat) : String :=
  let place :=
    if text.length ≤ pos then "end of document"
    else "line " ++ toString (lineOf text pos) ++ ", column " ++ toString (columnOf text pos)
  reason.text ++ " (at " ++ place ++ ")"

/-- An action of the reader. -/
abbrev Read := StateT Cursor (Except Error)

/-- The text is not TOML at a place. -/
def refuseAt {α : Type} (reason : Reason) (pos : Nat) : Read α :=
  throw (.malformed reason pos)

/-- The text is not TOML at the place that is reached. -/
def refuse {α : Type} (reason : Reason) : Read α := do
  refuseAt reason (← get).pos

/-- The next character. -/
def next : Read (Option Char) := do
  return (← get).rest.head?

/-- Moves on by some characters. -/
def step (n : Nat) : Read Unit :=
  modify (·.advance n)

/-- Whether a character is white space within a line. -/
def isBlank (c : Char) : Bool :=
  c = ' ' || c = '\t'

/-- Whether a character is white space or ends a line. -/
def isSpace (c : Char) : Bool :=
  isBlank c || c = '\n'

/-- Whether a character is a control character that no comment and no text on one line may
hold. -/
def isControl (c : Char) : Bool :=
  (c.toNat < 0x20 || c.toNat = 0x7F) && c ≠ '\t'

/-- Whether a character may stand in a key without quotes. -/
def isBare (c : Char) : Bool :=
  c.isAlphanum || c = '-' || c = '_'

/-- Skips white space within the line. -/
def skipBlanks : Read Unit :=
  modify (·.skip isBlank)

/-- Skips a comment, if there is one. -/
def skipComment : Read Unit := do
  let c ← get
  if c.rest.head? = some '#' then
    let c := c.advance 1
    let line := c.rest.takeWhile (· ≠ '\n')
    match line.find? isControl with
    | some ch => refuseAt (.strayCharacter ch) (c.pos + (line.takeWhile (!isControl ·)).length)
    | none => set (c.advance line.length)

end LayeredConfig.Format.Toml
