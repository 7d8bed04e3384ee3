import LayeredConfig.Value.Build

set_option autoImplicit false

/-!
# Texts of values

Three texts: one for display, where tables are sorted by key; a short description for messages;
and the literal of plain data, which shows every detail.

## Main definitions

* `Value.display` — the text for display.
* `Value.describe` — the description for messages.
* `Datum.literal`, `Value.literal` — the literals.
-/

namespace LayeredConfig

/-- The text of a scalar. -/
def Scalar.display : Scalar → String
  | .nil => ""
  | .boolean b => if b then "true" else "false"
  | .integer i => toString i
  | .float x => Number.floatText x
  | .text s => s

/-- Whether a key may stand before another one: keys are compared by code points. -/
def keyLe (a b : String × String) : Bool :=
  !decide (b.1 < a.1)

/-- The display of a table, given the displays of its values. -/
def displayEntries (entries : List (String × String)) : String :=
  let shown := (entries.mergeSort keyLe).map fun (k, s) => k ++ ": " ++ s
  "\x7b " ++ ", ".intercalate shown ++ " \x7d"

namespace Value

mutual

/-- The text of a value for display. -/
def display : Value → String
  | .scalar _ s => s.display
  | .array _ items => "[ " ++ ", ".intercalate (displayItems items) ++ " ]"
  | .table _ entries => displayEntries (displayFields entries)

/-- The texts of the items of an array. -/
def displayItems : List Value → List String
  | [] => []
  | v :: vs => display v :: displayItems vs

/-- The texts of the values of a table, with their keys. -/
def displayFields : List (String × Value) → List (String × String)
  | [] => []
  | (k, v) :: es => (k, display v) :: displayFields es

end

/-- What a value is, for messages. -/
def describe : Value → String
  | .scalar _ .nil => "unit value"
  | .scalar _ (.boolean b) => "boolean \x60" ++ (Scalar.boolean b).display ++ "\x60"
  | .scalar _ (.integer i) => "integer \x60" ++ toString i ++ "\x60"
  | .scalar _ (.float x) => "floating point \x60" ++ Number.floatText x ++ "\x60"
  | .scalar _ (.text s) => "string \"" ++ s ++ "\""
  | .array .. => "sequence"
  | .table .. => "map"

end Value

/-- The literal of a text or of nothing. -/
def optionLiteral : Option String → String
  | none => "None"
  | some s => Text.quoted s

/-- The literal of a key. -/
def DatumKey.literal : DatumKey → String
  | .nil => "None"
  | .boolean b => if b then "True" else "False"
  | .integer i => toString i
  | .float x => Number.floatText x
  | .text s => Text.quoted s
  | .moment m => m.literal
  | .octets bytes => octetsLiteral bytes

namespace Datum

mutual

/-- The literal of plain data. -/
def literal : Datum → String
  | .nil => "None"
  | .boolean b => if b then "True" else "False"
  | .integer i => toString i
  | .float x => Number.floatText x
  | .text s => Text.quoted s
  | .sequence items => "[" ++ ", ".intercalate (literalItems items) ++ "]"
  | .tuple items =>
    match literalItems items with
    | [s] => "(" ++ s ++ ",)"
    | ss => "(" ++ ", ".intercalate ss ++ ")"
  | .mapping entries => "\x7b" ++ ", ".intercalate (literalEntries entries) ++ "\x7d"
  | .value v =>
    "Value(" ++ literalValue v ++ ", origin=" ++ optionLiteral v.origin ++ ")"
  | .moment m => m.literal
  | .octets bytes => DatumKey.octetsLiteral bytes
  | .set members =>
    if members.isEmpty then "set()"
    else "\x7b" ++ ", ".intercalate (members.map DatumKey.literal) ++ "\x7d"
  | .foreign name => "<" ++ name ++ ">"

/-- The literals of the items of a sequence. -/
def literalItems : List Datum → List String
  | [] => []
  | d :: ds => literal d :: literalItems ds

/-- The literals of the entries of a table. -/
def literalEntries : List (DatumKey × Datum) → List String
  | [] => []
  | (k, d) :: es => (k.literal ++ ": " ++ literal d) :: literalEntries es

/-- The literal of a value as plain data. -/
def literalValue : Value → String
  | .scalar _ s => scalarLiteral s
  | .array _ items => "[" ++ ", ".intercalate (literalParts items) ++ "]"
  | .table _ entries => "\x7b" ++ ", ".intercalate (literalFields entries) ++ "\x7d"

/-- The literals of the items of an array. -/
def literalParts : List Value → List String
  | [] => []
  | v :: vs => literalValue v :: literalParts vs

/-- The literals of the entries of a table of values. -/
def literalFields : List (String × Value) → List String
  | [] => []
  | (k, v) :: es => (Text.quoted k ++ ": " ++ literalValue v) :: literalFields es

/-- The literal of a scalar. -/
def scalarLiteral : Scalar → String
  | .nil => "None"
  | .boolean b => if b then "True" else "False"
  | .integer i => toString i
  | .float x => Number.floatText x
  | .text s => Text.quoted s

end

end Datum

/-- The literal of a value: its content as plain data, and its origin. -/
def Value.literal (v : Value) : String :=
  (Datum.value v).literal

end LayeredConfig
