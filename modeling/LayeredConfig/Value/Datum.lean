import LayeredConfig.Value.Basic
import LayeredConfig.Moment
import LayeredConfig.Text.Quoted

set_option autoImplicit false

/-!
# Data from outside

What a caller or a reader of a file format hands in: plain data, which may hold ready-made values
and objects that have no place in a configuration.

## Main definitions

* `Datum`, `DatumKey` — plain data, and the keys of their tables.
* `Datum.table` — the table that a list of entries makes, keys that are numerically equal being one.
* `Datum.ofValue` — a value as plain data.
* `Label` — what something is called.
-/

namespace LayeredConfig

/-- A key of a table of plain data. -/
inductive DatumKey where
  /-- The absence of a key. -/
  | nil
  /-- A truth value. -/
  | boolean (b : Bool)
  /-- An integer of any size. -/
  | integer (i : Int)
  /-- A floating-point number. -/
  | float (x : Float)
  /-- A text. -/
  | text (s : String)
  /-- A date or time. -/
  | moment (m : Moment)
  /-- Octets. -/
  | octets (bytes : List Nat)
deriving DecidableEq, Repr

/-- Plain data. -/
inductive Datum where
  /-- The absence of data. -/
  | nil
  /-- A truth value. -/
  | boolean (b : Bool)
  /-- An integer of any size. -/
  | integer (i : Int)
  /-- A floating-point number. -/
  | float (x : Float)
  /-- A text. -/
  | text (s : String)
  /-- A sequence. -/
  | sequence (items : List Datum)
  /-- A sequence of fixed length. -/
  | tuple (items : List Datum)
  /-- Keyed data, in order of insertion. -/
  | mapping (entries : List (DatumKey × Datum))
  /-- A ready-made value. -/
  | value (v : Value)
  /-- A date or time. -/
  | moment (m : Moment)
  /-- Octets. -/
  | octets (bytes : List Nat)
  /-- A set. -/
  | set (members : List DatumKey)
  /-- An object of a type that no configuration knows. -/
  | foreign (typeName : String)
deriving Repr

namespace DatumKey

/-- The integer that a key equals: truth values count as one and zero. -/
def number? : DatumKey → Option Int
  | .boolean b => some (if b then 1 else 0)
  | .integer i => some i
  | .float x => Number.toInteger? x
  | _ => none

/-- Whether two keys are one: numbers are compared by value, whatever their type. -/
def same (a b : DatumKey) : Bool :=
  match a.number?, b.number? with
  | some i, some j => i == j
  | none, none =>
    match a, b with
    | .float x, .float y => Number.sameNumber x y
    | _, _ => decide (a = b)
  | _, _ => false

/-- The text of octets between quotes. -/
def octetsLiteral (bytes : List Nat) : String :=
  let quote : Char := if bytes.contains 0x27 && !bytes.contains 0x22 then '"' else '\''
  let octet (b : Nat) : List Char :=
    let c := Char.ofNat b
    if c = quote ∨ c = '\\' then ['\\', c]
    else if c = '\n' then ['\\', 'n']
    else if c = '\r' then ['\\', 'r']
    else if c = '\t' then ['\\', 't']
    else if 0x20 ≤ b ∧ b < 0x7F then [c]
    else '\\' :: 'x' :: Text.hexDigits b 2
  String.ofList ('b' :: quote :: bytes.flatMap octet ++ [quote])

end DatumKey

namespace Datum

instance : Inhabited Datum := ⟨.nil⟩

/-- Writes an entry: in place where an equal key is there, which stays as it is, else at the
end. -/
def putEntry (k : DatumKey) (d : Datum) :
    List (DatumKey × Datum) → List (DatumKey × Datum)
  | [] => [(k, d)]
  | (k', d') :: es => if k'.same k then (k', d) :: es else (k', d') :: putEntry k d es

/-- The value at a key. -/
def getEntry? (k : DatumKey) : List (DatumKey × Datum) → Option Datum
  | [] => none
  | (k', d) :: es => if k'.same k then some d else getEntry? k es

/-- The table that a list of entries makes: a repeated key keeps its first position and has its
last value. -/
def table (entries : List (DatumKey × Datum)) : Datum :=
  .mapping (entries.foldl (fun es e => putEntry e.1 e.2 es) [])

/-- A table with textual keys. -/
def record (entries : List (String × Datum)) : Datum :=
  .mapping (entries.map fun (k, d) => (.text k, d))

/-- The name of the type of data. -/
def typeName : Datum → String
  | .nil => "NoneType"
  | .boolean _ => "bool"
  | .integer _ => "int"
  | .float _ => "float"
  | .text _ => "str"
  | .sequence _ => "list"
  | .tuple _ => "tuple"
  | .mapping _ => "dict"
  | .value _ => "Value"
  | .moment m => m.typeName
  | .octets _ => "bytes"
  | .set _ => "set"
  | .foreign name => name

/-- Whether data count as present: zeros, the empty text and empty collections do not. -/
def isTruthy : Datum → Bool
  | .nil => false
  | .boolean b => b
  | .integer i => i != 0
  | .float x => !Number.isZero x
  | .text s => !s.isEmpty
  | .sequence items => !items.isEmpty
  | .tuple items => !items.isEmpty
  | .mapping entries => !entries.isEmpty
  | .octets bytes => !bytes.isEmpty
  | .set members => !members.isEmpty
  | .value _ | .moment _ | .foreign _ => true

/-- A scalar as plain data. -/
def ofScalar : Scalar → Datum
  | .nil => .nil
  | .boolean b => .boolean b
  | .integer i => .integer i
  | .float x => .float x
  | .text s => .text s

mutual

/-- A value as plain data. -/
def ofValue : Value → Datum
  | .scalar _ s => ofScalar s
  | .array _ items => .sequence (ofItems items)
  | .table _ entries => .mapping (ofEntries entries)

/-- The items of an array as plain data. -/
def ofItems : List Value → List Datum
  | [] => []
  | v :: vs => ofValue v :: ofItems vs

/-- The entries of a table as plain data. -/
def ofEntries : List (String × Value) → List (DatumKey × Datum)
  | [] => []
  | (k, v) :: es => (.text k, ofValue v) :: ofEntries es

end

end Datum

/-- What something is called: a text, unless it was given other data for a name. -/
abbrev Label := Datum

/-- The name that was given, if it says anything, or else another one. -/
def Label.orMade (given : Option Label) (made : String) : Label :=
  match given with
  | some d => if d.isTruthy then d else .text made
  | none => .text made

/-- Whether something is called by a text. -/
def Label.isText (s : String) : Label → Bool
  | .text t => t = s
  | _ => false

end LayeredConfig
