import LayeredConfig.Store.Reading

set_option autoImplicit false

/-!
# Schemas

A schema describes plain data that a program wants to have: scalars, sequences and tables of them,
and records with named fields. Reading by a schema is lenient where no information is lost: texts
may write numbers and truth values, and numbers may stand for each other.

## Main definitions

* `Schema` — the descriptions.
* `Schema.accept` — data in the shape of a schema.
* `Store.getAs`, `Store.readAs` — reads of a store by a schema.
-/

namespace LayeredConfig

/-- A description of plain data. -/
inductive Schema where
  /-- A truth value. -/
  | boolean
  /-- An integer of any size. -/
  | integer
  /-- A floating-point number. -/
  | float
  /-- A text. -/
  | text
  /-- A table of anything. -/
  | anyTable
  /-- A sequence. -/
  | listOf (item : Schema)
  /-- A table with textual keys. -/
  | tableOf (item : Schema)
  /-- Nothing, or data. -/
  | optional (item : Schema)
  /-- A record: the name of each field, whether it has to be there, and what it holds. -/
  | record (fields : List (String × Bool × Schema))
deriving Repr

namespace Schema

/-- The words for truth values, in lower case. -/
def acceptWord? (s : String) : Option Bool :=
  let word := String.ofList (s.toList.map Number.asciiLower)
  if ["1", "on", "t", "true", "y", "yes"].contains word then some true
  else if ["0", "off", "f", "false", "n", "no"].contains word then some false
  else none

/-- A whole number that a floating-point number equals, strictly within 64 bits. -/
def acceptWhole? (x : Float) : Option Int :=
  match Number.toInteger? x with
  | some i => if minInteger < i ∧ i ≤ maxInteger then some i else none
  | none => none

/-- Digits with single underscores between them, without these. -/
def joinDigits? : List Char → Option (List Char)
  | [] => none
  | [c] => if Text.isAsciiDigit c then some [c] else none
  | c :: '_' :: rest => if Text.isAsciiDigit c then (joinDigits? rest).map (c :: ·) else none
  | c :: rest => if Text.isAsciiDigit c then (joinDigits? rest).map (c :: ·) else none

/-- The integer that a text writes. Blanks around it, a sign, underscores between digits and a
fraction of zeros are accepted. -/
def acceptInteger? (s : String) : Option Int :=
  let cs := Text.trimList s.toList
  if Number.digitLimit < cs.length then none
  else
    let (negative, body) := Number.splitSign cs
    let whole := body.takeWhile (· ≠ '.')
    if (body.drop (whole.length + 1)).all (· = '0') then
      (joinDigits? whole).map (Number.signedValue negative)
    else none

/-- A text without its underscores, where these are single and have something on both sides. -/
def joinParts? : List Char → Option (List Char)
  | [] => none
  | '_' :: _ => none
  | [c] => some [c]
  | c :: '_' :: rest => (joinParts? rest).map (c :: ·)
  | c :: rest => (joinParts? rest).map (c :: ·)

/-- The floating-point number that a text writes in ASCII. Blanks around it are accepted, or else
underscores within it. -/
def acceptFloat? (s : String) : Option Float :=
  let read (t : String) : Option Float :=
    if t.toList.all (·.toNat < 0x80) then Number.readFloat? t else none
  match read (Text.trim s) with
  | some x => some x
  | none => (joinParts? s.toList).bind fun cs => read (String.ofList cs)

/-- Data that stand for a truth value. -/
def acceptBool : Datum → Option Datum
  | .boolean b => some (.boolean b)
  | .integer i =>
    if i = 0 then some (.boolean false) else if i = 1 then some (.boolean true) else none
  | .float x =>
    match acceptWhole? x with
    | some 0 => some (.boolean false)
    | some 1 => some (.boolean true)
    | _ => none
  | .text s => (acceptWord? s).map .boolean
  | _ => none

/-- Data that stand for an integer. -/
def acceptInt : Datum → Option Datum
  | .boolean b => some (.integer (if b then 1 else 0))
  | .integer i => some (.integer i)
  | .float x => (acceptWhole? x).map .integer
  | .text s => (acceptInteger? s).map .integer
  | _ => none

/-- Data that stand for a floating-point number. -/
def acceptNumber : Datum → Option Datum
  | .boolean b => some (.float (Number.ofInteger (if b then 1 else 0)))
  | .integer i => some (.float (Number.ofInteger i))
  | .float x => some (.float x)
  | .text s => (acceptFloat? s).map .float
  | _ => none

/-- The entries of a table with textual keys, each taken by a function. -/
def acceptEntries (f : Datum → Option Datum) :
    List (DatumKey × Datum) → Option (List (DatumKey × Datum))
  | [] => some []
  | (.text k, d) :: es => do
    let d' ← f d
    return (.text k, d') :: (← acceptEntries f es)
  | _ :: _ => none

mutual

/-- Data in the shape of a schema, if they stand for such. -/
def accept : Schema → Datum → Option Datum
  | .boolean, d => acceptBool d
  | .integer, d => acceptInt d
  | .float, d => acceptNumber d
  | .text, .text s => some (.text s)
  | .anyTable, .mapping entries => some (.mapping entries)
  | .listOf item, .sequence items => (items.mapM fun d => accept item d).map .sequence
  | .tableOf item, .mapping entries =>
    (acceptEntries (fun d => accept item d) entries).map .mapping
  | .optional _, .nil => some .nil
  | .optional item, d => accept item d
  | .record fields, .mapping entries => (acceptFields fields entries).map .mapping
  | _, _ => none

/-- The fields of a record, in the order of the schema. A field that is not there is nothing where
it may be missing; entries without a field are left out. -/
def acceptFields : List (String × Bool × Schema) → List (DatumKey × Datum) →
    Option (List (DatumKey × Datum))
  | [], _ => some []
  | (name, required, schema) :: fields, entries => do
    let d ← match Datum.getEntry? (.text name) entries with
      | some d => accept schema d
      | none => if required then none else some .nil
    return (.text name, d) :: (← acceptFields fields entries)

end

end Schema

/-- Reads a value by a schema; `typeName` is what messages call it. -/
def Value.readAs (schema : Schema) (typeName : String) (v : Value) : Except Fault Datum :=
  match schema.accept (.ofValue v) with
  | some d => .ok d
  | none => v.fail typeName

namespace Store

variable {ω : Type}

/-- The value at a key, read by a schema. -/
def getAs (schema : Schema) (typeName : String) (s : Store ω) (key : String) :
    Except Fault Datum :=
  s.getWith (Value.readAs schema typeName) key

/-- The whole merged tree, read by a schema. -/
def readAs (schema : Schema) (typeName : String) (s : Store ω) : Except Fault Datum :=
  s.cache.readAs schema typeName

end Store

end LayeredConfig
