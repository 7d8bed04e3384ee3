import LayeredConfig.Fault
import LayeredConfig.Number.Literal
import LayeredConfig.Number.Shortest

set_option autoImplicit false

/-!
# Values of data

Plain data become a value: integers have to fit in 64 bits, keys become texts, and nothing but what
a configuration knows may be inside.

## Main definitions

* `DatumKey.display` — the text that a key becomes.
* `Value.ofDatum` — the value that data stand for.
-/

namespace LayeredConfig

namespace DatumKey

/-- The text of an integer, which may have too many digits to be written. -/
def integerText (i : Int) : Except Fault String :=
  let s := toString i
  if i.natAbs.log2 < 14000 ∨ (toString i.natAbs).length ≤ Number.digitLimit then .ok s
  else .error .unwritableInteger

/-- The text that a key becomes in a table of values. -/
def display : DatumKey → Except Fault String
  | .nil => .ok "None"
  | .boolean b => .ok (if b then "True" else "False")
  | .integer i => integerText i
  | .float x => .ok (Number.floatText x)
  | .text s => .ok s
  | .moment m => .ok m.display
  | .octets bytes => .ok (octetsLiteral bytes)

end DatumKey

namespace Value

/-- The value of an integer, which has to fit in 64 bits. -/
def ofInteger (origin : Option String) (i : Int) : Except Fault Value :=
  if fitsInteger i then .ok (.scalar origin (.integer i))
  else do
    let _ ← DatumKey.integerText i
    .error (.wideInteger i)

mutual

/-- The value that data stand for. Every node made from plain data gets the origin; a ready-made
value inside keeps its own, and its parts theirs. -/
def build (origin : Option String) : Datum → Except Fault Value
  | .nil => .ok (.scalar origin .nil)
  | .boolean b => .ok (.scalar origin (.boolean b))
  | .integer i => ofInteger origin i
  | .float x => .ok (.scalar origin (.float x))
  | .text s => .ok (.scalar origin (.text s))
  | .sequence items => do return .array origin (← buildItems origin items)
  | .tuple items => do return .array origin (← buildItems origin items)
  | .mapping entries => do return .table origin (← buildEntries origin [] entries)
  | .value v => .ok v
  | .moment m => .error (.unsupported m.typeName)
  | .octets _ => .error (.unsupported "bytes")
  | .set _ => .error (.unsupported "set")
  | .foreign name => .error (.unsupported name)

/-- The values of a sequence. -/
def buildItems (origin : Option String) : List Datum → Except Fault (List Value)
  | [] => .ok []
  | d :: ds => do
    let v ← build origin d
    return v :: (← buildItems origin ds)

/-- The entries of a table of values, added to those that are `done`. Keys become texts, and of
those that become one text the first keeps its place and the last gives the value. -/
def buildEntries (origin : Option String) (done : List (String × Value)) :
    List (DatumKey × Datum) → Except Fault (List (String × Value))
  | [] => .ok done
  | (k, d) :: es => do
    let name ← k.display
    let v ← build origin d
    buildEntries origin (Entries.put name v done) es

end

/-- The value that data stand for, with an origin. A ready-made value keeps its own where none is
given. -/
def ofDatum (d : Datum) (origin : Option String) : Except Fault Value :=
  match d with
  | .value v => .ok (match origin with | some _ => v.withOrigin origin | none => v)
  | _ => build origin d

end Value

end LayeredConfig
