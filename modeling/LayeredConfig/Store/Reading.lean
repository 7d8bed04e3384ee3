import LayeredConfig.Store.Basic
import LayeredConfig.Value.Reading

set_option autoImplicit false

/-!
# Reading from stores

Every read looks a key up in the merged tree and then reads the value in the requested shape. A
value of another shape is a fault that names the key as the caller wrote it.

## Main definitions

* `Store.get` — the value at a key.
* `Store.getBool`, `Store.getInteger`, `Store.getFloat`, `Store.getText`, `Store.getArray`,
  `Store.getTree` — the value at a key, in a shape.
* `Value.toTree` — a table as a store of its own.
-/

namespace LayeredConfig

/-- A table as a store of its own. Its keys are paths from now on. -/
def Value.toTree {ω : Type} (v : Value) : Except Fault (Store ω) :=
  match v with
  | .table _ entries => Store.ofTable (.mapping (entries.map fun (k, v) => (.text k, .value v)))
  | _ => v.fail "a map"

namespace Store

variable {ω : Type}

/-- The value at a key. -/
def get (s : Store ω) (key : String) : Except Fault Value := do
  let p ← Path.parseKey key
  match s.cache.get? p with
  | some v => return v
  | none => .error (.absent key)

/-- The value at a key, read in some shape. -/
def getWith {α : Type} (read : Value → Except Fault α) (s : Store ω) (key : String) :
    Except Fault α := do
  let v ← s.get key
  match read v with
  | .ok a => return a
  | .error e => .error (e.withKey key)

/-- The value at a key, read in some shape; where nothing stands there, one given beforehand. -/
def getWithOr {α : Type} (read : Value → Except Fault α) (fallback : α) (s : Store ω)
    (key : String) : Except Fault α :=
  match s.getWith read key with
  | .error (.absent _) => .ok fallback
  | result => result

/-- The truth value at a key. -/
def getBool (s : Store ω) (key : String) : Except Fault Bool :=
  s.getWith Value.toBool key

/-- The integer at a key. -/
def getInteger (s : Store ω) (key : String) : Except Fault Int :=
  s.getWith Value.toInteger key

/-- The floating-point number at a key. -/
def getFloat (s : Store ω) (key : String) : Except Fault Float :=
  s.getWith Value.toFloat key

/-- The text at a key. -/
def getText (s : Store ω) (key : String) : Except Fault String :=
  s.getWith Value.toText key

/-- The array at a key. -/
def getArray (s : Store ω) (key : String) : Except Fault (List Value) :=
  s.getWith Value.toArray key

/-- The table at a key, as a store of its own. -/
def getTree (s : Store ω) (key : String) : Except Fault (Store ω) :=
  s.getWith Value.toTree key

/-- The merged tree as plain data. -/
def toDatum (s : Store ω) : Datum :=
  .ofValue s.cache

/-- The text of the merged tree for display. -/
def display (s : Store ω) : String :=
  s.cache.display

end Store

end LayeredConfig
