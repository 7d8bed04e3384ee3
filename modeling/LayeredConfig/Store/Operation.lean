import LayeredConfig.Store.Basic

set_option autoImplicit false

/-!
# Operations on stores

What a caller can ask of a store that is not frozen. An operation is performed on the store in
place; where the caller wants a store of its own, it gets the changed one or the fault.

## Main definitions

* `Operation` — the operations, with their arguments.
* `Operation.edit` — what an operation does to the layers.
* `Operation.perform` — performs an operation on a store in place.
* `Store.run` — the store after a sequence of operations.
* `Store.set`, `Store.setDefault`, `Store.unset`, `Store.unsetDefault`, `Store.merge`,
  `Store.removeSource`, `Store.refresh` — the store after an operation.
* `Store.ofLayers` — a store made of all three layers at once.
-/

namespace LayeredConfig

/-- What a caller can ask of a store. -/
inductive Operation (ω : Type) where
  /-- Sets an override. -/
  | set (key : String) (d : Datum)
  /-- Sets a default. -/
  | setDefault (key : String) (d : Datum)
  /-- Removes an override, if there is one. -/
  | unset (key : String)
  /-- Removes a default, if there is one. -/
  | unsetDefault (key : String)
  /-- Merges a source in above all others. -/
  | merge (r : Registered ω)
  /-- Removes the sources with the given identity. -/
  | removeSource (id : String)
  /-- Only builds the merged tree anew. -/
  | refresh

variable {ω : Type}

namespace Operation

/-- What an operation does to the layers: a value that is set is written after all others of its
layer. Keys are read as paths first, then data as values. -/
def edit : Operation ω → Except Fault (Layers ω → Layers ω)
  | .set key d => do
    let p ← Path.parseKey key
    let v ← Value.ofDatum d none
    return fun l => { l with overrides := l.overrides.move p v }
  | .setDefault key d => do
    let p ← Path.parseKey key
    let v ← Value.ofDatum d none
    return fun l => { l with defaults := l.defaults.move p v }
  | .unset key => do
    let p ← Path.parseKey key
    return fun l => { l with overrides := l.overrides.erase p }
  | .unsetDefault key => do
    let p ← Path.parseKey key
    return fun l => { l with defaults := l.defaults.erase p }
  | .merge r => .ok fun l => { l with sources := l.sources ++ [r] }
  | .removeSource id =>
    .ok fun l => { l with sources := l.sources.filter fun r => !r.source.id.isText id }
  | .refresh => .ok id

/-- Performs an operation on a store in place. Only building the tree anew edits nothing that would
have to be put back. -/
def perform : Operation ω → Store.Change ω
  | .refresh => Store.rebuild
  | op => Store.revise op.edit

end Operation

/-- The path and the value that an entry of a table writes to a layer. Keys have to be texts. Octets
are looked at as if they were one, so it shows first whether there are any. -/
def Layer.entry : DatumKey × Datum → Except Fault (Path × Value)
  | (.text key, d) => do
    let p ← Path.parseKey key
    let v ← Value.ofDatum d none
    return (p, v)
  | (.octets bytes, _) => .error (if bytes.isEmpty then .emptyOctets else .misuse .wrongType)
  | _ => .error (.misuse .noOperation)

namespace Store

/-- The store after an operation. -/
def after (s : Store ω) (op : Operation ω) : Action ω (Store ω) := fun w =>
  match op.perform (s, w) with
  | (.ok (), (s', w')) => (.ok s', w')
  | (.error e, (_, w')) => (.error e, w')

/-- The store after a sequence of operations, each performed in surroundings of its own, whether
they succeed or fail. -/
def run (s : Store ω) (ops : List (Operation ω × ω)) : Store ω :=
  ops.foldl (fun s (op, w) => (op.perform (s, w)).2.1) s

/-- The operations of a sequence that succeed, in order. -/
def succeeded (s : Store ω) : List (Operation ω × ω) → List (Operation ω)
  | [] => []
  | (op, w) :: ops =>
    match op.perform (s, w) with
    | (.ok (), (s', _)) => op :: succeeded s' ops
    | (.error _, (s', _)) => succeeded s' ops

/-- The store with an override set. -/
def set (s : Store ω) (key : String) (d : Datum) : Action ω (Store ω) :=
  s.after (.set key d)

/-- The store with a default set. -/
def setDefault (s : Store ω) (key : String) (d : Datum) : Action ω (Store ω) :=
  s.after (.setDefault key d)

/-- The store with an override removed. -/
def unset (s : Store ω) (key : String) : Action ω (Store ω) :=
  s.after (.unset key)

/-- The store with a default removed. -/
def unsetDefault (s : Store ω) (key : String) : Action ω (Store ω) :=
  s.after (.unsetDefault key)

/-- The store with a source merged in. -/
def merge (s : Store ω) (r : Registered ω) : Action ω (Store ω) :=
  s.after (.merge r)

/-- The store without the sources of an identity. -/
def removeSource (s : Store ω) (id : String) : Action ω (Store ω) :=
  s.after (.removeSource id)

/-- The store with its merged tree built anew. -/
def refresh (s : Store ω) : Action ω (Store ω) :=
  s.after .refresh

/-- A layer from the entries of a table, set one after the other. -/
def layerOfEntries (done : Layer) : List (DatumKey × Datum) → Except Fault Layer
  | [] => .ok done
  | e :: es => do
    let (p, v) ← Layer.entry e
    layerOfEntries (done.move p v) es

/-- A store from all three layers, built once. -/
def ofLayers (defaults : List (DatumKey × Datum)) (sources : List (Registered ω))
    (overrides : List (DatumKey × Datum)) : Action ω (Store ω) := fun w =>
  let layers : Except Fault (Layer × Layer) := do
    let below ← layerOfEntries [] defaults
    let above ← layerOfEntries [] overrides
    return (below, above)
  match layers with
  | .error e => (.error e, w)
  | .ok (below, above) => refresh ⟨⟨below, sources, above⟩, .emptyTable, false⟩ w

end Store

end LayeredConfig
