import LayeredConfig.Store.Contribution
import LayeredConfig.Value.Render

set_option autoImplicit false

/-!
# Stores

A store keeps settings in three layers: defaults, sources in the order in which they were merged,
and overrides. Reads only look at the merged tree, which every change builds anew by writing the
layers one after the other into an empty table.

A change works on the store in place: it edits the layers first and builds the tree afterwards.
Building fails where a source fails; then the layers are put back, and the tree was not touched.

## Main definitions

* `Layer`, `Layers`, `Store` — a layer, the three layers, and the store.
* `Store.Change` — a step that works on a store in place.
* `Store.rebuild` — builds the merged tree anew.
* `Store.undoing`, `Store.revise` — a change that puts the layers back where it fails.
* `Store.freeze` — makes a store read-only.
* `Store.ofTable` — a store made of a table at once.
-/

namespace LayeredConfig

/-- Values at paths, in the order in which they were last written. -/
abbrev Layer := Entries Path Value

/-- Settings in three layers. -/
structure Layers (ω : Type) where
  /-- The layer below all others. -/
  defaults : Layer
  /-- The sources, lowest first. -/
  sources : List (Registered ω)
  /-- The layer above all others. -/
  overrides : Layer

/-- Settings in three layers, and the tree that they make together. -/
structure Store (ω : Type) extends Layers ω where
  /-- The merged tree. -/
  cache : Value
  /-- Whether the store can be changed no more. -/
  frozen : Bool

variable {ω : Type}

/-- The writes that make the merged tree, given the leaves of the sources. -/
def Layers.writes (l : Layers ω) (leaves : List (Path × Value)) : List (Path × Value) :=
  l.defaults ++ leaves ++ l.overrides

namespace Store

/-- A store without settings. -/
def empty : Store ω := ⟨⟨[], [], []⟩, .emptyTable, false⟩

/-- A step that works on a store in place. What it changed stays after a failure, in the store as
in the surroundings, unless the step itself undoes it. -/
abbrev Change (ω : Type) := Action (Store ω × ω) Unit

/-- Fails where the store is frozen, before anything else. -/
def guarded (c : Change ω) : Change ω := fun x =>
  if x.1.frozen then (.error .frozen, x) else c x

/-- Builds the merged tree anew from the layers. Where a source fails, the old one stays. -/
def rebuild : Change ω :=
  guarded fun (s, w) =>
    match gather s.sources w with
    | (.error e, w') => (.error e, (s, w'))
    | (.ok leaves, w') =>
      (.ok (), ({ s with cache := Value.emptyTable.replay (s.writes leaves) }, w'))

/-- Makes a change, and puts the layers back where it fails. -/
def undoing (c : Change ω) : Change ω := fun (s, w) =>
  match c (s, w) with
  | (.error e, (t, w')) => (.error e, ({ t with toLayers := s.toLayers }, w'))
  | (.ok (), x) => (.ok (), x)

/-- Edits the layers and builds the merged tree anew. The edit may turn out to be impossible before
it touches anything. -/
def revise (edit : Except Fault (Layers ω → Layers ω)) : Change ω :=
  guarded fun x =>
    match edit with
    | .error e => (.error e, x)
    | .ok f => undoing (fun (s, w) => rebuild ({ s with toLayers := f s.toLayers }, w)) x

/-- Makes the store read-only for good. The layers are dropped, the merged tree stays. -/
def freeze (s : Store ω) : Store ω :=
  ⟨⟨[], [], []⟩, s.cache, true⟩

/-- A store whose merged tree is a table as given, until it is built anew from the leaves of the
table, which are overrides. -/
def ofTable (d : Datum) : Except Fault (Store ω) := do
  let root ← Value.ofDatum d none
  match root with
  | .table _ entries =>
    let leaves ← contributionOfEntries (entries.map fun (k, v) => (.text k, .value v))
    return { empty with cache := root, overrides := Entries.ofList leaves }
  | _ => .error (.notTable root.describe)

end Store

end LayeredConfig
