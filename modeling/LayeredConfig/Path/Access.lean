import LayeredConfig.Path.Basic
import LayeredConfig.Text.Case
import LayeredConfig.Value.Basic

set_option autoImplicit false

/-!
# Reading and writing at a path

Reading follows the steps as long as the tree has the shape that they ask for. Writing makes the
tree have that shape: a node of another shape is replaced by an empty table or array, missing
entries are created, and arrays are padded with absent values. The leaves of a tree are its scalars,
empty tables and empty arrays with their paths, in depth-first order; their keys are taken in lower
case.

## Main definitions

* `Value.get?` — the value at a path.
* `Value.write`, `Value.set` — the tree with another value at a path.
* `Value.replay` — the tree after a sequence of writes.
* `Value.leaves` — the leaves of a value, at their paths below a given one.
-/

namespace LayeredConfig.Value

/-- The value at a path, if the tree has one there. -/
def get? : Value → Path → Option Value
  | v, [] => some v
  | .table _ entries, .key name :: rest =>
    match Entries.get? name entries with
    | some v => get? v rest
    | none => none
  | .array _ items, .index position :: rest =>
    match items[position]? with
    | some v => get? v rest
    | none => none
  | _, _ :: _ => none

/-- Changes the item at a position; a shorter list is padded with absent values up to there. -/
def alterItem (f : Value → Value) : (position : Nat) → List Value → List Value
  | 0, [] => [f nil]
  | 0, v :: vs => f v :: vs
  | n + 1, [] => nil :: alterItem f n []
  | n + 1, v :: vs => v :: alterItem f n vs

/-- The origin and the entries of a table; a value of another shape counts as a table without
entries and without origin. -/
def asTable : Value → Option String × List (String × Value)
  | .table o entries => (o, entries)
  | _ => (none, [])

/-- The origin and the items of an array; a value of another shape counts as an array without
items and without origin. -/
def asArray : Value → Option String × List Value
  | .array o items => (o, items)
  | _ => (none, [])

/-- The tree with the value `w` at a path. At the empty path it is the value itself. -/
def write (w : Value) : Path → Value → Value
  | [], _ => w
  | .key name :: rest, node =>
    .table node.asTable.1
      (Entries.alter name (fun old => write w rest (old.getD emptyTable)) node.asTable.2)
  | .index position :: rest, node =>
    .array node.asArray.1 (alterItem (write w rest) position node.asArray.2)

/-- Assigns a value at a path. The empty path addresses nothing that could be assigned, so there
the tree stays as it is. -/
def set (root : Value) (p : Path) (w : Value) : Value :=
  if p.isEmpty then root else write w p root

/-- The tree after a sequence of assignments, made in order. -/
def replay (root : Value) (writes : List (Path × Value)) : Value :=
  writes.foldl (fun tree (p, v) => tree.set p v) root

/-! ## Leaves -/

mutual

/-- The leaves of a value that stands at `parent`. -/
def leaves (parent : Path) : Value → List (Path × Value)
  | .table _ (e :: es) => leavesOfEntries parent (e :: es)
  | .array _ (v :: vs) => leavesOfItems parent 0 (v :: vs)
  | v => [(parent, v)]

/-- The leaves of the entries of a table. -/
def leavesOfEntries (parent : Path) : List (String × Value) → List (Path × Value)
  | [] => []
  | (k, v) :: es => leaves (parent.child (Text.lower k)) v ++ leavesOfEntries parent es

/-- The leaves of the items of an array, from the given position on. -/
def leavesOfItems (parent : Path) (position : Nat) : List Value → List (Path × Value)
  | [] => []
  | v :: vs => leaves (parent.subscript position) v ++ leavesOfItems parent (position + 1) vs

end

end LayeredConfig.Value
