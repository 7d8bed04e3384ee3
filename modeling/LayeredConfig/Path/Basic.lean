set_option autoImplicit false

/-!
# Paths

A path leads from the root of a tree of values to a place in it: each step selects an entry of a
table by its key or an item of an array by its position.

## Main definitions

* `Step`, `Path` — the steps, and paths as lists of them.
* `Path.child`, `Path.subscript` — a path made longer by one step.
* `Path.text` — the written form: keys are separated by dots, positions stand in brackets.
-/

namespace LayeredConfig

/-- One step into a tree of values. -/
inductive Step where
  /-- To the entry of a table with this key. -/
  | key (name : String)
  /-- To the item of an array at this position. -/
  | index (position : Nat)
deriving DecidableEq, Repr

/-- The steps from the root to a place in a tree of values. -/
abbrev Path := List Step

namespace Path

/-- The path of the entry with the given key below a path. -/
def child (p : Path) (name : String) : Path :=
  p ++ [.key name]

/-- The path of the item at the given position below a path. -/
def subscript (p : Path) (position : Nat) : Path :=
  p ++ [.index position]

/-- The written form of the steps after the first one. -/
def textTail : List Step → String
  | [] => ""
  | .key name :: rest => "." ++ name ++ textTail rest
  | .index position :: rest => "[" ++ toString position ++ "]" ++ textTail rest

/-- The written form of a path. -/
def text : Path → String
  | [] => ""
  | .key name :: rest => name ++ textTail rest
  | .index position :: rest => "[" ++ toString position ++ "]" ++ textTail rest

end Path

end LayeredConfig
