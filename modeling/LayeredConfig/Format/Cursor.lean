import LayeredConfig.Fault

set_option autoImplicit false

/-!
# Cursors

A place in a text that is being read: the characters that are left, and how many were read.

## Main definitions

* `Cursor` — a place in a text.
* `lineOf`, `columnOf` — the line and the column of a place.
-/

namespace LayeredConfig.Format

/-- A place in a text. -/
structure Cursor where
  /-- The characters that are left. -/
  rest : List Char
  /-- How many characters were read. -/
  pos : Nat
deriving Repr

namespace Cursor

/-- The start of a text. -/
def start (s : String) : Cursor := ⟨s.toList, 0⟩

/-- The place some characters further on, or the end of the text. -/
def advance : (n : Nat) → Cursor → Cursor
  | 0, c => c
  | _ + 1, ⟨[], pos⟩ => ⟨[], pos⟩
  | n + 1, ⟨_ :: rest, pos⟩ => advance n ⟨rest, pos + 1⟩

/-- The place behind the characters that satisfy a condition. -/
def skip (ok : Char → Bool) (c : Cursor) : Cursor :=
  c.advance (c.rest.takeWhile ok).length

/-- Whether the given characters come next. -/
def startsWith (s : String) (c : Cursor) : Bool :=
  s.toList.isPrefixOf c.rest

end Cursor

/-- The number of the line of a place, from one on. -/
def lineOf (text : List Char) (pos : Nat) : Nat :=
  (text.take pos).count '\n' + 1

/-- The number of the column of a place, from one on. -/
def columnOf (text : List Char) (pos : Nat) : Nat :=
  ((text.take pos).reverse.takeWhile (· ≠ '\n')).length + 1

end LayeredConfig.Format
