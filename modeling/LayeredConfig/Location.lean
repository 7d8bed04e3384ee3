import LayeredConfig.Text.Case

set_option autoImplicit false

/-!
# File paths

Paths of files as texts name them: parts separated by slashes, absolute or relative to a working
directory. Empty parts and single dots are dropped when a path is read; double dots stay, since
what they mean depends on the files that are there.

## Main definitions

* `Location` — file paths.
* `Location.ofText`, `Location.text` — their written form.
* `Location.name`, `Location.suffix` — the last part, and its extension.
* `Location.resolve` — the absolute path without double dots.
-/

namespace LayeredConfig

/-- The path of a file. -/
structure Location where
  /-- Empty for a relative path, else one slash, or two where exactly two were written. -/
  root : String
  /-- The parts between the slashes. -/
  parts : List String
deriving DecidableEq, Repr

namespace Location

/-- The path that a text names. -/
def ofText (s : String) : Location :=
  let cs := s.toList
  let slashes := (cs.takeWhile (· = '/')).length
  let root := if slashes = 0 then "" else if slashes = 2 then "//" else "/"
  let parts := ((Text.splitOn '/' cs).map String.ofList).filter fun p => p ≠ "" ∧ p ≠ "."
  ⟨root, parts⟩

/-- The text of a path. -/
def text (l : Location) : String :=
  if l.root = "" ∧ l.parts = [] then "." else l.root ++ "/".intercalate l.parts

/-- The last part, if there is one. -/
def name (l : Location) : String :=
  l.parts.getLast?.getD ""

/-- The extension of the last part, with its dot: what follows the last dot, unless nothing stands
before the dot or behind it. -/
def suffix (l : Location) : String :=
  let cs := l.name.toList
  let after := (cs.reverse.takeWhile (· ≠ '.')).reverse
  if after.isEmpty ∨ cs.length ≤ after.length + 1 then "" else String.ofList ('.' :: after)

/-- The path with another last part. -/
def withName (l : Location) (name : String) : Location :=
  ⟨l.root, l.parts.dropLast ++ [name]⟩

/-- The path without its last part; the root is its own parent. -/
def parent (l : Location) : Location :=
  ⟨l.root, l.parts.dropLast⟩

/-- A path below another one. -/
def child (l : Location) (name : String) : Location :=
  ⟨l.root, l.parts ++ [name]⟩

/-- Removes double dots together with the parts before them. -/
def collapse (parts : List String) : List String :=
  (parts.foldl (fun done p => if p = ".." then done.drop 1 else p :: done) []).reverse

/-- The absolute path, without double dots, that a path names from the working directory `cwd`. -/
def resolve (cwd : List String) (l : Location) : Location :=
  if l.root = "" then ⟨"/", collapse (cwd ++ l.parts)⟩ else ⟨"/", collapse l.parts⟩

end Location

end LayeredConfig
