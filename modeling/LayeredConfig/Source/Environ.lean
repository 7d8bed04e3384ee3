import LayeredConfig.Path.Parser
import LayeredConfig.World

set_option autoImplicit false

/-!
# Variables of the process

The variables of the process as settings. With a prefix only the variables count whose names begin
with it and an underscore; a separator within the names stands for the dot of paths. Names are
taken in lower case, and those that are no paths are passed over.

## Main definitions

* `EnvironSource` — the variables of the process as a source.
* `EnvironSource.keyOf?` — the key that a variable sets, if any.
-/

namespace LayeredConfig

/-- Replaces every occurrence of a text that is not empty, from left to right. The first argument
bounds the number of characters. -/
def replaceAll (old new : List Char) : (fuel : Nat) → List Char → List Char
  | 0, cs => cs
  | _ + 1, [] => []
  | fuel + 1, c :: cs =>
    if old.isPrefixOf (c :: cs) then new ++ replaceAll old new fuel ((c :: cs).drop old.length)
    else c :: replaceAll old new fuel cs

/-- A text with dots in place of a separator; nothing is replaced where there is none. -/
def dotted (separator : Option String) (s : String) : String :=
  match separator with
  | some sep =>
    if sep.isEmpty then s
    else String.ofList (replaceAll sep.toList ['.'] (s.length + 1) s.toList)
  | none => s

/-- The variables of the process as a source. -/
structure EnvironSource where
  /-- What the names begin with. -/
  namePrefix : Option String
  /-- What stands for a dot. -/
  separator : Option String
  /-- The variables, where they are not those of the process. -/
  given : Option (List (String × String))
  /-- What the source is called; this identifies it too. -/
  name : Label
deriving Repr

namespace EnvironSource

/-- Where the values come from. -/
def origin : String := "the environment"

/-- A source with its name, which is made from the prefix where none is given. -/
def make (namePrefix separator : Option String) (given : Option (List (String × String)))
    (name : Option Label) : EnvironSource :=
  let made := match namePrefix with
    | some p => if p.isEmpty then "env" else "env:" ++ p
    | none => "env"
  ⟨namePrefix, separator, given, .orMade name made⟩

/-- What the lower-case names of the variables begin with. -/
def pattern (s : EnvironSource) : String :=
  match s.namePrefix with
  | some p => if p.isEmpty then "" else Text.lower (p ++ "_")
  | none => ""

/-- The key that a variable sets: its name in lower case, without the prefix and with dots for the
separator. Nothing for a name without the prefix. -/
def keyOf? (s : EnvironSource) (varName : String) : Option String :=
  let key := (Text.lower varName).toList
  let start := s.pattern.toList
  if start.isPrefixOf key then
    some (dotted (s.separator.map Text.lower) (String.ofList (key.drop start.length)))
  else none

/-- The settings of the given variables, added to those that are done. -/
def settings (s : EnvironSource) (done : Entries String Value) :
    List (String × String) → Except Fault (Entries String Value)
  | [] => .ok done
  | (varName, text) :: rest =>
    match s.keyOf? varName with
    | none => settings s done rest
    | some key =>
      match Path.parse key with
      | .ok _ => settings s (done.put key (.scalar (some origin) (.text text))) rest
      | .error (.path _) => settings s done rest
      | .error e => .error e

/-- The settings of all variables. -/
def collect (s : EnvironSource) : Action World Datum := fun w =>
  let found := s.settings [] (s.given.getD w.environ)
  (found.map fun es => .record (es.map fun (k, v) => (k, .value v)), w)

end EnvironSource

end LayeredConfig
