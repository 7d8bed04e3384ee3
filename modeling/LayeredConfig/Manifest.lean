import LayeredConfig.Value.Elements
import LayeredConfig.World

set_option autoImplicit false

/-!
# Manifests

A manifest is a file `confstack.yaml` with a section for each environment: its defaults, its sources
and its overrides. Unless its path is given, the manifest of the innermost directory counts that has
one, from the working directory upwards.

## Main definitions

* `Manifest.locate` — where the manifest is.
* `Manifest.load` — its table.
* `Manifest.section?`, `Manifest.sources`, `Manifest.defaults`, `Manifest.overrides` — its parts.
* `Manifest.Entry`, `Manifest.Entry.ofDatum` — the description of a source.
-/

namespace LayeredConfig.Manifest

/-- The name of a manifest. -/
def fileName : String := "confstack.yaml"

/-- The manifest of a directory given by its parts, in reverse, or of the innermost one above it
that has one. -/
def locateFrom (isThere : Location → Except Fault Bool) :
    List String → Except Fault (Option Location)
  | [] => do
    let candidate : Location := ⟨"/", [fileName]⟩
    return if ← isThere candidate then some candidate else none
  | part :: above => do
    let candidate : Location := ⟨"/", (part :: above).reverse ++ [fileName]⟩
    if ← isThere candidate then return some candidate else locateFrom isThere above

/-- Where the manifest is. A given path counts only where something is. -/
def locate (given : Option String) (w : World) : Except Fault (Option Location) :=
  match given with
  | some s => do return if ← w.files.isThere (.ofText s) then some (.ofText s) else none
  | none => do locateFrom w.files.isThere (← w.files.cwd).reverse

/-- What is wrong with a manifest, as messages show it. -/
def invalid (l : Location) (diagnostic : String) : Fault :=
  .invalid ("Invalid " ++ fileName ++ " at " ++ l.text ++ ": " ++ diagnostic)

/-- The table of the manifest at a place, whose data were read. Data that say nothing count as an
empty one. -/
def table (l : Location) : Datum → Except Fault (List (DatumKey × Datum))
  | .mapping es => .ok es
  | d => if d.isTruthy then .error (invalid l "expected a mapping") else .ok []

/-- The table of the manifest at a place, if there is one. A manifest that cannot be read counts as
an empty one; a warning says so. -/
def load (place : Option Location) : Action World (List (DatumKey × Datum)) := fun w =>
  match place with
  | none => (.ok [], w)
  | some l =>
    match w.readers.manifest l with
    | .ok d => (table l d, w)
    | .error (.unreadable diagnostic) =>
      (.ok [], Action.warn
        ("Could not read " ++ fileName ++ " at " ++ l.text ++ ": " ++ diagnostic) w)
    | .error (.malformed diagnostic) => (.error (invalid l diagnostic), w)
    | .error (.content e) => (.error e, w)

/-! ## Sections -/

/-- Data that say something, or else other data. -/
def orElse (d : Option Datum) (otherwise : Datum) : Datum :=
  match d with
  | some d => if d.isTruthy then d else otherwise
  | none => otherwise

/-- The data at a name of a table; only tables have names. -/
def field (d : Datum) (name : String) : Except Fault (Option Datum) :=
  match d with
  | .mapping es => .ok (Datum.getEntry? (.text name) es)
  | _ => .error (.misuse .noOperation)

/-- The section of an environment. -/
def section? (table : List (DatumKey × Datum)) (environment : String) : Except Fault Datum := do
  let environments := orElse (Datum.getEntry? (.text "environments") table) (.mapping [])
  return (← field environments environment).getD .nil

/-- A part of a section, or what stands for it where there is none. -/
def part (name : String) (otherwise sect : Datum) : Except Fault Datum :=
  match sect with
  | .nil => .ok otherwise
  | _ => do return orElse (← field sect name) otherwise

/-- The sources of a section. -/
def sources : Datum → Except Fault Datum :=
  part "sources" (.sequence [])

/-- The defaults of a section. -/
def defaults : Datum → Except Fault Datum :=
  part "defaults" (.mapping [])

/-- The overrides of a section. -/
def overrides : Datum → Except Fault Datum :=
  part "overrides" (.mapping [])

/-- A part of the section of an environment in the manifest at a place. -/
def loadPart (place : Option Location) (environment : String)
    (f : Datum → Except Fault Datum) : Action World Datum := fun w =>
  match load place w with
  | (.error e, w) => (.error e, w)
  | (.ok table, w) => ((section? table environment).bind f, w)

/-! ## Sources -/

/-- What a source is made of. -/
inductive Target where
  /-- The path of a file. -/
  | path (l : Location)
  /-- The address of a source, or the path of a file. -/
  | uri (d : Datum)
deriving Repr

/-- The text of a target. -/
def Target.text : Target → Except Fault String
  | .path l => .ok l.text
  | .uri d => d.plainText

/-- The description of a source. -/
structure Entry where
  /-- What the source is made of. -/
  target : Target
  /-- Which leaves of the source count. -/
  filter : Option Filter
  /-- What the source is called. -/
  name : Option Label
  /-- Whether the file of the source has to be there. -/
  required : Option Bool
deriving Repr

/-- The data at a name, which only tables have. -/
def index (d : Datum) (name : String) : Except Fault Datum :=
  match d with
  | .mapping es => .ok ((Datum.getEntry? (.text name) es).getD .nil)
  | _ => .error (.misuse .wrongType)

/-- The target that data describe: a path or else an address. -/
def Target.ofDatum (d : Datum) : Except Fault Target := do
  if ← d.holds "path" then
    match ← index d "path" with
    | .text s => return .path (.ofText s)
    | _ => .error (.misuse .wrongType)
  else if ← d.holds "uri" then return .uri (← index d "uri")
  else .error (.invalid "Source must have either 'path' or 'uri'")

/-- The description of a source that data give. -/
def Entry.ofDatum (d : Datum) : Except Fault Entry := do
  let target ← Target.ofDatum d
  let filter ← Filter.ofDatum ((← field d "filter").getD .nil)
  let name ← field d "name"
  let required ← field d "required"
  return ⟨target, filter, name, required.map Datum.isTruthy⟩

end LayeredConfig.Manifest
