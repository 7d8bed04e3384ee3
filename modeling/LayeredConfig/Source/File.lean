import LayeredConfig.World

set_option autoImplicit false

/-!
# Files

The table in a file as settings. A source names its file exactly, or names it without its extension;
then the extensions of all formats are tried. The file may be allowed to be missing.

## Main definitions

* `FileSource` — a file as a source.
* `FileSource.locate` — the file that is read, with its format.
* `FileSource.collectWith`, `FileSource.collect` — the settings in it.
-/

namespace LayeredConfig

/-- A file as a source. -/
structure FileSource where
  /-- The path of the file, with or without its extension. -/
  path : Location
  /-- The format, where the name does not tell it. -/
  format : Option FileFormat
  /-- Whether a missing file is a fault. -/
  required : Bool
  /-- What the source is called. -/
  name : Label
  /-- What identifies the source. -/
  id : String
deriving Repr

mutual

/-- Plain data with dates and times as texts, and with textual keys. Of keys that become one text
the first keeps its place and the last gives the value. -/
def Datum.simplify : Datum → Except Fault Datum
  | .moment m => .ok (.text m.iso)
  | .sequence items => do return .sequence (← simplifyItems items)
  | .tuple items => do return .sequence (← simplifyItems items)
  | .mapping entries => do return .record (← simplifyEntries [] entries)
  | d => .ok d

/-- The items of a sequence, simplified. -/
def simplifyItems : List Datum → Except Fault (List Datum)
  | [] => .ok []
  | d :: ds => do
    let d ← d.simplify
    return d :: (← simplifyItems ds)

/-- The entries of a table, simplified and added to those that are `done`. -/
def simplifyEntries (done : Entries String Datum) :
    List (DatumKey × Datum) → Except Fault (Entries String Datum)
  | [] => .ok done
  | (k, d) :: es => do
    let name ← k.display
    let d ← d.simplify
    simplifyEntries (Entries.put name d done) es

end

namespace FileSource

/-- A source with its name, which is made from the last part of the path where none is given. -/
def make (path : Location) (format : Option FileFormat) (required : Bool) (name : Option Label) :
    Action World FileSource := fun w =>
  let name := Label.orMade name ("file:" ++ path.name)
  ((w.files.resolve path).map fun id => ⟨path, format, required, name, id⟩, w)

/-- A fault of the source. -/
def failure {α : Type} (s : FileSource) (diagnostic : String) : Except Fault α :=
  .error (.source (some s.name) diagnostic)

/-- The paths that are tried where the path itself names no file, with their formats. -/
def candidates (s : FileSource) : List (Location × FileFormat) :=
  (match s.format with | some f => [f] | none => FileFormat.all).flatMap fun (f : FileFormat) =>
    f.extensions.map fun extension => (s.path.withName (s.path.name ++ "." ++ extension), f)

/-- The first of some paths at which there is a file. -/
def firstFile (isFile : Location → Except Fault Bool) :
    List (Location × FileFormat) → Except Fault (Option (Location × FileFormat))
  | [] => .ok none
  | c :: cs => do if ← isFile c.1 then return some c else firstFile isFile cs

/-- The file that is read, with its format, if there is one. -/
def locate (s : FileSource) (w : World) : Except Fault (Option (Location × FileFormat)) := do
  if ← w.files.isFile s.path then
    match s.format, FileFormat.ofLocation? s.path with
    | some f, _ | none, some f => return some (s.path, f)
    | none, none => s.failure ("unsupported file format: " ++ s.path.text)
  else if s.path.name.isEmpty then
    .error (.invalid ("PosixPath(" ++ Text.quoted s.path.text ++ ") has an empty name"))
  else firstFile w.files.isFile s.candidates

/-- The settings in the table of a file with a path, which is the origin of all values. -/
def settings (s : FileSource) (origin : String) (d : Datum) : Except Fault Datum :=
  match d with
  | .nil => .ok (.mapping [])
  | .mapping entries => do
    match Value.ofDatum (← (Datum.mapping entries).simplify) (some origin) with
    | .ok (.table _ fields) => return .record (fields.map fun (k, v) => (k, .value v))
    | .ok _ => return .mapping []
    | .error e =>
      if e.isTypeFault then s.failure (e.message ++ " in " ++ origin) else .error e
  | d => s.failure ("expected a table at the root of " ++ origin ++ ", got " ++ d.typeName)

/-- The settings of a file with given octets, read by a reader of its format. -/
def contents (read : String → Except ReadFault Datum) (s : FileSource) (origin : String)
    (octets : List Nat) : Except Fault Datum :=
  match Text.decodeUtf8 octets with
  | .error e => s.failure ("could not read " ++ origin ++ ": " ++ e.message)
  | .ok cs =>
    match read (String.ofList (Text.foldNewlines cs)) with
    | .error (.malformed diagnostic) =>
      .error (.source (some (.text origin)) (diagnostic ++ " in " ++ origin))
    | .error (.content e) => .error e
    | .ok d => s.settings origin d

/-- The settings in the file, read by readers of the formats. -/
def collectWith (read : FileReader) (s : FileSource) : Action World Datum := fun w =>
  let settings : Except Fault Datum := do
    match ← s.locate w with
    | some (path, f) =>
      match w.files.read path with
      | .ok octets => s.contents (read f) path.text octets
      | .error diagnostic => s.failure ("could not read " ++ path.text ++ ": " ++ diagnostic)
    | none =>
      if s.required then s.failure ("configuration file " ++ s.path.text ++ " not found")
      else .ok (.mapping [])
  (settings, w)

/-- The settings in the file. -/
def collect (s : FileSource) : Action World Datum := fun w =>
  s.collectWith w.readers.text w

end FileSource

end LayeredConfig
