import LayeredConfig.Format.Json
import LayeredConfig.Format.Toml.Document
import LayeredConfig.Format.Yaml.Content
import LayeredConfig.Location

set_option autoImplicit false

/-!
# Formats of files

Files hold YAML, JSON or TOML. Their names tell which.

## Main definitions

* `FileFormat` — the formats, with their extensions.
* `FileFormat.ofLocation?` — the format that the name of a file tells.
* `ReadFault` — why a text cannot be read in its format.
* `FileFormat.read` — the data of a text.
-/

namespace LayeredConfig

open Format

/-- The formats of files. -/
inductive FileFormat where
  /-- YAML. -/
  | yaml
  /-- JSON. -/
  | json
  /-- TOML. -/
  | toml
deriving DecidableEq, Repr

namespace FileFormat

/-- All formats, in the order in which files are looked for. -/
def all : List FileFormat := [.yaml, .json, .toml]

/-- The name of a format. -/
def name : FileFormat → String
  | .yaml => "yaml"
  | .json => "json"
  | .toml => "toml"

/-- The extensions of the files of a format. -/
def extensions : FileFormat → List String
  | .yaml => ["yaml", "yml"]
  | .json => ["json"]
  | .toml => ["toml"]

/-- The format that the name of a file tells by its extension, in any letter case. -/
def ofLocation? (l : Location) : Option FileFormat :=
  let extension := String.ofList ((Text.lower l.suffix).toList.dropWhile (· = '.'))
  all.find? (·.extensions.contains extension)

end FileFormat

/-- Why a text cannot be read in its format. -/
inductive ReadFault where
  /-- The text is not in the format. -/
  | malformed (diagnostic : String)
  /-- The data that the text writes cannot be had. -/
  | content (e : Fault)
deriving Repr

/-- A reader of texts in all formats. -/
abbrev FileReader := FileFormat → String → Except ReadFault Datum

/-- The data of a text in JSON. -/
def readJson (text : String) : Except ReadFault Datum :=
  match Json.read text with
  | .ok d => .ok d
  | .error (.malformed reason pos) =>
    .error (.malformed (reason.text ++ " at line " ++ toString (lineOf text.toList pos)))
  | .error (.tooManyDigits count) => .error (.content (.tooManyDigits count))
  | .error (.halfPair _) => .error (.content (.foreign "half of a surrogate pair"))

/-- The data of a text in TOML. -/
def readToml (text : String) : Except ReadFault Datum :=
  match Toml.read text with
  | .ok d => .ok d
  | .error (.malformed reason pos) => .error (.malformed (Toml.describe text reason pos))
  | .error (.tooManyDigits count) => .error (.content (.tooManyDigits count))

/-- The data of a text in YAML. -/
def readYaml (text : String) : Except ReadFault Datum :=
  match Yaml.read text with
  | .ok d => .ok d
  | .error (.unbuildable e) => .error (.content e)
  | .error e => .error (.malformed e.brief)

/-- The data of a text in a format. -/
def FileFormat.read : FileReader
  | .yaml => readYaml
  | .json => readJson
  | .toml => readToml

end LayeredConfig
