import LayeredConfig.Manifest
import LayeredConfig.Source.File
import LayeredConfig.Source.GitHub
import LayeredConfig.Source.Redis
import LayeredConfig.Store.Operation
import LayeredConfig.Uri

set_option autoImplicit false

/-!
# Environments

An environment gathers what a store is built from: the defaults, sources and overrides of its
section in the manifest, and sources that are registered later. A source is registered by the path
of a file or by an address.

## Main definitions

* `MemorySource` — a source backed by a feed.
* `Adapter` — the kinds of sources.
* `Adapter.ofText` — the source that a path or an address stands for.
* `Environment` — an environment.
* `Environment.create`, `Environment.register`, `Environment.build` — how it is used.
-/

namespace LayeredConfig

/-! ## Sources -/

/-- A source backed by a feed of the surroundings, which the application may fill at any time. -/
structure MemorySource where
  /-- What identifies the source. -/
  id : String
  /-- What the source is called. -/
  name : String
  /-- The number of its feed. -/
  feed : Nat
deriving Repr

/-- What the feed contributes at present; a feed that is not there contributes nothing. -/
def MemorySource.collect (s : MemorySource) : Action World Datum := fun w =>
  (w.feeds[s.feed]?.getD (.ok (.mapping [])), w)

/-- The kinds of sources. -/
inductive Adapter where
  /-- A feed of the application. -/
  | memory (s : MemorySource)
  /-- The variables of the process. -/
  | environ (s : EnvironSource)
  /-- A file. -/
  | file (s : FileSource)
  /-- A Redis keyspace. -/
  | redis (s : RedisSource)
  /-- The variables of a GitHub environment. -/
  | gitHub (s : GitHubSource)

namespace Adapter

/-- What identifies a source. -/
def id : Adapter → Label
  | .memory s => .text s.id
  | .environ s => s.name
  | .file s => .text s.id
  | .redis s => .text s.id
  | .gitHub s => .text s.id

/-- What a source is called. -/
def name : Adapter → Label
  | .memory s => .text s.name
  | .environ s => s.name
  | .file s => s.name
  | .redis s => s.name
  | .gitHub s => s.name

/-- All settings of a source. -/
def collect : Adapter → Action World Datum
  | .memory s => s.collect
  | .environ s => s.collect
  | .file s => s.collect
  | .redis s => s.collect
  | .gitHub s => s.collect

/-- The source itself. -/
def source (a : Adapter) : Source World :=
  ⟨a.id, a.name, a.collect⟩

/-- A source that was made is one of its kind. -/
def lift {α : Type} (f : α → Adapter) (r : Except Fault α × World) : Except Fault Adapter × World :=
  (r.1.map f, r.2)

/-- An address that the parts of a text cannot be had of, or what is made of them. -/
def withUri (s : String) (f : Uri → Action World Adapter) : Action World Adapter := fun w =>
  match Uri.ofText s with
  | .ok u => f u w
  | .error e => (.error e, w)

/-- Whether a text starts with another one. -/
def startsWith (start s : String) : Bool :=
  start.toList.isPrefixOf s.toList

/-- The keyspace at an address, with the prefix in its query. -/
def ofRedis (name : Option Label) (u : Uri) : Action World Adapter := fun w =>
  let address := { u with query := "" }.text
  lift .redis (RedisSource.connect address ((u.parameter? "prefix").getD "") (some ":") name w)

/-- The variables of the process with the authority of an address for a prefix, and the separator in
its query. -/
def ofEnviron (name : Option Label) (u : Uri) : Action World Adapter := fun w =>
  let namePrefix := if u.authority.isEmpty then none else some u.authority
  (.ok (.environ (.make namePrefix (u.parameter? "separator") none name)), w)

/-- The source that a path or an address stands for. -/
def ofText (s : String) (name : Option Label) (required : Bool) : Action World Adapter := fun w =>
  let unsupported : Fault := .invalid ("Unsupported source type: " ++ s)
  if startsWith "redis://" s || startsWith "rediss://" s then withUri s (ofRedis name) w
  else if startsWith "github://" s then lift .gitHub (GitHubSource.make s none none name w)
  else if startsWith "env://" s then withUri s (ofEnviron name) w
  else if Datum.occursIn "://".toList s.toList then (.error unsupported, w)
  else
    let path := Location.ofText s
    if !path.suffix.isEmpty && (FileFormat.ofLocation? path).isNone then (.error unsupported, w)
    else lift .file (FileSource.make path none required name w)

end Adapter

/-! ## Environments -/

/-- A registered source with the filter for its leaves. -/
structure Registration where
  /-- The source. -/
  adapter : Adapter
  /-- Which of its leaves count. -/
  filter : Option Filter

/-- What a store is built from. -/
structure Environment where
  /-- Where the manifest is, if there is one. -/
  manifest : Option Location
  /-- The defaults. -/
  defaults : List (DatumKey × Datum)
  /-- The overrides. -/
  overrides : List (DatumKey × Datum)
  /-- The sources, lowest first. -/
  registered : List Registration

namespace Environment

/-- Adds a source. -/
def add (e : Environment) (a : Adapter) (filter : Option Filter) : Environment :=
  { e with registered := e.registered ++ [⟨a, filter⟩] }

/-- Registers the source that a path or an address stands for. -/
def register (e : Environment) (s : String) (filter : Option Filter) (name : Option Label)
    (required : Bool) : Action World Environment := fun w =>
  match Adapter.ofText s name required w with
  | (.ok a, w) => (.ok (e.add a filter), w)
  | (.error err, w) => (.error err, w)

/-- Registers several sources, up to the first that cannot be made. Those before it stay
registered. -/
def registerAll (e : Environment) : List String → World → Environment × Option Fault × World
  | [], w => (e, none, w)
  | s :: rest, w =>
    match e.register s none none true w with
    | (.ok e, w) => registerAll e rest w
    | (.error err, w) => (e, some err, w)

/-- Registers the source that an entry of a manifest describes. -/
def registerEntry (e : Environment) (d : Datum) : Action World Environment := fun w =>
  let parsed : Except Fault (Manifest.Entry × String) := do
    let entry ← Manifest.Entry.ofDatum d
    return (entry, ← entry.target.text)
  match parsed with
  | .ok (entry, s) => e.register s entry.filter entry.name (entry.required.getD true) w
  | .error err => (.error err, w)

/-- The warning that an entry of a manifest is passed over. -/
def skipped (e : Environment) (d : Datum) (err : Fault) : String :=
  "Skipping source " ++ d.literal ++ " from " ++ ((e.manifest.map Location.text).getD "None") ++
    ": " ++ err.message

/-- Registers the sources that the entries of a manifest describe. An entry that describes none is
passed over with a warning; data of the wrong shape are a fault. -/
def registerEntries (e : Environment) : List Datum → Action World Environment
  | [], w => (.ok e, w)
  | d :: rest, w =>
    match e.registerEntry d w with
    | (.ok e, w) => registerEntries e rest w
    | (.error err, w) =>
      if err.isReported then registerEntries e rest (Action.warn (e.skipped d err) w)
      else (.error err, w)

/-- The parts of the section of an environment: defaults, overrides and sources. -/
def loadSection (place : Option Location) (name : String) : Action World (Datum × Datum × Datum) :=
  fun w =>
    match Manifest.loadPart place name Manifest.defaults w with
    | (.error e, w) => (.error e, w)
    | (.ok below, w) =>
      match Manifest.loadPart place name Manifest.overrides w with
      | (.error e, w) => (.error e, w)
      | (.ok above, w) =>
        match Manifest.loadPart place name Manifest.sources w with
        | (.error e, w) => (.error e, w)
        | (.ok sources, w) => (.ok (below, above, sources), w)

/-- The environment that the section of a manifest describes. -/
def ofSection (place : Option Location) (below above sources : Datum) : Action World Environment :=
  fun w =>
    let parts : Except Fault (Environment × List Datum) := do
      let defaults ← below.entries
      let overrides ← above.entries
      return (⟨place, defaults, overrides, []⟩, ← sources.elements)
    match parts with
    | .error e => (.error e, w)
    | .ok (e, entries) => e.registerEntries entries w

/-- The environment with a name, as the manifest at a place describes it. A manifest that is no good
leaves it empty; a warning says so. -/
def ofPlace (name : String) (place : Option Location) : Action World Environment := fun w =>
  match loadSection place name w with
  | (.ok (below, above, sources), w) => ofSection place below above sources w
  | (.error err, w) =>
    if err.isInvalidArgument then
      let message :=
        "Ignoring " ++ ((place.map Location.text).getD "None") ++ ": " ++ err.message
      (.ok ⟨place, [], [], []⟩, Action.warn message w)
    else (.error err, w)

/-- The environment with a name, as its manifest describes it. -/
def ofManifest (name : String) (configPath : Option String) : Action World Environment := fun w =>
  match Manifest.locate configPath w with
  | .ok place => ofPlace name place w
  | .error err => (.error err, w)

/-- The environment with a name, with further sources registered. -/
def create (name : String) (sources : List String) (configPath : Option String) :
    Action World Environment := fun w =>
  match ofManifest name configPath w with
  | (.error e, w) => (.error e, w)
  | (.ok e, w) =>
    match e.registerAll sources w with
    | (e, none, w) => (.ok e, w)
    | (_, some err, w) => (.error err, w)

/-- The sources of the environment with their filters. -/
def sources (e : Environment) : List (Registered World) :=
  e.registered.map fun r => ⟨r.adapter.source, r.filter⟩

/-- The store that the environment makes. -/
def build (e : Environment) : Action World (Store World) :=
  Store.ofLayers e.defaults e.sources e.overrides

end Environment

end LayeredConfig
