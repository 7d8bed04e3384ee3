import LayeredConfig.Command.Run
import LayeredConfig.Snapshot

set_option autoImplicit false

/-!
# Command line

Brings the files and the variables of the process to a command, and its answer and its warnings to
the standard streams. Servers cannot be reached from here: a source that needs one fails.

A command looks for the manifest in the working directory and in all directories above it, and at
the files of the sources that the environment registers. Surroundings that hold all these files as
they are lead to the same answer as surroundings that hold all files.

## Main definitions

* `manifestPlaces`, `sourcePlaces` — where a command looks for files.
* `main` — the command line.
-/

namespace LayeredConfig.Command

/-! ## Files that a command looks at -/

/-- The directories from a given one upwards, given by its parts in reverse. -/
def directoriesFrom : List String → List (List String)
  | [] => [[]]
  | part :: above => (part :: above).reverse :: directoriesFrom above

/-- Where the manifest is looked for. -/
def manifestPlaces (cwd : List String) : List Location :=
  (directoriesFrom cwd.reverse).map fun parts => ⟨"/", parts ++ [Manifest.fileName]⟩

/-- Where the file of a source is looked for. -/
def adapterPlaces : Adapter → List Location
  | .file s => s.path :: s.candidates.map (·.1)
  | _ => []

/-- Where the files of the sources of a request are looked for, in surroundings that hold the
manifest. -/
def sourcePlaces (r : Request) (w : World) : List Location :=
  match r with
  | .help _ => []
  | .ask _ setup =>
    match (Environment.create setup.environment setup.sources none w).1 with
    | .ok e => e.registered.flatMap fun r => adapterPlaces r.adapter
    | .error _ => []

/-! ## The surroundings of the process -/

/-- The number of the fault of reading a directory. -/
def directoryCode : UInt32 := 21

/-- What stands at an absolute path. -/
def nodeAt? (path : String) : IO (Option FileNode) := do
  try
    let octets ← IO.FS.readBinFile path
    return some (.file (octets.toList.map UInt8.toNat))
  catch
    | .inappropriateType _ code _ => return if code = directoryCode then some .directory else none
    | _ => return none

/-- The places that exist, with what stands there. -/
def nodesAt (cwd : List String) (places : List Location) : IO (List (List String × FileNode)) := do
  let found ← places.mapM fun l => do
    let l := l.resolve cwd
    return (← nodeAt? l.text).map fun node => (l.parts, node)
  return found.filterMap id

/-- The variable that an entry of the environment block gives. -/
def variableOf (octets : List Nat) : Option (String × String) :=
  match Text.decodeUtf8 octets with
  | .ok cs =>
    match splitEquality (String.ofList cs) with
    | (name, some value) => some (name, value)
    | (_, none) => none
  | .error _ => none

/-- The entries of an environment block, each of which ends with a zero. -/
def blockEntries (octets : List Nat) : List (List Nat) :=
  (octets.foldr (fun (b : Nat) (done : List (List Nat)) =>
    if b = 0 then [] :: done
    else
      match done with
      | [] => [[b]]
      | e :: es => (b :: e) :: es) []).filter (!·.isEmpty)

/-- The variables of the process. -/
def processVariables : IO (List (String × String)) := do
  match ← nodeAt? "/proc/self/environ" with
  | some (.file octets) => return (blockEntries octets).filterMap variableOf
  | _ => return []

/-- The surroundings with given files, without servers. -/
def withoutServers (files : Snapshot) (environ : List (String × String)) : World :=
  let unreachable := "the network cannot be reached"
  { files.world with
    environ := environ
    keyspace := ⟨fun _ => .ok (), fun _ => .error (.server unreachable),
      fun _ => .error (.server unreachable)⟩
    web := ⟨fun _ => .ok (), fun _ => some (.noPage unreachable), []⟩ }

/-- The surroundings of a request. -/
def surroundings (r : Request) : IO World := do
  let cwd := (Location.ofText (← IO.currentDir).toString).parts
  let environ ← processVariables
  let manifests ← nodesAt cwd (manifestPlaces cwd)
  let places := sourcePlaces r (withoutServers ⟨manifests, cwd⟩ environ)
  return withoutServers ⟨manifests ++ (← nodesAt cwd places), cwd⟩ environ

end LayeredConfig.Command

open LayeredConfig in
/-- Answers a command line. -/
def main (arguments : List String) : IO UInt32 := do
  let w ← match Command.Request.ofArguments arguments with
    | .ok r => Command.surroundings r
    | .error _ => pure World.bare
  let (outcome, w) := Command.run arguments w
  let complaints ← IO.getStderr
  w.warnings.forM fun warning => complaints.putStrLn warning
  complaints.putStr outcome.complaint
  (← IO.getStdout).putStr outcome.output
  return outcome.exitCode.toUInt32
