import LayeredConfig.World

set_option autoImplicit false

/-!
# Surroundings with given files

Surroundings that are made of a list of files and directories. There are no links, so double dots
lead back up. The manifest is read as UTF-8 and as YAML, files in their formats, and no server has
anything to tell.

## Main definitions

* `Snapshot` — files and directories.
* `Snapshot.find` — what stands at a file path.
* `Snapshot.fileSystem`, `Snapshot.manifest` — what a program can see of them.
* `Snapshot.world`, `World.bare` — surroundings with given files, and with none.
-/

namespace LayeredConfig

/-- What stands at a place of the file system. -/
inductive FileNode where
  /-- A file with its octets. -/
  | file (octets : List Nat)
  /-- A directory. -/
  | directory
deriving DecidableEq, Repr

/-- Files and directories. -/
structure Snapshot where
  /-- What stands at absolute file paths, given as their parts. The later entry counts. -/
  files : List (List String × FileNode)
  /-- The working directory, as the parts of its absolute path. -/
  cwd : List String
deriving Repr

namespace Snapshot

/-- What stands at an absolute path without double dots. Every place above an existing one is a
directory. -/
def nodeAt (s : Snapshot) (parts : List String) : Option FileNode :=
  match s.files.reverse.find? (·.1 = parts) with
  | some (_, node) => some node
  | none =>
    if parts.isPrefixOf s.cwd || s.files.any (fun f => parts.isPrefixOf f.1) then some .directory
    else none

/-- Walks down from a directory; double dots lead back up. Nothing but a directory can be walked
through. -/
def walk (s : Snapshot) (done : List String) : List String → Option FileNode
  | [] => s.nodeAt done
  | p :: rest =>
    if s.nodeAt done = some .directory then
      if p = ".." then walk s done.dropLast rest else walk s (done ++ [p]) rest
    else none

/-- Whether a path has a null character. -/
def hasNull (l : Location) : Bool :=
  l.parts.any fun part => part.toList.contains '\x00'

/-- What stands at a file path. -/
def find (s : Snapshot) (l : Location) : Option FileNode :=
  if hasNull l then none else s.walk (if l.root = "" then s.cwd else []) l.parts

/-- Whether a file stands at a file path. -/
def holdsFile (s : Snapshot) (l : Location) : Bool :=
  match s.find l with
  | some (.file _) => true
  | _ => false

/-- The octets of a file, or why they cannot be read. -/
def read (s : Snapshot) (l : Location) : Except String (List Nat) :=
  match s.find l with
  | some (.file octets) => .ok octets
  | some .directory => .error ("[Errno 21] Is a directory: " ++ Text.quoted l.text)
  | none => .error ("[Errno 2] No such file or directory: " ++ Text.quoted l.text)

/-- The files, as far as a program can look at them. -/
def fileSystem (s : Snapshot) : FileSystem where
  cwd := .ok s.cwd
  isThere l := .ok (s.find l).isSome
  isFile l := .ok (s.holdsFile l)
  resolve l :=
    if hasNull l then .error (.invalid "embedded null byte") else .ok (l.resolve s.cwd).text
  read := s.read

/-- The characters of a manifest. It is read piece by piece, so an end within a character is one of
the last piece. -/
def decode (octets : List Nat) : Except Fault (List Char) :=
  match Text.decodeUtf8 octets with
  | .ok cs => .ok (Text.foldNewlines cs)
  | .error e =>
    .error (.undecodable (if e.reason = .endOfData then { e with position := 0 } else e))

/-- The data of the manifest at a path. -/
def manifest (s : Snapshot) (l : Location) : Except LoadFault Datum :=
  match s.read l with
  | .error diagnostic => .error (.unreadable diagnostic)
  | .ok octets =>
    match decode octets with
    | .error e => .error (.content e)
    | .ok cs =>
      match Format.Yaml.read (String.ofList cs) with
      | .ok d => .ok d
      | .error (.unbuildable e) => .error (.content e)
      | .error e => .error (.malformed (e.message l.text))

/-- The surroundings in which there are these files, and nothing else. -/
def world (s : Snapshot) : World where
  files := s.fileSystem
  readers := ⟨FileFormat.read, s.manifest⟩
  environ := []
  keyspace := ⟨fun _ => .ok (), fun _ => .ok [], fun keys => .ok (keys.map fun _ => none)⟩
  web := ⟨fun _ => .ok (), fun _ => none, []⟩
  feeds := []
  streams := fun _ _ => .ok ()
  calls := []
  warnings := []

end Snapshot

/-- Surroundings in which there is nothing. -/
def World.bare : World :=
  Snapshot.world ⟨[], []⟩

end LayeredConfig
