import LayeredConfig.Format.FileFormat
import LayeredConfig.Source.Basic

set_option autoImplicit false

/-!
# Surroundings

What a program has around it: files, with readers for what is in them, the variables of the process,
a Redis server, a web server, feeds that the application itself fills, and the streams that it
writes to. Most of this is the work of other programs. What they give is taken as it comes, and
every one of them may fail, also in ways that it does not promise. The surroundings also keep the
calls of servers that were made, and the warnings that were logged.

## Main definitions

* `FileSystem`, `Readers` — files and what is read of them.
* `Keyspace`, `WebClient` — servers, by what they answer to each `Call`.
* `World` — the surroundings.
* `Action.note`, `Action.warn` — note a call or a warning.
-/

namespace LayeredConfig

/-! ## Files -/

/-- Files, as far as a program can look at them. -/
structure FileSystem where
  /-- The parts of the absolute path of the working directory. -/
  cwd : Except Fault (List String)
  /-- Whether there is anything at a path. -/
  isThere : Location → Except Fault Bool
  /-- Whether there is a file at a path. -/
  isFile : Location → Except Fault Bool
  /-- The absolute path, without links, that a path names. -/
  resolve : Location → Except Fault String
  /-- The octets of a file, or why they cannot be read. -/
  read : Location → Except String (List Nat)

/-- Why a manifest cannot be had. -/
inductive LoadFault where
  /-- The file cannot be read. -/
  | unreadable (diagnostic : String)
  /-- The text is not in the format. -/
  | malformed (diagnostic : String)
  /-- The data that the text writes cannot be had, or the file holds no text. -/
  | content (e : Fault)
deriving Repr

/-- The readers of formats. -/
structure Readers where
  /-- Reads texts in all formats. -/
  text : FileReader
  /-- Reads the manifest at a path. -/
  manifest : Location → Except LoadFault Datum

/-! ## Servers -/

/-- What can go wrong with a server of keys. -/
inductive KeyspaceFault where
  /-- The server, or the way to it, is at fault. -/
  | server (diagnostic : String)
  /-- Another fault. -/
  | other (e : Fault)
deriving Repr

/-- A Redis server. -/
structure Keyspace where
  /-- Prepares connections to the server at an address. -/
  connect : String → Except Fault Unit
  /-- The keys that match a pattern, in any order and maybe more than once. -/
  scan : String → Except KeyspaceFault (List String)
  /-- What stands under each of some keys; nothing for a key without a text. -/
  read : List String → Except KeyspaceFault (List (Option String))

/-- Why variables cannot be listed. -/
inductive ListFault where
  /-- The server did not give a page. -/
  | noPage (diagnostic : String)
  /-- A page does not hold variables. -/
  | noVariables (diagnostic : String)
  /-- Another fault. -/
  | other (e : Fault)
deriving Repr

/-- A response of a web server. -/
structure Response where
  /-- What is wrong with its status, if anything. -/
  status : Except ListFault Unit
  /-- The data that its body writes in JSON. -/
  data : Except ListFault Datum

/-- What comes of asking for a page. -/
abbrev PageOutcome := Except ListFault Response

/-- A call of a server. -/
inductive Call where
  /-- Prepares connections to a Redis server. -/
  | connect (uri : String)
  /-- Asks for the keys that match a pattern. -/
  | scan (pattern : String)
  /-- Asks for what stands under keys. -/
  | read (keys : List String)
  /-- Asks for a page, given its size and its number, of what is listed under a path. -/
  | page (path : String) (size number : Nat)
deriving DecidableEq, Repr

/-- A web server, as far as a client can see it. -/
structure WebClient where
  /-- Prepares requests that carry a token. -/
  connect : String → Except Fault Unit
  /-- Why a call is not even made, if it cannot be. -/
  refusal : Call → Option ListFault
  /-- What comes of the calls that are still made, in order. -/
  answers : List (Call → PageOutcome)

/-! ## Surroundings -/

/-- What a feed contributes at present: data, or a fault. -/
abbrev Feed := Except Fault Datum

/-- The streams that a program writes to. -/
inductive Stream where
  /-- The standard output. -/
  | output
  /-- The standard error. -/
  | complaints
deriving DecidableEq, Repr

/-- The surroundings of the program. -/
structure World where
  /-- The files. -/
  files : FileSystem
  /-- The readers of formats. -/
  readers : Readers
  /-- The variables of the process, in order. -/
  environ : List (String × String)
  /-- The Redis server. -/
  keyspace : Keyspace
  /-- The web server. -/
  web : WebClient
  /-- The feeds of the application. -/
  feeds : List Feed
  /-- What comes of writing a text to a stream. -/
  streams : Stream → String → Except Fault Unit
  /-- The calls that were made, in order. -/
  calls : List Call
  /-- The warnings that were logged, in order. -/
  warnings : List String

namespace Action

/-- Notes a call. -/
def note (c : Call) (w : World) : World :=
  { w with calls := w.calls ++ [c] }

/-- Logs a warning. -/
def warn (text : String) (w : World) : World :=
  { w with warnings := w.warnings ++ [text] }

end Action

end LayeredConfig
