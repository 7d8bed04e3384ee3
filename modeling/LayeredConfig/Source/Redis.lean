import LayeredConfig.Source.Environ

set_option autoImplicit false

/-!
# Redis keyspaces

The texts of a Redis server as settings. The server is asked for the keys that match a prefix; a
key that begins with the prefix loses it, and dots stand for a separator.

## Main definitions

* `RedisSource` — a keyspace as a source.
* `RedisSource.settings` — the settings of the keys that a scan has found, in any order.
-/

namespace LayeredConfig

/-- A Redis keyspace as a source. -/
structure RedisSource where
  /-- Where the server is. -/
  uri : String
  /-- What the keys begin with. -/
  keyPrefix : String
  /-- What stands for a dot. -/
  separator : Option String
  /-- What the source is called. -/
  name : Label
deriving Repr

namespace RedisSource

/-- A source with its name, which is made from the address where none is given. -/
def make (uri keyPrefix : String) (separator : Option String) (name : Option Label) : RedisSource :=
  ⟨uri, keyPrefix, separator, .orMade name ("redis:" ++ uri)⟩

/-- Prepares connections to the server and makes the source. -/
def connect (uri keyPrefix : String) (separator : Option String) (name : Option Label) :
    Action World RedisSource := fun w =>
  ((w.keyspace.connect uri).map fun () => make uri keyPrefix separator name,
    Action.note (.connect uri) w)

/-- What identifies the source. -/
def id (s : RedisSource) : String :=
  if s.keyPrefix.isEmpty then s.uri else s.uri ++ "#" ++ s.keyPrefix

/-- The key of the setting that a key of the server stands for. -/
def keyOf (s : RedisSource) (key : String) : String :=
  let cs := key.toList
  let start := s.keyPrefix.toList
  dotted s.separator (if start.isPrefixOf cs then String.ofList (cs.drop start.length) else key)

/-- Whether a text may stand before another one: texts are compared by code points. -/
def textLe (a b : String) : Bool :=
  !decide (b < a)

/-- The settings of sorted keys with the texts that stand under them. A key without a text sets
nothing, and of two keys that set the same the later one counts. -/
def settings (s : RedisSource) (found : List (String × Option String)) : Entries String Value :=
  found.foldl (fun done (k, text) =>
    match text with
    | some t => done.put (s.keyOf k) (.scalar (some s.uri) (.text t))
    | none => done) []

/-- The fault of a source whose server is at fault. -/
def blame (s : RedisSource) : KeyspaceFault → Fault
  | .server diagnostic => .source (some s.name) ("failed to read " ++ s.uri ++ ": " ++ diagnostic)
  | .other e => e

/-- What the keys match that are asked for. -/
def pattern (s : RedisSource) : String :=
  s.keyPrefix ++ "*"

/-- Scans for the keys, sorts them, and reads what stands under them. -/
def collect (s : RedisSource) : Action World Datum := fun w =>
  let w := Action.note (.scan s.pattern) w
  match w.keyspace.scan s.pattern with
  | .error e => (.error (s.blame e), w)
  | .ok scanned =>
    let keys := scanned.mergeSort textLe
    if keys.isEmpty then (.ok (.mapping []), w)
    else
      let w := Action.note (.read keys) w
      match w.keyspace.read keys with
      | .error e => (.error (s.blame e), w)
      | .ok texts =>
        let found := s.settings (keys.zip texts)
        (.ok (.record (found.map fun (k, v) => (k, .value v))), w)

end RedisSource

end LayeredConfig
