import LayeredConfig.Source.Environ
import LayeredConfig.Value.Elements

set_option autoImplicit false

/-!
# Variables of GitHub environments

The variables of an environment of a GitHub repository as settings. They are listed page by page; a
page that is not full is the last one. Names are taken in lower case, and a separator within them
stands for the dot of paths.

## Main definitions

* `GitHubAddress` — an environment of a repository.
* `GitHubSource` — the variables of an environment as a source.
* `GitHubSource.list` — all variables of the environment.
-/

namespace LayeredConfig

/-- An environment of a repository. -/
structure GitHubAddress where
  /-- The owner of the repository. -/
  owner : String
  /-- The name of the repository. -/
  repository : String
  /-- The name of the environment. -/
  environment : String
deriving DecidableEq, Repr

namespace GitHubAddress

/-- The text of an address without its scheme. -/
def text (a : GitHubAddress) : String :=
  a.owner ++ "/" ++ a.repository ++ "#" ++ a.environment

/-- What an address starts with. -/
def scheme : String := "github://"

/-- The address that a text writes. -/
def ofText (s : String) : Except Fault GitHubAddress :=
  if !scheme.toList.isPrefixOf s.toList then
    .error (.invalid "GitHubEnvSource requires URI starting with github://")
  else
    match Text.cut? '#' (s.toList.drop scheme.length) with
    | none =>
      .error (.invalid ("GitHub URI must include #environment suffix, " ++
        "e.g., github://owner/repo#production"))
    | some (path, environment) =>
      match Text.cut? '/' path with
      | none => .error (.invalid "GitHub URI path must be owner/repo")
      | some (owner, repository) =>
        .ok ⟨String.ofList owner, String.ofList repository, String.ofList environment⟩

/-- The path under which the variables are listed. -/
def path (a : GitHubAddress) : String :=
  "/repos/" ++ a.owner ++ "/" ++ a.repository ++ "/environments/" ++ a.environment ++ "/variables"

end GitHubAddress

/-- The variables of an environment as a source. -/
structure GitHubSource where
  /-- The address as it was written. -/
  uri : String
  /-- The environment. -/
  address : GitHubAddress
  /-- What gives access to it. -/
  token : String
  /-- What stands for a dot. -/
  separator : Option String
  /-- What the source is called. -/
  name : Label
deriving Repr

namespace GitHubSource

/-- The first text that is not empty. -/
def firstGiven (texts : List (Option String)) : Option String :=
  texts.findSome? fun t => t.filter (!·.isEmpty)

/-- A source with its name, which is made from the address where none is given. The token may come
from a variable of the process. -/
def make (uri : String) (token separator : Option String) (name : Option Label) :
    Action World GitHubSource := fun w =>
  let made : Except Fault GitHubSource := do
    let a ← GitHubAddress.ofText uri
    match firstGiven [token, w.environ.reverse.lookup "GITHUB_TOKEN"] with
    | some t => do
      w.web.connect t
      return ⟨uri, a, t, separator, .orMade name ("github:" ++ a.text)⟩
    | none =>
      .error (.surroundings "GITHUB_TOKEN not set and token not provided for GitHubEnvSource")
  (made, w)

/-- What identifies the source. -/
def id (s : GitHubSource) : String := s.address.text

/-! ## Pages -/

/-- How many variables a full page holds. -/
def pageSize : Nat := 100

/-- The items that the data on a page list. Only tables list any. -/
def itemsOf (d : Datum) : Except ListFault (List Datum) :=
  match d with
  | .mapping es =>
    match Datum.getEntry? (.text "variables") es with
    | none => .ok []
    | some listed =>
      match listed.elements? with
      | some items => .ok items
      | none => .error (.other (.misuse .wrongType))
  | _ => .error (.other (.misuse .noOperation))

/-- The name and the value of an item. Only tables have them. -/
def variableOf (d : Datum) : Except ListFault (DatumKey × Datum) :=
  match d with
  | .mapping es =>
    match Datum.getEntry? (.text "name") es with
    | none => .error (.noVariables "KeyError('name')")
    | some name =>
      match name.toKey? with
      | some key => .ok (key, (Datum.getEntry? (.text "value") es).getD .nil)
      | none => .error (.other (.misuse .wrongType))
  | _ => .error (.other (.misuse .noOperation))

/-- The variables that the data on a page list. -/
def pageVariables (d : Datum) : Except ListFault (List (DatumKey × Datum)) := do
  (← itemsOf d).mapM variableOf

/-- The variables of an answer. -/
def answered (outcome : PageOutcome) : Except ListFault (List (DatumKey × Datum)) := do
  let r ← outcome
  r.status
  pageVariables (← r.data)

/-- The page after the last one. -/
def lastPage : PageOutcome :=
  .ok ⟨.ok (), .ok (.record [("variables", .sequence [])])⟩

/-- The answer to a call, with the surroundings after it. A call that is refused is not made; after
its last answer the server has nothing more to list. -/
def fetch (c : Call) (w : World) : PageOutcome × World :=
  match w.web.refusal c, w.web.answers with
  | some e, _ => (.error e, w)
  | none, answer :: rest => (answer c, Action.note c { w with web.answers := rest })
  | none, [] => (lastPage, Action.note c w)

/-- Lists the variables from a page on; the first argument bounds the number of pages. -/
def listFrom (path : String) : (fuel page : Nat) → World →
    Except ListFault (List (DatumKey × Datum)) × World
  | 0, _, w => (.ok [], w)
  | fuel + 1, page, w =>
    match fetch (.page path pageSize page) w with
    | (outcome, w) =>
      match answered outcome with
      | .error e => (.error e, w)
      | .ok found =>
        if found.length < pageSize then (.ok found, w)
        else
          match listFrom path fuel (page + 1) w with
          | (.error e, w) => (.error e, w)
          | (.ok more, w) => (.ok (found ++ more), w)

/-- Lists all variables. -/
def list (s : GitHubSource) (w : World) : Except ListFault (List (DatumKey × Datum)) × World :=
  listFrom s.address.path (w.web.answers.length + 1) 1 w

/-! ## Settings -/

/-- The settings of variables, added to those that are `done`. -/
def settingsFrom (s : GitHubSource) (done : Entries String Value) :
    List (DatumKey × Datum) → Except Fault (Entries String Value)
  | [] => .ok done
  | (.text name, d) :: rest => do
    let v ← Value.ofDatum d (some s.uri)
    let key := dotted (s.separator.map Text.lower) (Text.lower name)
    settingsFrom s (done.put key v) rest
  | _ :: _ => .error (.misuse .noOperation)

/-- The settings of listed variables: a repeated name keeps its first place and has its last
value. -/
def settings (s : GitHubSource) (found : List (DatumKey × Datum)) :
    Except Fault (Entries String Value) :=
  s.settingsFrom [] (found.foldl (fun es e => Datum.putEntry e.1 e.2 es) [])

/-- The fault of a source whose variables cannot be listed. -/
def blame (s : GitHubSource) : ListFault → Fault
  | .noPage diagnostic =>
    .source (some s.name) ("failed to list variables of " ++ s.uri ++ ": " ++ diagnostic)
  | .noVariables diagnostic =>
    .source (some s.name) ("unexpected response from " ++ s.uri ++ ": " ++ diagnostic)
  | .other e => e

/-- The settings of all variables. -/
def collect (s : GitHubSource) : Action World Datum := fun w =>
  match s.list w with
  | (.error e, w) => (.error (s.blame e), w)
  | (.ok found, w) =>
    ((s.settings found).map fun es => .record (es.map fun (k, v) => (k, .value v)), w)

end GitHubSource

end LayeredConfig
