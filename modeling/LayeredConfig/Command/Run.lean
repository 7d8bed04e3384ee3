import LayeredConfig.Command.Request
import LayeredConfig.Environment
import LayeredConfig.Format.JsonText
import LayeredConfig.Store.Reading

set_option autoImplicit false

/-!
# Answers to command lines

A request is answered by making the environment, registering the sources, building the store and
applying the assignments, defaults first, and then reading. The first fault on this way decides the
outcome. Last, the answer or the complaint is written to its stream, which may fail too.

## Main definitions

* `Assignment.read` — a key with the data that are assigned to it.
* `Setup.build` — the store of a command.
* `Shape` — the shapes in which a value is read.
* `Query.reader`, `Request.answer` — the text that a request is answered with.
* `Outcome`, `runWith`, `run` — what comes of a command line.
-/

namespace LayeredConfig.Command

/-- Why a request has no answer. -/
inductive Failure where
  /-- The arguments are wrong. -/
  | usage (e : UsageError)
  /-- There was a fault. -/
  | fault (e : Fault)

/-! ## Assignments -/

/-- Data that are assigned to a key. -/
structure Assignment where
  /-- The key. -/
  key : String
  /-- The data. -/
  datum : Datum

/-- Whether data can be assigned as they are. -/
def isAssignable : Datum → Bool
  | .nil | .boolean _ | .integer _ | .float _ | .text _ | .sequence _ | .mapping _ => true
  | _ => false

/-- The data that the text of an assignment stands for. It is read as YAML; where that gives no data
of a configuration, and where nothing is written, the text stands for itself. -/
def assignedDatum (read : FileReader) (text : String) : Except Fault Datum :=
  if text.isEmpty then .ok (.text "")
  else
    match read .yaml text with
    | .ok d => .ok (if isAssignable d then d else .text text)
    | .error (.content e) => .error e
    | .error (.malformed _) => .ok (.text text)

/-- The assignment that a text makes: a key, an equality sign and what is assigned. -/
def Assignment.read (read : FileReader) (text : String) : Except Failure Assignment :=
  match splitEquality text with
  | (_, none) => .error (.usage (.noAssignment text))
  | (key, some assigned) =>
    match assignedDatum read assigned with
    | .ok d => .ok ⟨key, d⟩
    | .error e => .error (.fault e)

/-- A change of a store: it assigns data to a key. -/
abbrev Change := Store World → String → Datum → Action World (Store World)

/-- The outcome of a step whose faults are failures. -/
def liftFault {α : Type} (r : Except Fault α × World) : Except Failure α × World :=
  (r.1.mapError .fault, r.2)

/-- Applies assignments to a store, one after the other. -/
def applyAll (read : FileReader) (change : Change) (s : Store World) :
    List String → World → Except Failure (Store World) × World
  | [], w => (.ok s, w)
  | text :: rest, w =>
    match Assignment.read read text with
    | .error e => (.error e, w)
    | .ok a =>
      match change s a.key a.datum w with
      | (.ok s, w) => applyAll read change s rest w
      | (.error e, w) => (.error (.fault e), w)

/-! ## Requests -/

/-- The store of the environment with the sources, without the assignments. -/
def Setup.base (setup : Setup) : Action World (Store World) := fun w =>
  match Environment.create setup.environment setup.sources none w with
  | (.ok e, w) => e.build w
  | (.error e, w) => (.error e, w)

/-- The store of a command. -/
def Setup.build (setup : Setup) (w : World) : Except Failure (Store World) × World :=
  let read := w.readers.text
  match liftFault (setup.base w) with
  | (.error e, w) => (.error e, w)
  | (.ok s, w) =>
    match applyAll read Store.setDefault s setup.defaults w with
    | (.error e, w) => (.error e, w)
    | (.ok s, w) => applyAll read Store.set s setup.overrides w

/-- The shapes in which a value is read. -/
inductive Shape where
  /-- As it is. -/
  | value
  /-- A text. -/
  | text
  /-- An integer. -/
  | integer
  /-- A floating-point number. -/
  | float
  /-- A truth value. -/
  | boolean
  /-- An array. -/
  | array
  /-- A table with paths for keys. -/
  | tree
deriving DecidableEq, Repr

namespace Shape

/-- All shapes. -/
def all : List Shape := [.value, .text, .integer, .float, .boolean, .array, .tree]

/-- The name of a shape. -/
def name : Shape → String
  | .value => "value"
  | .text => "str"
  | .integer => "int"
  | .float => "float"
  | .boolean => "bool"
  | .array => "array"
  | .tree => "tree"

/-- The shape with a name. -/
def ofName? (name : String) : Option Shape :=
  all.find? (·.name = name)

end Shape

/-- The data at a key of a store, in a shape. -/
def Shape.read (shape : Shape) (s : Store World) (key : String) : Except Fault Datum :=
  match shape with
  | .value => do return .ofValue (← s.get key)
  | .text => do return .text (← s.getText key)
  | .integer => do return .integer (← s.getInteger key)
  | .float => do return .float (← s.getFloat key)
  | .boolean => do return .boolean (← s.getBool key)
  | .array => do return .sequence ((← s.getArray key).map .ofValue)
  | .tree => do return (← s.getTree key).toDatum

/-- The text of data in an answer. -/
def answerText (d : Datum) : String :=
  Format.Json.write (.indented 2) d ++ "\n"

/-- How the answer to a query is read off a store. -/
def Query.reader : Query → Except UsageError (Store World → Except Fault String)
  | .get key shapeName =>
    match Shape.ofName? shapeName with
    | some shape => .ok fun s => do
      return answerText (.record [("key", .text key), ("value", ← shape.read s key)])
    | none => .error (.unknownShape shapeName)
  | .display plain => .ok fun s =>
    .ok (if plain then s.display ++ "\n" else answerText (Format.Json.sorted s.toDatum))

/-- The text that a request is answered with. -/
def Request.answer (r : Request) (w : World) : Except Failure String × World :=
  match r with
  | .help text => (.ok text, w)
  | .ask query setup =>
    match query.reader with
    | .error e => (.error (.usage e), w)
    | .ok read =>
      match setup.build w with
      | (.error e, w) => (.error e, w)
      | (.ok s, w) => liftFault (read s, w)

/-! ## Outcomes -/

/-- What comes of a command line. -/
inductive Outcome where
  /-- An answer. -/
  | done (answer : String)
  /-- The command reports a fault. -/
  | refused (e : Fault)
  /-- The arguments are wrong. -/
  | misused (e : UsageError)
  /-- A fault that the command does not report ended it. -/
  | broken (e : Fault)

namespace Outcome

/-- The exit code. -/
def exitCode : Outcome → Nat
  | .done _ => 0
  | .refused _ | .broken _ => 1
  | .misused _ => 2

/-- What is written to the standard output. -/
def output : Outcome → String
  | .done answer => answer
  | .refused _ | .misused _ | .broken _ => ""

/-- What is written to the standard error. -/
def complaint : Outcome → String
  | .done _ => ""
  | .refused e => "Error: " ++ e.message ++ "\n"
  | .misused e => "Error: " ++ e.message ++ "\n"
  | .broken e => "Unhandled fault: " ++ e.message ++ "\n"

/-- The outcome that an answer or a failure leads to. -/
def ofAnswer : Except Failure String → Outcome
  | .ok answer => .done answer
  | .error (.usage e) => .misused e
  | .error (.fault e) => if e.isReported then .refused e else .broken e

/-- The outcome after the answer, or the report of a fault, was written to its stream. -/
def written (write : Stream → String → Except Fault Unit) (o : Outcome) : Outcome :=
  let attempt := match o with
    | .done _ => write .output o.output
    | .refused _ => write .complaints o.complaint
    | .misused _ | .broken _ => .ok ()
  match attempt with
  | .ok () => o
  | .error e => .broken e

end Outcome

/-- What comes of a command line, which is read by the given reader. -/
def runWith (parse : ArgumentParser) (arguments : List String) (w : World) : Outcome × World :=
  match parse arguments with
  | .error e => (.misused e, w)
  | .ok r => ((Outcome.ofAnswer (r.answer w).1).written w.streams, (r.answer w).2)

/-- What comes of a command line. -/
def run : List String → World → Outcome × World :=
  runWith Request.ofArguments

end LayeredConfig.Command
