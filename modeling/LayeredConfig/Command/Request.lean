import LayeredConfig.Command.Arguments

set_option autoImplicit false

/-!
# Requests

A command line asks for the value at a key or for the whole store. The store is made of the
environment that is named, further sources, and assignments of defaults and overrides.

## Main definitions

* `Setup` — what the store is made of.
* `Query`, `Request` — what is asked for.
* `ArgumentParser` — the readers of command lines.
* `Request.ofArguments` — one of them.
-/

namespace LayeredConfig.Command

/-- What the store of a command is made of. -/
structure Setup where
  /-- The name of the environment. -/
  environment : String
  /-- The paths and addresses of further sources, lowest first. -/
  sources : List String
  /-- The assignments of defaults. -/
  defaults : List String
  /-- The assignments of overrides. -/
  overrides : List String
deriving DecidableEq, Repr

/-- What is asked of a store. -/
inductive Query where
  /-- The value at a key, in the shape with a name. -/
  | get (key shapeName : String)
  /-- The whole store, as data or as the text for display. -/
  | display (plain : Bool)
deriving DecidableEq, Repr

/-- What a command line asks for. -/
inductive Request where
  /-- What the command does, as a text says. -/
  | help (text : String)
  /-- Something about a store. -/
  | ask (query : Query) (setup : Setup)
deriving DecidableEq, Repr

/-- A reader of command lines. -/
abbrev ArgumentParser := List String → Except UsageError Request

/-- What a store is made of, as switches say. -/
def Setup.ofArguments (a : Arguments) : Setup :=
  ⟨a.lastText .environment "development", a.texts .source, a.texts .setDefault,
    a.texts .setOverride⟩

namespace Request

/-- What the command does, in one line for each form of it. -/
def summary : String :=
  "get KEY [--type SHAPE] [--env NAME] [--source PATH]... [--default KEY=VALUE]... " ++
    "[--set KEY=VALUE]...\n" ++
  "show [--plain] [--env NAME] [--source PATH]... [--default KEY=VALUE]... [--set KEY=VALUE]...\n"

/-- The switches of both commands. -/
def commonSwitches : List Switch := [.help, .environment, .source, .setDefault, .setOverride]

/-- The request for the value at a key that arguments make. -/
def getOfArguments (arguments : List String) : Except UsageError Request := do
  let a ← Arguments.read (.shape :: commonSwitches) arguments
  if a.has .help then return .help summary
  match a.plain with
  | [] => .error .missingKey
  | [key] => return .ask (.get key (a.lastText .shape "value")) (.ofArguments a)
  | _ :: surplus :: _ => .error (.surplus surplus)

/-- The request for the whole store that arguments make. -/
def displayOfArguments (arguments : List String) : Except UsageError Request := do
  let a ← Arguments.read (.plain :: commonSwitches) arguments
  if a.has .help then return .help summary
  match a.plain with
  | [] => return .ask (.display (a.has .plain)) (.ofArguments a)
  | surplus :: _ => .error (.surplus surplus)

/-- The request that a command with its arguments makes. -/
def ofCommand (name : String) (arguments : List String) : Except UsageError Request :=
  match name with
  | "get" => getOfArguments arguments
  | "show" => displayOfArguments arguments
  | _ => .error (.unknownCommand name)

/-- What follows the switches for help that stand before the name of the command, and whether there
are any. -/
def splitLeading : List String → Except UsageError (Bool × List String)
  | [] => .ok (false, [])
  | "--" :: rest => .ok (false, rest)
  | first :: rest => do
    if Switch.isSpelled first then
      let (s, attached) ← Switch.recognise [.help] first
      if attached.isSome then .error (.needlessText s)
      let (_, rest) ← splitLeading rest
      return (true, rest)
    else return (false, first :: rest)

/-- The request that a command line makes. After a switch for help the command does not matter. -/
def ofArguments : ArgumentParser := fun arguments => do
  match ← splitLeading arguments with
  | (true, _) => return .help summary
  | (false, []) => .error .noCommand
  | (false, name :: rest) => ofCommand name rest

end Request

end LayeredConfig.Command
