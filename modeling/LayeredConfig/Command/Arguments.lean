import LayeredConfig.Location
import LayeredConfig.Text.Quoted

set_option autoImplicit false

/-!
# Arguments

The arguments of a command line are plain ones and switches, in any order. A switch has a long
spelling and may have a letter; some take a text, which is the next argument or is attached: after
an equality sign to the long spelling, directly to the letter. Behind a double dash all arguments
are plain.

## Main definitions

* `Switch` — the switches, with their spellings.
* `UsageError` — what can be wrong with arguments.
* `Switch.recognise` — the switch that an argument spells.
* `Arguments.read` — the plain arguments and the switches, with their texts.
-/

namespace LayeredConfig.Command

/-- The switches. -/
inductive Switch where
  /-- Asks what the command does. -/
  | help
  /-- Names the environment. -/
  | environment
  /-- Registers a source. -/
  | source
  /-- Sets a default. -/
  | setDefault
  /-- Sets an override. -/
  | setOverride
  /-- Names the shape in which a value is read. -/
  | shape
  /-- Asks for the text for display. -/
  | plain
deriving DecidableEq, Repr

namespace Switch

/-- The long spelling. -/
def long : Switch → String
  | .help => "--help"
  | .environment => "--env"
  | .source => "--source"
  | .setDefault => "--default"
  | .setOverride => "--set"
  | .shape => "--type"
  | .plain => "--plain"

/-- The letter, which only switches have that take a text. -/
def letter? : Switch → Option Char
  | .source => some 's'
  | .setDefault => some 'd'
  | .shape => some 't'
  | .help | .environment | .setOverride | .plain => none

/-- Whether a text belongs to the switch. -/
def takesText : Switch → Bool
  | .help | .plain => false
  | .environment | .source | .setDefault | .setOverride | .shape => true

end Switch

/-- What can be wrong with the arguments of a command line. -/
inductive UsageError where
  /-- There is no command. -/
  | noCommand
  /-- There is no command of this name. -/
  | unknownCommand (name : String)
  /-- There is no switch of this spelling. -/
  | unknownSwitch (spelling : String)
  /-- The text of a switch is missing. -/
  | missingText (s : Switch)
  /-- A text is attached to a switch that takes none. -/
  | needlessText (s : Switch)
  /-- A plain argument is missing. -/
  | missingKey
  /-- A plain argument is one too many. -/
  | surplus (argument : String)
  /-- There is no shape of this name. -/
  | unknownShape (name : String)
  /-- A text is not an assignment. -/
  | noAssignment (text : String)
  /-- Anything else that another reader of command lines finds wrong. -/
  | foreign (diagnostic : String)
deriving DecidableEq, Repr

/-- The wording of a usage error. -/
def UsageError.message : UsageError → String
  | .noCommand => "Missing command."
  | .unknownCommand name => "No such command " ++ Text.quoted name ++ "."
  | .unknownSwitch spelling => "No such option: " ++ spelling
  | .missingText s => "Option " ++ Text.quoted s.long ++ " requires an argument."
  | .needlessText s => "Option " ++ Text.quoted s.long ++ " does not take a value."
  | .missingKey => "Missing argument 'KEY'."
  | .surplus argument => "Got unexpected extra argument (" ++ argument ++ ")"
  | .unknownShape name => "Invalid value for --type: unknown type " ++ Text.quoted name
  | .noAssignment text => "Invalid value: expected KEY=VALUE, got " ++ Text.quoted text
  | .foreign diagnostic => diagnostic

/-- What stands before the first equality sign, and what stands behind it if there is one. -/
def splitEquality (s : String) : String × Option String :=
  match Text.cut? '=' s.toList with
  | some (before, behind) => (String.ofList before, some (String.ofList behind))
  | none => (s, none)

namespace Switch

/-- Whether an argument spells a switch, known or not: it starts with a dash and goes on. -/
def isSpelled (argument : String) : Bool :=
  match argument.toList with
  | '-' :: _ :: _ => true
  | _ => false

/-- The switch that an argument spells by its letter, with the text attached. -/
def recogniseLetter (known : List Switch) (c : Char) (attached : List Char) :
    Except UsageError (Switch × Option String) :=
  match known.find? (·.letter? = some c) with
  | some s => .ok (s, if attached.isEmpty then none else some (String.ofList attached))
  | none => .error (.unknownSwitch (String.ofList ['-', c]))

/-- The switch that an argument spells, with the text attached. -/
def recognise (known : List Switch) (argument : String) :
    Except UsageError (Switch × Option String) :=
  let (spelling, attached) := splitEquality argument
  match known.find? (·.long = spelling), argument.toList with
  | some s, _ => .ok (s, attached)
  | none, '-' :: '-' :: _ => .error (.unknownSwitch spelling)
  | none, '-' :: c :: rest => recogniseLetter known c rest
  | none, _ => .error (.unknownSwitch spelling)

end Switch

/-- The arguments of a command. -/
structure Arguments where
  /-- The plain ones. -/
  plain : List String
  /-- The switches with their texts, in order; the text is empty for switches that take none. -/
  switches : List (Switch × String)
deriving Repr

namespace Arguments

/-- Arguments with a plain one in front. -/
def addPlain (argument : String) (a : Arguments) : Arguments :=
  { a with plain := argument :: a.plain }

/-- Arguments with a switch in front. -/
def addSwitch (s : Switch) (text : String) (a : Arguments) : Arguments :=
  { a with switches := (s, text) :: a.switches }

/-- The arguments of a command with the `known` switches. -/
def read (known : List Switch) : List String → Except UsageError Arguments
  | [] => .ok ⟨[], []⟩
  | "--" :: rest => .ok ⟨rest, []⟩
  | argument :: rest => do
    if Switch.isSpelled argument then
      let (s, attached) ← Switch.recognise known argument
      match s.takesText, attached, rest with
      | true, some text, rest => return (← read known rest).addSwitch s text
      | true, none, text :: rest => return (← read known rest).addSwitch s text
      | true, none, [] => .error (.missingText s)
      | false, some _, _ => .error (.needlessText s)
      | false, none, rest => return (← read known rest).addSwitch s ""
    else return (← read known rest).addPlain argument

/-- The texts of a switch, in order. -/
def texts (a : Arguments) (s : Switch) : List String :=
  (a.switches.filter (·.1 = s)).map (·.2)

/-- Whether a switch is given. -/
def has (a : Arguments) (s : Switch) : Bool :=
  a.switches.any (·.1 = s)

/-- The text of a switch that counts once: the last one, or else a given one. -/
def lastText (a : Arguments) (s : Switch) (otherwise : String) : String :=
  (a.texts s).getLast?.getD otherwise

end Arguments

end LayeredConfig.Command
