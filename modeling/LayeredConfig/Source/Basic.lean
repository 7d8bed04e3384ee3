import LayeredConfig.Pattern.Parser
import LayeredConfig.Value.Build

set_option autoImplicit false

/-!
# Sources

A source is asked for its whole contribution every time a store is rebuilt. What it answers may
depend on its surroundings, and asking may change them; it may also fail in any way. A filter
chooses among the leaves that a source contributes, by the written form of their paths.

## Main definitions

* `Filter` — an optional regular expression that paths have to match.
* `Filter.ofDatum` — the filter that a description in plain data asks for.
* `Filter.admits` — whether a path passes.
* `Action` — a step that depends on the surroundings, may change them, and may fail.
* `Source` — something with a name that contributes settings.
* `Registered` — a source in a store, with the filter for its leaves.
-/

namespace LayeredConfig

/-! ## Filters -/

/-- A choice among the leaves of a source. -/
structure Filter where
  /-- What the written form of a path has to match, if anything. -/
  includes : Option Pattern.Regex
deriving Repr

namespace Filter

/-- The fault of a text that is not a regular expression. -/
def patternFault : Pattern.SyntaxFault → Fault
  | .malformed => .misuse .badPattern
  | .tooLarge => .misuse .tooLarge
  | .incompatible => .invalid "ASCII and UNICODE flags are incompatible"

/-- The filter with the given regular expression. -/
def ofPattern (text : String) : Except Fault Filter :=
  match Pattern.Regex.compile text with
  | .ok r => .ok ⟨some r⟩
  | .error e => .error (patternFault e)

/-- The filter that a description in plain data asks for: no filter where nothing is described, and
one without a condition where the table has no text for it. -/
def ofDatum (d : Datum) : Except Fault (Option Filter) :=
  if !d.isTruthy then .ok none
  else
    match d with
    | .mapping entries =>
      match Datum.getEntry? (.text "include_regex") entries with
      | some (.text text) => (ofPattern text).map some
      | _ => .ok (some ⟨none⟩)
    | _ => .error (.misuse .noOperation)

/-- Whether a path, in its written form, passes a filter; all paths pass where there is none. -/
def admits (f : Option Filter) (path : String) : Bool :=
  match f with
  | some ⟨some r⟩ => r.search path
  | _ => true

end Filter

/-! ## Sources -/

/-- A step that depends on surroundings of type `ω`, may change them, and may fail. Surroundings
that were changed stay so after a failure. -/
abbrev Action (ω α : Type) := ω → Except Fault α × ω

/-- Something that contributes settings. -/
structure Source (ω : Type) where
  /-- What identifies the source. -/
  id : Label
  /-- What the source is called in messages. -/
  name : Label
  /-- Asks the source for all its settings. -/
  collect : Action ω Datum

/-- A source in a store. -/
structure Registered (ω : Type) where
  /-- The source. -/
  source : Source ω
  /-- Which of its leaves count. -/
  filter : Option Filter

end LayeredConfig
