import LayeredConfig.Path.Parser
import LayeredConfig.Path.Access
import LayeredConfig.Source.Basic

set_option autoImplicit false

/-!
# Contributions

What a source hands in becomes a list of leaves with their paths. A key at the top is a path in its
written form; below it tables and arrays are taken apart.

## Main definitions

* `contribution` — the leaves that a payload stands for.
* `Registered.contribute` — the leaves of a source that its filter admits.
* `gather` — the leaves of several sources, in order.
-/

namespace LayeredConfig

/-- The leaves of the entries of a table: each key is read as a path, then its data as a value. -/
def contributionOfEntries : List (DatumKey × Datum) → Except Fault (List (Path × Value))
  | [] => .ok []
  | (k, d) :: es => do
    let root ← Path.parseKey (← k.display)
    let v ← Value.ofDatum d none
    return v.leaves root ++ (← contributionOfEntries es)

/-- The leaves that a payload stands for. Only a table is a payload. -/
def contribution : Datum → Except Fault (List (Path × Value))
  | .mapping entries => contributionOfEntries entries
  | _ => .error (.misuse .noOperation)

/-- Names the source in a fault of collecting, where it does not say itself. -/
def Fault.tagged (name : Label) : Fault → Fault
  | .source none diagnostic => .source (some name) diagnostic
  | e => e

/-- Data of the wrong type are a fault of the source that handed them in. -/
def Fault.blamed (name : Label) (e : Fault) : Fault :=
  if e.isTypeFault then .source (some name) e.message else e

variable {ω : Type}

/-- The leaves of a source that its filter admits. -/
def Registered.contribute (r : Registered ω) : Action ω (List (Path × Value)) := fun w =>
  match r.source.collect w with
  | (.error e, w') => (.error (e.tagged r.source.name), w')
  | (.ok payload, w') =>
    match contribution payload with
    | .error e => (.error (e.blamed r.source.name), w')
    | .ok leaves => (.ok (leaves.filter fun (p, _) => Filter.admits r.filter p.text), w')

/-- The leaves of several sources, asked in order up to the first that fails. -/
def gather : List (Registered ω) → Action ω (List (Path × Value))
  | [], w => (.ok [], w)
  | r :: rs, w =>
    match r.contribute w with
    | (.error e, w') => (.error e, w')
    | (.ok leaves, w') =>
      match gather rs w' with
      | (.error e, w'') => (.error e, w'')
      | (.ok more, w'') => (.ok (leaves ++ more), w'')

end LayeredConfig
