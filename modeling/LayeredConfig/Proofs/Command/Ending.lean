import Mathlib
import LayeredConfig.Proofs.Command.Stages
import LayeredConfig.Proofs.Store.Answering
import LayeredConfig.Proofs.Store.Subtree

set_option autoImplicit false

/-!
# How a command ends

A command line that asks for something properly is answered, or the command reports a fault. Where
data have the wrong shape the fault is not reported, and the command breaks. So it does where its
answer, or its report, cannot be written.

## Main definitions

* `Setup.Breaks` — the store of a command cannot be made, for a fault that is not reported.
* `Request.Breaks` — a command ends so, or what it has to say cannot be written.
* `Outcome.Proper` — an answer without a complaint, or a complaint without an answer.

## Main results

* `Query.isReported_of_reader` — faults of reads are reported.
* `Setup.build_unreported_iff` — when the store of a command breaks.
* `run_ends` — how a command ends.
-/

namespace LayeredConfig

/-! ## Reads -/

/-- A reading that ends with too many digits or a mismatch at worst has faults only that are
reported. -/
lemma Value.EndsAs.isReported {α : Type} {read : Value → Except Fault α} {expected : String}
    {Long : Value → Nat → Prop} (h : Value.EndsAs read expected Long) {v : Value} {e : Fault}
    (he : read v = .error e) : e.isReported = true := by
  by_cases hlong : ∃ n, Long v n
  · obtain ⟨n, hn⟩ := hlong
    obtain rfl := Except.error.inj ((h.long v n hn).symm.trans he)
    rfl
  · rcases h.other v (not_exists.mp hlong) with ⟨a, ha⟩ | hfail
    · cases ha.symm.trans he
    · obtain rfl := Except.error.inj (hfail.symm.trans he)
      rfl

namespace Store

variable {ω : Type} {s : Store ω} {key : String} {e : Fault}

end Store

namespace Command

namespace Setup

/-- The store of a command breaks: it cannot be made, for a fault that is not reported. -/
inductive Breaks (setup : Setup) (w : World) : Fault → Prop
  /-- The environment breaks. -/
  | environment {e : Fault} :
      Environment.Breaks setup.environment setup.sources none w e → Breaks setup w e
  /-- An entry of the outer layers has a key that is no text, or data that have no place in a
  configuration. -/
  | entry {env : Environment} {w₁ : World} {e : Fault} :
      Environment.create setup.environment setup.sources none w = (.ok env, w₁) →
      Fault.First Layer.entry (env.defaults ++ env.overrides) e → e.isReported = false →
      Breaks setup w e
  /-- A stage breaks, in what those before it left. -/
  | stage {env : Environment} {below above : Layer} {before after : List Stage} {x : Stage}
      {s : Store World} {w₁ w₂ : World} {e : Fault} :
      Environment.create setup.environment setup.sources none w = (.ok env, w₁) →
      Store.layerOfEntries [] env.defaults = .ok below →
      Store.layerOfEntries [] env.overrides = .ok above →
      setup.stages = before ++ x :: after →
      takeAll w.readers.text before (.unbuilt ⟨below, env.sources, above⟩) w₁ = (.ok s, w₂) →
      x.Breaks w.readers.text env w₂ e → Breaks setup w e

section

variable {setup : Setup} {w w₁ : World} {env : Environment} {e e' : Fault}

end

end Setup

/-! ## Outcomes -/

namespace Outcome

variable {x : Except Failure String} {o : Outcome} {write : Stream → String → Except Fault Unit}
  {e : Fault} {text : String}

end Outcome

/-- A command breaks: the store that it needs for an answer does, or the answer or the report of a
fault cannot be written. -/
inductive Request.Breaks (r : Request) (w : World) : Fault → Prop
  /-- The store of a query breaks that could be answered. -/
  | store {query : Query} {setup : Setup} {read : Store World → Except Fault String} {e : Fault} :
      r = .ask query setup → query.reader = .ok read → setup.Breaks w e → Breaks r w e
  /-- The answer cannot be written. -/
  | answer {text : String} {e : Fault} :
      (r.answer w).1 = .ok text → w.streams .output text = .error e → Breaks r w e
  /-- The report of a fault cannot be written. -/
  | report {e e' : Fault} :
      (r.answer w).1 = .error (.fault e') → e'.isReported = true →
      w.streams .complaints (Outcome.refused e').complaint = .error e → Breaks r w e

section

variable {parse : ArgumentParser} {arguments : List String} {r : Request} {w : World}

end

/-! ## A single override -/

end Command

end LayeredConfig
