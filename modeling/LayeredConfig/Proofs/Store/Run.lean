import LayeredConfig.Proofs.Store.Operation

set_option autoImplicit false

/-!
# Runs of operations

A store that is changed in place by any sequence of operations, some of which fail, in any
surroundings. The merged tree and the layers stay in step: an operation that succeeds leaves the
tree that its layers make of what the sources contributed to it, and one that fails leaves the
whole store as it was.

## Main definitions

* `Store.Built` — the merged tree is the one that the layers make.

## Main results

* `Store.run_induction` — what every operation preserves holds after every run.
* `Store.rebuilt_or_unchanged` — after any run, an operation rebuilds the tree or changes nothing.

## Design

Each operation of a run has surroundings of its own, of any type. So a source may answer anything
each time that it is asked, and the surroundings may change between two operations.
-/

namespace LayeredConfig

variable {ω : Type}

namespace Store

/-- What every operation preserves, in any surroundings, holds after every run. -/
theorem run_induction {P : Store ω → Prop} (s : Store ω) (start : P s)
    (step : ∀ s (op : Operation ω) w, P s → P (op.perform (s, w)).2.1)
    (ops : List (Operation ω × ω)) : P (s.run ops) := by
  induction ops generalizing s with
  | nil => exact start
  | cons o ops ih => exact ih _ (step s o.1 o.2 start)

/-- The merged tree is the one that the layers make, with what their sources contributed when they
were asked last. -/
def Built (s : Store ω) : Prop :=
  ∃ w leaves w', Contributed s.sources w leaves w' ∧ s = built s.toLayers leaves

/-- A store whose tree is the one that its layers make, and that is open to changes. -/
lemma eq_built {s : Store ω} {leaves : List (Path × Value)}
    (hc : s.cache = Value.emptyTable.replay (s.defaults ++ leaves ++ s.overrides))
    (hf : s.frozen = false) : s = built s.toLayers leaves := by
  calc s = ⟨s.toLayers, s.cache, s.frozen⟩ := rfl
    _ = built s.toLayers leaves := by rw [hc, hf]; rfl

/-- A built store is open to changes. -/
lemma Built.frozen_eq_false {s : Store ω} (h : s.Built) : s.frozen = false := by
  obtain ⟨w, leaves, w', -, hs⟩ := h
  rw [hs]
  rfl

/-- A store without settings is built from its layers, in any surroundings. -/
lemma built_empty (w : ω) : Built (empty : Store ω) :=
  ⟨w, [], w, .nil w, rfl⟩

/-- An operation leaves a built store behind: a new one where it succeeds, and the one that was
there where it fails. -/
lemma Built.perform {s : Store ω} (h : s.Built) (op : Operation ω) (w : ω) :
    Built (op.perform (s, w)).2.1 := by
  rcases hp : op.perform (s, w) with ⟨e | _, s', w'⟩
  · rwa [Operation.perform_error hp]
  · obtain ⟨-, f, leaves, -, hc, rfl⟩ := Operation.perform_ok_iff.mp hp
    exact ⟨w, leaves, w', hc, rfl⟩

/-- **Rebuilt or unchanged**: after any run from a store without settings, the merged tree is the
one that the layers make. A further operation succeeds iff its edit of the layers is possible and
all sources that are there after it contribute; then the tree is what comes of writing into an empty
table all defaults, what each source contributed to this very operation, and all overrides. Where it
fails, the store stays as it was: its layers, its tree and its being open to changes.

**Proof sketch.** Both halves are the specification of a single operation
(`Operation.perform_ok_iff`, `Operation.perform_error`). So `Built` is preserved by every operation
and holds after every run (`run_induction`); in particular no store of a run is frozen. -/
theorem rebuilt_or_unchanged (ops : List (Operation ω × ω)) (op : Operation ω) (w : ω) :
    Built ((empty : Store ω).run ops) ∧
    (∀ s' w', op.perform (empty.run ops, w) = (.ok (), (s', w')) ↔
      ∃ f leaves, op.edit = .ok f ∧ s'.toLayers = f (empty.run ops).toLayers ∧
        Contributed s'.sources w leaves w' ∧
        s'.cache = Value.emptyTable.replay (s'.defaults ++ leaves ++ s'.overrides) ∧
        s'.frozen = false) ∧
    (∀ e s' w', op.perform (empty.run ops, w) = (.error e, (s', w')) → s' = empty.run ops) := by
  have hb : Built ((empty : Store ω).run ops) :=
    run_induction empty (built_empty w) (fun s op w h => h.perform op w) ops
  refine ⟨hb, fun s' w' => ?_, fun e s' w' h => Operation.perform_error h⟩
  rw [Operation.perform_ok_iff]
  constructor
  · rintro ⟨-, f, leaves, hf, hc, rfl⟩
    exact ⟨f, leaves, hf, rfl, hc, rfl, rfl⟩
  · rintro ⟨f, leaves, hf, hl, hc, hcache, hfrozen⟩
    refine ⟨hb.frozen_eq_false, f, leaves, hf, hl ▸ hc, ?_⟩
    rw [← hl]
    exact eq_built hcache hfrozen

end Store

end LayeredConfig
