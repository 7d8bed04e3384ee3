import Mathlib
import LayeredConfig.Proofs.Path.Reordering
import LayeredConfig.Proofs.Store.ReadBack
import LayeredConfig.Proofs.Value.Alike

set_option autoImplicit false

/-!
# The order of a layer

A layer keeps its values in the order in which they were written last, and the tree is built in this
order. Where the paths of a layer part pairwise the order does not matter: whichever way such layers
are arranged, building the tree over the same sources succeeds or fails alike, and the trees are
equal up to the order of the entries of their tables.

## Main definitions

* `Source.IsPure` — sources that answer the same whenever they are asked.
* `Layer.Rearranged`, `Layers.Rearranged` — the same values, in another order that does not matter.

## Main results

* `gather_of_isPure` — gathering from such sources.
* `Store.independent_writes_commute` — writes at paths that part, and layers made of them.
-/

namespace LayeredConfig

variable {ω : Type}

/-! ## Sources that answer the same -/

/-- The source answers the same whenever it is asked, and asking it changes nothing. -/
def Source.IsPure (src : Source ω) : Prop :=
  ∃ answer, ∀ w, src.collect w = (answer, w)

/-- A source that always contributes the same payload is pure. -/
lemma Source.isPure_fixed (payload : Datum) : (Source.fixed payload : Source ω).IsPure :=
  ⟨.ok payload, fun _ => rfl⟩

/-- What a pure source contributes does not depend on the surroundings. -/
lemma Registered.contribute_of_isPure {r : Registered ω} (h : r.source.IsPure) :
    ∃ answer, ∀ w, r.contribute w = (answer, w) := by
  obtain ⟨answer, hanswer⟩ := h
  cases answer with
  | error e => exact ⟨_, fun w => by simp only [contribute, hanswer]; rfl⟩
  | ok payload =>
    cases hleaves : contribution payload with
    | error e => exact ⟨_, fun w => by simp only [contribute, hanswer, hleaves]; rfl⟩
    | ok leaves => exact ⟨_, fun w => by simp only [contribute, hanswer, hleaves]; rfl⟩

/-- What pure sources contribute does not depend on the surroundings. -/
lemma gather_of_isPure {rs : List (Registered ω)} (h : ∀ r ∈ rs, r.source.IsPure) :
    ∃ answer, ∀ w, gather rs w = (answer, w) := by
  induction rs with
  | nil => exact ⟨.ok [], fun w => rfl⟩
  | cons r rs ih =>
    obtain ⟨hr, hrs⟩ := List.forall_mem_cons.mp h
    obtain ⟨first, hfirst⟩ := r.contribute_of_isPure hr
    obtain ⟨others, hothers⟩ := ih hrs
    cases first with
    | error e => exact ⟨.error e, fun w => by simp only [gather, hfirst]⟩
    | ok leaves =>
      cases others with
      | error e => exact ⟨.error e, fun w => by simp only [gather, hfirst, hothers]⟩
      | ok more => exact ⟨.ok (leaves ++ more), fun w => by simp only [gather, hfirst, hothers]⟩

/-! ## Layers in another order -/

/-- The layers hold the same values at the same paths, in the same order or in orders that do not
matter, since the paths part pairwise. -/
def Layer.Rearranged (l m : Layer) : Prop :=
  l = m ∨ l.Perm m ∧ l.Pairwise fun a b => Path.Parted a.1 b.1

/-- The sources are the same, and the values of the other two layers come in orders whose difference
does not matter. -/
structure Layers.Rearranged (l m : Layers ω) : Prop where
  /-- The defaults are rearranged. -/
  defaults : Layer.Rearranged l.defaults m.defaults
  /-- The sources are the same, in the same order. -/
  sources : l.sources = m.sources
  /-- The overrides are rearranged. -/
  overrides : Layer.Rearranged l.overrides m.overrides

/-- Rearranged layers are written to the same tree, up to the order of entries. -/
lemma Layer.Rearranged.replay {l m : Layer} (h : l.Rearranged m) {v w : Value}
    (hvw : v.Reordered w) : (v.replay l).Reordered (w.replay m) := by
  rcases h with rfl | ⟨hperm, hparted⟩
  · exact hvw.replay l
  · exact (Value.reordered_replay_of_perm hperm hparted v).trans (hvw.replay m)

namespace Store

/-- Rearranged layers make the same tree of the same leaves, up to the order of entries. -/
lemma reordered_cache_built {l m : Layers ω} (h : l.Rearranged m) (leaves : List (Path × Value)) :
    (built l leaves).cache.Reordered (built m leaves).cache := by
  simp only [built, Layers.writes, Value.replay_append]
  exact h.overrides.replay ((h.defaults.replay (.refl _)).replay leaves)

/-- **Independent writes commute.** Two writes at paths that part give the same tree in either
order, up to the order of the entries of tables. Likewise the order of a layer of defaults or
overrides does not matter if its paths part pairwise: building the tree over the same pure sources,
in any surroundings, ends with the same fault, or with trees that are equal up to the order of
entries.

**Proof sketch.** The first part is `Value.reordered_write_comm`. It carries over to rearranged
layers (`Value.reordered_replay_of_perm`), and the leaves of the sources and the other layer, which
are written in between or afterwards, respect the comparison of trees (`Value.Reordered.replay`). -/
theorem independent_writes_commute :
    (∀ (r v₁ v₂ : Value) (e₁ e₂ : Path), Path.Parted e₁ e₂ →
      ((r.set e₁ v₁).set e₂ v₂).Reordered ((r.set e₂ v₂).set e₁ v₁)) ∧
    ∀ s t : Store ω, (∀ r ∈ s.sources, r.source.IsPure) → s.toLayers.Rearranged t.toLayers →
      s.frozen = t.frozen → ∀ w w' : ω,
        Fault.Agree (fun a b => a.cache.Reordered b.cache) (s.refresh w).1 (t.refresh w').1 := by
  refine ⟨fun r v₁ v₂ e₁ e₂ h => Value.reordered_set_comm h v₁ v₂ r, ?_⟩
  intro s t hpure hlayers hfrozen w w'
  obtain ⟨answer, hanswer⟩ := gather_of_isPure hpure
  rw [refresh_eq, refresh_eq, ← hlayers.sources, ← hfrozen, hanswer, hanswer]
  split_ifs
  · exact .error .frozen
  · cases answer with
    | error e => exact .error e
    | ok leaves => exact .ok (reordered_cache_built hlayers leaves)

/-- A number stands at `a`, and two writes turn it into an array in either order. Two defaults and
two overrides change places, over a source that writes below one of them. -/
theorem independent_writes_commute_swapped :
    let number (i : Int) : Value := .scalar none (.integer i)
    let tree : Value := .table none [("a", number 0)]
    let e₁ : Path := [.key "a", .index 0, .key "x"]
    let e₂ : Path := [.key "a", .index 2]
    let b : Path × Value := ([.key "b"], number 1)
    let c : Path × Value := ([.key "c", .key "x"], number 2)
    let d : Path × Value := ([.key "c", .key "y"], number 3)
    let sources : List (Registered Unit) := [⟨.fixed (.record [("b.x", .integer 4)]), none⟩]
    let s : Store Unit := ⟨⟨[b, c], sources, [c, d]⟩, .emptyTable, false⟩
    let t : Store Unit := ⟨⟨[c, b], sources, [d, c]⟩, .emptyTable, false⟩
    ((tree.set e₁ (number 1)).set e₂ (number 2)).Reordered
        ((tree.set e₂ (number 2)).set e₁ (number 1)) ∧
      ∃ s' t', s.refresh () = (.ok s', ()) ∧ t.refresh () = (.ok t', ()) ∧
        s'.cache.Reordered t'.cache := by
  intro number tree e₁ e₂ b c d sources s t
  have hswap (x y : Path × Value) (h : Path.Parted x.1 y.1) : Layer.Rearranged [x, y] [y, x] :=
    .inr ⟨List.Perm.swap y x [], by simpa using h⟩
  have hlayers : s.toLayers.Rearranged t.toLayers :=
    ⟨hswap b c (by decide), rfl, hswap c d (by decide)⟩
  have hpure : ∀ r ∈ s.sources, r.source.IsPure :=
    List.forall_mem_singleton.mpr (Source.isPure_fixed _)
  have hc : Contributed sources () [([.key "b", .key "x"], number 4)] () :=
    gather_ok_iff.mp (by cbv)
  have hs : s.refresh () = _ := after_ok_iff.mpr (Operation.perform_of_edit rfl rfl hc)
  have ht : t.refresh () = _ := after_ok_iff.mpr (Operation.perform_of_edit rfl rfl hc)
  obtain ⟨hwrites, hstores⟩ := @independent_writes_commute Unit
  refine ⟨hwrites tree _ _ e₁ e₂ (by decide), _, _, hs, ht, ?_⟩
  have hagree := hstores s t hpure hlayers rfl () ()
  rw [hs, ht] at hagree
  cases hagree with
  | ok h => exact h

end Store

end LayeredConfig
