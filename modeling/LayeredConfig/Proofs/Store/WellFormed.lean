import Mathlib
import LayeredConfig.Proofs.Store.FixedPoint

set_option autoImplicit false

/-!
# Stores of well-formed values

Data that are handed in become values whose integers fit in 64 bits and whose tables have no key
twice, and a caller who hands in ready-made values has them from such data. Then all values in the
layers of a store are well-formed, and so is the merged tree, however the store was made and
changed.

## Main definitions

* `Operation.Sound` — what an operation brings in is sound.
* `Store.SoundlyReachable` — the stores that can be reached with sound data.

## Main results

* `Store.SoundlyReachable.wellFormed_cache` — their merged trees are well-formed.
* `Store.SoundlyReachable.of_getTree` — a table that is taken out of such a store is one itself.
-/

namespace LayeredConfig

variable {ω : Type}

/-- What an operation brings in is sound: the data that it sets, or every answer of the source that
it merges. -/
def Operation.Sound : Operation ω → Prop
  | .set _ d | .setDefault _ d => d.Sound
  | .merge r => r.source.Sound
  | _ => True

/-- The data that an operation sets are sound, if what it brings in is. -/
lemma Operation.Sound.assigned {op : Operation ω} (h : op.Sound) {key : String} {d : Datum}
    (hset : op.assigned? = some (key, d)) : d.Sound := by
  cases op with
  | set _ _ | setDefault _ _ =>
    obtain ⟨-, rfl⟩ := Prod.mk.inj (Option.some.inj hset)
    exact h
  | _ => cases hset

namespace Store

/-- The stores that can be reached with sound data. -/
inductive SoundlyReachable : Store ω → Prop
  /-- The store without settings. -/
  | empty : SoundlyReachable empty
  /-- A store made of a table. -/
  | ofTable {d : Datum} {s : Store ω} : d.Sound → ofTable d = .ok s → SoundlyReachable s
  /-- A store made of three layers, before its tree is built for the first time. -/
  | ofLayers {defaults overrides : List (DatumKey × Datum)} {below above : Layer}
      {sources : List (Registered ω)} :
      Datum.SoundEntries defaults → Datum.SoundEntries overrides →
      (∀ r ∈ sources, r.source.Sound) →
      layerOfEntries [] defaults = .ok below → layerOfEntries [] overrides = .ok above →
      SoundlyReachable ⟨⟨below, sources, above⟩, .emptyTable, false⟩
  /-- What an operation leaves, whether it succeeds or fails, in any surroundings. -/
  | perform {s : Store ω} {op : Operation ω} (w : ω) :
      SoundlyReachable s → op.Sound → SoundlyReachable (op.perform (s, w)).2.1
  /-- A store that was frozen. -/
  | freeze {s : Store ω} : SoundlyReachable s → SoundlyReachable s.freeze

/-- All values of a store are well-formed, and its sources are sound. -/
structure HoldsWellFormed (s : Store ω) : Prop where
  /-- The defaults are well-formed. -/
  defaults : ∀ e ∈ s.defaults, e.2.WellFormed
  /-- The sources are sound. -/
  sources : ∀ r ∈ s.sources, r.source.Sound
  /-- The overrides are well-formed. -/
  overrides : ∀ e ∈ s.overrides, e.2.WellFormed
  /-- The merged tree is well-formed. -/
  cache : s.cache.WellFormed

/-- The tree that layers of well-formed values and sound sources make is well-formed. -/
lemma holdsWellFormed_built {l : Layers ω} (hd : ∀ e ∈ l.defaults, e.2.WellFormed)
    (hs : ∀ r ∈ l.sources, r.source.Sound) (ho : ∀ e ∈ l.overrides, e.2.WellFormed) {w w' : ω}
    {leaves : List (Path × Value)} (hc : Contributed l.sources w leaves w') :
    (built l leaves).HoldsWellFormed := by
  refine ⟨hd, hs, ho, ?_⟩
  have hleaves : ∀ e ∈ leaves, e.2.WellFormed := fun e he => (hc.tidy hs e he).wellFormed
  have hwrites : ∀ e ∈ l.writes leaves, e.2.WellFormed :=
    List.forall_mem_append.mpr ⟨List.forall_mem_append.mpr ⟨hd, hleaves⟩, ho⟩
  exact Value.wellFormed_preserved.replay Value.wellFormed_emptyTable fun e he =>
    ⟨fun _ _ => trivial, hwrites e he⟩

/-- An operation that brings in sound data keeps all values well-formed. -/
lemma HoldsWellFormed.perform {s : Store ω} (h : s.HoldsWellFormed) {op : Operation ω}
    (hop : op.Sound) (w : ω) : (op.perform (s, w)).2.1.HoldsWellFormed := by
  rcases hp : op.perform (s, w) with ⟨e | _, s', w'⟩
  · rwa [Operation.perform_error hp]
  · obtain ⟨-, f, leaves, hf, hc, rfl⟩ := Operation.perform_ok_iff.mp hp
    obtain rfl := Operation.edit_eq_amend hf
    obtain ⟨hd, ho⟩ := Operation.forall_mem_amend (P := fun e => e.2.WellFormed) h.defaults
      h.overrides fun _ d hset _ v _ hv =>
        Value.wellFormed_of_build (hop.assigned hset) (Value.ofDatum_none d ▸ hv)
    refine holdsWellFormed_built hd (fun r hr => ?_) ho hc
    rcases Operation.mem_amendSources hr with hr | rfl
    · exact h.sources r hr
    · exact hop

/-- A layer made of sound data holds well-formed values. -/
lemma wellFormed_of_mem_layer {es : List (DatumKey × Datum)} (hes : Datum.SoundEntries es)
    {l : Layer} (h : layerOfEntries [] es = .ok l) : ∀ e ∈ l, e.2.WellFormed := by
  refine forall_mem_layerOfEntries (fun e he x hx => ?_) h (List.forall_mem_nil _)
  obtain ⟨key, -, -, hv⟩ := exists_of_entry hx
  rw [Value.ofDatum_none] at hv
  exact Value.wellFormed_of_build (Datum.soundEntries_iff.mp hes e he) hv

/-- The entries of a well-formed table are sound data. -/
lemma sound_entries_of_wellFormed {o : Option String} {es : List (String × Value)}
    (h : (Value.table o es).WellFormed) :
    (Datum.mapping (es.map fun e => (.text e.1, .value e.2))).Sound := by
  refine Datum.soundEntries_iff.mpr fun e he => ?_
  obtain ⟨e, hmem, rfl⟩ := List.mem_map.mp he
  exact (Value.wellFormed_table_iff.mp h).2 e hmem

/-- A store made of sound data holds well-formed values. -/
lemma holdsWellFormed_of_ofTable {d : Datum} (hd : d.Sound) {s : Store ω}
    (h : ofTable d = .ok s) : s.HoldsWellFormed := by
  obtain ⟨root, hroot, h⟩ := Fault.bind_eq_ok_iff.mp h
  rw [Value.ofDatum_none] at hroot
  have hwf := Value.wellFormed_of_build hd hroot
  cases root with
  | table o es =>
    obtain ⟨leaves, hl, h⟩ := Fault.bind_eq_ok_iff.mp h
    obtain rfl := Except.ok.inj h
    refine ⟨List.forall_mem_nil _, List.forall_mem_nil _, fun e he => ?_, hwf⟩
    -- the overrides are the leaves of the table, which is sound data itself
    exact (tidyWrite_of_mem_contribution (sound_entries_of_wellFormed hwf) hl
      (Entries.mem_of_mem_ofList he)).wellFormed
  | _ => cases h

/-- All values of a store that can be reached with sound data are well-formed. -/
lemma SoundlyReachable.holdsWellFormed {s : Store ω} (h : s.SoundlyReachable) :
    s.HoldsWellFormed := by
  have hnone {α : Type} {P : α → Prop} : ∀ x ∈ ([] : List α), P x := List.forall_mem_nil _
  induction h with
  | empty => exact ⟨hnone, hnone, hnone, Value.wellFormed_emptyTable⟩
  | ofTable hd h => exact holdsWellFormed_of_ofTable hd h
  | ofLayers hd ho hs hbelow habove =>
    exact ⟨wellFormed_of_mem_layer hd hbelow, hs, wellFormed_of_mem_layer ho habove,
      Value.wellFormed_emptyTable⟩
  | perform w _ hop ih => exact ih.perform hop w
  | freeze _ ih => exact ⟨hnone, hnone, hnone, ih.cache⟩

/-- **Merged trees are well-formed**, in every store that can be reached with sound data. -/
theorem SoundlyReachable.wellFormed_cache {s : Store ω} (h : s.SoundlyReachable) :
    s.cache.WellFormed :=
  h.holdsWellFormed.cache

/-- A value that stands in a well-formed tree is well-formed. -/
lemma wellFormed_of_get? {v u : Value} (h : v.WellFormed) {p : Path} (hu : v.get? p = some u) :
    u.WellFormed :=
  Value.wellFormed_preserved.get? h hu

/-- **Tables taken out of a store** can be reached with sound data, if the store can. -/
theorem SoundlyReachable.of_getTree {s t : Store ω} (h : s.SoundlyReachable) {key : String}
    (ht : s.getTree key = .ok t) : t.SoundlyReachable := by
  obtain ⟨v, hv, ht⟩ := Fault.bind_eq_ok_iff.mp ht
  obtain ⟨p, -, hv⟩ := Fault.bind_eq_ok_iff.mp hv
  split at hv
  · rename_i u hu
    obtain rfl := Except.ok.inj hv
    have hwf := wellFormed_of_get? h.wellFormed_cache hu
    cases u with
    | table o es =>
      refine .ofTable (sound_entries_of_wellFormed hwf) ?_
      split at ht
      · rename_i t' htree
        obtain rfl := Except.ok.inj ht
        exact htree
      · cases ht
    | _ => cases ht
  · cases hv

end Store

end LayeredConfig
