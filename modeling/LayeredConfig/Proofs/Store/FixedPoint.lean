import Mathlib
import LayeredConfig.Proofs.Store.Reachable
import LayeredConfig.Proofs.Store.Subtree
import LayeredConfig.Proofs.Value.Building

set_option autoImplicit false

/-!
# Merging a merged tree again

The merged tree of a store can be taken for plain data and merged into a store without settings.
Keys at the top are read as paths again and keys below are lower-cased again, and all is taken apart
and put together once more. The tree stays the same, its origins aside, as long as only scalars
were set: then every key of the tree is in lower case and comes once, and every key at the top is a
name. The same holds if a store is made of the data at once and built anew.

A table that was set stands in the tree with its keys as they were given. So values that are set
have to be canonical, as every scalar is.

## Main definitions

* `TidyWrite`, `Value.Tidy` — writes of a kind that sources make, and the trees that come of them.
* `Source.Sound` — every answer of a source is sound.
* `Operation.Admissible` — what an operation brings in is sound, and canonical where it is set.

## Main results

* `Value.tidy_replay` — writes of that kind make such trees.
* `Store.tidy_of_reachedBy` — admissible operations keep to such writes.
* `Value.Tidy.contribution_ofValue` — taking such a tree apart and making it again.
* `Store.remerged_cache_eq` — the merged tree is a fixed point of merging.
-/

namespace LayeredConfig

/-! ## Tidy writes and trees -/

/-- A write of the kind that sources make: of a canonical and well-formed value, at a path in lower
case that begins with a name. -/
structure TidyWrite (l : Path × Value) : Prop where
  /-- The path begins with a name. -/
  name : ∃ name rest, l.1 = .key name :: rest ∧ Path.IsName name
  /-- The path is in lower case. -/
  lower : ∀ a ∈ l.1, a.IsLowerCase
  /-- The value is canonical. -/
  canonical : l.2.Canonical
  /-- The value is well-formed. -/
  wellFormed : l.2.WellFormed

/-- A tree of the kind that sources make: a canonical and well-formed table whose keys are names. -/
structure Value.Tidy (v : Value) : Prop where
  /-- The value is a table, and its keys are names. -/
  names : ∃ o es, v = .table o es ∧ ∀ e ∈ es, Path.IsName e.1
  /-- The value is canonical. -/
  canonical : v.Canonical
  /-- The value is well-formed. -/
  wellFormed : v.WellFormed

/-- **Tidy writes make tidy trees.** -/
theorem Value.tidy_replay {writes : List (Path × Value)} (h : ∀ l ∈ writes, TidyWrite l) :
    (emptyTable.replay writes).Tidy where
  names := by
    have hempty : ∀ e ∈ ([] : List (String × Value)), Path.IsName e.1 := List.forall_mem_nil _
    exact Store.exists_names_of_replay (fun l hl => (h l hl).name) hempty
  canonical := canonical_emptyTable.replay fun l hl => ⟨(h l hl).lower, (h l hl).canonical⟩
  wellFormed := wellFormed_preserved.replay wellFormed_emptyTable fun l hl =>
    ⟨fun _ _ => trivial, (h l hl).wellFormed⟩

/-- What a sound payload contributes are tidy writes. -/
lemma tidyWrite_of_mem_contribution {payload : Datum} (hs : payload.Sound)
    {leaves : List (Path × Value)} (h : contribution payload = .ok leaves) {l : Path × Value}
    (hl : l ∈ leaves) : TidyWrite l := by
  obtain ⟨hname, hlower⟩ := isLowerCase_of_mem_contribution h hl
  refine ⟨hname, hlower, canonical_of_mem_contribution h hl, ?_⟩
  cases payload with
  | mapping es =>
    obtain ⟨e, he, -, root, v, -, hv, hl⟩ := exists_root_of_mem_contributionOfEntries h hl
    have hsound := Datum.soundEntries_iff.mp hs e he
    exact (Value.wellFormed_of_build hsound hv).of_mem_leaves hl
  | _ => cases h

/-! ## Stores -/

section Stores

variable {ω : Type}

/-- Whatever a source answers is sound. -/
def Source.Sound (src : Source ω) : Prop :=
  ∀ w payload w', src.collect w = (.ok payload, w') → payload.Sound

/-- What sound sources contribute are tidy writes. -/
lemma Contributed.tidy {rs : List (Registered ω)} {w w' : ω} {leaves : List (Path × Value)}
    (h : Contributed rs w leaves w') (hs : ∀ r ∈ rs, r.source.Sound) :
    ∀ l ∈ leaves, TidyWrite l :=
  h.forall_mem fun r hr _ _ _ _ hc hl _ => tidyWrite_of_mem_contribution (hs r hr _ _ _ hc) hl

namespace Operation

/-- What an operation brings in: a value that is set is canonical and well-formed, and what a source
answers is sound whenever it is asked. -/
def Admissible : Operation ω → Prop
  | .set _ d | .setDefault _ d =>
    ∀ v, Value.ofDatum d none = .ok v → v.Canonical ∧ v.WellFormed
  | .merge r => r.source.Sound
  | _ => True

/-- A scalar may be set. -/
lemma admissible_set_ofScalar (key : String) (c : Scalar) :
    (set key (.ofScalar c) : Operation ω).Admissible ∧
      (setDefault key (.ofScalar c) : Operation ω).Admissible := by
  have h (v : Value) (hv : Value.ofDatum (.ofScalar c) none = .ok v) :
      v.Canonical ∧ v.WellFormed := by
    rw [Value.ofDatum_none] at hv
    have hsound : (Datum.ofScalar c).Sound := by
      cases c <;> trivial
    refine ⟨?_, Value.wellFormed_of_build hsound hv⟩
    cases c with
    | integer i =>
      rw [Datum.ofScalar, Value.build, Value.ofInteger] at hv
      split_ifs at hv
      · obtain rfl := Except.ok.inj hv
        exact .scalar none _
      · obtain ⟨_, -, hv⟩ := Fault.bind_eq_ok_iff.mp hv
        cases hv
    | _ =>
      obtain rfl := Except.ok.inj hv
      exact .scalar none _
  exact ⟨h, h⟩

/-- An admissible operation sets values that are tidy writes. -/
lemma Admissible.tidyWrite {op : Operation ω} (h : op.Admissible) {key : String} {d : Datum}
    (hset : op.assigned? = some (key, d)) {p : Path} {v : Value} (hp : Path.parseKey key = .ok p)
    (hv : Value.ofDatum d none = .ok v) : TidyWrite (p, v) := by
  obtain ⟨hname, hlower⟩ := Path.exists_of_parseKey hp
  obtain ⟨hcanonical, hwf⟩ : v.Canonical ∧ v.WellFormed := by
    cases op with
    | set _ _ | setDefault _ _ =>
      obtain ⟨-, rfl⟩ := Prod.mk.inj (Option.some.inj hset)
      exact h v hv
    | _ => cases hset
  exact ⟨hname, hlower, hcanonical, hwf⟩

end Operation

namespace Store

/-- A store whose layers hold tidy writes and sound sources, and whose tree is tidy. -/
structure Tidy (s : Store ω) : Prop where
  /-- The defaults are tidy writes. -/
  defaults : ∀ l ∈ s.defaults, TidyWrite l
  /-- The sources are sound. -/
  sources : ∀ r ∈ s.sources, r.source.Sound
  /-- The overrides are tidy writes. -/
  overrides : ∀ l ∈ s.overrides, TidyWrite l
  /-- The merged tree is tidy. -/
  cache : s.cache.Tidy

/-- The store that layers of tidy writes and sound sources make is tidy. -/
lemma tidy_built {l : Layers ω} (hd : ∀ x ∈ l.defaults, TidyWrite x)
    (hs : ∀ r ∈ l.sources, r.source.Sound) (ho : ∀ x ∈ l.overrides, TidyWrite x) {w w' : ω}
    {leaves : List (Path × Value)} (hc : Contributed l.sources w leaves w') :
    (built l leaves).Tidy := by
  refine ⟨hd, hs, ho, Value.tidy_replay ?_⟩
  exact List.forall_mem_append.mpr ⟨List.forall_mem_append.mpr ⟨hd, hc.tidy hs⟩, ho⟩

/-- An admissible operation keeps a store tidy. -/
lemma Tidy.perform {s : Store ω} (h : s.Tidy) {op : Operation ω} (hop : op.Admissible) (w : ω) :
    (op.perform (s, w)).2.1.Tidy := by
  rcases hp : op.perform (s, w) with ⟨e | _, s', w'⟩
  · rwa [Operation.perform_error hp]
  · obtain ⟨-, f, leaves, hf, hc, rfl⟩ := Operation.perform_ok_iff.mp hp
    obtain rfl := Operation.edit_eq_amend hf
    obtain ⟨hd, ho⟩ := Operation.forall_mem_amend h.defaults h.overrides
      fun _ _ hset _ _ => hop.tidyWrite hset
    refine tidy_built hd (fun r hr => ?_) ho hc
    rcases Operation.mem_amendSources hr with hr | rfl
    · exact h.sources r hr
    · exact hop

/-- **Stores that admissible operations reach are tidy.** -/
theorem tidy_of_reachedBy {s : Store ω} (h : s.ReachedBy Operation.Admissible) : s.Tidy := by
  have hnone {α : Type} {P : α → Prop} : ∀ x ∈ ([] : List α), P x := List.forall_mem_nil _
  induction h with
  | empty => exact ⟨hnone, hnone, hnone, Value.tidy_replay hnone⟩
  | perform w _ hop ih => exact ih.perform hop w
  | freeze _ ih => exact ⟨hnone, hnone, hnone, ih.cache⟩

end Store

end Stores

/-! ## Merging again -/

/-- The data of a table are a table with textual keys. -/
lemma Datum.ofValue_table (o : Option String) (es : List (String × Value)) :
    ofValue (.table o es) = .record (es.map fun e => (e.1, ofValue e.2)) := by
  rw [ofValue, ofEntries_eq_map, record, List.map_map]
  rfl

namespace Value

/-- **Taking a tidy tree apart and making it again**: its data are a payload, whose leaves stand at
different paths and make the same tree, origins aside.

**Proof sketch.** The data are built to the tree without its origins (`build_ofValue`), and the keys
at the top are names. So the leaves are those of this tree, which is canonical. -/
theorem Tidy.contribution_ofValue {v : Value} (h : v.Tidy) :
    ∃ leaves, contribution (.ofValue v) = .ok leaves ∧ Untangled leaves ∧
      (emptyTable.replay leaves).bare = v.bare := by
  obtain ⟨⟨o, es, rfl, hnames⟩, hcanonical, hwf⟩ := h
  obtain ⟨-, hes⟩ := wellFormed_table_iff.mp hwf
  have hbuilt := forall₂_builtFrom_ofValue fun e he => build_ofValue (hes e he)
  have hnames' : ∀ e ∈ bareEntries es, Path.IsName e.1 := by
    rw [bareEntries_eq_map]
    exact List.forall_mem_map.mpr hnames
  have hbare : (Value.table none (bareEntries es)).Canonical := hcanonical.bare
  have hleaves : contribution (.ofValue (.table o es)) =
      .ok (leavesOfParts [] ((bareEntries es).map entryPart)) := by
    calc contribution (.ofValue (.table o es))
        = contribution (.record (es.map fun e => (e.1, .ofValue e.2))) := by
          rw [Datum.ofValue_table]
      _ = contribution (.record ((bareEntries es).map fun e => (e.1, .value e.2))) := by
          -- a ready-made value has the leaves of the data that it was built from
          have hsame := contributionOfEntries_of_builtFrom hbuilt
          simpa only [contribution, Datum.record, List.map_map, Function.comp_def] using hsame.symm
      _ = _ := Store.contribution_of_isName hnames'
  refine ⟨_, hleaves, untangled_of_nodup (hbare.nodup_leavesOfParts []), ?_⟩
  rw [← ofValue_eq_iff, hbare.ofValue_replay]
  exact ofValue_bare (.table o es)

end Value

namespace Store

variable {ω : Type}

/-- **The merged tree is a fixed point of merging**: let a store be reached by admissible
operations. A source that answers the data of its tree can be merged into a store without settings,
and the tree is the same again, origins aside. A store can be made of these data at once and built
anew, and again its tree is the same.

**Proof sketch.** The tree is tidy (`tidy_of_reachedBy`), so its data can be taken apart into leaves
that make it again (`Value.Tidy.contribution_ofValue`). Made at once, the store replays the map of
these leaves, which are untangled (`Value.replay_ofList`). -/
theorem remerged_cache_eq {s : Store ω} (h : s.ReachedBy Operation.Admissible) :
    (∀ (src : Source ω) (w w' : ω), src.collect w = (.ok s.toDatum, w') →
      ∃ m, (empty : Store ω).merge ⟨src, none⟩ w = (.ok m, w') ∧ m.cache.bare = s.cache.bare) ∧
    ∃ t, (ofTable s.toDatum : Except Fault (Store ω)) = .ok t ∧
      ∀ w, ∃ t', t.refresh w = (.ok t', w) ∧ t'.cache.bare = s.cache.bare := by
  have htidy := (tidy_of_reachedBy h).cache
  obtain ⟨leaves, hleaves, huntangled, hcache⟩ := htidy.contribution_ofValue
  constructor
  · intro src w w' hsrc
    refine ⟨_, merge_empty_unfiltered_ok_iff.mpr ⟨_, leaves, hsrc, hleaves, rfl⟩, ?_⟩
    rw [cache_built_single, hcache]
  · -- the data are a table whose keys differ, which is what a store can be made of at once
    obtain ⟨o, es, hs, -⟩ := htidy.names
    have hdata : s.toDatum = .record (es.map fun e => (e.1, .ofValue e.2)) := by
      rw [toDatum, hs, Datum.ofValue_table]
    have hkeys : ((es.map fun e => (e.1, Datum.ofValue e.2)).map Prod.fst).Nodup := by
      rw [List.map_map]
      exact (Value.wellFormed_table_iff.mp (hs ▸ htidy.wellFormed)).1
    have hleaves' : contribution (.record (es.map fun e => (e.1, .ofValue e.2))) = .ok leaves :=
      hdata ▸ hleaves
    obtain ⟨vs, hvs⟩ := exists_builtFrom_of_contributionOfEntries hleaves'
    have ht := (ofTable_record_iff (ω := ω) hkeys).mpr ⟨vs, leaves, hvs, hleaves', rfl⟩
    refine ⟨_, hdata ▸ ht, fun w => ⟨_, refresh_withOverrides _ leaves w, ?_⟩⟩
    rw [cache_built_overrides, Value.replay_ofList (ne_nil_of_mem_contribution hleaves) huntangled,
      hcache]

/-- In one table stand a list with a gap, made by a default for its second item, and a list that a
source contributes at a key that holds a dot. -/
theorem remerged_cache_eq_gap :
    let payload : Datum := .record [("A", .record [("b.C", .sequence [.record [], .nil])])]
    let s : Store Unit := empty.run
      [(.merge ⟨.fixed payload, none⟩, ()), (.setDefault "a.d[1]" (.text "x"), ())]
    s.toDatum = .record [("a", .record [("d", .sequence [.nil, .text "x"]),
      ("b.c", .sequence [.record [], .nil])])] ∧
    s.ReachedBy Operation.Admissible ∧
    (∃ m, (empty : Store Unit).merge ⟨.fixed s.toDatum, none⟩ () = (.ok m, ()) ∧
      m.cache.bare = s.cache.bare) ∧
    ∃ t t', (ofTable s.toDatum : Except Fault (Store Unit)) = .ok t ∧
      t.refresh () = (.ok t', ()) ∧ t'.cache.bare = s.cache.bare := by
  intro payload s
  let leaves : List (Path × Value) := [([.key "a", .key "b.c", .index 0], .table none []),
    ([.key "a", .key "b.c", .index 1], .scalar none .nil)]
  let base : Layers Unit := ⟨[], [⟨.fixed payload, none⟩], []⟩
  have hleaves : contribution payload = .ok leaves := by
    cbv
  have hkey : Path.parseKey "a.d[1]" = .ok [.key "a", .key "d", .index 1] := by
    cbv
  have hc : Contributed base.sources () leaves () := .cons rfl hleaves (.nil ())
  have hset : (Operation.setDefault "a.d[1]" (.text "x")).perform (built base leaves, ()) = _ :=
    Operation.perform_of_edit rfl (Operation.edit_setDefault hkey rfl) hc
  have hs : s = built ⟨[([.key "a", .key "d", .index 1], .scalar none (.text "x"))],
      base.sources, []⟩ leaves := by
    simp only [s, run, List.foldl_cons, List.foldl_nil]
    rw [after_ok_iff.mp (merge_fixed hleaves ()), hset]
    rfl
  have hsound : payload.Sound := by
    simp [payload, Datum.record, Datum.Sound, Datum.SoundEntries, Datum.SoundItems]
  have hreached : s.ReachedBy Operation.Admissible := by
    refine ReachedBy.empty.run (List.forall_mem_cons.mpr ⟨?_, List.forall_mem_singleton.mpr ?_⟩)
    · rintro w p w' ⟨⟩
      exact hsound
    · exact (Operation.admissible_set_ofScalar "a.d[1]" (.text "x")).2
  obtain ⟨hmerge, t, ht, hrefresh⟩ := remerged_cache_eq hreached
  obtain ⟨t', ht', hcache⟩ := hrefresh ()
  refine ⟨?_, hreached, hmerge _ () () rfl, t, t', ht, ht', hcache⟩
  rw [hs]
  cbv

end Store

end LayeredConfig
