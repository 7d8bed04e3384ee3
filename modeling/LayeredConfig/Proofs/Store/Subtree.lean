import Mathlib
import LayeredConfig.Proofs.Path.Canonical
import LayeredConfig.Proofs.Store.Bulk

set_option autoImplicit false

/-!
# Subtrees as stores

A table in a store can be taken out as a store of its own. Its keys, which were single steps where
the table stood, are read as paths from then on. A key that is a name remains the step that it was;
any other one is either no path at all, or one with several steps. So a table that comes of merging
sources survives as a store iff all its keys are names; the keys of tables inside do not matter.

## Main definitions

* `Store.mergeAll` — a store made by merging sources.

## Main results

* `Store.canonical_mergeAll` — the merged tree of such a store is canonical.
* `Store.getTree_faithful_iff` — which of its tables survive as stores.
-/

namespace LayeredConfig

/-! ## Leaves of sources -/

/-- The leaves of a payload are canonical. -/
lemma canonical_of_mem_contribution {payload : Datum} {leaves : List (Path × Value)}
    (h : contribution payload = .ok leaves) {l : Path × Value} (hl : l ∈ leaves) :
    l.2.Canonical := by
  cases payload with
  | mapping es =>
    obtain ⟨-, -, -, root, v, -, -, hl⟩ := exists_root_of_mem_contributionOfEntries h hl
    exact Value.canonical_of_parts_eq_nil (Value.parts_eq_nil_of_mem_leaves hl)
  | _ => cases h

variable {ω : Type}

/-- What sources contribute stands at paths in lower case, and is canonical. -/
lemma Contributed.canonical {rs : List (Registered ω)} {w w' : ω} {leaves : List (Path × Value)}
    (h : Contributed rs w leaves w') :
    ∀ l ∈ leaves, (∀ a ∈ l.1, a.IsLowerCase) ∧ l.2.Canonical :=
  h.forall_mem fun _ _ _ _ _ _ _ hl _ hmem =>
    ⟨(isLowerCase_of_mem_contribution hl hmem).2, canonical_of_mem_contribution hl hmem⟩

namespace Store

/-- The store after sources were merged one after the other, each in surroundings of its own,
whether they can be merged or not. -/
def mergeAll (rs : List (Registered ω × ω)) : Store ω :=
  empty.run (rs.map fun x => (.merge x.1, x.2))

/-- A store that has only sources, and a canonical tree. -/
structure Sourced (s : Store ω) : Prop where
  /-- There are no defaults. -/
  defaults : s.defaults = []
  /-- There are no overrides. -/
  overrides : s.overrides = []
  /-- The merged tree is canonical. -/
  canonical : s.cache.Canonical

/-- Merging a source leaves a store that has only sources. -/
lemma Sourced.merge {s : Store ω} (h : s.Sourced) (r : Registered ω) (w : ω) :
    ((Operation.merge r).perform (s, w)).2.1.Sourced := by
  rcases hp : (Operation.merge r).perform (s, w) with ⟨e | _, s', w'⟩
  · rwa [Operation.perform_error hp]
  · obtain ⟨-, f, leaves, hf, hc, rfl⟩ := Operation.perform_ok_iff.mp hp
    obtain rfl := Except.ok.inj hf
    refine ⟨h.defaults, h.overrides, Value.canonical_emptyTable.replay fun l hl => ?_⟩
    rw [Layers.writes, h.defaults, h.overrides, List.nil_append, List.append_nil] at hl
    exact hc.canonical l hl

/-- **The merged tree is canonical** in a store made by merging sources. -/
theorem canonical_mergeAll (rs : List (Registered ω × ω)) : (mergeAll rs).cache.Canonical := by
  have hrun (s : Store ω) (h : s.Sourced) :
      (s.run (rs.map fun x => (.merge x.1, x.2))).Sourced := by
    induction rs generalizing s with
    | nil => exact h
    | cons r rs ih => exact ih _ (h.merge r.1 r.2)
  exact (hrun empty ⟨rfl, rfl, Value.canonical_emptyTable⟩).canonical

/-- A single payload that can be taken apart is merged in. -/
lemma mergeAll_fixed {payload : Datum} {leaves : List (Path × Value)}
    (h : contribution payload = .ok leaves) (w : ω) :
    mergeAll [(⟨.fixed payload, none⟩, w)] = built ⟨[], [⟨.fixed payload, none⟩], []⟩ leaves := by
  have hp := after_ok_iff.mp (merge_fixed h w)
  simp only [mergeAll, run, List.map_cons, List.map_nil, List.foldl_cons, List.foldl_nil, hp]

/-! ## Tables as stores -/

/-- Values are built from themselves. -/
lemma forall₂_builtFrom_value {es vs : List (String × Value)} :
    List.Forall₂ Value.BuiltFrom (es.map fun e => (e.1, .value e.2)) vs ↔ vs = es := by
  have hbuilt : ∀ e f : String × Value, Value.BuiltFrom (e.1, .value e.2) f ↔ e = f := by
    simp [Value.BuiltFrom, Value.build, Prod.ext_iff, eq_comm]
  rw [List.forall₂_map_left_iff]
  simp only [hbuilt, List.forall₂_eq_eq_eq, eq_comm]

/-- A table becomes a store as a record of its values does. -/
lemma toTree_table (o : Option String) (es : List (String × Value)) :
    ((Value.table o es).toTree : Except Fault (Store ω)) =
      ofTable (.record (es.map fun e => (e.1, .value e.2))) := by
  rw [Value.toTree, Datum.record, List.map_map]
  rfl

/-- A table whose keys differ can be made a store iff it can be taken apart. -/
lemma toTree_table_iff {o : Option String} {es : List (String × Value)}
    (h : (Entries.keys es).Nodup) {t : Store ω} :
    (Value.table o es).toTree = .ok t ↔
      ∃ leaves, contribution (.record (es.map fun e => (e.1, .value e.2))) = .ok leaves ∧
        t = withOverrides (.table none es) leaves := by
  have hkeys : ((es.map fun e => (e.1, Datum.value e.2)).map Prod.fst).Nodup := by
    rw [List.map_map]
    exact h
  rw [toTree_table, ofTable_record_iff hkeys]
  simp only [forall₂_builtFrom_value, exists_and_left, exists_eq_left]

/-- A table whose keys are names has the leaves of its parts. -/
lemma contribution_of_isName {es : List (String × Value)} (h : ∀ e ∈ es, Path.IsName e.1) :
    contribution (.record (es.map fun e => (e.1, .value e.2))) =
      .ok (Value.leavesOfParts [] (es.map Value.entryPart)) := by
  induction es with
  | nil => rfl
  | cons e es ih =>
    have hroot := Path.parseKey_of_isName (h e List.mem_cons_self)
    have hrest := ih fun f hf => h f (List.mem_cons_of_mem e hf)
    simp only [contribution, Datum.record, List.map_cons, contributionOfEntries,
      DatumKey.display] at hrest ⊢
    rw [hrest]
    simp only [Fault.ok_bind, hroot]
    rfl

/-- A tree that is made by writing at paths that begin with names has names for keys. -/
lemma exists_names_of_replay {writes : List (Path × Value)}
    (h : ∀ l ∈ writes, ∃ name rest, l.1 = .key name :: rest ∧ Path.IsName name)
    {o : Option String} {es : List (String × Value)} (hes : ∀ e ∈ es, Path.IsName e.1) :
    ∃ o' es', (Value.table o es).replay writes = .table o' es' ∧ ∀ e ∈ es', Path.IsName e.1 := by
  induction writes generalizing o es with
  | nil => exact ⟨o, es, rfl, hes⟩
  | cons l ls ih =>
    obtain ⟨⟨name, rest, hl, hname⟩, hls⟩ := List.forall_mem_cons.mp h
    rw [Value.replay_cons, hl, Value.set_of_ne_nil (List.cons_ne_nil _ _)]
    refine ih hls fun e he => ?_
    rcases Entries.mem_of_mem_alter he with he | rfl
    · exact hes e he
    · exact hname

/-- What a key reads stands at a path of the merged tree. -/
lemma exists_path_of_get {s : Store ω} {key : String} {v : Value} (h : s.get key = .ok v) :
    ∃ p, s.cache.get? p = some v := by
  obtain ⟨p, -, h⟩ := Fault.bind_eq_ok_iff.mp h
  refine ⟨p, ?_⟩
  split at h
  · rename_i u hu
    exact hu.trans (congrArg some (Except.ok.inj h))
  · cases h

/-- What a key reads is taken out as a store. -/
lemma getTree_ok_iff {s t : Store ω} {key : String} {v : Value} (h : s.get key = .ok v) :
    s.getTree key = .ok t ↔ v.toTree = .ok t := by
  simp only [getTree, getWith, h, Fault.ok_bind]
  cases v.toTree with
  | error e => simp
  | ok t' => simp

/-- **Subtrees as stores**: in a store made by merging sources, let a key read a table. If it can be
taken out as a store, this holds the same data. It can be taken out, and then be built anew without
any change, iff all keys of the table are names.

**Proof sketch.** The table is canonical (`canonical_mergeAll`). If its keys are names, its leaves
stand at different paths, so that replaying the map of them is replaying them
(`Value.replay_ofList`), which rebuilds the table (`Value.Canonical.ofValue_replay`). Conversely,
every leaf of the new store stands at a path that begins with a name, so that all keys are names
once the tree is built anew (`exists_names_of_replay`). -/
theorem getTree_faithful_iff {rs : List (Registered ω × ω)} {key : String} {o : Option String}
    {es : List (String × Value)} (h : (mergeAll rs).get key = .ok (.table o es)) (w : ω) :
    (∀ t, (mergeAll rs).getTree key = .ok t → t.toDatum = .ofValue (.table o es)) ∧
    ((∃ t t', (mergeAll rs).getTree key = .ok t ∧ t.refresh w = (.ok t', w) ∧
        t'.toDatum = t.toDatum) ↔ ∀ e ∈ es, Path.IsName e.1) := by
  obtain ⟨p, hp⟩ := exists_path_of_get h
  have hcanonical := (canonical_mergeAll rs).get? hp
  have hkeys : (Entries.keys es).Nodup := by
    cases hcanonical
    assumption
  have htree {t : Store ω} := (getTree_ok_iff (t := t) h).trans (toTree_table_iff hkeys)
  refine ⟨fun t ht => ?_, ?_, fun hnames => ?_⟩
  · obtain ⟨leaves, -, rfl⟩ := htree.mp ht
    rfl
  · rintro ⟨t, t', ht, hrefresh, hdata⟩ e he
    obtain ⟨leaves, hleaves, rfl⟩ := htree.mp ht
    rw [refresh_withOverrides] at hrefresh
    obtain rfl := Except.ok.inj (congrArg Prod.fst hrefresh)
    obtain ⟨o', es', hreplay, hnames⟩ := exists_names_of_replay (o := none)
      (fun l hl => (isLowerCase_of_mem_contribution hleaves (Entries.mem_of_mem_ofList hl)).1)
      (List.forall_mem_nil _)
    rw [toDatum, cache_built_overrides, Value.emptyTable, hreplay] at hdata
    have hsame : Entries.keys es' = Entries.keys es :=
      Datum.keys_eq_of_ofEntries_eq (Datum.mapping.inj hdata)
    have he' : e.1 ∈ Entries.keys es' := hsame ▸ List.mem_map_of_mem he
    obtain ⟨e', he', hkey⟩ := List.mem_map.mp he'
    exact hkey ▸ hnames e' he'
  · have hleaves := contribution_of_isName hnames
    have hnodup := Value.nodup_leavesOfParts hcanonical.nodup_parts
      (fun a ha p => (hcanonical.of_mem_parts ha).nodup_leaves p) []
    refine ⟨_, _, htree.mpr ⟨_, hleaves, rfl⟩, refresh_withOverrides _ _ w, ?_⟩
    rw [toDatum, cache_built_overrides]
    calc Datum.ofValue (Value.emptyTable.replay (Entries.ofList _))
        = .ofValue (Value.emptyTable.replay
            (Value.leavesOfParts [] (es.map Value.entryPart))) := by
          rw [Value.replay_ofList (ne_nil_of_mem_contribution hleaves)
            (Value.untangled_of_nodup hnodup)]
      _ = .ofValue (.table o es) := hcanonical.ofValue_replay

/-- The key of the table taken out is a name; the one inside it need not be. -/
theorem getTree_faithful_nested_dot :
    let payload : Datum := .record [("A", .record [("B", .record [("c.d", .sequence [])])])]
    let s : Store Unit := mergeAll [(⟨.fixed payload, none⟩, ())]
    ∃ t t', s.getTree "a" = .ok t ∧ t.refresh () = (.ok t', ()) ∧ t'.toDatum = t.toDatum := by
  intro payload s
  have hleaves : contribution payload = .ok [([.key "a", .key "b", .key "c.d"], .array none [])] := by
    cbv
  have hs : s = _ := mergeAll_fixed hleaves ()
  have hget : s.get "a" = .ok (.table none [("b", .table none [("c.d", .array none [])])]) := by
    rw [hs]
    cbv
  exact (getTree_faithful_iff hget ()).2.mpr (by decide)

/-- A key that holds a dot is a step of its own where the table stands. In the store that is taken
out, it becomes a path of two steps, and another table stands there once the tree is built anew. -/
theorem getTree_unfaithful_dot :
    let s : Store Unit :=
      mergeAll [(⟨.fixed (.record [("a", .record [("b.c", .integer 1)])]), none⟩, ())]
    ∃ t t', s.get "a" = .ok (.table none [("b.c", .scalar none (.integer 1))]) ∧
      s.getTree "a" = .ok t ∧ t.toDatum = .record [("b.c", .integer 1)] ∧
      t.refresh () = (.ok t', ()) ∧ t'.toDatum = .record [("b", .record [("c", .integer 1)])] := by
  intro s
  have hleaves : contribution (.record [("a", .record [("b.c", .integer 1)])]) =
      .ok [([.key "a", .key "b.c"], .scalar none (.integer 1))] := by
    cbv
  have hsub : contribution (.record [("b.c", .value (.scalar none (.integer 1)))]) =
      .ok [([.key "b", .key "c"], .scalar none (.integer 1))] := by
    cbv
  have hs : s = _ := mergeAll_fixed hleaves ()
  have hget : s.get "a" = .ok (.table none [("b.c", .scalar none (.integer 1))]) := by
    rw [hs]
    cbv
  have htree : ((Value.table none [("b.c", .scalar none (.integer 1))]).toTree :
      Except Fault (Store Unit)) = .ok _ :=
    (toTree_table_iff (by decide)).mpr ⟨_, hsub, rfl⟩
  refine ⟨_, _, hget, (getTree_ok_iff hget).mpr htree, ?_, refresh_withOverrides _ _ (), ?_⟩
  · cbv
  · cbv

end Store

end LayeredConfig
