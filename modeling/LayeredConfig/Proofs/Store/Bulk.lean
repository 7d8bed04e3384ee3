import Mathlib
import LayeredConfig.Proofs.Path.Rewriting
import LayeredConfig.Proofs.Store.ReadBack
import LayeredConfig.Proofs.Value.Building

set_option autoImplicit false

/-!
# Stores made at once

A store can be made of a table at once, or the table can be merged in as what a source contributes.
Both take the table apart into the same leaves, but the former keeps them as overrides: a map, in
which a path that comes again keeps its first place and has its last value. When the merged tree is
built anew, it comes of replaying this map instead of the leaves. Both trees are the same where the
leaves are untangled, that is, where nothing between two leaves at one path gets in their way.

## Main results

* `Store.ofTable_record_iff` — a table can be made a store iff it can be taken apart.
* `Store.ofTable_refresh_agrees` — the merged trees of the two ways.
-/

namespace LayeredConfig

/-- A table of values has the leaves of the data that it comes of. -/
lemma contributionOfEntries_of_builtFrom {entries : List (String × Datum)}
    {vs : List (String × Value)} (h : List.Forall₂ Value.BuiltFrom entries vs) :
    contributionOfEntries (vs.map fun f => (.text f.1, .value f.2)) =
      contributionOfEntries (entries.map fun e => (.text e.1, e.2)) := by
  induction h with
  | nil => rfl
  | @cons e f es fs hf _ ih =>
    simp only [List.map_cons, contributionOfEntries, DatumKey.display, hf.1, Value.ofDatum_none,
      hf.2, ih]
    rfl

/-- The data of a table that can be taken apart stand for values. -/
lemma exists_builtFrom_of_contributionOfEntries {entries : List (String × Datum)}
    {leaves : List (Path × Value)}
    (h : contributionOfEntries (entries.map fun e => (.text e.1, e.2)) = .ok leaves) :
    ∃ vs, List.Forall₂ Value.BuiltFrom entries vs := by
  induction entries generalizing leaves with
  | nil => exact ⟨[], .nil⟩
  | cons e es ih =>
    obtain ⟨key, -, h⟩ := Fault.bind_eq_ok_iff.mp h
    obtain ⟨root, -, h⟩ := Fault.bind_eq_ok_iff.mp h
    obtain ⟨v, hv, h⟩ := Fault.bind_eq_ok_iff.mp h
    obtain ⟨more, hmore, -⟩ := Fault.bind_eq_ok_iff.mp h
    obtain ⟨vs, hvs⟩ := ih hmore
    exact ⟨(e.1, v) :: vs, .cons ⟨rfl, Value.ofDatum_none e.2 ▸ hv⟩ hvs⟩

variable {ω : Type}

namespace Store

/-- A store whose overrides are a map made of leaves, before its tree is built anew. -/
def withOverrides (cache : Value) (leaves : List (Path × Value)) : Store ω :=
  { empty with cache := cache, overrides := Entries.ofList leaves }

/-- A table whose keys are different texts can be made a store iff it can be taken apart; the store
has the leaves of the table for overrides. -/
lemma ofTable_record_iff {entries : List (String × Datum)} (h : (entries.map Prod.fst).Nodup)
    {s : Store ω} :
    ofTable (.record entries) = .ok s ↔
      ∃ vs leaves, List.Forall₂ Value.BuiltFrom entries vs ∧
        contribution (.record entries) = .ok leaves ∧
        s = withOverrides (.table none vs) leaves := by
  have hentries {out : List (String × Value)} :
      Value.buildEntries none [] (entries.map fun e => (.text e.1, e.2)) = .ok out ↔
        ∃ vs, List.Forall₂ Value.BuiltFrom entries vs ∧ out = [] ++ vs :=
    Value.buildEntries_text_iff (by simpa [Entries.keys] using h)
  constructor
  · intro hs
    obtain ⟨root, hroot, hs⟩ := Fault.bind_eq_ok_iff.mp hs
    obtain ⟨out, hout, hroot⟩ := Fault.bind_eq_ok_iff.mp hroot
    obtain rfl := Except.ok.inj hroot
    obtain ⟨_, hvs, rfl⟩ := hentries.mp hout
    obtain ⟨leaves, hleaves, hs⟩ := Fault.bind_eq_ok_iff.mp hs
    obtain rfl := Except.ok.inj hs
    exact ⟨out, leaves, hvs, (contributionOfEntries_of_builtFrom hvs).symm.trans hleaves, rfl⟩
  · rintro ⟨vs, leaves, hvs, hleaves, rfl⟩
    refine Fault.bind_eq_ok_iff.mpr ⟨.table none vs, ?_, ?_⟩
    · exact Fault.bind_eq_ok_iff.mpr ⟨vs, hentries.mpr ⟨vs, hvs, rfl⟩, rfl⟩
    · exact Fault.bind_eq_ok_iff.mpr
        ⟨leaves, (contributionOfEntries_of_builtFrom hvs).trans hleaves, rfl⟩

/-- A store that has nothing but overrides can be built anew, in any surroundings. -/
lemma refresh_withOverrides (cache : Value) (leaves : List (Path × Value)) (w : ω) :
    (withOverrides cache leaves : Store ω).refresh w =
      (.ok (built ⟨[], [], Entries.ofList leaves⟩ []), w) :=
  after_ok_iff.mpr (Operation.perform_ok_iff.mpr ⟨rfl, id, [], rfl, .nil w, rfl⟩)

/-- The merged tree of a store that has nothing but overrides comes of replaying them. -/
lemma cache_built_overrides (overrides : Layer) :
    (built (⟨[], [], overrides⟩ : Layers ω) []).cache = Value.emptyTable.replay overrides := by
  simp [built, Layers.writes]

/-- **Making a store at once and merging**: a table whose keys are different texts can be made a
store iff a source that contributes it can be merged into a store without settings. The store can
then be built anew. Its tree comes of replaying the map of the leaves of the table, and the merged
one of replaying the leaves themselves. Both are the same if the leaves are untangled.

**Proof sketch.** Both ways take the table apart into the same leaves (`ofTable_record_iff`,
`merge_empty_unfiltered_ok_iff`). Replaying the map of untangled leaves is replaying these
(`Value.replay_ofList`). -/
theorem ofTable_refresh_agrees {entries : List (String × Datum)}
    (hkeys : (entries.map Prod.fst).Nodup) {src : Source ω} {w w' : ω}
    (hsrc : src.collect w = (.ok (.record entries), w')) :
    ((∃ t, (ofTable (.record entries) : Except Fault (Store ω)) = .ok t) ↔
      ∃ m, (empty : Store ω).merge ⟨src, none⟩ w = (.ok m, w')) ∧
    ∀ t m : Store ω, ofTable (.record entries) = .ok t →
      (empty : Store ω).merge ⟨src, none⟩ w = (.ok m, w') →
      ∃ leaves s, contribution (.record entries) = .ok leaves ∧
        (∀ w, t.refresh w = (.ok s, w)) ∧
        s.cache = Value.emptyTable.replay (Entries.ofList leaves) ∧
        m.cache = Value.emptyTable.replay leaves ∧
        (Value.Untangled leaves → s.cache = m.cache) := by
  have hmerge {m : Store ω} : (empty : Store ω).merge ⟨src, none⟩ w = (.ok m, w') ↔
      ∃ leaves, contribution (.record entries) = .ok leaves ∧
        m = built ⟨[], [⟨src, none⟩], []⟩ leaves := by
    simp [merge_empty_unfiltered_ok_iff, hsrc]
  refine ⟨?_, fun t m ht hm => ?_⟩
  · constructor
    · rintro ⟨t, ht⟩
      obtain ⟨vs, leaves, -, hleaves, -⟩ := (ofTable_record_iff hkeys).mp ht
      exact ⟨_, hmerge.mpr ⟨leaves, hleaves, rfl⟩⟩
    · rintro ⟨m, hm⟩
      obtain ⟨leaves, hleaves, -⟩ := hmerge.mp hm
      obtain ⟨vs, hvs⟩ := exists_builtFrom_of_contributionOfEntries hleaves
      exact ⟨_, (ofTable_record_iff hkeys).mpr ⟨vs, leaves, hvs, hleaves, rfl⟩⟩
  · obtain ⟨leaves, hleaves, rfl⟩ := hmerge.mp hm
    obtain ⟨vs, leaves', -, hleaves', rfl⟩ := (ofTable_record_iff hkeys).mp ht
    obtain rfl := Except.ok.inj (hleaves.symm.trans hleaves')
    refine ⟨leaves, _, hleaves, refresh_withOverrides _ leaves, cache_built_overrides _,
      cache_built_single src leaves, fun huntangled => ?_⟩
    rw [cache_built_overrides, cache_built_single]
    exact Value.replay_ofList (ne_nil_of_mem_contribution hleaves) huntangled _

/-- Two keys below one table, in different spellings. -/
theorem ofTable_refresh_agrees_spellings :
    let entries : List (String × Datum) := [("a.b", .integer 1), ("A", .record [("C", .integer 2)])]
    ∃ t s m : Store Unit, ofTable (.record entries) = .ok t ∧ t.refresh () = (.ok s, ()) ∧
      empty.merge ⟨.fixed (.record entries), none⟩ () = (.ok m, ()) ∧ s.cache = m.cache := by
  intro entries
  have hleaves : contribution (.record entries) =
      .ok [([.key "a", .key "b"], .scalar none (.integer 1)),
        ([.key "a", .key "c"], .scalar none (.integer 2))] := by
    cbv
  have hm := merge_fixed hleaves ()
  have hsrc : (Source.fixed (.record entries)).collect () = (.ok (.record entries), ()) := rfl
  obtain ⟨hiff, hagree⟩ := ofTable_refresh_agrees (by decide) hsrc
  obtain ⟨t, ht⟩ := hiff.mpr ⟨_, hm⟩
  obtain ⟨leaves, s, hl, hs, -, -, heq⟩ := hagree t _ ht hm
  obtain rfl := Except.ok.inj (hleaves.symm.trans hl)
  exact ⟨t, s, _, ht, hs (), hm, heq (Value.untangled_of_nodup (by decide))⟩

/-- Between two keys that are one path stands one below it. Made at once, the store has the last
value in the first place, and the key below overwrites it when the tree is built anew. -/
theorem ofTable_refresh_differs_tangled :
    let number (i : Int) : Value := .scalar none (.integer i)
    let entries : List (String × Datum) :=
      [("a", .integer 1), ("a.b", .integer 2), ("A", .integer 3)]
    ∃ t s m : Store Unit, ofTable (.record entries) = .ok t ∧ t.refresh () = (.ok s, ()) ∧
      empty.merge ⟨.fixed (.record entries), none⟩ () = (.ok m, ()) ∧
      s.cache = .table none [("a", .table none [("b", number 2)])] ∧
      m.cache = .table none [("a", number 3)] := by
  intro number entries
  have hleaves : contribution (.record entries) =
      .ok [([.key "a"], number 1), ([.key "a", .key "b"], number 2), ([.key "a"], number 3)] := by
    cbv
  have hbuilt : List.Forall₂ Value.BuiltFrom entries
      [("a", number 1), ("a.b", number 2), ("A", number 3)] := by
    simp [entries, Value.BuiltFrom, number, Value.build, Value.ofInteger, fitsInteger, minInteger,
      maxInteger]
  refine ⟨_, _, _, (ofTable_record_iff (by decide)).mpr ⟨_, _, hbuilt, hleaves, rfl⟩,
    refresh_withOverrides _ _ (), merge_fixed hleaves (), ?_, ?_⟩
  · cbv
  · cbv

end Store

end LayeredConfig
