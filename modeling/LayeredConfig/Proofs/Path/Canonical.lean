import Mathlib
import LayeredConfig.Proofs.Path.DeepMerge
import LayeredConfig.Proofs.Path.LetterCase
import LayeredConfig.Proofs.Path.Rewriting
import LayeredConfig.Value.Datum

set_option autoImplicit false

/-!
# Trees that sources make

Leaves are written at paths in lower case, one after the other. A tree that is made in this way has
no key twice and no key with capitals. Such a tree can be rebuilt: taken apart into its leaves and
made of these again, it holds the same data in the same order. Only the origins of nodes that have
parts are lost on the way.

## Main definitions

* `Value.Canonical` — keys are in lower case, and no table has one twice.

## Main results

* `Value.Canonical.replay` — writing keeps a tree canonical.
* `Value.Canonical.nodup_leaves` — the leaves of a canonical tree stand at different paths.
* `Value.Canonical.ofValue_replay` — rebuilding a canonical tree.
-/

namespace LayeredConfig

/-- What is there after a change was there before, or it is what was changed. -/
lemma Entries.mem_of_mem_alter {κ α : Type} [DecidableEq κ] {k : κ} {f : Option α → α}
    {es : Entries κ α} {e : κ × α} (h : e ∈ alter k f es) : e ∈ es ∨ e = (k, f (get? k es)) := by
  have hput : alter k f es = put k (f (get? k es)) es := alter_congr rfl
  exact mem_of_mem_put (hput ▸ h)

/-- What stands at a key is one of the entries. -/
lemma Entries.mem_of_get?_eq_some {κ α : Type} [DecidableEq κ] {k : κ} {es : Entries κ α} {v : α}
    (h : get? k es = some v) : (k, v) ∈ es := by
  induction es with
  | nil => cases h
  | cons e es ih =>
    obtain ⟨k', v'⟩ := e
    rw [get?] at h
    split_ifs at h with hk
    · obtain rfl := Option.some.inj h
      exact hk ▸ List.mem_cons_self
    · exact List.mem_cons_of_mem _ (ih h)

/-- A change leaves no key twice. -/
lemma Entries.nodup_keys_alter {κ α : Type} [DecidableEq κ] {es : Entries κ α}
    (h : es.keys.Nodup) (k : κ) (f : Option α → α) : (alter k f es).keys.Nodup := by
  rw [keys_alter]
  split_ifs with hk
  · exact h
  · simpa using h.concat hk

namespace Value

/-- An item after a change was there before, or is what was changed, or an absent value. -/
lemma mem_of_mem_alterItem {f : Value → Value} {i : Nat} {vs : List Value} {v : Value}
    (h : v ∈ alterItem f i vs) : v ∈ vs ∨ v = nil ∨ v = f (vs[i]?.getD nil) := by
  induction i generalizing vs with
  | zero =>
    cases vs with
    | nil => exact .inr (.inr (List.mem_singleton.mp h))
    | cons u vs =>
      rcases List.mem_cons.mp h with rfl | h
      · exact .inr (.inr rfl)
      · exact .inl (List.mem_cons_of_mem u h)
  | succ i ih =>
    cases vs with
    | nil =>
      rcases List.mem_cons.mp h with rfl | h
      · exact .inr (.inl rfl)
      · exact ih h
    | cons u vs =>
      rcases List.mem_cons.mp h with rfl | h
      · exact .inl List.mem_cons_self
      · exact (ih h).imp_left (List.mem_cons_of_mem u)

/-- A tree as sources make it: keys are in lower case, and no table has one twice. -/
inductive Canonical : Value → Prop
  /-- A scalar has no keys. -/
  | scalar (o : Option String) (c : Scalar) : Canonical (.scalar o c)
  /-- The items of an array are canonical. -/
  | array (o : Option String) {vs : List Value} :
      (∀ v ∈ vs, Canonical v) → Canonical (.array o vs)
  /-- The keys of a table differ and are in lower case, and its values are canonical. -/
  | table (o : Option String) {es : List (String × Value)} :
      (Entries.keys es).Nodup → (∀ e ∈ es, Text.IsLowerCase e.1) → (∀ e ∈ es, Canonical e.2) →
      Canonical (.table o es)

/-- An absent value is canonical. -/
lemma canonical_nil : Canonical nil := .scalar none .nil

/-- An empty table is canonical. -/
lemma canonical_emptyTable : Canonical emptyTable :=
  .table none (by simp [Entries.keys]) (by simp) (by simp)

/-- A value without parts is canonical. -/
lemma canonical_of_parts_eq_nil {v : Value} (h : v.parts = []) : v.Canonical := by
  cases v with
  | scalar o c => exact .scalar o c
  | array o vs =>
    obtain rfl : vs = [] := by simpa [parts] using h
    exact .array o (by simp)
  | table o es =>
    obtain rfl : es = [] := by simpa [parts] using h
    exact .table o (by simp [Entries.keys]) (by simp) (by simp)

/-- Leaves have no parts. -/
lemma parts_eq_nil_of_mem_leaves {parent : Path} {v : Value} {l : Path × Value}
    (h : l ∈ leaves parent v) : l.2.parts = [] := by
  induction v using parts_induction generalizing parent with
  | step v ih =>
    by_cases hv : v.parts = []
    · rw [leaves_of_parts_eq_nil hv] at h
      obtain rfl := List.mem_singleton.mp h
      exact hv
    · rw [leaves_of_parts_ne_nil hv] at h
      obtain ⟨a, ha, hl⟩ := List.mem_flatMap.mp h
      exact ih a ha hl

namespace Canonical

/-! ## Reading and writing -/

/-- What stands one step below a canonical value is canonical. -/
lemma child? {v u : Value} (h : v.Canonical) {a : Step} (hu : v.child? a = some u) :
    u.Canonical := by
  cases a with
  | key name =>
    cases h with
    | table o _ _ hes => exact hes _ (Entries.mem_of_get?_eq_some hu)
    | _ => cases hu
  | index i =>
    cases h with
    | array o hvs => exact hvs _ (List.mem_of_getElem? hu)
    | _ => cases hu

/-- What stands at a path in a canonical value is canonical. -/
lemma get? {v u : Value} (h : v.Canonical) {p : Path} (hu : v.get? p = some u) : u.Canonical := by
  induction p generalizing v with
  | nil =>
    rw [get?_root] at hu
    exact Option.some.inj hu ▸ h
  | cons a p ih =>
    rw [get?_cons] at hu
    obtain ⟨x, hx, hu⟩ := Option.bind_eq_some_iff.mp hu
    exact ih (h.child? hx) hu

/-- What a canonical value counts as where a table is asked for is canonical. -/
lemma table_asTable {v : Value} (h : v.Canonical) :
    (Value.table v.asTable.1 v.asTable.2).Canonical := by
  cases h with
  | table o hkeys hlower hes => exact .table o hkeys hlower hes
  | _ => exact canonical_emptyTable

/-- What a canonical value counts as where an array is asked for is canonical. -/
lemma of_mem_asArray {v : Value} (h : v.Canonical) : ∀ x ∈ v.asArray.2, x.Canonical := by
  cases h with
  | array o hvs => exact hvs
  | _ => exact List.forall_mem_nil _

/-- A canonical value one step below is changed to a canonical one. -/
lemma alterChild {v : Value} (h : v.Canonical) {a : Step} (ha : a.IsLowerCase)
    {f : Option Value → Value} (hf : (f (v.child? a)).Canonical) :
    (v.alterChild a f).Canonical := by
  cases a with
  | key name =>
    cases h.table_asTable with
    | table o hkeys hlower hes =>
      refine .table _ (Entries.nodup_keys_alter hkeys name f) (fun e he => ?_) fun e he => ?_
      · rcases Entries.mem_of_mem_alter he with he | rfl
        · exact hlower e he
        · exact ha
      · rcases Entries.mem_of_mem_alter he with he | rfl
        · exact hes e he
        · exact hf
  | index i =>
    refine .array _ fun x hx => ?_
    rcases mem_of_mem_alterItem hx with hx | rfl | rfl
    · exact h.of_mem_asArray x hx
    · exact canonical_nil
    · exact hf

/-- Writing at steps in lower case preserves canonical trees. -/
lemma preserved : Preserved Canonical Step.IsLowerCase where
  emptyTable := canonical_emptyTable
  child h hu := h.child? hu
  alter h ha hf := h.alterChild ha hf

/-- **Writing keeps a tree canonical**, if the values are and the paths are in lower case. -/
theorem replay {tree : Value} (h : tree.Canonical) {writes : List (Path × Value)}
    (hw : ∀ l ∈ writes, (∀ a ∈ l.1, a.IsLowerCase) ∧ l.2.Canonical) :
    (tree.replay writes).Canonical :=
  preserved.replay h hw

/-! ## Leaves -/

/-- The parts of a canonical value are canonical. -/
lemma of_mem_parts {v : Value} (h : v.Canonical) {a : Step × Value} (ha : a ∈ v.parts) :
    a.2.Canonical := by
  cases h with
  | scalar o c => cases ha
  | array o hvs =>
    obtain ⟨x, hx, rfl⟩ := List.mem_map.mp ha
    exact hvs x.1 (List.fst_mem_of_mem_zipIdx hx)
  | table o _ _ hes =>
    obtain ⟨e, he, rfl⟩ := List.mem_map.mp ha
    exact hes e he

/-- The steps to the entries of a canonical table are its keys as they are. -/
lemma map_entryPart {es : List (String × Value)} (h : ∀ e ∈ es, Text.IsLowerCase e.1) :
    es.map entryPart = es.map fun e => (Step.key e.1, e.2) :=
  List.map_congr_left fun e he => by rw [entryPart, Text.lower_eq_self (h e he)]

/-- The steps to the parts of a canonical value differ. -/
lemma nodup_parts {v : Value} (h : v.Canonical) : (v.parts.map Prod.fst).Nodup := by
  cases h with
  | scalar o c => exact List.nodup_nil
  | @array o vs hvs =>
    have hsteps : (vs.zipIdx.map itemPart).map Prod.fst =
        (vs.zipIdx.map Prod.snd).map Step.index := by
      rw [List.map_map, List.map_map]
      rfl
    rw [parts, hsteps]
    exact (List.nodup_zipIdx_map_snd vs).map fun _ _ => Step.index.inj
  | @table o es hkeys hlower hes =>
    have hsteps : ((es.map fun e => (Step.key e.1, e.2)).map Prod.fst) =
        (Entries.keys es).map Step.key := by
      simp [Entries.keys]
    rw [parts, map_entryPart hlower, hsteps]
    exact hkeys.map fun _ _ => Step.key.inj

end Canonical

/-- The leaves of parts at different steps stand at different paths, if those of each part do. -/
lemma nodup_leavesOfParts {as : List (Step × Value)} (h : (as.map Prod.fst).Nodup)
    (ih : ∀ a ∈ as, ∀ parent, ((leaves parent a.2).map Prod.fst).Nodup) (parent : Path) :
    ((leavesOfParts parent as).map Prod.fst).Nodup := by
  induction as with
  | nil => exact List.nodup_nil
  | cons a as ihas =>
    rw [List.map_cons, List.nodup_cons] at h
    rw [leavesOfParts, List.flatMap_cons, List.map_append, List.nodup_append]
    refine ⟨ih a List.mem_cons_self _, ihas h.2 fun b hb => ih b (List.mem_cons_of_mem a hb), ?_⟩
    rintro p hp q hq rfl
    obtain ⟨l, hl, rfl⟩ := List.mem_map.mp hp
    obtain ⟨m, hm, hlm⟩ := List.mem_map.mp hq
    obtain ⟨b, hb, hm⟩ := List.mem_flatMap.mp hm
    have ha := prefix_of_mem_leaves hl
    have hb' := prefix_of_mem_leaves hm
    rw [hlm] at hb'
    have hstep : parent ++ [a.1] = parent ++ [b.1] :=
      (List.prefix_of_prefix_length_le ha hb' (by simp)).eq_of_length (by simp)
    obtain ⟨hab, -⟩ := List.cons.inj (List.append_cancel_left hstep)
    exact h.1 (hab ▸ List.mem_map_of_mem hb)

/-- **The leaves of a canonical value** stand at different paths. -/
theorem Canonical.nodup_leaves {v : Value} (h : v.Canonical) (parent : Path) :
    ((leaves parent v).map Prod.fst).Nodup := by
  induction v using parts_induction generalizing parent with
  | step v ih =>
    by_cases hv : v.parts = []
    · rw [leaves_of_parts_eq_nil hv]
      exact List.nodup_singleton parent
    · rw [leaves_of_parts_ne_nil hv]
      exact nodup_leavesOfParts h.nodup_parts (fun a ha p => ih a ha (h.of_mem_parts ha) p) parent

/-- The leaves of the parts of a canonical value stand at different paths. -/
lemma Canonical.nodup_leavesOfParts {v : Value} (h : v.Canonical) (parent : Path) :
    ((leavesOfParts parent v.parts).map Prod.fst).Nodup :=
  Value.nodup_leavesOfParts h.nodup_parts (fun _ ha p => (h.of_mem_parts ha).nodup_leaves p) parent

/-! ## Rebuilding -/

/-- Entries with new keys in lower case are merged by adding them at the end. -/
lemma mergeEntries_eq_append {done es : List (String × Value)}
    (h : (Entries.keys done ++ Entries.keys es).Nodup) (hlower : ∀ e ∈ es, Text.IsLowerCase e.1) :
    mergeEntries done es = done ++ es.map fun e => (e.1, mergeOver none e.2) := by
  induction es generalizing done with
  | nil => simp [mergeEntries]
  | cons e es ih =>
    obtain ⟨k, v⟩ := e
    have hk : k ∉ Entries.keys done := fun hk =>
      (List.nodup_append.mp h).2.2 k hk k (by simp [Entries.keys]) rfl
    have hrest : (Entries.keys (done ++ [(k, mergeOver none v)]) ++ Entries.keys es).Nodup := by
      simpa [Entries.keys] using h
    rw [mergeEntries, Text.lower_eq_self (hlower _ List.mem_cons_self),
      Entries.alter_of_not_mem hk, ih hrest fun e he => hlower e (List.mem_cons_of_mem _ he)]
    simp

/-- Items are merged over no others one by one. -/
lemma mergeItems_nil (vs : List Value) : mergeItems [] vs = vs.map (mergeOver none) := by
  induction vs with
  | nil => rfl
  | cons v vs ih => rw [mergeItems, mergeOver_some_nil, ih, List.map_cons]

end Value

/-- The data of items, one by one. -/
lemma Datum.ofItems_eq_map (vs : List Value) : ofItems vs = vs.map ofValue := by
  induction vs with
  | nil => rfl
  | cons v vs ih => rw [ofItems, ih, List.map_cons]

/-- The data of entries, one by one. -/
lemma Datum.ofEntries_eq_map (es : List (String × Value)) :
    ofEntries es = es.map fun e => (.text e.1, ofValue e.2) := by
  induction es with
  | nil => rfl
  | cons e es ih => rw [ofEntries, ih, List.map_cons]

/-- The data of entries show their keys. -/
lemma Datum.keys_eq_of_ofEntries_eq {es fs : List (String × Value)}
    (h : ofEntries es = ofEntries fs) : Entries.keys es = Entries.keys fs := by
  have hkeys := congrArg (List.map Prod.fst) h
  rw [ofEntries_eq_map, ofEntries_eq_map, List.map_map, List.map_map] at hkeys
  apply List.map_injective_iff.mpr fun _ _ => DatumKey.text.inj
  rw [Entries.keys, Entries.keys, List.map_map, List.map_map]
  exact hkeys

namespace Value

/-- A canonical value that is merged over nothing holds the same data. -/
lemma Canonical.ofValue_mergeOver_none {v : Value} (h : v.Canonical) :
    Datum.ofValue (mergeOver none v) = .ofValue v := by
  induction h with
  | scalar o c => rw [mergeOver_of_parts_eq_nil rfl]
  | @array o vs _ ih =>
    cases vs with
    | nil => rw [mergeOver_of_parts_eq_nil rfl]
    | cons v vs =>
      simp only [mergeOver, Option.getD_none, asArray, emptyTable, mergeItems_nil, Datum.ofValue,
        Datum.ofItems_eq_map, List.map_map]
      exact congrArg Datum.sequence (List.map_congr_left ih)
  | @table o es hkeys hlower _ ih =>
    cases es with
    | nil => rw [mergeOver_of_parts_eq_nil rfl]
    | cons e es =>
      have hnew : (Entries.keys ([] : List (String × Value)) ++ Entries.keys (e :: es)).Nodup :=
        hkeys
      simp only [mergeOver, Option.getD_none, asTable, emptyTable,
        mergeEntries_eq_append hnew hlower, Datum.ofValue, Datum.ofEntries_eq_map, List.nil_append,
        List.map_map]
      exact congrArg Datum.mapping (List.map_congr_left fun e he => by simp [ih e he])

/-- Writing the leaves of parts into an empty table is merging the parts over it. -/
lemma replay_leavesOfParts_emptyTable (as : List (Step × Value)) :
    emptyTable.replay (leavesOfParts [] as) = as.foldl mergePart emptyTable := by
  by_cases has : as = []
  · subst has
    rfl
  · refine replay_leavesOfParts has (fun a _ => ?_) emptyTable []
    induction a.2 using parts_induction with
    | step y ih =>
      intro r p hp
      by_cases hy : y.parts = []
      · rw [leaves_of_parts_eq_nil hy, mergeOver_of_parts_eq_nil hy]
        rfl
      · rw [leaves_of_parts_ne_nil hy, mergeOver_eq_foldl_parts hy, set_of_ne_nil hp]
        exact replay_leavesOfParts hy ih r p

/-- **Rebuilding a canonical table**: made of its leaves, it holds the same data. -/
theorem Canonical.ofValue_replay {o : Option String} {es : List (String × Value)}
    (h : (Value.table o es).Canonical) :
    Datum.ofValue (emptyTable.replay (leavesOfParts [] (es.map entryPart))) =
      .ofValue (.table o es) := by
  have hmerge : emptyTable.replay (leavesOfParts [] (es.map entryPart)) =
      .table none (mergeEntries [] es) := by
    rw [replay_leavesOfParts_emptyTable]
    exact foldl_mergePart_table none [] es
  rw [hmerge]
  cases es with
  | nil => rfl
  | cons e es => exact h.ofValue_mergeOver_none

end Value

end LayeredConfig
