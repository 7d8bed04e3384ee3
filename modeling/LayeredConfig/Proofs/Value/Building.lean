import Mathlib
import LayeredConfig.Proofs.Path.Canonical
import LayeredConfig.Value.Build

set_option autoImplicit false

/-!
# Values and the data that they are built from

A value can be taken for plain data, and data can be built to a value. What is lost in the first
direction are the origins of nodes, and nothing else. The second direction may fail: integers can be
too wide. It succeeds on the data of every well-formed value, and what is built from data is
well-formed, provided that this holds of the ready-made values inside them.

## Main definitions

* `Value.bare` — a value without the origins of its nodes.
* `Value.BuiltFrom` — an entry of a table of values, and the entry of plain data that it comes of.
* `Datum.parts` — the data one step below.
* `Datum.Sound` — data whose ready-made values are well-formed.

## Main results

* `Value.ofValue_eq_iff` — two values are the same data iff they differ in origins only.
* `Value.wellFormed_preserved` — writing keeps a tree well-formed.
* `Datum.parts_induction` — induction over data by their parts.
* `Value.wellFormed_of_build` — what is built from sound data is well-formed.
* `Value.build_ofValue` — building the data of a well-formed value.
-/

namespace LayeredConfig

namespace Value

/-! ## Origins aside -/

mutual

/-- A value without the origins of its nodes. -/
def bare : Value → Value
  | .scalar _ c => .scalar none c
  | .array _ items => .array none (bareItems items)
  | .table _ entries => .table none (bareEntries entries)

/-- Items without the origins of their nodes. -/
def bareItems : List Value → List Value
  | [] => []
  | v :: vs => bare v :: bareItems vs

/-- Entries without the origins of their nodes. -/
def bareEntries : List (String × Value) → List (String × Value)
  | [] => []
  | (k, v) :: es => (k, bare v) :: bareEntries es

end

/-- Items lose their origins one by one. -/
lemma bareItems_eq_map (vs : List Value) : bareItems vs = vs.map bare := by
  induction vs with
  | nil => rfl
  | cons v vs ih => rw [bareItems, ih, List.map_cons]

/-- Entries lose their origins one by one, and keep their keys. -/
lemma bareEntries_eq_map (es : List (String × Value)) :
    bareEntries es = es.map fun e => (e.1, bare e.2) := by
  induction es with
  | nil => rfl
  | cons e es ih => rw [bareEntries, ih, List.map_cons]

/-- Entries without origins have the same keys. -/
lemma keys_bareEntries (es : List (String × Value)) :
    Entries.keys (bareEntries es) = Entries.keys es := by
  simp [bareEntries_eq_map, Entries.keys]

/-- Origins do not show in plain data. -/
@[simp] lemma ofValue_bare (v : Value) : Datum.ofValue v.bare = .ofValue v := by
  induction v using Value.induction with
  | scalar o c => rfl
  | array o vs ih =>
    simp only [bare, Datum.ofValue, bareItems_eq_map, Datum.ofItems_eq_map, List.map_map]
    exact congrArg Datum.sequence (List.map_congr_left ih)
  | table o es ih =>
    simp only [bare, Datum.ofValue, bareEntries_eq_map, Datum.ofEntries_eq_map, List.map_map]
    exact congrArg Datum.mapping (List.map_congr_left fun e he => by simp [ih e he])

/-- Scalars are told apart by their data. -/
lemma ofScalar_injective : Function.Injective Datum.ofScalar := by
  intro c d h
  cases c <;> cases d <;> simp_all [Datum.ofScalar]

/-- No scalar is the data of a sequence or of a table. -/
lemma ofScalar_ne (c : Scalar) :
    (∀ ds, Datum.ofScalar c ≠ .sequence ds) ∧ ∀ es, Datum.ofScalar c ≠ .mapping es := by
  cases c <;> simp [Datum.ofScalar]

/-- Lists whose members are alike in one respect, each with that at its place, are alike in another
respect that follows from it. -/
lemma map_eq_map_of_map_eq {α β γ : Type} {f : α → β} {g : α → γ} {as bs : List α}
    (h : as.map f = bs.map f) (himp : ∀ a ∈ as, ∀ b, f a = f b → g a = g b) :
    as.map g = bs.map g := by
  induction as generalizing bs with
  | nil =>
    obtain rfl := List.map_eq_nil_iff.mp h.symm
    rfl
  | cons a as ih =>
    cases bs with
    | nil => cases h
    | cons b bs =>
      obtain ⟨hab, hrest⟩ := List.cons.inj h
      rw [List.map_cons, List.map_cons, himp a List.mem_cons_self b hab,
        ih hrest fun c hc => himp c (List.mem_cons_of_mem a hc)]

/-- **Data of values**: two values are the same data iff they differ in origins only. -/
theorem ofValue_eq_iff {u v : Value} : Datum.ofValue u = .ofValue v ↔ u.bare = v.bare := by
  constructor
  · intro h
    induction u using Value.induction generalizing v with
    | scalar o c =>
      cases v with
      | scalar o' c' => exact congrArg (Value.scalar none) (ofScalar_injective h)
      | array o' ws => exact absurd h ((ofScalar_ne c).1 _)
      | table o' fs => exact absurd h ((ofScalar_ne c).2 _)
    | array o vs ih =>
      cases v with
      | scalar o' c' => exact absurd h.symm ((ofScalar_ne c').1 _)
      | array o' ws =>
        have hitems := Datum.sequence.inj h
        rw [Datum.ofItems_eq_map, Datum.ofItems_eq_map] at hitems
        rw [bare, bare, bareItems_eq_map, bareItems_eq_map]
        have hbare := map_eq_map_of_map_eq hitems fun x hx y hxy => ih x hx hxy
        exact congrArg (Value.array none) hbare
      | table o' fs => cases h
    | table o es ih =>
      cases v with
      | scalar o' c' => exact absurd h.symm ((ofScalar_ne c').2 _)
      | array o' ws => cases h
      | table o' fs =>
        have hentries := Datum.mapping.inj h
        rw [Datum.ofEntries_eq_map, Datum.ofEntries_eq_map] at hentries
        rw [bare, bare, bareEntries_eq_map, bareEntries_eq_map]
        refine congrArg (Value.table none) (map_eq_map_of_map_eq hentries fun e he f hef => ?_)
        obtain ⟨hkey, hvalue⟩ := Prod.mk.inj hef
        rw [DatumKey.text.inj hkey, ih e he hvalue]
  · intro h
    rw [← ofValue_bare u, h, ofValue_bare]

/-- A canonical value stays canonical without its origins. -/
lemma Canonical.bare {v : Value} (h : v.Canonical) : v.bare.Canonical := by
  induction h with
  | scalar o c => exact .scalar none c
  | @array o vs _ ih =>
    rw [Value.bare, bareItems_eq_map]
    exact .array none (by simpa using ih)
  | @table o es hkeys hlower _ ih =>
    refine .table none (keys_bareEntries es ▸ hkeys) ?_ ?_
    · rw [bareEntries_eq_map]
      exact List.forall_mem_map.mpr hlower
    · rw [bareEntries_eq_map]
      exact List.forall_mem_map.mpr ih

/-! ## Well-formed values -/

/-- Items are well-formed one by one. -/
lemma wellFormedItems_iff {vs : List Value} :
    WellFormedItems vs ↔ ∀ v ∈ vs, v.WellFormed := by
  induction vs with
  | nil => simp [WellFormedItems]
  | cons v vs ih => rw [WellFormedItems, ih, List.forall_mem_cons]

/-- The values of entries are well-formed one by one. -/
lemma wellFormedEntries_iff {es : List (String × Value)} :
    WellFormedEntries es ↔ ∀ e ∈ es, e.2.WellFormed := by
  induction es with
  | nil => simp [WellFormedEntries]
  | cons e es ih => rw [WellFormedEntries, ih, List.forall_mem_cons]

/-- An array is well-formed iff its items are. -/
lemma wellFormed_array_iff {o : Option String} {vs : List Value} :
    (Value.array o vs).WellFormed ↔ ∀ v ∈ vs, v.WellFormed :=
  wellFormedItems_iff

/-- A table is well-formed iff its keys differ and its values are well-formed. -/
lemma wellFormed_table_iff {o : Option String} {es : List (String × Value)} :
    (Value.table o es).WellFormed ↔ (Entries.keys es).Nodup ∧ ∀ e ∈ es, e.2.WellFormed :=
  and_congr_right fun _ => wellFormedEntries_iff

/-- An empty table is well-formed. -/
lemma wellFormed_emptyTable : emptyTable.WellFormed :=
  wellFormed_table_iff.mpr ⟨List.nodup_nil, List.forall_mem_nil _⟩

/-- What a well-formed value counts as where a table is asked for is well-formed. -/
lemma WellFormed.table_asTable {v : Value} (h : v.WellFormed) :
    (Value.table v.asTable.1 v.asTable.2).WellFormed := by
  cases v with
  | table o es => exact h
  | _ => exact wellFormed_emptyTable

/-- What a well-formed value counts as where an array is asked for is well-formed. -/
lemma WellFormed.array_asArray {v : Value} (h : v.WellFormed) :
    (Value.array v.asArray.1 v.asArray.2).WellFormed := by
  cases v with
  | array o vs => exact h
  | _ => exact wellFormed_array_iff.mpr (List.forall_mem_nil _)

/-- **Writing keeps a tree well-formed.** -/
theorem wellFormed_preserved : Preserved WellFormed fun _ => True where
  emptyTable := wellFormed_emptyTable
  child {v u a} h hu := by
    cases a with
    | key name =>
      obtain ⟨-, hes⟩ := wellFormed_table_iff.mp h.table_asTable
      exact hes _ (Entries.mem_of_get?_eq_some hu)
    | index i => exact wellFormed_array_iff.mp h.array_asArray u (List.mem_of_getElem? hu)
  alter {v a f} h _ hf := by
    cases a with
    | key name =>
      obtain ⟨hkeys, hes⟩ := wellFormed_table_iff.mp h.table_asTable
      refine wellFormed_table_iff.mpr ⟨Entries.nodup_keys_alter hkeys name f, fun e he => ?_⟩
      rcases Entries.mem_of_mem_alter he with he | rfl
      · exact hes e he
      · exact hf
    | index i =>
      refine wellFormed_array_iff.mpr fun x hx => ?_
      rcases mem_of_mem_alterItem hx with hx | rfl | rfl
      · exact wellFormed_array_iff.mp h.array_asArray x hx
      · trivial
      · exact hf

/-- The parts of a well-formed value are well-formed. -/
lemma WellFormed.of_mem_parts {v : Value} (h : v.WellFormed) {a : Step × Value}
    (ha : a ∈ v.parts) : a.2.WellFormed := by
  cases v with
  | scalar o c => cases ha
  | array o vs =>
    obtain ⟨x, hx, rfl⟩ := List.mem_map.mp ha
    exact wellFormed_array_iff.mp h x.1 (List.fst_mem_of_mem_zipIdx hx)
  | table o es =>
    obtain ⟨e, he, rfl⟩ := List.mem_map.mp ha
    exact (wellFormed_table_iff.mp h).2 e he

/-- The leaves of a well-formed value are well-formed. -/
lemma WellFormed.of_mem_leaves {parent : Path} {v : Value} (h : v.WellFormed)
    {l : Path × Value} (hl : l ∈ leaves parent v) : l.2.WellFormed := by
  induction v using parts_induction generalizing parent with
  | step v ih =>
    by_cases hv : v.parts = []
    · rw [leaves_of_parts_eq_nil hv] at hl
      obtain rfl := List.mem_singleton.mp hl
      exact h
    · rw [leaves_of_parts_ne_nil hv] at hl
      obtain ⟨a, ha, hl⟩ := List.mem_flatMap.mp hl
      exact ih a ha (h.of_mem_parts ha) hl

end Value

/-! ## Building -/

namespace Datum

/-- The data one step below. -/
def parts : Datum → List Datum
  | .sequence ds => ds
  | .tuple ds => ds
  | .mapping es => es.map Prod.snd
  | _ => []

/-- **Induction by parts**: what holds of data if it holds of their parts, holds of all data. -/
@[elab_as_elim]
theorem parts_induction {P : Datum → Prop} (step : ∀ d, (∀ d' ∈ d.parts, P d') → P d) :
    ∀ d, P d
  | .sequence ds => step _ fun d' _ => parts_induction step d'
  | .tuple ds => step _ fun d' _ => parts_induction step d'
  | .mapping es => step _ fun d' _ => parts_induction step d'
  | .nil => step _ (List.forall_mem_nil _)
  | .boolean _ => step _ (List.forall_mem_nil _)
  | .integer _ => step _ (List.forall_mem_nil _)
  | .float _ => step _ (List.forall_mem_nil _)
  | .text _ => step _ (List.forall_mem_nil _)
  | .value _ => step _ (List.forall_mem_nil _)
  | .moment _ => step _ (List.forall_mem_nil _)
  | .octets _ => step _ (List.forall_mem_nil _)
  | .set _ => step _ (List.forall_mem_nil _)
  | .foreign _ => step _ (List.forall_mem_nil _)
termination_by d => sizeOf d
decreasing_by
  · have := List.sizeOf_lt_of_mem ‹d' ∈ ds›
    simp only [Datum.sequence.sizeOf_spec]
    omega
  · have := List.sizeOf_lt_of_mem ‹d' ∈ ds›
    simp only [Datum.tuple.sizeOf_spec]
    omega
  · obtain ⟨⟨k, d⟩, he, rfl⟩ := List.mem_map.mp ‹d' ∈ es.map Prod.snd›
    have := List.sizeOf_lt_of_mem he
    simp only [Datum.mapping.sizeOf_spec, Prod.mk.sizeOf_spec] at this ⊢
    omega

mutual

/-- The ready-made values inside the data are well-formed. -/
def Sound : Datum → Prop
  | .sequence items => SoundItems items
  | .tuple items => SoundItems items
  | .mapping entries => SoundEntries entries
  | .value v => v.WellFormed
  | _ => True

/-- Every item is sound. -/
def SoundItems : List Datum → Prop
  | [] => True
  | d :: ds => Sound d ∧ SoundItems ds

/-- The data of every entry are sound. -/
def SoundEntries : List (DatumKey × Datum) → Prop
  | [] => True
  | (_, d) :: es => Sound d ∧ SoundEntries es

end

/-- The data of entries are sound one by one. -/
lemma soundEntries_iff {es : List (DatumKey × Datum)} :
    SoundEntries es ↔ ∀ e ∈ es, e.2.Sound := by
  induction es with
  | nil => simp [SoundEntries]
  | cons e es ih => rw [SoundEntries, ih, List.forall_mem_cons]

end Datum

namespace Value

/-- Where no origin is given, data stand for what is built from them. -/
lemma ofDatum_none (d : Datum) : ofDatum d none = build none d := by
  cases d <;> rfl

mutual

/-- **What is built from sound data is well-formed.** -/
theorem wellFormed_of_build {o : Option String} {d : Datum} (hd : d.Sound) {v : Value}
    (h : build o d = .ok v) : v.WellFormed := by
  match d with
  | .integer i =>
    rw [build, ofInteger] at h
    split_ifs at h with hi
    · obtain rfl := Except.ok.inj h
      exact hi
    · obtain ⟨_, -, h⟩ := Fault.bind_eq_ok_iff.mp h
      cases h
  | .sequence items | .tuple items =>
    obtain ⟨vs, hvs, h⟩ := Fault.bind_eq_ok_iff.mp h
    obtain rfl := Except.ok.inj h
    exact wellFormedItems_of_build hd hvs
  | .mapping entries =>
    obtain ⟨es, hes, h⟩ := Fault.bind_eq_ok_iff.mp h
    obtain rfl := Except.ok.inj h
    -- the entries are added to a table that has none yet
    exact wellFormed_of_buildEntries hd wellFormed_emptyTable hes
  | .value u =>
    obtain rfl := Except.ok.inj h
    exact hd
  | .nil | .boolean _ | .float _ | .text _ =>
    obtain rfl := Except.ok.inj h
    trivial
  | .moment _ | .octets _ | .set _ | .foreign _ => cases h

/-- The items that are built from sound data are well-formed. -/
theorem wellFormedItems_of_build {o : Option String} {ds : List Datum} (hds : Datum.SoundItems ds)
    {vs : List Value} (h : buildItems o ds = .ok vs) : WellFormedItems vs := by
  match ds with
  | [] =>
    obtain rfl := Except.ok.inj h
    trivial
  | d :: ds =>
    obtain ⟨v, hv, h⟩ := Fault.bind_eq_ok_iff.mp h
    obtain ⟨us, hus, h⟩ := Fault.bind_eq_ok_iff.mp h
    obtain rfl := Except.ok.inj h
    exact ⟨wellFormed_of_build hds.1 hv, wellFormedItems_of_build hds.2 hus⟩

/-- Entries that are built from sound data and added to a well-formed table leave one. -/
theorem wellFormed_of_buildEntries {o o' : Option String} {es : List (DatumKey × Datum)}
    (hes : Datum.SoundEntries es) {done out : List (String × Value)}
    (hdone : (Value.table o' done).WellFormed) (h : buildEntries o done es = .ok out) :
    (Value.table o' out).WellFormed := by
  match es with
  | [] =>
    obtain rfl := Except.ok.inj h
    exact hdone
  | (k, d) :: es =>
    obtain ⟨name, -, h⟩ := Fault.bind_eq_ok_iff.mp h
    obtain ⟨v, hv, h⟩ := Fault.bind_eq_ok_iff.mp h
    obtain ⟨hkeys, hvalues⟩ := wellFormed_table_iff.mp hdone
    have hput : (Value.table o' (Entries.put name v done)).WellFormed := by
      refine wellFormed_table_iff.mpr ⟨Entries.nodup_keys_alter hkeys name _, fun e he => ?_⟩
      rcases Entries.mem_of_mem_put he with he | rfl
      · exact hvalues e he
      · exact wellFormed_of_build hes.1 hv
    exact wellFormed_of_buildEntries hes.2 hput h

end

/-- An entry of a table of values comes of an entry of plain data. -/
def BuiltFrom (e : String × Datum) (f : String × Value) : Prop :=
  f.1 = e.1 ∧ build none e.2 = .ok f.2

/-- A table whose keys are different texts is built entry by entry. -/
lemma buildEntries_text_iff {entries : List (String × Datum)} {done out : List (String × Value)}
    (h : (Entries.keys done ++ entries.map Prod.fst).Nodup) :
    buildEntries none done (entries.map fun e => (.text e.1, e.2)) = .ok out ↔
      ∃ vs, List.Forall₂ BuiltFrom entries vs ∧ out = done ++ vs := by
  induction entries generalizing done with
  | nil => simp [buildEntries, eq_comm]
  | cons e es ih =>
    obtain ⟨k, d⟩ := e
    have hk : k ∉ Entries.keys done := fun hk =>
      (List.nodup_append.mp h).2.2 k hk k (by simp) rfl
    have hrest (v : Value) : (Entries.keys (done ++ [(k, v)]) ++ es.map Prod.fst).Nodup := by
      simpa [Entries.keys] using h
    have hunfold : buildEntries none done (((k, d) :: es).map fun e => (.text e.1, e.2)) =
        (build none d).bind fun v =>
          buildEntries none (done ++ [(k, v)]) (es.map fun e => (.text e.1, e.2)) := by
      simp only [← Entries.put_of_not_mem hk]
      rfl
    rw [hunfold]
    constructor
    · intro hb
      obtain ⟨v, hv, hb⟩ := Fault.bind_eq_ok_iff.mp hb
      obtain ⟨vs, hvs, rfl⟩ := (ih (hrest v)).mp hb
      exact ⟨(k, v) :: vs, .cons ⟨rfl, hv⟩ hvs, by simp⟩
    · rintro ⟨vs, hvs, rfl⟩
      cases hvs with
      | @cons _ f _ fs hf hfs =>
        obtain ⟨k', v⟩ := f
        obtain ⟨rfl, hv⟩ := hf
        exact Fault.bind_eq_ok_iff.mpr ⟨v, hv, (ih (hrest v)).mpr ⟨fs, hfs, by simp⟩⟩

/-- Items are built from their data, if each of them is. -/
lemma buildItems_ofItems {vs : List Value}
    (h : ∀ v ∈ vs, build none (.ofValue v) = .ok v.bare) :
    buildItems none (Datum.ofItems vs) = .ok (bareItems vs) := by
  induction vs with
  | nil => rfl
  | cons v vs ih =>
    obtain ⟨hv, hvs⟩ := List.forall_mem_cons.mp h
    have hrest := ih hvs
    exact Fault.bind_eq_ok_iff.mpr ⟨_, hv, Fault.bind_eq_ok_iff.mpr ⟨_, hrest, rfl⟩⟩

/-- Entries are built from their data, if each of them is. -/
lemma forall₂_builtFrom_ofValue {es : List (String × Value)}
    (h : ∀ e ∈ es, build none (.ofValue e.2) = .ok e.2.bare) :
    List.Forall₂ BuiltFrom (es.map fun e => (e.1, .ofValue e.2)) (bareEntries es) := by
  rw [bareEntries_eq_map, List.forall₂_map_left_iff, List.forall₂_map_right_iff, List.forall₂_same]
  exact fun e he => ⟨rfl, h e he⟩

/-- **Building the data of a well-formed value** gives the value without its origins. -/
theorem build_ofValue {v : Value} (h : v.WellFormed) :
    build none (.ofValue v) = .ok v.bare := by
  induction v using Value.induction with
  | scalar o c =>
    cases c with
    | integer i =>
      have hi : fitsInteger i = true := h
      simp only [Datum.ofValue, Datum.ofScalar, build, ofInteger, hi, if_true, bare]
    | _ => rfl
  | array o vs ih =>
    have hvs := wellFormed_array_iff.mp h
    have hitems := buildItems_ofItems fun v hv => ih v hv (hvs v hv)
    exact Fault.bind_eq_ok_iff.mpr ⟨_, hitems, rfl⟩
  | table o es ih =>
    obtain ⟨hkeys, hes⟩ := wellFormed_table_iff.mp h
    have hnodup : (Entries.keys ([] : List (String × Value)) ++
        (es.map fun e => (e.1, Datum.ofValue e.2)).map Prod.fst).Nodup := by
      rw [List.map_map]
      exact hkeys
    have hbuilt := forall₂_builtFrom_ofValue fun e he => ih e he (hes e he)
    have hentries := (buildEntries_text_iff hnodup).mpr ⟨_, hbuilt, rfl⟩
    rw [List.map_map] at hentries
    rw [Datum.ofValue, Datum.ofEntries_eq_map]
    exact Fault.bind_eq_ok_iff.mpr ⟨_, hentries, rfl⟩

end Value

end LayeredConfig
