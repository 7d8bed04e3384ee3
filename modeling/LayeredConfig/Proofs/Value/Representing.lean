import Mathlib
import LayeredConfig.Proofs.Value.Admissible

set_option autoImplicit false

/-!
# Values that stand for data

Data from outside become a value, unless something in them has no place in a configuration. Where
the keys of their tables are texts, nothing is lost: the value can be turned into data again, and
these are the same but for tuples, which come back as sequences, and ready-made values, which come
back as the data that they hold. Every node that is made of plain data has the origin that is given;
a ready-made value inside is taken over with all of its nodes.

## Main definitions

* `Datum.Within`, `Datum.Unfit` — data inside data, and data that have no place in a configuration.
* `Datum.Textual` — data with texts for keys.
* `Datum.unwrapped` — data without tuples and ready-made values.
* `Datum.node?`, `Value.node?` — the nodes of data and of values, by their positions.
* `Value.TakenFrom` — where the nodes of a value, with their origins, come from.

## Main results

* `Value.ofDatum_represents` — when data become a value, and what the value is.
-/

namespace LayeredConfig

namespace Datum

/-! ## Data inside data -/

/-- Data stand inside others, at any depth. Nothing stands inside a ready-made value. -/
inductive Within : Datum → Datum → Prop
  /-- The data themselves. -/
  | self (d : Datum) : Within d d
  /-- Data inside a part. -/
  | part {x p d : Datum} : p ∈ d.parts → Within x p → Within x d

/-- Data have no place in a configuration: an integer that does not fit in 64 bits, or data of a
type that no configuration knows. -/
def Unfit (d : Datum) : Prop :=
  d.Foreign ∨ ∃ i, d = .integer i ∧ ¬ (-2 ^ 63 ≤ i ∧ i ≤ 2 ^ 63 - 1)

/-- In all tables inside the data the keys are texts, and none of them stands twice. -/
def Textual (d : Datum) : Prop :=
  ∀ es, (Datum.mapping es).Within d →
    (∀ e ∈ es, ∃ name, e.1 = .text name) ∧ (es.map Prod.fst).Nodup

/-- The parts of data with texts for keys have texts for keys. -/
lemma Textual.of_mem_parts {d p : Datum} (h : d.Textual) (hp : p ∈ d.parts) : p.Textual :=
  fun es hes => h es (.part hp hes)

/-- What holds of data and of everything inside them holds of everything inside a part. -/
lemma forall_within_iff {P : Datum → Prop} {d : Datum} :
    (∀ x, x.Within d → P x) ↔ P d ∧ ∀ p ∈ d.parts, ∀ x, x.Within p → P x := by
  constructor
  · exact fun h => ⟨h d (.self d), fun p hp x hx => h x (.part hp hx)⟩
  · rintro ⟨hd, hparts⟩ x hx
    cases hx with
    | self => exact hd
    | part hp hx => exact hparts _ hp x hx

/-- The keys inside data are texts iff their own are, if they have keys, and those inside their
parts. -/
lemma textual_iff {d : Datum} :
    d.Textual ↔ (∀ es, d = .mapping es →
      (∀ e ∈ es, ∃ name, e.1 = .text name) ∧ (es.map Prod.fst).Nodup) ∧
      ∀ p ∈ d.parts, p.Textual := by
  constructor
  · exact fun h => ⟨fun es hes => h es (hes ▸ .self d), fun p hp => h.of_mem_parts hp⟩
  · rintro ⟨hself, hparts⟩ es hes
    cases hes with
    | self => exact hself es rfl
    | part hp hes => exact hparts _ hp es hes

/-- The keys of data without parts are texts, if they are no table. -/
lemma textual_of_parts_eq_nil {d : Datum} (h : d.parts = []) (hd : ∀ es, d ≠ .mapping es) :
    d.Textual :=
  textual_iff.mpr ⟨fun es hes => absurd hes (hd es), by simp [h]⟩

/-- Data are misplaced with some fault iff they are unfit. -/
lemma exists_misplaced_iff {d : Datum} : (∃ e, d.Misplaced e) ↔ d.Unfit := by
  constructor
  · rintro ⟨e, h⟩
    cases h with
    | @wide i hwide _ => exact .inr ⟨i, rfl, hwide⟩
    | @unwritable i hlong =>
      exact .inr ⟨i, rfl, mt fitsInteger_iff.mpr (Value.not_fitsInteger_of_tooLong hlong)⟩
    | unsupported hforeign => exact .inl hforeign
  · rintro (hforeign | ⟨i, rfl, hwide⟩)
    · exact ⟨_, .unsupported hforeign⟩
    · by_cases hlong : Number.TooLong i
      · exact ⟨_, .unwritable hlong⟩
      · exact ⟨_, .wide hwide hlong⟩

/-- Each part of data stands at one of their places, at a key that can be written if the keys are
texts. -/
lemma Textual.keyWritable {d : Datum} (h : d.Textual) {p : Option DatumKey × Datum}
    (hp : p ∈ d.places) : KeyWritable p.1 := by
  rintro i hi
  cases d with
  | mapping es =>
    obtain ⟨e, he, rfl⟩ := List.mem_map.mp hp
    obtain ⟨name, hname⟩ := (h es (.self _)).1 e he
    cases hname.symm.trans (Option.some.inj hi)
  | sequence ds | tuple ds =>
    obtain ⟨d, -, rfl⟩ := List.mem_map.mp hp
    cases hi
  | _ => cases hp

/-- Each part of data stands at one of their places. -/
lemma exists_place_of_mem_parts {d x : Datum} (hx : x ∈ d.parts) : ∃ k, (k, x) ∈ d.places := by
  cases d with
  | mapping es =>
    obtain ⟨e, he, rfl⟩ := List.mem_map.mp hx
    exact ⟨some e.1, List.mem_map_of_mem he⟩
  | sequence ds | tuple ds => exact ⟨none, List.mem_map_of_mem hx⟩
  | _ => cases hx

/-- Data with texts for keys are admissible iff nothing inside them is unfit. -/
lemma Textual.admissible_iff {d : Datum} (h : d.Textual) :
    d.Admissible ↔ ∀ x : Datum, x.Within d → ¬ x.Unfit := by
  induction d using parts_induction with
  | step d ih =>
    rw [forall_within_iff, ← exists_misplaced_iff, not_exists]
    constructor
    · rintro ⟨hself, -, hparts⟩
      refine ⟨hself, fun p hp => (ih p hp (h.of_mem_parts hp)).mp ?_⟩
      obtain ⟨k, hk⟩ := exists_place_of_mem_parts hp
      exact hparts (k, p) hk
    · rintro ⟨hself, hparts⟩
      refine .intro hself (fun p hp => h.keyWritable hp) fun p hp => ?_
      have hmem := snd_mem_parts hp
      exact (ih p.2 hmem (h.of_mem_parts hmem)).mpr (hparts p.2 hmem)

/-! ## Data without wrappings -/

mutual

/-- Data with sequences for tuples, and for each ready-made value the data that it holds. -/
def unwrapped : Datum → Datum
  | .sequence items => .sequence (unwrappedItems items)
  | .tuple items => .sequence (unwrappedItems items)
  | .mapping entries => .mapping (unwrappedEntries entries)
  | .value v => .ofValue v
  | d => d

/-- Items without wrappings. -/
def unwrappedItems : List Datum → List Datum
  | [] => []
  | d :: ds => unwrapped d :: unwrappedItems ds

/-- Entries without wrappings, at the same keys in the same order. -/
def unwrappedEntries : List (DatumKey × Datum) → List (DatumKey × Datum)
  | [] => []
  | (k, d) :: es => (k, unwrapped d) :: unwrappedEntries es

end

/-- Scalars have no wrappings. -/
lemma unwrapped_ofScalar (c : Scalar) : (ofScalar c).unwrapped = ofScalar c := by
  cases c <;> rfl

/-! ## Nodes -/

/-- The data that positions lead to, each of which selects a part. -/
def node? : List Nat → Datum → Option Datum
  | [], d => some d
  | i :: ps, d => d.parts[i]?.bind (node? ps)

/-- Data are plain if they are not a ready-made value. -/
def Plain (d : Datum) : Prop :=
  ∀ v, d ≠ .value v

end Datum

namespace Value

/-- The node that positions lead to, each of which selects an item of an array or an entry of a
table. -/
def node? : List Nat → Value → Option Value
  | [], v => some v
  | i :: ps, v => (v.parts.map Prod.snd)[i]?.bind (node? ps)

/-- Where the nodes of a value come from that stands for data with an origin. -/
structure TakenFrom (o : Option String) (d : Datum) (v : Value) : Prop where
  /-- Plain data are a node with the origin. -/
  plain : ∀ ps x, d.node? ps = some x → x.Plain → ∃ u, v.node? ps = some u ∧ u.origin = o
  /-- A ready-made value inside is there as it was, with the origins of all its nodes. -/
  inside : ∀ i ps w, d.node? (i :: ps) = some (.value w) → v.node? (i :: ps) = some w
  /-- If the data are a ready-made value, it keeps its own origin where none is given, and its parts
  are as they were. -/
  whole : ∀ w, d = .value w → v.origin = o.or w.origin ∧ v.parts = w.parts
  /-- There are no other nodes. -/
  nodes : ∀ ps u, v.node? ps = some u → (∃ x, d.node? ps = some x ∧ x.Plain) ∨
    ∃ qs rs w, ps = qs ++ rs ∧ d.node? qs = some (.value w)

/-! ## One step of building -/

variable {o : Option String}

/-- What is built from data, in terms of what is built from their parts. -/
inductive Assembled (o : Option String) : Datum → Value → Prop
  /-- A scalar. -/
  | scalar (c : Scalar) : Assembled o (.ofScalar c) (.scalar o c)
  /-- An array, built from a sequence item by item. -/
  | sequence {ds : List Datum} {vs : List Value} :
      List.Forall₂ (fun d v => build o d = .ok v) ds vs → Assembled o (.sequence ds) (.array o vs)
  /-- An array, built from a tuple item by item. -/
  | tuple {ds : List Datum} {vs : List Value} :
      List.Forall₂ (fun d v => build o d = .ok v) ds vs → Assembled o (.tuple ds) (.array o vs)
  /-- A table, built entry by entry. -/
  | mapping {es : List (DatumKey × Datum)} {fs : List (String × Value)} :
      List.Forall₂ (fun e f => e.1 = .text f.1 ∧ build o e.2 = .ok f.2) es fs →
      Assembled o (.mapping es) (.table o fs)
  /-- A ready-made value, as it is. -/
  | value (v : Value) : Assembled o (.value v) v

/-- Items are built one by one. -/
lemma forall₂_of_buildItems {ds : List Datum} {vs : List Value} (h : buildItems o ds = .ok vs) :
    List.Forall₂ (fun d v => build o d = .ok v) ds vs := by
  induction ds generalizing vs with
  | nil =>
    obtain rfl := Except.ok.inj h
    exact .nil
  | cons d ds ih =>
    obtain ⟨v, hv, h⟩ := Fault.bind_eq_ok_iff.mp h
    obtain ⟨ws, hws, h⟩ := Fault.bind_eq_ok_iff.mp h
    obtain rfl := Except.ok.inj h
    exact .cons hv (ih hws)

/-- Entries whose keys are different texts, and none of those that are done, are built one by
one. -/
lemma forall₂_of_buildEntries {es : List (DatumKey × Datum)} {done out : List (String × Value)}
    (htext : ∀ e ∈ es, ∃ name, e.1 = .text name) (hnodup : (es.map Prod.fst).Nodup)
    (hnew : ∀ name ∈ Entries.keys done, .text name ∉ es.map Prod.fst)
    (h : buildEntries o done es = .ok out) :
    ∃ fs, out = done ++ fs ∧
      List.Forall₂ (fun e f => e.1 = .text f.1 ∧ build o e.2 = .ok f.2) es fs := by
  induction es generalizing done with
  | nil =>
    obtain rfl := Except.ok.inj h
    exact ⟨[], (List.append_nil _).symm, .nil⟩
  | cons e es ih =>
    obtain ⟨k, d⟩ := e
    obtain ⟨⟨name, rfl⟩, htail⟩ := List.forall_mem_cons.mp htext
    obtain ⟨hk, hnodup⟩ := List.nodup_cons.mp hnodup
    obtain ⟨name', hname, h⟩ := Fault.bind_eq_ok_iff.mp h
    obtain rfl := Except.ok.inj hname
    obtain ⟨v, hv, h⟩ := Fault.bind_eq_ok_iff.mp h
    have hput := Entries.put_of_not_mem (fun hmem => hnew name hmem (by simp)) v
    rw [hput] at h
    have hrest : ∀ other ∈ Entries.keys (done ++ [(name, v)]), .text other ∉ es.map Prod.fst := by
      intro other hother
      rw [Entries.keys, List.map_append, List.mem_append] at hother
      rcases hother with hother | hother
      · exact fun hmem => hnew other hother (List.mem_cons_of_mem _ hmem)
      · obtain rfl := List.mem_singleton.mp hother
        exact hk
    obtain ⟨fs, rfl, hfs⟩ := ih htail hnodup hrest h
    exact ⟨(name, v) :: fs, by simp, .cons ⟨rfl, hv⟩ hfs⟩

/-- Data with texts for keys are built part by part. -/
lemma assembled_of_build {d : Datum} (hd : d.Textual) {v : Value} (h : build o d = .ok v) :
    Assembled o d v := by
  cases d with
  | sequence ds =>
    obtain ⟨vs, hvs, h⟩ := Fault.bind_eq_ok_iff.mp h
    obtain rfl := Except.ok.inj h
    exact .sequence (forall₂_of_buildItems hvs)
  | tuple ds =>
    obtain ⟨vs, hvs, h⟩ := Fault.bind_eq_ok_iff.mp h
    obtain rfl := Except.ok.inj h
    exact .tuple (forall₂_of_buildItems hvs)
  | mapping es =>
    obtain ⟨out, hout, h⟩ := Fault.bind_eq_ok_iff.mp h
    obtain rfl := Except.ok.inj h
    obtain ⟨htext, hnodup⟩ := hd es (.self _)
    obtain ⟨fs, rfl, hfs⟩ := forall₂_of_buildEntries htext hnodup (List.forall_mem_nil _) hout
    exact .mapping hfs
  | value w =>
    obtain rfl := Except.ok.inj h
    exact .value w
  | integer i =>
    rw [build, ofInteger] at h
    split_ifs at h
    · obtain rfl := Except.ok.inj h
      exact .scalar (.integer i)
    · obtain ⟨_, -, h⟩ := Fault.bind_eq_ok_iff.mp h
      cases h
  | nil =>
    obtain rfl := Except.ok.inj h
    exact .scalar .nil
  | boolean b =>
    obtain rfl := Except.ok.inj h
    exact .scalar (.boolean b)
  | float x =>
    obtain rfl := Except.ok.inj h
    exact .scalar (.float x)
  | text s =>
    obtain rfl := Except.ok.inj h
    exact .scalar (.text s)
  | _ => cases h

/-! ## The data of what is built -/

/-- Items are turned back if each of them is. -/
lemma ofItems_eq_unwrappedItems {ds : List Datum} {vs : List Value}
    (hback : ∀ d ∈ ds, ∀ {v : Value}, build o d = .ok v → Datum.ofValue v = d.unwrapped)
    (h : List.Forall₂ (fun d v => build o d = .ok v) ds vs) :
    Datum.ofItems vs = Datum.unwrappedItems ds := by
  induction h with
  | nil => rfl
  | cons hv _ ih =>
    obtain ⟨hhead, htail⟩ := List.forall_mem_cons.mp hback
    rw [Datum.ofItems, Datum.unwrappedItems, hhead hv, ih htail]

/-- Entries are turned back if the value of each of them is. -/
lemma ofEntries_eq_unwrappedEntries {es : List (DatumKey × Datum)} {fs : List (String × Value)}
    (hback : ∀ e ∈ es, ∀ {v : Value}, build o e.2 = .ok v → Datum.ofValue v = e.2.unwrapped)
    (h : List.Forall₂ (fun e f => e.1 = .text f.1 ∧ build o e.2 = .ok f.2) es fs) :
    Datum.ofEntries fs = Datum.unwrappedEntries es := by
  induction h with
  | nil => rfl
  | @cons e f es fs hf _ ih =>
    obtain ⟨k, d⟩ := e
    obtain ⟨name, v⟩ := f
    obtain ⟨rfl, hv⟩ := hf
    obtain ⟨hhead, htail⟩ := List.forall_mem_cons.mp hback
    rw [Datum.ofEntries, Datum.unwrappedEntries, hhead hv, ih htail]

/-- What is built from data with texts for keys is turned back into these data, without
wrappings. -/
lemma ofValue_of_build {d : Datum} (hd : d.Textual) {v : Value} (h : build o d = .ok v) :
    Datum.ofValue v = d.unwrapped := by
  induction d using Datum.parts_induction generalizing v with
  | step d ih =>
    have hpart {x : Datum} (hx : x ∈ d.parts) {u : Value} (hu : build o x = .ok u) :
        Datum.ofValue u = x.unwrapped := ih x hx (hd.of_mem_parts hx) hu
    cases assembled_of_build hd h with
    | scalar c => exact (Datum.unwrapped_ofScalar c).symm
    | sequence hvs => exact congrArg Datum.sequence (ofItems_eq_unwrappedItems (fun _ => hpart) hvs)
    | tuple hvs => exact congrArg Datum.sequence (ofItems_eq_unwrappedItems (fun _ => hpart) hvs)
    | mapping hfs =>
      refine congrArg Datum.mapping (ofEntries_eq_unwrappedEntries (fun e he => ?_) hfs)
      exact hpart (List.mem_map_of_mem he)
    | value w => rfl

/-! ## The nodes of what is built -/

/-- The parts of an array are its items. -/
lemma map_snd_parts_array (o : Option String) (vs : List Value) :
    (array o vs).parts.map Prod.snd = vs := by
  rw [parts, List.map_map]
  exact List.zipIdx_map_fst 0 vs

/-- The parts of a table are the values of its entries. -/
lemma map_snd_parts_table (o : Option String) (es : List (String × Value)) :
    (table o es).parts.map Prod.snd = es.map Prod.snd := by
  rw [parts, List.map_map]
  rfl

/-- Plain data become a node with the origin, whose parts are built from their parts. -/
lemma parts_of_build {d : Datum} (hd : d.Textual) (hplain : d.Plain) {v : Value}
    (h : build o d = .ok v) :
    v.origin = o ∧
      List.Forall₂ (fun x u => build o x = .ok u) d.parts (v.parts.map Prod.snd) := by
  cases assembled_of_build hd h with
  | scalar c =>
    refine ⟨rfl, ?_⟩
    cases c <;> exact .nil
  | sequence hvs =>
    rw [map_snd_parts_array]
    exact ⟨rfl, hvs⟩
  | tuple hvs =>
    rw [map_snd_parts_array]
    exact ⟨rfl, hvs⟩
  | mapping hfs =>
    rw [map_snd_parts_table, Datum.parts, List.forall₂_map_left_iff, List.forall₂_map_right_iff]
    exact ⟨rfl, hfs.imp fun e f hef => hef.2⟩
  | value _ => exact absurd rfl (hplain v)

/-- Lists whose members are related place by place have members at the same places. -/
lemma exists_getElem?_of_forall₂ {α β : Type} {R : α → β → Prop} {as : List α} {bs : List β}
    (h : List.Forall₂ R as bs) (i : Nat) :
    as[i]? = none ∧ bs[i]? = none ∨ ∃ a b, as[i]? = some a ∧ bs[i]? = some b ∧ R a b := by
  induction h generalizing i with
  | nil => exact .inl ⟨rfl, rfl⟩
  | @cons a b as bs hab _ ih =>
    cases i with
    | zero => exact .inr ⟨a, b, rfl, rfl, hab⟩
    | succ i => exact ih i

/-- **The node at a place** of what is built is built from the data at this place. Only inside a
ready-made value are there nodes at other places. -/
lemma node?_of_build {d : Datum} (hd : d.Textual) {v : Value} (h : build o d = .ok v)
    (ps : List Nat) :
    (∃ x u, d.node? ps = some x ∧ v.node? ps = some u ∧ x.Textual ∧ build o x = .ok u) ∨
      d.node? ps = none ∧ (v.node? ps = none ∨
        ∃ qs rs w, ps = qs ++ rs ∧ d.node? qs = some (.value w)) := by
  induction ps generalizing d v with
  | nil => exact .inl ⟨d, v, rfl, rfl, hd, h⟩
  | cons i ps ih =>
    by_cases hplain : d.Plain
    · obtain ⟨-, hparts⟩ := parts_of_build hd hplain h
      rcases exists_getElem?_of_forall₂ hparts i with ⟨hx, hu⟩ | ⟨x, u, hx, hu, hxu⟩
      · simp [Datum.node?, node?, hx, hu]
      · have hnode (qs : List Nat) : d.node? (i :: qs) = x.node? qs := by simp [Datum.node?, hx]
        have hvalue : v.node? (i :: ps) = u.node? ps := by rw [node?, hu, Option.bind_some]
        rw [hnode, hvalue]
        refine (ih (hd.of_mem_parts (List.mem_of_getElem? hx)) hxu).imp_right
          (And.imp_right (Or.imp_right ?_))
        rintro ⟨qs, rs, w, rfl, hw⟩
        exact ⟨i :: qs, rs, w, rfl, (hnode qs).trans hw⟩
    · obtain ⟨w, rfl⟩ : ∃ w, d = .value w := by simpa [Datum.Plain] using hplain
      exact .inr ⟨rfl, .inr ⟨[], i :: ps, w, rfl, rfl⟩⟩

/-- What is built from plain data is taken from them. -/
lemma takenFrom_of_build {d : Datum} (hd : d.Textual) (hplain : d.Plain) {v : Value}
    (h : build o d = .ok v) : v.TakenFrom o d where
  plain ps x hx hxplain := by
    rcases node?_of_build hd h ps with ⟨y, u, hy, hu, htext, hyu⟩ | ⟨hnone, -⟩
    · obtain rfl := Option.some.inj (hx.symm.trans hy)
      exact ⟨u, hu, (parts_of_build htext hxplain hyu).1⟩
    · cases hnone.symm.trans hx
  inside i ps w hw := by
    rcases node?_of_build hd h (i :: ps) with ⟨y, u, hy, hu, -, hyu⟩ | ⟨hnone, -⟩
    · obtain rfl := Option.some.inj (hw.symm.trans hy)
      obtain rfl := Except.ok.inj hyu
      exact hu
    · cases hnone.symm.trans hw
  whole w hw := absurd hw (hplain w)
  nodes ps u hu := by
    rcases node?_of_build hd h ps with ⟨x, -, hx, -⟩ | ⟨-, hnone | hinside⟩
    · by_cases hxplain : x.Plain
      · exact .inl ⟨x, hx, hxplain⟩
      · obtain ⟨w, rfl⟩ : ∃ w, x = .value w := by simpa [Datum.Plain] using hxplain
        exact .inr ⟨ps, [], w, (List.append_nil ps).symm, hx⟩
    · cases hnone.symm.trans hu
    · exact .inr hinside

/-! ## Data as a whole -/

/-- Another origin leaves a value well-formed. -/
lemma wellFormed_withOrigin {v : Value} (h : v.WellFormed) : (v.withOrigin o).WellFormed := by
  cases v with
  | scalar _ c => cases c <;> exact h
  | array _ vs => exact h
  | table _ es => exact h

/-- A ready-made value gets the origin, if there is one, and stays as it is below. -/
lemma takenFrom_value {w v : Value} (horigin : v.origin = o.or w.origin)
    (hparts : v.parts = w.parts) : v.TakenFrom o (.value w) where
  plain ps x hx hplain := by
    cases ps with
    | nil =>
      obtain rfl := Option.some.inj hx
      exact absurd rfl (hplain w)
    | cons i ps => cases hx
  inside i ps u hu := by cases hu
  whole u hu := by
    obtain rfl := Datum.value.inj hu
    exact ⟨horigin, hparts⟩
  nodes ps u _ := .inr ⟨[], ps, w, rfl, rfl⟩

/-- Plain data become a value by being built. -/
lemma ofDatum_of_plain {d : Datum} (h : d.Plain) (o : Option String) : ofDatum d o = build o d := by
  unfold ofDatum
  split
  · exact absurd rfl (h _)
  · rfl

/-- Data do not become a value iff they cannot be built. -/
lemma ofDatum_error_iff {d : Datum} {e : Fault} :
    ofDatum d o = .error e ↔ build o d = .error e := by
  by_cases hplain : d.Plain
  · rw [ofDatum_of_plain hplain]
  · obtain ⟨w, rfl⟩ : ∃ w, d = .value w := by simpa [Datum.Plain] using hplain
    exact iff_of_false nofun nofun

/-- What data with texts for keys become holds the same data, and is taken from them. -/
lemma represents_of_ofDatum {d : Datum} (hd : d.Textual) {v : Value} (h : ofDatum d o = .ok v) :
    Datum.ofValue v = d.unwrapped ∧ v.TakenFrom o d ∧ (d.Sound → v.WellFormed) := by
  by_cases hplain : d.Plain
  · rw [ofDatum_of_plain hplain] at h
    have hwell : d.Sound → v.WellFormed := fun hs => wellFormed_of_build hs h
    exact ⟨ofValue_of_build hd h, takenFrom_of_build hd hplain h, hwell⟩
  · obtain ⟨w, rfl⟩ : ∃ w, d = .value w := by simpa [Datum.Plain] using hplain
    obtain rfl := Except.ok.inj h
    cases o with
    | none => exact ⟨rfl, takenFrom_value rfl rfl, id⟩
    | some o => cases w <;> exact ⟨rfl, takenFrom_value rfl rfl, wellFormed_withOrigin⟩

end Value

/-- Where an integer cannot be written, there is one among the data, if all keys are texts. -/
lemma Datum.Inadmissible.exists_tooLong {d : Datum} {e : Fault} (h : d.Inadmissible e)
    (hd : d.Textual) (he : e = .unwritableInteger) :
    ∃ i, (Datum.integer i).Within d ∧ Number.TooLong i := by
  induction h with
  | here hself =>
    cases hself with
    | @unwritable i hlong => exact ⟨i, .self _, hlong⟩
    | _ => cases he
  | @key d x i before after hsplit _ hlong =>
    have hplace : (some (DatumKey.integer i), x) ∈ d.places := by simp [hsplit]
    exact absurd hlong (hd.keyWritable hplace i rfl)
  | @part d x k before after e hsplit _ _ _ ih =>
    have hplace : (k, x) ∈ d.places := by simp [hsplit]
    have hmem := snd_mem_parts hplace
    obtain ⟨i, hi, hlong⟩ := ih (hd.of_mem_parts hmem) he
    exact ⟨i, .part hmem hi, hlong⟩

namespace Value

/-- **Values stand for data** that have texts for keys.

* The data become a value iff no integer inside them, at any depth, is out of the range of 64 bits,
  and no data inside are of a type that no configuration knows. Otherwise the first such data, in
  depth-first order, decide the fault.
* The fault concerns the type of the data, unless there is an integer inside with too many digits to
  be written.
* The value holds the data as they were, with sequences for tuples and with the data of ready-made
  values; it has the nodes of the data with the origin, and those of ready-made values as they were;
  and it is well-formed if the ready-made values are.
* The data of a well-formed value become this value again, without its origins.

**Proof sketch.** Which data can be built is `build_ends`, and without keys that cannot be written
only the data inside count (`Datum.Textual.admissible_iff`). Building goes part by part
(`assembled_of_build`): hence the data that the value holds by induction on the data
(`ofValue_of_build`), and its nodes by induction on the way to them (`node?_of_build`). -/
theorem ofDatum_represents {d : Datum} (hd : d.Textual) (o : Option String) :
    ((∃ e, ofDatum d o = .error e) ↔ ∃ x : Datum, x.Within d ∧ x.Unfit) ∧
      (∀ e, ofDatum d o = .error e ↔ d.Inadmissible e) ∧
      ((∀ i, (Datum.integer i).Within d → ¬ Number.TooLong i) →
        ((∃ e, ofDatum d o = .error e ∧ e.isTypeFault = true) ↔
          ∃ x : Datum, x.Within d ∧ x.Unfit)) ∧
      (∀ v, ofDatum d o = .ok v →
        Datum.ofValue v = d.unwrapped ∧ v.TakenFrom o d ∧ (d.Sound → v.WellFormed)) ∧
      ∀ u : Value, u.WellFormed → ofDatum (.ofValue u) none = .ok u.bare := by
  obtain ⟨herror, hok⟩ := build_ends (o := o) d
  have hfault (e : Fault) : ofDatum d o = .error e ↔ d.Inadmissible e :=
    ofDatum_error_iff.trans (herror e)
  have hfails : (∃ e, ofDatum d o = .error e) ↔ ∃ x : Datum, x.Within d ∧ x.Unfit := by
    have hunfit : ¬ d.Admissible ↔ ∃ x : Datum, x.Within d ∧ x.Unfit := by
      rw [hd.admissible_iff]
      push Not
      rfl
    rw [← hunfit, ← hok]
    simp only [ofDatum_error_iff]
    cases build o d <;> simp
  refine ⟨hfails, hfault, fun hshort => ?_, fun v hv => represents_of_ofDatum hd hv,
    fun u hu => (ofDatum_none _).trans (build_ofValue hu)⟩
  rw [← hfails]
  refine exists_congr fun e => and_iff_left_of_imp fun he => ?_
  have hinadmissible := (hfault e).mp he
  refine (Datum.fault_of_inadmissible hinadmissible).resolve_right fun hlong => ?_
  obtain ⟨i, hi, hlong⟩ := hinadmissible.exists_tooLong hd hlong
  exact hshort i hi hlong

/-- A tuple with a ready-made value, beside an integer. -/
def wrapping : Datum :=
  .mapping [(.text "limit", .integer 5),
    (.text "pair", .tuple [.text "left", .value (.scalar (some "overrides") .nil)])]

/-- The keys of `wrapping` are texts. -/
lemma textual_wrapping : wrapping.Textual := by
  have hinteger : (Datum.integer 5).Textual := Datum.textual_of_parts_eq_nil rfl nofun
  have htext : (Datum.text "left").Textual := Datum.textual_of_parts_eq_nil rfl nofun
  have hvalue : (Datum.value (.scalar (some "overrides") .nil)).Textual :=
    Datum.textual_of_parts_eq_nil rfl nofun
  have hpair : (Datum.tuple [.text "left", .value (.scalar (some "overrides") .nil)]).Textual :=
    Datum.textual_iff.mpr
      ⟨nofun, List.forall_mem_cons.mpr ⟨htext, List.forall_mem_singleton.mpr hvalue⟩⟩
  refine Datum.textual_iff.mpr
    ⟨?_, List.forall_mem_cons.mpr ⟨hinteger, List.forall_mem_singleton.mpr hpair⟩⟩
  rintro es ⟨⟩
  simp

/-- The tuple comes back as a sequence, with the data of the ready-made value, which has its own
origin. -/
theorem ofDatum_represents_wrapping :
    wrapping.Textual ∧ ∃ v, ofDatum wrapping (some "here") = .ok v ∧
      Datum.ofValue v = .mapping [(.text "limit", .integer 5),
        (.text "pair", .sequence [.text "left", .nil])] ∧
      (∃ u, v.node? [1, 0] = some u ∧ u.origin = some "here") ∧
      v.node? [1, 1] = some (.scalar (some "overrides") .nil) := by
  obtain ⟨v, hv⟩ : ∃ v, ofDatum wrapping (some "here") = .ok v := ⟨_, rfl⟩
  obtain ⟨hback, htaken, -⟩ :=
    (ofDatum_represents textual_wrapping (some "here")).2.2.2.1 v hv
  exact ⟨textual_wrapping, v, hv, hback, htaken.plain [1, 0] _ rfl nofun,
    htaken.inside 1 [1] _ rfl⟩

/-- **An integer that cannot be named is no fault of type.** An integer with more digits than can be
written has no place in a configuration. But the fault does not say so, since its wording cannot be
made. -/
theorem ofDatum_fails_unwritable :
    (Datum.integer (10 ^ Number.digitLimit)).Textual ∧
      (Datum.integer (10 ^ Number.digitLimit)).Unfit ∧
      ofDatum (.integer (10 ^ Number.digitLimit)) none = .error .unwritableInteger ∧
      Fault.unwritableInteger.isTypeFault = false := by
  have hlong : Number.TooLong (10 ^ Number.digitLimit) := by
    rw [Number.TooLong, Int.natAbs_pow]
    exact Nat.pow_le_pow_left (by decide) _
  have hwide := mt fitsInteger_iff.mpr (not_fitsInteger_of_tooLong hlong)
  have hfails := ((build_ends (o := none) _).1 _).mpr (.here (.unwritable hlong))
  have htextual : (Datum.integer (10 ^ Number.digitLimit)).Textual :=
    Datum.textual_of_parts_eq_nil rfl nofun
  exact ⟨htextual, .inr ⟨_, rfl, hwide⟩, ofDatum_error_iff.mpr hfails, rfl⟩

end Value

end LayeredConfig
