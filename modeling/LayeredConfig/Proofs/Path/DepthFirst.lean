import Mathlib
import LayeredConfig.Proofs.Path.Canonical
import LayeredConfig.Proofs.Value.Equality

set_option autoImplicit false

/-!
# Leaves in depth-first order

A list of leaves can stand for the tree that it was made of: it has each leaf once, at the path at
which reading finds it, and its order is that in which the tree is walked through from the first
entry or item of each node to the last. Two leaves stand below different entries of one table or
below different items of one array. So neither path leads to or through the other one, and what is
written at one of them is not touched at the other.

## Main definitions

* `Value.IsLeaf` — scalars, empty tables and empty arrays.
* `Value.steps` — the steps to what stands one step below a value, in order.
* `Value.Precedes` — which of two paths comes first when a value is walked through.

## Main results

* `Value.Canonical.mem_leaves_iff` — the leaves are what reading finds.
* `Value.Canonical.pairwise_precedes_leaves` — leaves are listed in depth-first order.
* `Value.Canonical.parted_of_precedes` — paths of which one precedes the other part.
* `Value.leaves_depth_first` — all of it, for leaves below any path.
-/

namespace LayeredConfig.Value

/-! ## Nodes -/

/-- The values that are leaves: scalars, empty tables and empty arrays. -/
inductive IsLeaf : Value → Prop
  /-- A scalar. -/
  | scalar (o : Option String) (c : Scalar) : IsLeaf (.scalar o c)
  /-- An array without items. -/
  | array (o : Option String) : IsLeaf (.array o [])
  /-- A table without entries. -/
  | table (o : Option String) : IsLeaf (.table o [])

/-- The steps to what stands one step below a value: the keys of a table in its order, and the
positions of an array. -/
def steps : Value → List Step
  | .table _ es => (Entries.keys es).map .key
  | .array _ vs => (List.range vs.length).map .index
  | .scalar _ _ => []

/-- The path `q` comes before `q'` in depth-first order: they share the way to a node, and go on
from there by two of its steps, of which that of `q` comes first. -/
def Precedes (v : Value) (q q' : Path) : Prop :=
  ∃ r a b s s' u, q = r ++ a :: s ∧ q' = r ++ b :: s' ∧ v.get? r = some u ∧
    List.Sublist [a, b] u.steps

/-- Leaves are the values without parts. -/
lemma isLeaf_iff {v : Value} : v.IsLeaf ↔ v.parts = [] := by
  constructor
  · intro h
    cases h <;> rfl
  · intro h
    cases v with
    | scalar o c => exact .scalar o c
    | array o vs =>
      obtain rfl : vs = [] := by simpa [parts] using h
      exact .array o
    | table o es =>
      obtain rfl : es = [] := by simpa [parts] using h
      exact .table o

/-- Below a leaf there is nothing. -/
lemma child?_of_parts_eq_nil {v : Value} (h : v.parts = []) (a : Step) : v.child? a = none := by
  cases isLeaf_iff.mpr h <;> cases a <;> rfl

/-- A path precedes another one if it does below a common step. -/
lemma Precedes.cons {v u : Value} {a : Step} (ha : v.child? a = some u) {q q' : Path}
    (h : u.Precedes q q') : v.Precedes (a :: q) (a :: q') := by
  obtain ⟨r, b, c, s, s', x, rfl, rfl, hx, hbc⟩ := h
  refine ⟨a :: r, b, c, s, s', x, rfl, rfl, ?_, hbc⟩
  rw [get?_cons, ha, Option.bind_some, hx]

namespace Canonical

/-- The parts of a canonical value are what stands one step below it. -/
lemma mem_parts_iff {v : Value} (h : v.Canonical) {a : Step} {u : Value} :
    (a, u) ∈ v.parts ↔ v.child? a = some u := by
  cases h with
  | scalar o c => cases a <;> simp [parts, Value.child?, asTable, asArray]
  | @array o vs _ =>
    cases a with
    | key name => simp [parts, itemPart, Value.child?, asTable]
    | index i => simp [parts, itemPart, Value.child?, asArray, List.mem_zipIdx_iff_getElem?]
  | @table o es hkeys hlower _ =>
    rw [parts, map_entryPart hlower]
    cases a with
    | key name => simp [Value.child?, asTable, Entries.get?_eq_some_iff hkeys]
    | index i => simp [Value.child?, asArray]

/-- The steps to the parts of a canonical value are its steps. -/
lemma map_fst_parts {v : Value} (h : v.Canonical) : v.parts.map Prod.fst = v.steps := by
  cases h with
  | scalar o c => rfl
  | @array o vs _ =>
    have hpositions : vs.zipIdx.map Prod.snd = List.range vs.length := by
      rw [List.zipIdx_map_snd, List.range_eq_range']
    rw [steps, ← hpositions, parts, List.map_map, List.map_map]
    rfl
  | @table o es _ hlower _ =>
    rw [parts, map_entryPart hlower, steps, Entries.keys, List.map_map, List.map_map]
    rfl

/-- Two steps of a canonical value lead to different entries or to different items. -/
lemma apart_of_sublist {v : Value} (h : v.Canonical) {a b : Step}
    (hab : List.Sublist [a, b] v.steps) : a.Apart b := by
  have hne : a ≠ b := by
    have hnodup : ([a, b] : List Step).Nodup := (h.map_fst_parts ▸ h.nodup_parts).sublist hab
    simpa using hnodup
  have ha : a ∈ v.steps := hab.subset List.mem_cons_self
  have hb : b ∈ v.steps := hab.subset (List.mem_cons_of_mem a List.mem_cons_self)
  cases v with
  | scalar o c => cases ha
  | array o vs =>
    obtain ⟨i, -, rfl⟩ := List.mem_map.mp ha
    obtain ⟨j, -, rfl⟩ := List.mem_map.mp hb
    exact fun hij => hne (congrArg Step.index hij)
  | table o es =>
    obtain ⟨k, -, rfl⟩ := List.mem_map.mp ha
    obtain ⟨l, -, rfl⟩ := List.mem_map.mp hb
    exact fun hkl => hne (congrArg Step.key hkl)

/-! ## Leaves -/

/-- **The leaves of a canonical value are what reading finds**: at the steps behind the path of the
value, reading finds the very leaf, and each leaf that it finds is listed.

**Proof sketch.** Induction on the value. A leaf is found behind no steps only. Any other value has
its leaves one step below, where its parts stand (`mem_parts_iff`). -/
theorem mem_leaves_iff {v : Value} (h : v.Canonical) {p : Path} {l : Path × Value} :
    l ∈ leaves p v ↔ ∃ q, l.1 = p ++ q ∧ v.get? q = some l.2 ∧ l.2.IsLeaf := by
  induction v using parts_induction generalizing p with
  | step v ih =>
    by_cases hv : v.parts = []
    · rw [leaves_of_parts_eq_nil hv, List.mem_singleton]
      constructor
      · rintro rfl
        exact ⟨[], (List.append_nil p).symm, get?_root v, isLeaf_iff.mpr hv⟩
      · rintro ⟨q, hpath, hget, -⟩
        cases q with
        | nil =>
          rw [get?_root] at hget
          exact Prod.ext (hpath.trans (List.append_nil p)) (Option.some.inj hget).symm
        | cons a q =>
          rw [get?_cons, child?_of_parts_eq_nil hv] at hget
          cases hget
    · rw [leaves_of_parts_ne_nil hv, leavesOfParts, List.mem_flatMap]
      constructor
      · rintro ⟨⟨a, u⟩, ha, hl⟩
        obtain ⟨q, hpath, hget, hleaf⟩ := (ih _ ha (h.of_mem_parts ha)).mp hl
        refine ⟨a :: q, by rw [hpath, List.append_assoc]; rfl, ?_, hleaf⟩
        rw [get?_cons, h.mem_parts_iff.mp ha, Option.bind_some, hget]
      · rintro ⟨q, hpath, hget, hleaf⟩
        cases q with
        | nil =>
          -- a value with parts is no leaf, so something is read below it
          rw [get?_root] at hget
          exact absurd (isLeaf_iff.mp hleaf) (Option.some.inj hget ▸ hv)
        | cons a q =>
          rw [get?_cons] at hget
          obtain ⟨u, hu, hget⟩ := Option.bind_eq_some_iff.mp hget
          have ha := h.mem_parts_iff.mpr hu
          refine ⟨(a, u), ha, (ih _ ha (h.of_mem_parts ha)).mpr ⟨q, ?_, hget, hleaf⟩⟩
          rw [hpath, List.append_assoc]
          rfl

/-- **Leaves are listed in depth-first order.**

**Proof sketch.** Induction on the value. Two leaves of one part come in the order that they have
there, and leaves of different parts in the order of these, which is that of the steps to them
(`map_fst_parts`). -/
theorem pairwise_precedes_leaves {v : Value} (h : v.Canonical) (p : Path) :
    (leaves p v).Pairwise fun l m => ∃ q q', l.1 = p ++ q ∧ m.1 = p ++ q' ∧ v.Precedes q q' := by
  induction v using parts_induction generalizing p with
  | step v ih =>
    by_cases hv : v.parts = []
    · rw [leaves_of_parts_eq_nil hv]
      exact List.pairwise_singleton _ _
    · rw [leaves_of_parts_ne_nil hv, leavesOfParts, List.pairwise_flatMap]
      constructor
      · rintro ⟨a, u⟩ ha
        refine (ih _ ha (h.of_mem_parts ha) (p ++ [a])).imp ?_
        rintro l m ⟨q, q', hl, hm, hprecedes⟩
        rw [List.append_assoc] at hl hm
        exact ⟨a :: q, a :: q', hl, hm, hprecedes.cons (h.mem_parts_iff.mp ha)⟩
      · have hsteps : v.parts.Pairwise fun a b => List.Sublist [a.1, b.1] v.steps := by
          rw [← h.map_fst_parts]
          exact List.pairwise_iff_forall_sublist.mpr fun hab => hab.map Prod.fst
        refine hsteps.imp fun {a b} hab l hl m hm => ?_
        obtain ⟨s, hs⟩ := prefix_of_mem_leaves hl
        obtain ⟨s', hs'⟩ := prefix_of_mem_leaves hm
        rw [List.append_assoc] at hs hs'
        exact ⟨a.1 :: s, b.1 :: s', hs.symm, hs'.symm,
          [], a.1, b.1, s, s', v, rfl, rfl, get?_root v, hab⟩

/-- In a canonical value, paths of which one precedes the other part. -/
lemma parted_of_precedes {v : Value} (h : v.Canonical) {q q' : Path} (hq : v.Precedes q q')
    (p : Path) : Path.Parted (p ++ q) (p ++ q') := by
  obtain ⟨r, a, b, s, s', u, rfl, rfl, hu, hab⟩ := hq
  refine Path.firstDiffer_iff.mpr ⟨p ++ r, a, b, s, s', ?_, ?_, (h.get? hu).apart_of_sublist hab⟩
  · rw [List.append_assoc]
  · rw [List.append_assoc]

end Canonical

/-- **The leaves of a value**, listed below any path, if keys are in lower case and no table has one
twice.

* What is listed are the scalars, empty tables and empty arrays that reading finds in the value, at
  the steps at which it finds them.
* No path is listed twice, so each of them is there once.
* They come in depth-first order.
* Any two paths part: they first differ by two keys or by two positions, and neither is a prefix of
  the other.

**Proof sketch.** What is listed, and in which order, is an induction on the value each
(`Canonical.mem_leaves_iff`, `Canonical.pairwise_precedes_leaves`). Paths of which one precedes the
other part, since steps of one node lead to different entries or items of it. -/
theorem leaves_depth_first {v : Value} (h : v.Canonical) (p : Path) :
    (∀ l, l ∈ leaves p v ↔ ∃ q, l.1 = p ++ q ∧ v.get? q = some l.2 ∧ l.2.IsLeaf) ∧
      ((leaves p v).map Prod.fst).Nodup ∧
      ((leaves p v).Pairwise fun l m =>
        ∃ q q', l.1 = p ++ q ∧ m.1 = p ++ q' ∧ v.Precedes q q') ∧
      (leaves p v).Pairwise fun l m =>
        Path.Parted l.1 m.1 ∧ ¬ l.1 <+: m.1 ∧ ¬ m.1 <+: l.1 := by
  refine ⟨fun l => h.mem_leaves_iff, h.nodup_leaves p, h.pairwise_precedes_leaves p, ?_⟩
  refine (h.pairwise_precedes_leaves p).imp ?_
  rintro l m ⟨q, q', hl, hm, hprecedes⟩
  have hparted : Path.Parted l.1 m.1 := by
    rw [hl, hm]
    exact h.parted_of_precedes hprecedes p
  have hprefix : ¬ (l.1 <+: m.1 ∨ m.1 <+: l.1 ∨ Path.Clashing l.1 m.1) :=
    fun hp => Path.not_parted_iff.mpr hp hparted
  exact ⟨hparted, fun hp => hprefix (.inl hp), fun hp => hprefix (.inr (.inl hp))⟩

/-- A table with an array in it: the leaves are found below the path at which the table stands, in
the order of its entries and items, the empty ones among them. -/
theorem leaves_depth_first_nested :
    let number (i : Int) : Value := .scalar (some "file") (.integer i)
    let tree : Value := .table none
      [("b", .array none [number 1, emptyTable, .array none [number 2]]), ("a", .array none [])]
    let found : List (Path × Value) :=
      [([.key "x", .key "b", .index 0], number 1), ([.key "x", .key "b", .index 1], emptyTable),
        ([.key "x", .key "b", .index 2, .index 0], number 2),
        ([.key "x", .key "a"], .array none [])]
    tree.Canonical ∧ leaves [.key "x"] tree = found ∧
      (found.Pairwise fun l m => Path.Parted l.1 m.1 ∧ ¬ l.1 <+: m.1 ∧ ¬ m.1 <+: l.1) ∧
      ∀ l ∈ found, ∃ q, l.1 = .key "x" :: q ∧ tree.get? q = some l.2 ∧ l.2.IsLeaf := by
  intro number tree found
  have hlower : ∀ e ∈ ["b", "a"], Text.IsLowerCase e := by
    simp only [Text.isLowerCase_iff]
    decide +kernel
  have hnumber (i : Int) : (number i).Canonical := .scalar _ _
  have hitems : (Value.array none [number 1, emptyTable, .array none [number 2]]).Canonical := by
    refine .array none (List.forall_mem_cons.mpr ⟨hnumber 1, List.forall_mem_cons.mpr
      ⟨canonical_emptyTable, List.forall_mem_singleton.mpr ?_⟩⟩)
    exact .array none (List.forall_mem_singleton.mpr (hnumber 2))
  have htree : tree.Canonical := by
    refine .table none (by decide) (fun e he => hlower e.1 ?_) (List.forall_mem_cons.mpr
      ⟨hitems, List.forall_mem_singleton.mpr (canonical_of_parts_eq_nil rfl)⟩)
    exact List.mem_map_of_mem he
  have hleaves : leaves [.key "x"] tree = found := by
    cbv
  obtain ⟨hmem, -, -, hparted⟩ := leaves_depth_first htree [.key "x"]
  rw [hleaves] at hmem hparted
  exact ⟨htree, hleaves, hparted, fun l hl => (hmem l).mp hl⟩

end LayeredConfig.Value
