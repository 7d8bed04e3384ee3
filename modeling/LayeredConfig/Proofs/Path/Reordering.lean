import Mathlib
import LayeredConfig.Proofs.Path.Canonical
import LayeredConfig.Proofs.Path.Reach

set_option autoImplicit false

/-!
# Writes in another order

Writes at paths that part lead to different entries of one table or to different items of one array.
It does not matter which one is made first: either of them replaces a node of another shape in the
same way, and both fill up an array to the same length. Only the entries of a table that are new
stand in the order in which they were written. So trees are compared up to the order of entries, and
since writing respects this comparison, whole sequences of writes can be rearranged.

## Main definitions

* `Value.ReorderedBy` — two trees are equal up to the order of the entries of their tables, with
  origins that are related.
* `Value.Reordered` — the same with equal origins.

## Main results

* `Value.Reordered.write` — writing respects the comparison.
* `Value.reordered_write_comm` — writes at paths that part commute.
* `Value.reordered_replay_of_perm` — sequences of such writes can be rearranged.
-/

namespace LayeredConfig

/-! ## Keys -/

/-- Nothing stands at a key iff it is none of the keys. -/
lemma Entries.get?_eq_none_iff {κ α : Type} [DecidableEq κ] {k : κ} {es : Entries κ α} :
    get? k es = none ↔ k ∉ es.keys := by
  induction es with
  | nil => simp [keys]
  | cons e es ih =>
    obtain ⟨k', v⟩ := e
    simp only [get?, keys, List.map_cons, List.mem_cons, not_or]
    split_ifs with hk
    · simp [hk]
    · rw [ih]
      exact (and_iff_right (Ne.symm hk)).symm

/-- Changes at different keys leave the same keys in either order, the new ones at the end. -/
lemma Entries.perm_keys_alter_comm {κ α : Type} [DecidableEq κ] {k l : κ} (h : k ≠ l)
    (f g : Option α → α) (es : Entries κ α) :
    (alter l g (alter k f es)).keys.Perm (alter k f (alter l g es)).keys := by
  simp only [keys_alter]
  by_cases hk : k ∈ es.keys <;> by_cases hl : l ∈ es.keys
  · simp [hk, hl]
  · simp [hk, hl]
  · simp [hk, hl]
  · -- both keys are new
    have hkl : l ∉ es.keys ++ [k] := by simp [hl, Ne.symm h]
    have hlk : k ∉ es.keys ++ [l] := by simp [hk, h]
    rw [if_neg hk, if_neg hl, if_neg hkl, if_neg hlk, List.append_assoc, List.append_assoc]
    exact List.Perm.append_left _ (List.Perm.swap l k [])

/-- Two optional values are related iff both are absent, or both are there and their contents are
related. -/
lemma optionRel_iff {α β : Type} {R : α → β → Prop} {a : Option α} {b : Option β} :
    Option.Rel R a b ↔ (a = none ↔ b = none) ∧ ∀ x y, a = some x → b = some y → R x y := by
  constructor
  · rintro (hab | _)
    · exact ⟨iff_of_false nofun nofun, by rintro _ _ ⟨⟩ ⟨⟩; exact hab⟩
    · exact ⟨iff_of_true rfl rfl, nofun⟩
  · rintro ⟨hnone, hsome⟩
    cases a with
    | none =>
      rw [hnone.mp rfl]
      exact .none
    | some x =>
      cases b with
      | none => cases hnone.mpr rfl
      | some y => exact .some (hsome x y rfl rfl)

namespace Value

/-! ## Trees up to the order of entries -/

/-- Two trees are equal up to the order of the entries of their tables, at any depth: the same
scalars, arrays with the same items in the same order, tables with the same keys and the same values
at them, and origins everywhere that are related. Of a key that stands twice the first entry
counts. -/
inductive ReorderedBy (R : Option String → Option String → Prop) : Value → Value → Prop
  /-- The same scalar. -/
  | scalar {o o' : Option String} (c : Scalar) :
      R o o' → ReorderedBy R (.scalar o c) (.scalar o' c)
  /-- Arrays of one length, with items that are reordered. -/
  | array {o o' : Option String} {vs ws : List Value} :
      R o o' → vs.length = ws.length →
      (∀ (i : Nat) (v w : Value), vs[i]? = some v → ws[i]? = some w → ReorderedBy R v w) →
      ReorderedBy R (.array o vs) (.array o' ws)
  /-- Tables with the same keys in any order, and values at them that are reordered. -/
  | table {o o' : Option String} {es fs : List (String × Value)} :
      R o o' → (Entries.keys es).Perm (Entries.keys fs) →
      (∀ (k : String) (v w : Value), Entries.get? k es = some v →
        Entries.get? k fs = some w → ReorderedBy R v w) →
      ReorderedBy R (.table o es) (.table o' fs)

/-- Two trees are equal up to the order of the entries of their tables, with the same origins
everywhere. -/
abbrev Reordered : Value → Value → Prop :=
  ReorderedBy Eq

namespace ReorderedBy

variable {R S : Option String → Option String → Prop} {u v : Value}

/-- Origins may be related more loosely. -/
lemma mono (h : ReorderedBy R u v) (hRS : ∀ o o', R o o' → S o o') : ReorderedBy S u v := by
  induction h with
  | scalar c ho => exact .scalar c (hRS _ _ ho)
  | array ho hlength _ ih => exact .array (hRS _ _ ho) hlength ih
  | table ho hkeys _ ih => exact .table (hRS _ _ ho) hkeys ih

/-- One step below reordered trees there are reordered trees, or nothing on either side. -/
lemma child? (h : ReorderedBy R u v) (a : Step) :
    Option.Rel (ReorderedBy R) (u.child? a) (v.child? a) := by
  cases h with
  | scalar c _ => cases a <;> exact .none
  | array _ hlength hitems =>
    cases a with
    | key k => exact .none
    | index i =>
      refine optionRel_iff.mpr ⟨?_, hitems i⟩
      simp only [Value.child?, asArray, List.getElem?_eq_none_iff, hlength]
  | table _ hkeys hvalues =>
    cases a with
    | index i => exact .none
    | key k =>
      refine optionRel_iff.mpr ⟨?_, hvalues k⟩
      simp only [Value.child?, asTable, Entries.get?_eq_none_iff, hkeys.mem_iff]

end ReorderedBy

namespace Reordered

/-- Every tree is one of its own reorderings. -/
lemma refl (v : Value) : Reordered v v := by
  induction v using Value.induction with
  | scalar o c => exact .scalar c rfl
  | array o vs ih =>
    refine .array rfl rfl fun i x y hx hy => ?_
    obtain rfl := Option.some.inj (hx.symm.trans hy)
    exact ih x (List.mem_of_getElem? hx)
  | table o es ih =>
    refine .table rfl (List.Perm.refl _) fun k x y hx hy => ?_
    obtain rfl := Option.some.inj (hx.symm.trans hy)
    exact ih (k, x) (Entries.mem_of_get?_eq_some hx)

/-- Reordering twice is reordering once. -/
lemma trans {u v w : Value} (h : Reordered u v) (h' : Reordered v w) : Reordered u w := by
  induction h generalizing w with
  | scalar c ho =>
    obtain rfl := ho
    exact h'
  | @array o o' us vs ho hlength _ ih =>
    cases h' with
    | @array _ _ _ ws ho' hlength' hitems' =>
      refine .array (ho.trans ho') (hlength.trans hlength') fun i x z hx hz => ?_
      have hi : i < vs.length := hlength ▸ (List.getElem?_eq_some_iff.mp hx).1
      have hy : vs[i]? = some vs[i] := List.getElem?_eq_getElem hi
      exact ih i x _ hx hy (hitems' i _ z hy hz)
  | @table o o' es fs ho hkeys _ ih =>
    cases h' with
    | @table _ _ _ gs ho' hkeys' hvalues' =>
      refine .table (ho.trans ho') (hkeys.trans hkeys') fun k x z hx hz => ?_
      cases hy : Entries.get? k fs with
      | some y => exact ih k x y hx hy (hvalues' k y z hy hz)
      | none =>
        -- the tables have the same keys
        rw [Entries.get?_eq_none_iff, ← hkeys.mem_iff, ← Entries.get?_eq_none_iff, hx] at hy
        cases hy

/-! ## Reading and writing at a single step -/

/-- Reordered trees have the same origin and the same keys where they count as tables, and what
stands at the keys is reordered. -/
lemma asTable {v w : Value} (h : Reordered v w) :
    v.asTable.1 = w.asTable.1 ∧ (Entries.keys v.asTable.2).Perm (Entries.keys w.asTable.2) ∧
      ∀ k x y, Entries.get? k v.asTable.2 = some x → Entries.get? k w.asTable.2 = some y →
        Reordered x y := by
  cases h with
  | table ho hkeys hvalues => exact ⟨ho, hkeys, hvalues⟩
  | scalar c _ => exact ⟨rfl, List.Perm.refl _, fun _ _ _ hx => by cases hx⟩
  | array _ hlength hitems => exact ⟨rfl, List.Perm.refl _, fun _ _ _ hx => by cases hx⟩

/-- Reordered trees have the same origin and the same length where they count as arrays, and their
items are reordered. -/
lemma asArray {v w : Value} (h : Reordered v w) :
    v.asArray.1 = w.asArray.1 ∧ v.asArray.2.length = w.asArray.2.length ∧
      ∀ (i : Nat) (x y : Value), v.asArray.2[i]? = some x → w.asArray.2[i]? = some y →
        Reordered x y := by
  cases h with
  | array ho hlength hitems => exact ⟨ho, hlength, hitems⟩
  | scalar c _ => exact ⟨rfl, rfl, fun _ _ _ hx => by simp [Value.asArray] at hx⟩
  | table _ hkeys hvalues => exact ⟨rfl, rfl, fun _ _ _ hx => by simp [Value.asArray] at hx⟩

/-- One step below reordered trees there are reordered trees. An absent entry counts as an empty
table. -/
lemma getD_child? {v w : Value} (h : Reordered v w) (a : Step) :
    Reordered ((child? a v).getD emptyTable) ((child? a w).getD emptyTable) := by
  obtain ⟨hnone, hsome⟩ := optionRel_iff.mp (h.child? a)
  cases hx : child? a v with
  | none =>
    rw [hnone.mp hx]
    exact refl _
  | some x =>
    cases hy : child? a w with
    | none =>
      rw [hnone.mpr hy] at hx
      cases hx
    | some y => exact hsome x y hx hy

/-- Reordered trees stay so if what stands one step below is changed to reordered trees. -/
lemma alterChild {v w : Value} (h : Reordered v w) {a : Step} {f g : Option Value → Value}
    (hfg : Reordered (f (child? a v)) (g (child? a w))) :
    Reordered (alterChild a f v) (alterChild a g w) := by
  cases a with
  | key k =>
    obtain ⟨horigin, hkeys, hvalues⟩ := h.asTable
    simp only [Value.alterChild, horigin]
    refine .table rfl ?_ fun l x y hx hy => ?_
    · rw [Entries.keys_alter, Entries.keys_alter]
      simp only [hkeys.mem_iff]
      split_ifs
      · exact hkeys
      · exact hkeys.append_right [k]
    · by_cases hl : l = k
      · subst hl
        rw [Entries.get?_alter_self] at hx hy
        obtain rfl := Option.some.inj hx
        obtain rfl := Option.some.inj hy
        exact hfg
      · rw [Entries.get?_alter_of_ne hl] at hx hy
        exact hvalues l x y hx hy
  | index i =>
    obtain ⟨horigin, hlength, hitems⟩ := h.asArray
    simp only [Value.alterChild, horigin]
    refine .array rfl ?_ fun j x y hx hy => ?_
    · rw [length_alterItem, length_alterItem, hlength]
    · by_cases hj : j = i
      · subst hj
        rw [getElem?_alterItem_self] at hx hy
        obtain rfl := Option.some.inj hx
        obtain rfl := Option.some.inj hy
        exact hfg
      · rw [getElem?_alterItem hj] at hx hy
        rw [hlength] at hx
        split_ifs at hx hy
        · exact hitems j x y hx hy
        · obtain rfl := Option.some.inj (hx.symm.trans hy)
          exact refl x

/-! ## Writing -/

/-- **Writing respects the order of entries being left aside**: reordered trees stay so if the same
value is written at the same path. -/
theorem write {v w : Value} (h : Reordered v w) (u : Value) (p : Path) :
    Reordered (write u p v) (write u p w) := by
  induction p generalizing v w with
  | nil => exact refl u
  | cons a p ih =>
    rw [write_cons, write_cons]
    exact h.alterChild (ih (h.getD_child? a))

/-- Reordered trees stay so if the same value is assigned at the same path. -/
lemma set {v w : Value} (h : Reordered v w) (p : Path) (u : Value) :
    Reordered (v.set p u) (w.set p u) := by
  by_cases hp : p = []
  · subst hp
    exact h
  · rw [set_of_ne_nil hp, set_of_ne_nil hp]
    exact h.write u p

/-- Reordered trees stay so under a sequence of writes. -/
lemma replay {v w : Value} (h : Reordered v w) (writes : List (Path × Value)) :
    Reordered (v.replay writes) (w.replay writes) := by
  induction writes generalizing v w with
  | nil => exact h
  | cons l ls ih => exact ih (h.set l.1 l.2)

end Reordered

/-! ## Writes at paths that part -/

/-- Changes at steps that are apart commute, if they treat an absent value like a missing one: a
step to a later item may have filled a gap before the other step is made. -/
lemma reordered_alterChild_comm {a b : Step} (h : a.Apart b) {f g : Option Value → Value}
    (hf : f (some nil) = f none) (hg : g (some nil) = g none) (v : Value) :
    Reordered (alterChild b g (alterChild a f v)) (alterChild a f (alterChild b g v)) := by
  cases a with
  | key k =>
    cases b with
    | index i => exact h.elim
    | key l =>
      have hkl : k ≠ l := h
      simp only [alterChild, asTable]
      refine .table rfl (Entries.perm_keys_alter_comm hkl f g _) fun m x y hx hy => ?_
      -- the same value stands at every key
      have hsame : Entries.get? m (Entries.alter l g (Entries.alter k f v.asTable.2)) =
          Entries.get? m (Entries.alter k f (Entries.alter l g v.asTable.2)) := by
        by_cases hmk : m = k
        · subst hmk
          rw [Entries.get?_alter_of_ne hkl, Entries.get?_alter_self, Entries.get?_alter_self,
            Entries.get?_alter_of_ne hkl]
        · rw [Entries.get?_alter_of_ne hmk]
          by_cases hml : m = l
          · subst hml
            rw [Entries.get?_alter_self, Entries.get?_alter_self, Entries.get?_alter_of_ne hmk]
          · rw [Entries.get?_alter_of_ne hml, Entries.get?_alter_of_ne hml,
              Entries.get?_alter_of_ne hmk]
      obtain rfl := Option.some.inj (hx.symm.trans (hsame.trans hy))
      exact Reordered.refl x
  | index j =>
    cases b with
    | key l => exact h.elim
    | index i =>
      have hji : j ≠ i := h
      have hgap {k l : Nat} (hkl : l ≠ k) {c : Option Value → Value} (hc : c (some nil) = c none)
          (F : Value → Value) (vs : List Value) : c (alterItem F k vs)[l]? = c vs[l]? := by
        rcases getElem?_alterItem_of_ne hkl F vs with hsame | ⟨hnone, hpadded, -⟩
        · rw [hsame]
        · rw [hnone, hpadded, hc]
      simp only [alterChild, asArray]
      rw [hgap (Ne.symm hji) hg, hgap hji hf, alterItem_comm hji]
      exact .refl _

/-- **Writes at paths that part commute**, up to the order of entries.

**Proof sketch.** Induction on the paths. Where the first steps are apart, the changes below them
commute. Where they are equal, both writes go on below, in what stands there or is made there. -/
theorem reordered_write_comm {e p : Path} (h : Path.Parted e p) (w u v : Value) :
    Reordered (write u p (write w e v)) (write w e (write u p v)) := by
  induction e generalizing p v with
  | nil => exact h.elim
  | cons a e ih =>
    cases p with
    | nil => exact h.elim
    | cons b p =>
      simp only [write_cons]
      rcases h with h | ⟨rfl, h⟩
      · exact reordered_alterChild_comm h (write_nil w e) (write_nil u p) v
      · rw [alterChild_alterChild_self, alterChild_alterChild_self]
        apply (Reordered.refl v).alterChild
        simp only [Option.getD_some]
        exact ih h _

/-- Assignments at paths that part commute, up to the order of entries. -/
lemma reordered_set_comm {e p : Path} (h : Path.Parted e p) (w u v : Value) :
    Reordered ((v.set e w).set p u) ((v.set p u).set e w) := by
  obtain ⟨he, hp⟩ := h.ne_nil
  rw [set_of_ne_nil he, set_of_ne_nil hp, set_of_ne_nil he, set_of_ne_nil hp]
  exact reordered_write_comm h w u v

/-- **Writes whose paths part pairwise can be rearranged**, up to the order of entries.

**Proof sketch.** Induction on the permutation. Two neighbours that change places commute, and
writing the others respects the order of entries being left aside. -/
theorem reordered_replay_of_perm {ls ms : List (Path × Value)} (h : ls.Perm ms)
    (hparted : ls.Pairwise fun l m => Path.Parted l.1 m.1) (v : Value) :
    Reordered (v.replay ls) (v.replay ms) := by
  induction h generalizing v with
  | nil => exact .refl v
  | cons l _ ih => exact ih (List.pairwise_cons.mp hparted).2 _
  | swap l m ls =>
    have hml : Path.Parted m.1 l.1 :=
      (List.pairwise_cons.mp hparted).1 l List.mem_cons_self
    exact (reordered_set_comm hml m.2 l.2 v).replay ls
  | trans hfirst _ ih ih' =>
    have hparted' := (hfirst.pairwise_iff fun h => Path.Parted.symm h).mp hparted
    exact (ih hparted v).trans (ih' hparted' v)

end Value

end LayeredConfig
