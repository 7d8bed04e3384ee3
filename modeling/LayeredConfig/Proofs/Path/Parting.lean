import Mathlib.Data.List.Basic
import LayeredConfig.Path.Basic

set_option autoImplicit false

/-!
# Where two paths part

Of two paths, either one is a prefix of the other, or there is a first step at which they differ.
There they either part, leading to different entries of one table or to different items of one
array, or they clash, since one asks for a table where the other asks for an array.

## Main definitions

* `Step.Apart`, `Step.Clash` — the two ways in which steps differ.
* `Path.FirstDiffer` — the first differing steps of two paths stand in a relation.
* `Path.Parted`, `Path.Clashing` — the two ways in which paths differ.
* `Path.Pads` — a path that leads to a later item of an array than another one.

## Main results

* `Path.firstDiffer_iff` — the first differing steps, behind what the paths share.
* `Path.not_parted_iff` — how paths are related that do not part.
-/

namespace LayeredConfig

namespace Step

/-- The steps select different entries of one table, or different items of one array. -/
def Apart : Step → Step → Prop
  | .key a, .key b => a ≠ b
  | .index i, .index j => i ≠ j
  | _, _ => False

/-- One step asks for a table, the other one for an array. -/
def Clash : Step → Step → Prop
  | .key _, .index _ => True
  | .index _, .key _ => True
  | _, _ => False

instance : DecidableRel Apart
  | .key a, .key b => inferInstanceAs (Decidable (a ≠ b))
  | .index i, .index j => inferInstanceAs (Decidable (i ≠ j))
  | .key _, .index _ => .isFalse id
  | .index _, .key _ => .isFalse id

instance : DecidableRel Clash
  | .key _, .index _ => .isTrue trivial
  | .index _, .key _ => .isTrue trivial
  | .key _, .key _ => .isFalse id
  | .index _, .index _ => .isFalse id

/-- No step is apart from itself. -/
lemma not_apart_self (a : Step) : ¬ a.Apart a := by
  cases a <;> simp [Apart]

/-- No step clashes with itself. -/
lemma not_clash_self (a : Step) : ¬ a.Clash a := by
  cases a <;> simp [Clash]

/-- Steps differ in one of two ways. -/
lemma eq_or_apart_or_clash (a b : Step) : a = b ∨ a.Apart b ∨ a.Clash b := by
  cases a <;> cases b <;> simp [Apart, Clash, Classical.em]

/-- Steps are apart from each other. -/
lemma Apart.symm {a b : Step} (h : a.Apart b) : b.Apart a := by
  cases a <;> cases b <;> first | exact Ne.symm h | exact h.elim

/-- Steps that are apart do not clash. -/
lemma Apart.not_clash {a b : Step} (h : a.Apart b) : ¬ a.Clash b := by
  cases a <;> cases b <;> simp_all [Apart, Clash]

end Step

namespace Path

/-- The first differing steps of two paths stand in a relation. -/
def FirstDiffer (R : Step → Step → Prop) : Path → Path → Prop
  | a :: e, b :: p => R a b ∨ a = b ∧ FirstDiffer R e p
  | _, _ => False

instance decidableFirstDiffer (R : Step → Step → Prop) [DecidableRel R] :
    DecidableRel (FirstDiffer R)
  | [], _ => .isFalse id
  | _ :: _, [] => .isFalse id
  | a :: e, b :: p =>
    have := decidableFirstDiffer R e p
    inferInstanceAs (Decidable (R a b ∨ a = b ∧ FirstDiffer R e p))

/-- The paths part: they lead to different entries of one table, or to different items of one
array. -/
abbrev Parted : Path → Path → Prop := FirstDiffer Step.Apart

/-- The paths clash: where one asks for a table, the other one asks for an array. -/
abbrev Clashing : Path → Path → Prop := FirstDiffer Step.Clash

/-- The path `e` leads to a later item of the array of which `p` selects an item. -/
def Pads (e p : Path) : Prop :=
  ∃ q i j rest, e = q ++ .index j :: rest ∧ p = q ++ [.index i] ∧ i < j

variable {R : Step → Step → Prop}

/-- The first differing steps stand behind what the paths share. -/
lemma firstDiffer_iff {e p : Path} :
    FirstDiffer R e p ↔ ∃ q a b e' p', e = q ++ a :: e' ∧ p = q ++ b :: p' ∧ R a b := by
  constructor
  · intro h
    induction e generalizing p with
    | nil => exact h.elim
    | cons a e ih =>
      cases p with
      | nil => exact h.elim
      | cons b p =>
        rcases h with h | ⟨rfl, h⟩
        · exact ⟨[], a, b, e, p, rfl, rfl, h⟩
        · obtain ⟨q, c, d, e', p', rfl, rfl, hcd⟩ := ih h
          exact ⟨a :: q, c, d, e', p', rfl, rfl, hcd⟩
  · rintro ⟨q, a, b, e', p', rfl, rfl, h⟩
    induction q with
    | nil => exact .inl h
    | cons c q ih => exact .inr ⟨rfl, ih⟩

/-- Paths that differ somewhere have steps. -/
lemma FirstDiffer.ne_nil {e p : Path} (h : FirstDiffer R e p) : e ≠ [] ∧ p ≠ [] := by
  cases e <;> cases p <;> simp_all [FirstDiffer]

/-- Behind a common step, the first differing steps stand in a relation iff they do at all, if no
step is in the relation with itself. -/
lemma firstDiffer_cons_self (hR : ∀ a, ¬ R a a) {a : Step} {e p : Path} :
    FirstDiffer R (a :: e) (a :: p) ↔ FirstDiffer R e p := by
  constructor
  · rintro (h | ⟨-, h⟩)
    · exact (hR a h).elim
    · exact h
  · exact fun h => .inr ⟨rfl, h⟩

/-- Paths part from each other. -/
lemma Parted.symm {e p : Path} (h : Parted e p) : Parted p e := by
  obtain ⟨q, a, b, e', p', rfl, rfl, hab⟩ := firstDiffer_iff.mp h
  exact firstDiffer_iff.mpr ⟨q, b, a, p', e', rfl, rfl, hab.symm⟩

/-- Paths do not part iff one of them is a prefix of the other or they clash.

**Proof sketch.** Induction on the paths. Where the first steps are equal, they do not count on
either side. Where they are apart or clash, they are the first differing ones. -/
theorem not_parted_iff {e p : Path} : ¬ Parted e p ↔ e <+: p ∨ p <+: e ∨ Clashing e p := by
  induction e generalizing p with
  | nil => exact iff_of_true id (.inl List.nil_prefix)
  | cons a e ih =>
    cases p with
    | nil => exact iff_of_true id (.inr (.inl List.nil_prefix))
    | cons b p =>
      rcases a.eq_or_apart_or_clash b with rfl | h | h
      · have hparted : Parted (a :: e) (a :: p) ↔ Parted e p :=
          firstDiffer_cons_self Step.not_apart_self
        have hclashing : Clashing (a :: e) (a :: p) ↔ Clashing e p :=
          firstDiffer_cons_self Step.not_clash_self
        rw [hparted, hclashing, List.prefix_cons_inj, List.prefix_cons_inj, ih]
      · have hab : a ≠ b := fun hab => b.not_apart_self (hab ▸ h)
        refine iff_of_false (fun hp => hp (.inl h)) ?_
        rintro (hp | hp | hc | hc)
        · exact hab (List.cons_prefix_cons.mp hp).1
        · exact hab (List.cons_prefix_cons.mp hp).1.symm
        · exact h.not_clash hc
        · exact hab hc.1
      · refine iff_of_true ?_ (.inr (.inr (.inl h)))
        rintro (hp | ⟨rfl, -⟩)
        · exact hp.not_clash h
        · exact a.not_clash_self h

/-- Whether a path leads to a later item does not depend on a step before both. -/
lemma Pads.cons {e p : Path} (h : Pads e p) (a : Step) : Pads (a :: e) (a :: p) := by
  obtain ⟨q, i, j, rest, rfl, rfl, hij⟩ := h
  exact ⟨a :: q, i, j, rest, rfl, rfl, hij⟩

end Path

end LayeredConfig
