import Mathlib

set_option autoImplicit false

/-!
# Sorting

Sorting by keys leaves one order of the keys, however the list was made. Where steps are taken in
sorted order, and repeating a step changes nothing, only the set of the steps matters.

## Main results

* `pairwise_mergeSort_of_iff` — a list is in the order of its keys after it was sorted by them.
* `foldl_mergeSort_congr` — steps in sorted order that can be repeated depend on their set only.
-/

namespace LayeredConfig

/-- A list is in the order of its keys after it was sorted by them. -/
lemma pairwise_mergeSort_of_iff {α κ : Type} [LinearOrder κ] {key : α → κ} {le : α → α → Bool}
    (hle : ∀ a b, le a b = true ↔ key a ≤ key b) (l : List α) :
    (l.mergeSort le).Pairwise fun a b => key a ≤ key b := by
  refine (List.pairwise_mergeSort (fun a b c hab hbc => ?_) (fun a b => ?_) l).imp (hle _ _).mp
  · exact (hle a c).mpr (((hle a b).mp hab).trans ((hle b c).mp hbc))
  · rw [Bool.or_eq_true, hle, hle]
    exact le_total (key a) (key b)

variable {α β : Type} [LinearOrder α] {f : β → α → β}

/-- Of steps in sorted order, one that changes nothing when it is repeated can be made once. -/
lemma foldl_dedup_of_sorted (hf : ∀ b a, f (f b a) a = f b a) {l : List α}
    (hl : l.Pairwise (· ≤ ·)) (b : β) : l.dedup.foldl f b = l.foldl f b := by
  induction l generalizing b with
  | nil => rfl
  | cons a l ih =>
    obtain ⟨hle, hsorted⟩ := List.pairwise_cons.mp hl
    by_cases ha : a ∈ l
    · rw [List.dedup_cons_of_mem ha, ih hsorted]
      -- the same step comes next
      obtain ⟨a', l, rfl⟩ := List.exists_cons_of_ne_nil (List.ne_nil_of_mem ha)
      have hnext : a' = a := by
        refine le_antisymm ?_ (hle a' List.mem_cons_self)
        rcases List.mem_cons.mp ha with rfl | ha
        · exact le_rfl
        · exact (List.pairwise_cons.mp hsorted).1 a ha
      rw [List.foldl_cons, List.foldl_cons, List.foldl_cons, hnext, hf]
    · rw [List.dedup_cons_of_notMem ha, List.foldl_cons, List.foldl_cons, ih hsorted]

/-- Sorted lists with the same members are the same but for repetitions. -/
lemma dedup_eq_of_sorted {l m : List α} (hl : l.Pairwise (· ≤ ·)) (hm : m.Pairwise (· ≤ ·))
    (h : ∀ a, a ∈ l ↔ a ∈ m) : l.dedup = m.dedup := by
  have hperm : l.dedup.Perm m.dedup := by
    refine (List.perm_ext_iff_of_nodup (List.nodup_dedup l) (List.nodup_dedup m)).mpr fun a => ?_
    rw [List.mem_dedup, List.mem_dedup, h]
  exact hperm.eq_of_pairwise (fun _ _ _ _ => le_antisymm) (hl.sublist (List.dedup_sublist l))
    (hm.sublist (List.dedup_sublist m))

/-- **Steps in sorted order that change nothing when they are repeated** depend only on which steps
there are. -/
theorem foldl_mergeSort_congr {le : α → α → Bool} (hle : ∀ a b, le a b = true ↔ a ≤ b)
    (hf : ∀ b a, f (f b a) a = f b a) {l m : List α} (h : ∀ a, a ∈ l ↔ a ∈ m) (b : β) :
    (l.mergeSort le).foldl f b = (m.mergeSort le).foldl f b := by
  have hsorted (l : List α) : (l.mergeSort le).Pairwise (· ≤ ·) := pairwise_mergeSort_of_iff hle l
  have hmem (a : α) : a ∈ l.mergeSort le ↔ a ∈ m.mergeSort le := by
    rw [List.mem_mergeSort, List.mem_mergeSort, h]
  rw [← foldl_dedup_of_sorted hf (hsorted l), ← foldl_dedup_of_sorted hf (hsorted m),
    dedup_eq_of_sorted (hsorted l) (hsorted m) hmem]

end LayeredConfig
