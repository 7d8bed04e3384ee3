import Mathlib
import LayeredConfig.Proofs.Path.Leaves
import LayeredConfig.Proofs.Path.Writing

set_option autoImplicit false

/-!
# Writing leaves is merging

A source is merged leaf by leaf: every leaf of its payload is written at its own path. The outcome
is that of a deep merge, which descends where both trees are tables or both are arrays and lets the
new value replace the old one elsewhere.

## Main definitions

* `Value.mergeOver` — the deep merge of a value over the one that stands in its place.

## Main results

* `Value.getElem?_mergeItems` — the merge of arrays, item by item.
* `Value.mergeOver_eq_foldl_parts` — the deep merge changes one part after the other.
* `Value.replay_leaves_eq_set_mergeOver` — writing the leaves of a value is writing its deep merge.
-/

namespace LayeredConfig.Value

/-! ## The deep merge -/

mutual

/-- The deep merge of a value over the one that stands in its place, if any. Scalars, empty tables
and empty arrays replace it. Another table is merged entry by entry over the old table, another
array item by item over the old array; where the old value has another shape, they are merged over
an empty one. -/
def mergeOver (old : Option Value) : Value → Value
  | .table _ (e :: es) =>
    let base := (old.getD emptyTable).asTable
    .table base.1 (mergeEntries base.2 (e :: es))
  | .array _ (v :: vs) =>
    let base := (old.getD emptyTable).asArray
    .array base.1 (mergeItems base.2 (v :: vs))
  | v => v

/-- Merges entries one after the other over those that are there, with keys in lower case. -/
def mergeEntries (done : Entries String Value) : List (String × Value) → Entries String Value
  | [] => done
  | (k, v) :: es =>
    mergeEntries (Entries.alter (Text.lower k) (fun old => mergeOver old v) done) es

/-- Merges items over those at the same positions; absent values stand where there are none. -/
def mergeItems : List Value → List Value → List Value
  | olds, [] => olds
  | [], v :: vs => mergeOver (some nil) v :: mergeItems [] vs
  | old :: olds, v :: vs => mergeOver (some old) v :: mergeItems olds vs

end

/-- The merge of arrays, item by item: a new item is merged over the old one at its position or
over an absent value, and old items beyond the new ones stay. -/
theorem getElem?_mergeItems (olds vs : List Value) (i : Nat) :
    (mergeItems olds vs)[i]? =
      match vs[i]? with
      | some v => some (mergeOver (some (olds[i]?.getD nil)) v)
      | none => olds[i]? := by
  induction vs generalizing olds i with
  | nil => simp [mergeItems]
  | cons v vs ih =>
    cases olds with
    | nil =>
      cases i with
      | zero => simp [mergeItems]
      | succ i => simpa [mergeItems] using ih [] i
    | cons old olds =>
      cases i with
      | zero => simp [mergeItems]
      | succ i => simpa [mergeItems] using ih olds i

/-! ## One part after the other -/

/-- Merges a part over what stands one step below a value. -/
def mergePart (v : Value) (a : Step × Value) : Value :=
  alterChild a.1 (fun old => mergeOver old a.2) v

/-- A value without parts replaces what stands in its place. -/
lemma mergeOver_of_parts_eq_nil {v : Value} (h : v.parts = []) (old : Option Value) :
    mergeOver old v = v := by
  cases v with
  | scalar o s => rw [mergeOver] <;> simp
  | array o vs =>
    obtain rfl : vs = [] := by simpa [parts] using h
    rw [mergeOver] <;> simp
  | table o es =>
    obtain rfl : es = [] := by simpa [parts] using h
    rw [mergeOver] <;> simp

/-- A merge over an absent value is one over nothing. -/
lemma mergeOver_some_nil (v : Value) : mergeOver (some nil) v = mergeOver none v := by
  cases v with
  | scalar o s => rw [mergeOver, mergeOver] <;> simp
  | array o vs => cases vs <;> rfl
  | table o es => cases es <;> rfl

/-- Entries are merged over a table one part after the other. -/
lemma foldl_mergePart_table (o : Option String) (done : Entries String Value)
    (es : List (String × Value)) :
    (es.map entryPart).foldl mergePart (.table o done) = .table o (mergeEntries done es) := by
  induction es generalizing done with
  | nil => rfl
  | cons e es ih => exact ih _

/-- An item is merged over the one at its position in an array. -/
lemma mergePart_array (o : Option String) (olds : List Value) (v : Value) (i : Nat) :
    mergePart (.array o olds) (itemPart (v, i)) =
      .array o (alterItem (fun old => mergeOver (some old) v) i olds) := by
  have h : mergeOver olds[i]? v = mergeOver (some (olds[i]?.getD nil)) v := by
    cases olds[i]? with
    | none => exact (mergeOver_some_nil v).symm
    | some old => rfl
  exact congrArg (Value.array o) (alterItem_congr h)

/-- Parts at later positions leave the first item as it is. -/
lemma foldl_mergePart_array_succ (o : Option String) (old : Value) (olds vs : List Value) (i : Nat) :
    ∃ done, ((vs.zipIdx i).map itemPart).foldl mergePart (.array o olds) = .array o done ∧
      ((vs.zipIdx (i + 1)).map itemPart).foldl mergePart (.array o (old :: olds)) =
        .array o (old :: done) := by
  induction vs generalizing olds i with
  | nil => exact ⟨olds, rfl, rfl⟩
  | cons v vs ih =>
    obtain ⟨done, h₁, h₂⟩ := ih (alterItem (fun x => mergeOver (some x) v) i olds) (i + 1)
    refine ⟨done, ?_, ?_⟩
    · rw [List.zipIdx_cons, List.map_cons, List.foldl_cons, mergePart_array]
      exact h₁
    · rw [List.zipIdx_cons, List.map_cons, List.foldl_cons, mergePart_array]
      exact h₂

/-- Items are merged over an array one part after the other. -/
lemma foldl_mergePart_array (o : Option String) (olds vs : List Value) :
    (vs.zipIdx.map itemPart).foldl mergePart (.array o olds) = .array o (mergeItems olds vs) := by
  induction vs generalizing olds with
  | nil => cases olds <;> rfl
  | cons v vs ih =>
    rw [List.zipIdx_cons, List.map_cons, List.foldl_cons, mergePart_array]
    cases olds with
    | nil =>
      obtain ⟨done, h₁, h₂⟩ := foldl_mergePart_array_succ o (mergeOver (some nil) v) [] vs 0
      obtain rfl : mergeItems [] vs = done := by simpa [ih] using h₁
      exact h₂
    | cons old olds =>
      obtain ⟨done, h₁, h₂⟩ := foldl_mergePart_array_succ o (mergeOver (some old) v) olds vs 0
      obtain rfl : mergeItems olds vs = done := by simpa [ih] using h₁
      exact h₂

/-- A value that has parts is merged one part after the other. -/
theorem mergeOver_eq_foldl_parts {v : Value} (h : v.parts ≠ []) (old : Option Value) :
    mergeOver old v = v.parts.foldl mergePart (old.getD emptyTable) := by
  cases v with
  | scalar o s => exact absurd rfl h
  | array o vs =>
    cases vs with
    | nil => exact absurd rfl h
    | cons v vs => exact (foldl_mergePart_array _ _ (v :: vs)).symm
  | table o es =>
    cases es with
    | nil => exact absurd rfl h
    | cons e es => exact (foldl_mergePart_table _ _ (e :: es)).symm

/-! ## Writing leaves -/

/-- Writing the merge of a part at its own path is merging the part into what stands above it. -/
lemma write_mergeOver_concat (r : Value) (p : Path) (a : Step × Value) :
    write (mergeOver (r.get? (p ++ [a.1])) a.2) (p ++ [a.1]) r =
      write (mergePart ((r.get? p).getD emptyTable) a) p r := by
  have hget : r.get? (p ++ [a.1]) = child? a.1 ((r.get? p).getD emptyTable) := by
    rw [get?_append]
    cases r.get? p with
    | none => simp
    | some u => simp [get?_cons]
  rw [write_append, write_cons, hget]
  congr 1
  exact alterChild_congr rfl

/-- Where writing the leaves of each part is writing its deep merge, writing the leaves of all parts
is merging them, one after the other, into what stands at the path. -/
lemma replay_leavesOfParts {as : List (Step × Value)} (hne : as ≠ [])
    (ih : ∀ a ∈ as, ∀ (r : Value) (p : Path), p ≠ [] →
      r.replay (leaves p a.2) = r.set p (mergeOver (r.get? p) a.2))
    (r : Value) (p : Path) :
    r.replay (leavesOfParts p as) = write (as.foldl mergePart ((r.get? p).getD emptyTable)) p r := by
  induction as generalizing r with
  | nil => exact absurd rfl hne
  | cons a as ihas =>
    have hp : p ++ [a.1] ≠ [] := List.concat_ne_nil a.1 p
    have ha : r.replay (leaves (p ++ [a.1]) a.2) =
        write (mergePart ((r.get? p).getD emptyTable) a) p r := by
      rw [ih a List.mem_cons_self r _ hp, set_of_ne_nil hp, write_mergeOver_concat]
    rw [leavesOfParts, List.flatMap_cons, replay_append, ha, List.foldl_cons]
    cases as with
    | nil => rfl
    | cons b bs =>
      have hrest := ihas (List.cons_ne_nil b bs) (fun c hc => ih c (List.mem_cons_of_mem a hc))
        (write (mergePart ((r.get? p).getD emptyTable) a) p r)
      rw [get?_write_self, Option.getD_some, write_write_self] at hrest
      exact hrest

/-- **Writing leaves is merging.** Writing every leaf of a value, in order, below a path is writing
at that path the deep merge of the value over what stood there: the trees agree in the order of
their entries and in all origins.

**Proof sketch.** Induction on the value by its parts. A value without parts is its only leaf and
replaces what stood there. Otherwise the leaves of the first part are written first, which merges
that part into what stands at the path; the other parts find the outcome there. -/
theorem replay_leaves_eq_set_mergeOver (r : Value) {p : Path} (hp : p ≠ []) (y : Value) :
    r.replay (y.leaves p) = r.set p (mergeOver (r.get? p) y) := by
  induction y using parts_induction generalizing r p with
  | step y ih =>
    by_cases hy : y.parts = []
    · rw [leaves_of_parts_eq_nil hy, mergeOver_of_parts_eq_nil hy]
      rfl
    · rw [leaves_of_parts_ne_nil hy, mergeOver_eq_foldl_parts hy, set_of_ne_nil hp]
      exact replay_leavesOfParts hy (fun a ha r p hp => ih a ha r hp) r p

/-- The law at work: the shorter new array leaves the second old item, a key in upper case meets its
old entry, and a table takes the place of a number. -/
theorem replay_leaves_below_section :
    let old (i : Int) : Value := .scalar (some "old") (.integer i)
    let new (i : Int) : Value := .scalar (some "new") (.integer i)
    (table none [("a", table (some "old") [("b", array (some "old") [old 1, old 2]),
        ("c", old 3)])]).replay
      ((table (some "new") [("B", array (some "new") [new 4]),
        ("c", table (some "new") [("d", new 5)])]).leaves [.key "a"]) =
      table none [("a", table (some "old") [("b", array (some "old") [new 4, old 2]),
        ("c", table none [("d", new 5)])])] := by
  intro old new
  rw [replay_leaves_eq_set_mergeOver _ (List.cons_ne_nil _ _)]
  cbv

end LayeredConfig.Value
