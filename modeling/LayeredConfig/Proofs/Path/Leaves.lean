import Mathlib.Data.List.Basic
import LayeredConfig.Path.Access

set_option autoImplicit false

/-!
# Laws of leaves

A value is either its only leaf or has parts one step below, and its leaves are those of its parts,
one part after the other. So entries of tables and items of arrays are treated alike.

## Main definitions

* `Value.parts` — the values one step below, with the steps to them.

## Main results

* `Value.leaves_of_parts_eq_nil`, `Value.leaves_of_parts_ne_nil` — the leaves of a value.
* `Value.parts_induction` — induction over values by their parts.
* `Value.prefix_of_mem_leaves` — leaves stand below the path of the value.
-/

namespace LayeredConfig.Value

/-! ## Parts -/

/-- The part of a table that an entry is. -/
def entryPart (e : String × Value) : Step × Value :=
  (.key (Text.lower e.1), e.2)

/-- The part of an array that an item is. -/
def itemPart (x : Value × Nat) : Step × Value :=
  (.index x.2, x.1)

/-- The values one step below, in order, with the steps to them; keys are taken in lower case. -/
def parts : Value → List (Step × Value)
  | .table _ es => es.map entryPart
  | .array _ vs => vs.zipIdx.map itemPart
  | .scalar _ _ => []

/-- **Induction by parts**: what holds of a value if it holds of its parts, holds of every value. -/
@[elab_as_elim]
theorem parts_induction {P : Value → Prop} (step : ∀ v, (∀ a ∈ v.parts, P a.2) → P v) (v : Value) :
    P v := by
  induction v using Value.induction with
  | scalar o s => exact step _ fun a ha => absurd ha (List.not_mem_nil)
  | array o vs ih =>
    apply step
    intro a ha
    obtain ⟨x, hx, rfl⟩ := List.mem_map.mp ha
    exact ih x.1 (List.fst_mem_of_mem_zipIdx hx)
  | table o es ih =>
    apply step
    intro a ha
    obtain ⟨e, he, rfl⟩ := List.mem_map.mp ha
    exact ih e he

/-! ## Leaves -/

/-- The leaves of parts of the value at a path, one part after the other. -/
def leavesOfParts (parent : Path) (as : List (Step × Value)) : List (Path × Value) :=
  as.flatMap fun a => leaves (parent ++ [a.1]) a.2

/-- The leaves of entries are those of the parts that they are. -/
lemma leavesOfEntries_eq (parent : Path) (es : List (String × Value)) :
    leavesOfEntries parent es = leavesOfParts parent (es.map entryPart) := by
  induction es with
  | nil => rfl
  | cons e es ih =>
    rw [leavesOfEntries, ih]
    rfl

/-- The leaves of items are those of the parts that they are. -/
lemma leavesOfItems_eq (parent : Path) (i : Nat) (vs : List Value) :
    leavesOfItems parent i vs = leavesOfParts parent ((vs.zipIdx i).map itemPart) := by
  induction vs generalizing i with
  | nil => rfl
  | cons v vs ih =>
    rw [leavesOfItems, ih]
    rfl

/-- A value without parts is its only leaf. -/
lemma leaves_of_parts_eq_nil {v : Value} (h : v.parts = []) (parent : Path) :
    leaves parent v = [(parent, v)] := by
  cases v with
  | scalar o s => rw [leaves] <;> simp
  | array o vs =>
    obtain rfl : vs = [] := by simpa [parts] using h
    rw [leaves] <;> simp
  | table o es =>
    obtain rfl : es = [] := by simpa [parts] using h
    rw [leaves] <;> simp

/-- The leaves of a value that has parts are those of its parts. -/
lemma leaves_of_parts_ne_nil {v : Value} (h : v.parts ≠ []) (parent : Path) :
    leaves parent v = leavesOfParts parent v.parts := by
  cases v with
  | scalar o s => exact absurd rfl h
  | array o vs =>
    cases vs with
    | nil => exact absurd rfl h
    | cons v vs => exact leavesOfItems_eq parent 0 (v :: vs)
  | table o es =>
    cases es with
    | nil => exact absurd rfl h
    | cons e es => exact leavesOfEntries_eq parent (e :: es)

/-- The leaves of a value stand at its own path or below it. -/
lemma prefix_of_mem_leaves {parent : Path} {v : Value} {l : Path × Value}
    (h : l ∈ leaves parent v) : parent <+: l.1 := by
  induction v using parts_induction generalizing parent with
  | step v ih =>
    by_cases hv : v.parts = []
    · rw [leaves_of_parts_eq_nil hv] at h
      obtain rfl := List.mem_singleton.mp h
      exact List.prefix_rfl
    · rw [leaves_of_parts_ne_nil hv] at h
      obtain ⟨a, ha, hl⟩ := List.mem_flatMap.mp h
      exact (List.prefix_append parent [a.1]).trans (ih a ha hl)

end LayeredConfig.Value
