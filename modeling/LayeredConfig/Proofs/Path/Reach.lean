import Mathlib
import LayeredConfig.Proofs.Path.Writing

set_option autoImplicit false

/-!
# How far a write reaches

A write puts its value at its own path and touches nothing at paths that part from it. On its way it
makes arrays long enough: the items that were there stay, and absent values fill the gap before a
position beyond the end. All that it does on its way is done again by a later write at the same path
or above it, so the latter absorbs it.

## Main definitions

* `Value.arrayAt` — the array at a path.
* `Value.ItemWritten` — the items of an array before and after a write to one of them.

## Main results

* `Value.getElem?_alterItem` — every item of an array after a write to one of them.
* `Value.set_touches_only_its_path` — what stands in a tree after a write.
* `Value.set_absorbs_below` — a write absorbs earlier ones at its path or below.
-/

namespace LayeredConfig.Value

/-! ## Items -/

/-- An array is as long afterwards as the position that was written asks for, and never shorter. -/
lemma length_alterItem (f : Value → Value) (i : Nat) (vs : List Value) :
    (alterItem f i vs).length = max vs.length (i + 1) := by
  induction i generalizing vs with
  | zero => cases vs <;> simp [alterItem]
  | succ i ih => cases vs <;> simp [alterItem, ih]

/-- Another item than the one that was written is the old one; beyond the old ones there are absent
values up to the position that was written. -/
theorem getElem?_alterItem {i j : Nat} (h : j ≠ i) (f : Value → Value) (vs : List Value) :
    (alterItem f i vs)[j]? =
      if j < vs.length then vs[j]? else if j < i then some nil else none := by
  have hlength := length_alterItem f i vs
  rcases getElem?_alterItem_of_ne h f vs with hsame | ⟨hnone, hpadded, hlt⟩
  · rw [hsame]
    split_ifs with hold hgap
    · rfl
    · -- the array is long enough, so something stands at the position
      have hshort : (alterItem f i vs)[j]? = none := by
        rw [hsame, List.getElem?_eq_none_iff]
        omega
      rw [List.getElem?_eq_none_iff] at hshort
      omega
    · rw [List.getElem?_eq_none_iff]
      omega
  · rw [List.getElem?_eq_none_iff] at hnone
    rw [if_neg (by omega), if_pos hlt, hpadded]

/-- The items `ws` of an array come of its items `vs` by a write to the item at position `i`, or
below it. -/
structure ItemWritten (i : Nat) (vs ws : List Value) : Prop where
  /-- The array reaches up to the position, and is never made shorter. -/
  length_eq : ws.length = max vs.length (i + 1)
  /-- All other items stay. -/
  kept : ∀ j, j ≠ i → j < vs.length → ws[j]? = vs[j]?
  /-- Absent values fill the gap before the position. -/
  padded : ∀ j, vs.length ≤ j → j < i → ws[j]? = some nil

/-- Changing an item leaves the others alone. -/
lemma itemWritten_alterItem (f : Value → Value) (i : Nat) (vs : List Value) :
    ItemWritten i vs (alterItem f i vs) where
  length_eq := length_alterItem f i vs
  kept j hj hlt := by rw [getElem?_alterItem hj, if_pos hlt]
  padded j hle hlt := by
    have hj : j ≠ i := by omega
    rw [getElem?_alterItem hj, if_neg (by omega), if_pos hlt]

/-! ## Arrays on the way -/

/-- The origin and the items of the array at a path. Where something else stands, or nothing, there
are none. -/
def arrayAt (r : Value) (q : Path) : Option String × List Value :=
  ((r.get? q).getD emptyTable).asArray

/-- A write that passes through an array, or makes one, changes an item of it. -/
lemma get?_write_array (r v : Value) (q : Path) (i : Nat) (rest : Path) :
    (write v (q ++ .index i :: rest) r).get? q =
      some (.array (r.arrayAt q).1 (alterItem (write v rest) i (r.arrayAt q).2)) := by
  rw [write_append, get?_write_self]
  rfl

/-! ## The reach of a write -/

/-- **A write touches only its own path.** Its value can be read there. At paths that part from it,
what stood there stands there still; where nothing did, there may be an absent value that fills a
gap. An array through which the write passes keeps its other items, and is as long as before or
reaches just up to the position on the path.

**Proof sketch.** The laws of reading after writing (`get?_write_self`, `get?_write_of_parted`), and
what becomes of an array on the way (`get?_write_array`). -/
theorem set_touches_only_its_path {e : Path} (he : e ≠ []) (r v : Value) :
    (r.set e v).get? e = some v ∧
      (∀ p, Path.Parted e p →
        (∀ w, r.get? p = some w → (r.set e v).get? p = some w) ∧
        (r.get? p = none →
          (r.set e v).get? p = none ∨ (r.set e v).get? p = some nil ∧ Path.Pads e p)) ∧
      ∀ q i rest, e = q ++ .index i :: rest →
        ∃ ws, (r.set e v).get? q = some (.array (r.arrayAt q).1 ws) ∧
          ItemWritten i (r.arrayAt q).2 ws := by
  rw [set_of_ne_nil he]
  refine ⟨get?_write_self v e r, fun p hp => ⟨fun w hw => ?_, fun hnone => ?_⟩, ?_⟩
  · rcases get?_write_of_parted hp v r with hsame | ⟨hnone, -⟩
    · rw [hsame, hw]
    · rw [hw] at hnone
      cases hnone
  · rcases get?_write_of_parted hp v r with hsame | ⟨-, hpadded⟩
    · exact .inl (hsame.trans hnone)
    · exact .inr hpadded
  · rintro q i rest rfl
    exact ⟨_, get?_write_array r v q i rest, itemWritten_alterItem _ i _⟩

/-- A write behind the end of an array of two: the items stay, a gap is filled, and a table beside
the array is as it was. -/
theorem set_touches_only_its_path_gap :
    let old (i : Int) : Value := .scalar (some "old") (.integer i)
    let tree : Value := .table none [("a", .array (some "old") [old 1, old 2]), ("b", old 3)]
    let e : Path := [.key "a", .index 3, .key "c"]
    (tree.set e (old 4)).get? e = some (old 4) ∧
      (tree.set e (old 4)).get? [.key "b"] = some (old 3) ∧
      ∃ ws, (tree.set e (old 4)).get? [.key "a"] = some (.array (some "old") ws) ∧
        ws.length = 4 ∧ ws[1]? = some (old 2) ∧ ws[2]? = some nil := by
  intro old tree e
  have hb : Path.Parted e [.key "b"] := by decide
  obtain ⟨hself, helsewhere, harrays⟩ := set_touches_only_its_path (e := e) (by decide) tree (old 4)
  obtain ⟨ws, hget, hws⟩ := harrays [.key "a"] 3 [.key "c"] rfl
  refine ⟨hself, (helsewhere _ hb).1 _ rfl, ws, hget, hws.length_eq, ?_, ?_⟩
  · exact hws.kept 1 (by decide) (by decide)
  · exact hws.padded 2 (by decide) (by decide)

/-! ## Writes that leave no trace -/

/-- A later write at the same path or above it replaces an earlier one. -/
lemma write_write_of_prefix {e e' : Path} (h : e <+: e') (u w v : Value) :
    write w e (write u e' v) = write w e v := by
  obtain ⟨rest, rfl⟩ := h
  rw [write_append, write_write_self]

/-- A later write at a path replaces earlier ones at this path or below it. -/
lemma write_replay_of_prefix {e : Path} {writes : List (Path × Value)}
    (h : ∀ l ∈ writes, e <+: l.1) (w v : Value) :
    write w e (v.replay writes) = write w e v := by
  induction writes generalizing v with
  | nil => rfl
  | cons l ls ih =>
    obtain ⟨hl, hls⟩ := List.forall_mem_cons.mp h
    rw [replay_cons, ih hls]
    by_cases hnil : l.1 = []
    · rw [hnil]
      rfl
    · rw [set_of_ne_nil hnil, write_write_of_prefix hl]

/-- **A write absorbs earlier ones at its path or below.** The tree is the one that the last write
makes alone, in the order of its entries, in the lengths of its arrays and in all origins: be there
one earlier write, or any number of them.

**Proof sketch.** An earlier write changes what stands at the path of the last one
(`write_append`), which takes the place of that (`write_write_self`). -/
theorem set_absorbs_below {e : Path} (he : e ≠ []) (r v : Value) :
    (∀ e' u, e <+: e' → (r.set e' u).set e v = r.set e v) ∧
      ∀ writes : List (Path × Value), (∀ l ∈ writes, e <+: l.1) →
        (r.replay writes).set e v = r.set e v := by
  refine ⟨fun e' u h => ?_, fun writes h => ?_⟩
  · rw [set_of_ne_nil he, set_of_ne_nil he, set_of_ne_nil (h.ne_nil he), write_write_of_prefix h]
  · rw [set_of_ne_nil he, set_of_ne_nil he, write_replay_of_prefix h]

/-- An earlier write goes through a number, which becomes an array, and makes a table at the end of
it. The later one puts a number there, as it would have done alone. -/
theorem set_absorbs_below_item :
    let number (i : Int) : Value := .scalar (some "file") (.integer i)
    let tree : Value := .table none [("a", number 1), ("b", number 2)]
    (tree.set [.key "a", .index 1, .key "c"] (number 3)).set [.key "a", .index 1] (number 4) =
      .table none [("a", .array none [nil, number 4]), ("b", number 2)] := by
  intro number tree
  have h := (set_absorbs_below (e := [.key "a", .index 1]) (by decide) tree (number 4)).1
    [.key "a", .index 1, .key "c"] (number 3) (by decide)
  rw [h]
  cbv

end LayeredConfig.Value
