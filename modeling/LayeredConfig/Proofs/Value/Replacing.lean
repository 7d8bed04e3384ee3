import Mathlib
import LayeredConfig.Proofs.Value.Alike

set_option autoImplicit false

/-!
# Replacing one scalar

Every leaf of a value that is a scalar can be replaced by another scalar without touching the other
leaves, and so can every such leaf of the value that data stand for, by replacing the data that it
comes of. Among entries of a table whose keys become one text these are the data of the last.

## Main definitions

* `Datum.Replaceable` — one leaf of what data stand for can be replaced.

## Main results

* `Value.exists_alike_set` — replacing a leaf of a value.
* `Datum.exists_alike_set` — replacing a leaf of what data stand for.
-/

namespace LayeredConfig

variable {hidden : Path → Prop}

/-! ## In values -/

namespace Value

mutual

/-- **Replacing a leaf of a value**: the other leaves stay as they are. -/
theorem exists_alike_set {v : Value} {p q : Path} {i : Nat} {o : Option String} {c : Scalar}
    (hi : (v.leaves p)[i]? = some (q, .scalar o c)) (hq : hidden q) (c' : Scalar) :
    ∃ w, Alike hidden p v w ∧ w.leaves p = (v.leaves p).set i (q, .scalar o c') := by
  match v with
  | .scalar o₁ c₁ =>
    obtain ⟨rfl, rfl, rfl, rfl⟩ : i = 0 ∧ p = q ∧ o₁ = o ∧ c₁ = c := by
      simpa [leaves, List.getElem?_singleton] using hi
    exact ⟨.scalar o₁ c', .scalar _ _ _ _ hq, rfl⟩
  | .array o₁ [] => simp [leaves, List.getElem?_singleton] at hi
  | .array o₁ (v :: vs) =>
    obtain ⟨ws, halike, hws⟩ := exists_alikeItems_set hi hq c'
    cases halike with
    | cons hv hvs => exact ⟨.array o₁ _, .array (.cons hv hvs), hws⟩
  | .table o₁ [] => simp [leaves, List.getElem?_singleton] at hi
  | .table o₁ (e :: es) =>
    obtain ⟨fs, halike, hfs⟩ := exists_alikeEntries_set hi hq c'
    cases halike with
    | cons hv hes => exact ⟨.table o₁ _, .table (.cons hv hes), hfs⟩

/-- Replacing a leaf of an item. -/
theorem exists_alikeItems_set {vs : List Value} {p q : Path} {k i : Nat} {o : Option String}
    {c : Scalar} (hi : (leavesOfItems p k vs)[i]? = some (q, .scalar o c)) (hq : hidden q)
    (c' : Scalar) : ∃ ws, AlikeItems hidden p k vs ws ∧
      leavesOfItems p k ws = (leavesOfItems p k vs).set i (q, .scalar o c') := by
  match vs with
  | [] => simp [leavesOfItems] at hi
  | v :: vs =>
    rw [leavesOfItems, List.getElem?_append] at hi
    split_ifs at hi with hlt
    · obtain ⟨w, halike, hw⟩ := exists_alike_set hi hq c'
      refine ⟨w :: vs, .cons halike (.refl p (k + 1) vs), ?_⟩
      rw [leavesOfItems, leavesOfItems, hw, List.set_append_left _ _ hlt]
    · obtain ⟨ws, halike, hws⟩ := exists_alikeItems_set hi hq c'
      refine ⟨v :: ws, .cons (.same _ v) halike, ?_⟩
      rw [leavesOfItems, leavesOfItems, hws, List.set_append_right _ _ (Nat.not_lt.mp hlt)]

/-- Replacing a leaf of an entry. -/
theorem exists_alikeEntries_set {es : List (String × Value)} {p q : Path} {i : Nat}
    {o : Option String} {c : Scalar} (hi : (leavesOfEntries p es)[i]? = some (q, .scalar o c))
    (hq : hidden q) (c' : Scalar) : ∃ fs, AlikeEntries hidden p es fs ∧
      leavesOfEntries p fs = (leavesOfEntries p es).set i (q, .scalar o c') := by
  match es with
  | [] => simp [leavesOfEntries] at hi
  | (k, v) :: es =>
    rw [leavesOfEntries, List.getElem?_append] at hi
    split_ifs at hi with hlt
    · obtain ⟨w, halike, hw⟩ := exists_alike_set hi hq c'
      refine ⟨(k, w) :: es, .cons halike (.refl p es), ?_⟩
      rw [leavesOfEntries, leavesOfEntries, hw, List.set_append_left _ _ hlt]
    · obtain ⟨fs, halike, hfs⟩ := exists_alikeEntries_set hi hq c'
      refine ⟨(k, v) :: fs, .cons (.same _ v) halike, ?_⟩
      rw [leavesOfEntries, leavesOfEntries, hfs, List.set_append_right _ _ (Nat.not_lt.mp hlt)]

end

end Value

/-! ## In data -/

namespace Entries

variable {κ α : Type} [DecidableEq κ]

/-- Writing twice at a key is the second write. -/
lemma put_put_self (k : κ) (v w : α) (es : Entries κ α) : put k w (put k v es) = put k w es :=
  alter_alter_self k _ _ es

/-- Writes at different keys commute, if one of the keys is there already. -/
lemma put_comm {k l : κ} (h : k ≠ l) (v w : α) {es : Entries κ α} {u : α}
    (hk : get? k es = some u) : put k v (put l w es) = put l w (put k v es) :=
  alter_comm h _ _ hk

end Entries

namespace Value

/-- The value of an entry of a table that was built comes of the data of an entry, and other data
there give another value here; or it was there before. -/
lemma exists_source_of_buildEntries {es : List (DatumKey × Datum)}
    {done out : List (String × Value)} (h : buildEntries none done es = .ok out) {name : String}
    {u : Value} (hu : Entries.get? name out = some u) :
    (∃ es₁ k d es₂, es = es₁ ++ (k, d) :: es₂ ∧ k.display = .ok name ∧ build none d = .ok u ∧
      ∀ d' u', build none d' = .ok u' →
        buildEntries none done (es₁ ++ (k, d') :: es₂) = .ok (Entries.put name u' out)) ∨
    (Entries.get? name done = some u ∧
      ∀ u', buildEntries none (Entries.put name u' done) es = .ok (Entries.put name u' out)) := by
  induction es generalizing done with
  | nil =>
    obtain rfl := Except.ok.inj h
    exact .inr ⟨hu, fun u' => rfl⟩
  | cons e es ih =>
    obtain ⟨k₀, d₀⟩ := e
    obtain ⟨n₀, hn₀, h⟩ := Fault.bind_eq_ok_iff.mp h
    obtain ⟨v₀, hv₀, h⟩ := Fault.bind_eq_ok_iff.mp h
    have hunfold {d : Datum} {v : Value} (hv : build none d = .ok v) (done : List (String × Value))
        (es : List (DatumKey × Datum)) : buildEntries none done ((k₀, d) :: es) =
          buildEntries none (Entries.put n₀ v done) es := by
      rw [buildEntries, hn₀, hv]
      rfl
    rcases ih h with ⟨es₁, k, d, es₂, rfl, hk, hd, hrest⟩ | ⟨hdone, hrest⟩
    · refine .inl ⟨(k₀, d₀) :: es₁, k, d, es₂, rfl, hk, hd, fun d' u' hd' => ?_⟩
      rw [List.cons_append, hunfold hv₀]
      exact hrest d' u' hd'
    · by_cases hname : name = n₀
      · -- the value comes of the first entry
        subst hname
        have hvu : v₀ = u := by
          rw [Entries.put, Entries.get?_alter_self] at hdone
          exact Option.some.inj hdone
        refine .inl ⟨[], k₀, d₀, es, rfl, hn₀, hvu ▸ hv₀, fun d' u' hd' => ?_⟩
        rw [List.nil_append, hunfold hd', ← hrest u', Entries.put_put_self]
      · have hget : Entries.get? name done = some u := by
          rwa [Entries.put, Entries.get?_alter_of_ne hname] at hdone
        refine .inr ⟨hget, fun u' => ?_⟩
        rw [hunfold hv₀, ← hrest u', Entries.put_comm hname u' v₀ hget]

/-- No key is twice in a table that was built, if none was before. -/
lemma nodup_keys_of_buildEntries {o : Option String} {es : List (DatumKey × Datum)}
    {done out : List (String × Value)} (h : buildEntries o done es = .ok out)
    (hdone : (Entries.keys done).Nodup) : (Entries.keys out).Nodup := by
  induction es generalizing done with
  | nil =>
    obtain rfl := Except.ok.inj h
    exact hdone
  | cons e es ih =>
    obtain ⟨name, -, h⟩ := Fault.bind_eq_ok_iff.mp h
    obtain ⟨v, -, h⟩ := Fault.bind_eq_ok_iff.mp h
    exact ih h (Entries.nodup_keys_alter hdone name _)

/-- An array with items has the leaves of its items. -/
lemma leaves_array {p : Path} {o : Option String} {vs : List Value}
    (h : leavesOfItems p 0 vs ≠ []) : (Value.array o vs).leaves p = leavesOfItems p 0 vs := by
  cases vs with
  | nil => exact absurd rfl h
  | cons v vs => rfl

/-- A table with entries has the leaves of its entries. -/
lemma leaves_table {p : Path} {o : Option String} {es : List (String × Value)}
    (h : leavesOfEntries p es ≠ []) : (Value.table o es).leaves p = leavesOfEntries p es := by
  cases es with
  | nil => exact absurd rfl h
  | cons e es => rfl

/-- A leaf that is a scalar is a leaf of an item, in an array. -/
lemma getElem?_leavesOfItems {p q : Path} {vs : List Value} {o o' : Option String} {i : Nat}
    {c : Scalar} (hi : ((Value.array o vs).leaves p)[i]? = some (q, .scalar o' c)) :
    (leavesOfItems p 0 vs)[i]? = some (q, .scalar o' c) := by
  cases vs with
  | nil => simp [leaves, List.getElem?_singleton] at hi
  | cons v vs => exact hi

/-- A leaf that is a scalar is a leaf of an entry, in a table. -/
lemma getElem?_leavesOfEntries {p q : Path} {es : List (String × Value)} {o o' : Option String}
    {i : Nat} {c : Scalar} (hi : ((Value.table o es).leaves p)[i]? = some (q, .scalar o' c)) :
    (leavesOfEntries p es)[i]? = some (q, .scalar o' c) := by
  cases es with
  | nil => simp [leaves, List.getElem?_singleton] at hi
  | cons e es => exact hi

/-- A leaf of a table is a leaf of the value at a key, and is replaced by replacing it there. -/
lemma exists_leaf_of_leavesOfEntries {p : Path} {es : List (String × Value)}
    (hes : (Entries.keys es).Nodup) {i : Nat} {l : Path × Value}
    (hi : (leavesOfEntries p es)[i]? = some l) :
    ∃ name u j, Entries.get? name es = some u ∧
      (u.leaves (p.child (Text.lower name)))[j]? = some l ∧
      ∀ u' m, u'.leaves (p.child (Text.lower name)) =
          (u.leaves (p.child (Text.lower name))).set j m →
        leavesOfEntries p (Entries.put name u' es) = (leavesOfEntries p es).set i m := by
  induction es generalizing i with
  | nil => simp [leavesOfEntries] at hi
  | cons e es ih =>
    obtain ⟨k, v⟩ := e
    rw [leavesOfEntries, List.getElem?_append] at hi
    split_ifs at hi with hlt
    · refine ⟨k, v, i, by simp [Entries.get?], hi, fun u' m hu' => ?_⟩
      have hput : Entries.put k u' ((k, v) :: es) = (k, u') :: es := by
        simp [Entries.put, Entries.alter]
      rw [hput, leavesOfEntries, leavesOfEntries, hu', List.set_append_left _ _ hlt]
    · obtain ⟨hk, hnodup⟩ := List.nodup_cons.mp hes
      obtain ⟨name, u, j, hget, hj, hset⟩ := ih hnodup hi
      have hne : k ≠ name := by
        rintro rfl
        exact hk (List.mem_map.mpr ⟨(k, u), Entries.mem_of_get?_eq_some hget, rfl⟩)
      refine ⟨name, u, j, by simp [Entries.get?, hne, hget], hj, fun u' m hu' => ?_⟩
      have hput : Entries.put name u' ((k, v) :: es) = (k, v) :: Entries.put name u' es := by
        simp [Entries.put, Entries.alter, hne]
      rw [hput, leavesOfEntries, leavesOfEntries, hset u' m hu',
        List.set_append_right _ _ (Nat.not_lt.mp hlt)]

end Value

namespace Datum

variable {p q : Path} {i : Nat} {o : Option String} {c c' : Scalar}

/-- Data of a well-formed scalar. -/
lemma build_ofScalar (hc : (Value.scalar none c).WellFormed) :
    Value.build none (ofScalar c) = .ok (.scalar none c) :=
  Value.build_ofValue hc

/-- Entries are alike to themselves, and with other data at one place. -/
lemma alikeEntries_append {k : DatumKey} {name : String} {d d' : Datum} (hk : k.display = .ok name)
    (hd : Alike hidden (p.child (Text.lower name)) d d') (es₁ es₂ : List (DatumKey × Datum)) :
    AlikeEntries hidden p (es₁ ++ (k, d) :: es₂) (es₁ ++ (k, d') :: es₂) := by
  have hrefl (es : List (DatumKey × Datum)) : AlikeEntries hidden p es es := by
    induction es with
    | nil => exact .nil
    | cons e es ih => exact .keep e ih
  induction es₁ with
  | nil => exact .cons hk hd (hrefl es₂)
  | cons e es ih => exact .keep e ih

/-- Wherever one scalar is a leaf of what data stand for, at a hidden path, other data that are alike
have another scalar there, and no other leaf changes. -/
def Replaceable (hidden : Path → Prop) (q : Path) (o : Option String) (c c' : Scalar)
    (d : Datum) : Prop :=
  ∀ (p : Path) (i : Nat) (v : Value), Value.build none d = .ok v →
    (v.leaves p)[i]? = some (q, .scalar o c) → ∃ d' v' o', Alike hidden p d d' ∧
      Value.build none d' = .ok v' ∧ v'.leaves p = (v.leaves p).set i (q, .scalar o' c')

/-- Replacing a leaf of an item, if it can be done in each of them. -/
lemma exists_alikeItems_set {ds : List Datum} {k : Nat} {vs : List Value}
    (h : Value.buildItems none ds = .ok vs)
    (hi : (Value.leavesOfItems p k vs)[i]? = some (q, .scalar o c))
    (ih : ∀ d ∈ ds, Replaceable hidden q o c c' d) :
    ∃ ds' vs' o', AlikeItems hidden p k ds ds' ∧ Value.buildItems none ds' = .ok vs' ∧
      Value.leavesOfItems p k vs' = (Value.leavesOfItems p k vs).set i (q, .scalar o' c') := by
  induction ds generalizing k i vs with
  | nil =>
    obtain rfl := Except.ok.inj h
    simp [Value.leavesOfItems] at hi
  | cons d ds ihds =>
    obtain ⟨v, hv, h⟩ := Fault.bind_eq_ok_iff.mp h
    obtain ⟨ws, hws, h⟩ := Fault.bind_eq_ok_iff.mp h
    obtain rfl := Except.ok.inj h
    have hunfold {d : Datum} {ds : List Datum} {v : Value} {ws : List Value}
        (hd : Value.build none d = .ok v) (hds : Value.buildItems none ds = .ok ws) :
        Value.buildItems none (d :: ds) = .ok (v :: ws) := by
      rw [Value.buildItems, hd, hds]
      rfl
    rw [Value.leavesOfItems, List.getElem?_append] at hi
    split_ifs at hi with hlt
    · obtain ⟨d', v', o', halike, hd', hv'⟩ := ih d List.mem_cons_self _ i v hv hi
      have hrefl (j : Nat) (ds : List Datum) : AlikeItems hidden p j ds ds := by
        induction ds generalizing j with
        | nil => exact .nil
        | cons d ds ih => exact .cons (.same _ d) (ih (j + 1))
      refine ⟨d' :: ds, v' :: ws, o', .cons halike (hrefl _ ds), hunfold hd' hws, ?_⟩
      rw [Value.leavesOfItems, Value.leavesOfItems, hv', List.set_append_left _ _ hlt]
    · obtain ⟨ds', ws', o', halike, hds', hws'⟩ :=
        ihds hws hi fun d hd => ih d (List.mem_cons_of_mem _ hd)
      refine ⟨d :: ds', v :: ws', o', .cons (.same _ d) halike, hunfold hv hds', ?_⟩
      rw [Value.leavesOfItems, Value.leavesOfItems, hws',
        List.set_append_right _ _ (Nat.not_lt.mp hlt)]

/-- Replacing a leaf of an array that is built, if it can be done in each of its items. -/
lemma exists_alikeArray_set {ds : List Datum} {vs : List Value}
    (h : Value.buildItems none ds = .ok vs)
    (hi : ((Value.array none vs).leaves p)[i]? = some (q, .scalar o c))
    (ih : ∀ d ∈ ds, Replaceable hidden q o c c' d) :
    ∃ ds' vs' o', AlikeItems hidden p 0 ds ds' ∧ Value.buildItems none ds' = .ok vs' ∧
      (Value.array none vs').leaves p =
        ((Value.array none vs).leaves p).set i (q, .scalar o' c') := by
  have hitems := Value.getElem?_leavesOfItems hi
  obtain ⟨ds', vs', o', halike, hds', hset⟩ := exists_alikeItems_set h hitems ih
  have hne : Value.leavesOfItems p 0 vs ≠ [] := by
    rintro hnil
    simp [hnil] at hitems
  refine ⟨ds', vs', o', halike, hds', ?_⟩
  rw [Value.leaves_array hne, Value.leaves_array (by rw [hset]; simpa using hne), hset]

/-- Replacing a leaf of a table that is built, if it can be done in the data of each entry. -/
lemma exists_alikeTable_set {es : List (DatumKey × Datum)} {out : List (String × Value)}
    (h : Value.buildEntries none [] es = .ok out)
    (hi : ((Value.table none out).leaves p)[i]? = some (q, .scalar o c))
    (ih : ∀ e ∈ es, Replaceable hidden q o c c' e.2) :
    ∃ es' out' o', AlikeEntries hidden p es es' ∧ Value.buildEntries none [] es' = .ok out' ∧
      (Value.table none out').leaves p =
        ((Value.table none out).leaves p).set i (q, .scalar o' c') := by
  have hentries := Value.getElem?_leavesOfEntries hi
  have hnodup := Value.nodup_keys_of_buildEntries h List.nodup_nil
  obtain ⟨name, u, j, hu, hj, hset⟩ := Value.exists_leaf_of_leavesOfEntries hnodup hentries
  rcases Value.exists_source_of_buildEntries h hu with
    ⟨es₁, k, d, es₂, rfl, hk, hd, hrest⟩ | ⟨hnone, -⟩
  · obtain ⟨d', u', o', halike, hd', hu'⟩ := ih (k, d) (by simp) _ j u hd hj
    have hne : Value.leavesOfEntries p out ≠ [] := by
      rintro hnil
      simp [hnil] at hentries
    have hleaves := hset u' _ hu'
    refine ⟨_, _, o', alikeEntries_append hk halike es₁ es₂, hrest d' u' hd', ?_⟩
    rw [Value.leaves_table hne, Value.leaves_table (by rw [hleaves]; simpa using hne), hleaves]
  · cases hnone

/-- **Replacing a leaf of what data stand for**: the other leaves stay as they are.

**Proof sketch.** Induction by parts. A scalar is replaced itself. A leaf of a table is a leaf of the
value at a key, and this value comes of the data of an entry
(`Value.exists_source_of_buildEntries`). -/
theorem exists_alike_set (hq : hidden q) (hc' : (Value.scalar none c').WellFormed) (d : Datum) :
    Replaceable hidden q o c c' d := by
  have hscalar {d : Datum} {p : Path} {i : Nat} {o₁ : Option String} {c₁ : Scalar}
      (hv : Value.build none d = .ok (.scalar o₁ c₁))
      (hi : ((Value.scalar o₁ c₁).leaves p)[i]? = some (q, .scalar o c)) :
      ∃ d' v' o', Alike hidden p d d' ∧ Value.build none d' = .ok v' ∧
        v'.leaves p = ((Value.scalar o₁ c₁).leaves p).set i (q, .scalar o' c') := by
    obtain ⟨rfl, rfl, -, -⟩ : i = 0 ∧ p = q ∧ o₁ = o ∧ c₁ = c := by
      simpa [Value.leaves, List.getElem?_singleton] using hi
    have hbuild := build_ofScalar hc'
    exact ⟨_, _, none, .scalar hq ⟨_, _, hv⟩ ⟨_, _, hbuild⟩, hbuild, rfl⟩
  induction d using parts_induction with
  | step d ih =>
    intro p i v hv hi
    cases d with
    | sequence ds =>
      obtain ⟨vs, hvs, hv⟩ := Fault.bind_eq_ok_iff.mp hv
      obtain rfl := Except.ok.inj hv
      obtain ⟨ds', vs', o', halike, hds', hset⟩ := exists_alikeArray_set hvs hi ih
      exact ⟨_, _, o', .sequence halike, Fault.bind_eq_ok_iff.mpr ⟨_, hds', rfl⟩, hset⟩
    | tuple ds =>
      obtain ⟨vs, hvs, hv⟩ := Fault.bind_eq_ok_iff.mp hv
      obtain rfl := Except.ok.inj hv
      obtain ⟨ds', vs', o', halike, hds', hset⟩ := exists_alikeArray_set hvs hi ih
      exact ⟨_, _, o', .tuple halike, Fault.bind_eq_ok_iff.mpr ⟨_, hds', rfl⟩, hset⟩
    | mapping es =>
      obtain ⟨out, hout, hv⟩ := Fault.bind_eq_ok_iff.mp hv
      obtain rfl := Except.ok.inj hv
      have hes : ∀ e ∈ es, Replaceable hidden q o c c' e.2 :=
        fun e he => ih e.2 (List.mem_map_of_mem he)
      obtain ⟨es', out', o', halike, hes', hset⟩ := exists_alikeTable_set hout hi hes
      exact ⟨_, _, o', .mapping halike, Fault.bind_eq_ok_iff.mpr ⟨_, hes', rfl⟩, hset⟩
    | value u =>
      obtain rfl := Except.ok.inj hv
      obtain ⟨w, halike, hw⟩ := Value.exists_alike_set hi hq c'
      exact ⟨.value w, w, o, .value halike, rfl, hw⟩
    | integer j =>
      rw [Value.build, Value.ofInteger] at hv
      split_ifs at hv with hfits
      · obtain rfl := Except.ok.inj hv
        exact hscalar (by rw [Value.build, Value.ofInteger, if_pos hfits]) hi
      · obtain ⟨_, -, hv⟩ := Fault.bind_eq_ok_iff.mp hv
        cases hv
    | nil | boolean b | float x | text s =>
      obtain rfl := Except.ok.inj hv
      exact hscalar rfl hi
    | _ => cases hv

end Datum

end LayeredConfig
