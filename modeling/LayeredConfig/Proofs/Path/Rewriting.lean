import Mathlib.Data.List.Induction
import LayeredConfig.Proofs.Path.Writing

set_option autoImplicit false

/-!
# Writing again at a path

A map from paths to values keeps, of the writes that it is made of, the last one at each path, at
the place of the first one. Replaying the map instead of the writes moves the last write at a path
in front of all that came between. This is harmless where these parted from the path: such writes
commute with one that overwrites something. It does harm where one of them led above the path, below
it or through another shape.

## Main definitions

* `Value.Untangled` — between two writes at one path, all others part from it.

## Main results

* `Value.write_comm_of_parted` — overwriting commutes with writes that part from the path.
* `Value.exists_ofList_split` — where a map has the key of a write.
* `Value.replay_ofList` — replaying the map that untangled writes make.
-/

namespace LayeredConfig

namespace Entries

variable {κ α : Type} [DecidableEq κ]

/-- Changes at different keys commute, if one of the keys is there already. -/
lemma alter_comm {k l : κ} (h : k ≠ l) (f g : Option α → α) {es : Entries κ α} {v : α}
    (hk : get? k es = some v) :
    alter k f (alter l g es) = alter l g (alter k f es) := by
  induction es with
  | nil => cases hk
  | cons e es ih =>
    obtain ⟨k', u⟩ := e
    by_cases hk' : k' = k
    · subst hk'
      simp [alter, h]
    · by_cases hl : k' = l
      · subst hl
        simp [alter, hk']
      · rw [get?, if_neg hk'] at hk
        simp [alter, hk', hl, ih hk]

/-- A key that stands in the first part of a map is changed there, another one in the second. -/
lemma alter_append (k : κ) (f : Option α → α) (es fs : Entries κ α) :
    alter k f (es ++ fs) = if k ∈ es.keys then alter k f es ++ fs else es ++ alter k f fs := by
  induction es with
  | nil => simp [keys]
  | cons e es ih =>
    obtain ⟨k', v⟩ := e
    by_cases hk : k' = k
    · simp [alter, keys, hk]
    · have hk' : ¬ k = k' := fun h => hk h.symm
      have hkeys : k ∈ keys ((k', v) :: es) ↔ k ∈ keys es := by simp [keys, hk']
      simp only [List.cons_append, alter, if_neg hk, ih, hkeys]
      split_ifs <;> rfl

/-- What is changed at a new key comes last. -/
lemma alter_of_not_mem {k : κ} {es : Entries κ α} (h : k ∉ es.keys) (f : Option α → α) :
    alter k f es = es ++ [(k, f none)] := by
  have ha := alter_append k f es []
  rwa [if_neg h, List.append_nil] at ha

/-- A value at a new key is put at the end. -/
lemma put_of_not_mem {k : κ} {es : Entries κ α} (h : k ∉ es.keys) (v : α) :
    put k v es = es ++ [(k, v)] :=
  alter_of_not_mem h _

/-- One more write is put into the map that the others leave. -/
lemma ofList_concat (writes : List (κ × α)) (e : κ × α) :
    ofList (writes ++ [e]) = put e.1 e.2 (ofList writes) :=
  List.foldl_append

/-- A map does not hold a key at which nothing was written. -/
lemma not_mem_keys_ofList {writes : List (κ × α)} {k : κ} (h : ∀ e ∈ writes, e.1 ≠ k) :
    k ∉ (ofList writes).keys := by
  intro hk
  obtain ⟨e, he, hek⟩ := List.mem_map.mp hk
  exact h e (mem_of_mem_ofList he) hek

/-- Changing a value leaves its key where it is, or adds it at the end. -/
lemma keys_alter (k : κ) (f : Option α → α) (es : Entries κ α) :
    (alter k f es).keys = if k ∈ es.keys then es.keys else es.keys ++ [k] := by
  induction es with
  | nil => simp [alter, keys]
  | cons e es ih =>
    obtain ⟨k', v⟩ := e
    by_cases hk : k' = k
    · simp [alter, keys, hk]
    · have hk' : ¬ k = k' := fun h => hk h.symm
      simp only [keys, List.map_cons, List.mem_cons, hk', false_or, alter, if_neg hk] at ih ⊢
      by_cases hm : k ∈ es.map Prod.fst <;> simp [ih, hm]

end Entries

namespace Value

/-- Changes of different items commute. -/
lemma alterItem_comm {i j : Nat} (h : i ≠ j) (f g : Value → Value) (vs : List Value) :
    alterItem f i (alterItem g j vs) = alterItem g j (alterItem f i vs) := by
  induction i generalizing j vs with
  | zero =>
    obtain ⟨j, rfl⟩ := Nat.exists_eq_succ_of_ne_zero (Ne.symm h)
    cases vs <;> simp [alterItem]
  | succ i ih =>
    cases j with
    | zero => cases vs <;> simp [alterItem]
    | succ j =>
      have hij : i ≠ j := by omega
      cases vs <;> simp [alterItem, ih hij]

/-- Another item than one that is there stays as it is. -/
lemma getElem?_alterItem_of_some {i j : Nat} (h : j ≠ i) (f : Value → Value) {vs : List Value}
    {x : Value} (hx : vs[j]? = some x ∨ vs[i]? = some x) : (alterItem f i vs)[j]? = vs[j]? := by
  rcases getElem?_alterItem_of_ne h f vs with h | ⟨hj, -, hlt⟩
  · exact h
  · rw [List.getElem?_eq_none_iff] at hj
    rcases hx with hx | hx
    · have := (List.getElem?_eq_some_iff.mp hx).1
      omega
    · have := (List.getElem?_eq_some_iff.mp hx).1
      omega

/-- Changes at steps that are apart commute, if something stands at one of them. -/
lemma alterChild_comm_of_apart {a b : Step} (h : a.Apart b) (f g : Option Value → Value)
    {v x : Value} (hx : child? b v = some x) :
    alterChild b g (alterChild a f v) = alterChild a f (alterChild b g v) := by
  cases b with
  | key l =>
    cases a with
    | index j => exact h.elim
    | key k =>
      cases v with
      | table o es => exact congrArg (table o) (Entries.alter_comm (Ne.symm h) g f hx)
      | _ => cases hx
  | index i =>
    cases a with
    | key k => exact h.elim
    | index j =>
      cases v with
      | array o vs =>
        have hij : i ≠ j := Ne.symm h
        have hxi : vs[i]? = some x := hx
        simp only [alterChild, asArray]
        rw [getElem?_alterItem_of_some hij _ (.inl hxi), getElem?_alterItem_of_some h _ (.inr hxi),
          alterItem_comm hij]
      | _ => cases hx

/-- **Overwriting commutes** with a write that parts from the path.

**Proof sketch.** Induction on the path of the other write. Where the first steps are apart, they
commute, since something stands below the first step of the path already. Where they are equal, both
writes go on below, in what stands there. -/
theorem write_comm_of_parted {e p : Path} (h : Path.Parted e p) {v x : Value}
    (hx : v.get? p = some x) (u w : Value) :
    write u p (write w e v) = write w e (write u p v) := by
  induction e generalizing p v with
  | nil => exact h.elim
  | cons a e ih =>
    cases p with
    | nil => exact h.elim
    | cons b p =>
      rw [get?_cons] at hx
      obtain ⟨y, hy, hyx⟩ := Option.bind_eq_some_iff.mp hx
      simp only [write_cons]
      rcases h with h | ⟨rfl, h⟩
      · exact alterChild_comm_of_apart h _ _ hy
      · rw [alterChild_alterChild_self, alterChild_alterChild_self]
        apply alterChild_congr
        simp only [hy, Option.getD_some]
        exact ih h hyx

/-- Overwriting commutes with replaying writes that part from the path. -/
lemma write_replay_of_parted {writes : List (Path × Value)} {p : Path}
    (h : ∀ l ∈ writes, Path.Parted l.1 p) {tree x : Value} (hx : tree.get? p = some x) (u : Value) :
    write u p (tree.replay writes) = (write u p tree).replay writes := by
  induction writes generalizing tree with
  | nil => rfl
  | cons l ls ih =>
    have hl := h l List.mem_cons_self
    have hstep : (write l.2 l.1 tree).get? p = some x := by
      rcases get?_write_of_parted hl l.2 tree with hw | ⟨hn, -⟩
      · exact hw.trans hx
      · rw [hx] at hn
        cases hn
    rw [replay_cons, replay_cons, set_of_ne_nil hl.ne_nil.1, set_of_ne_nil hl.ne_nil.1,
      ih (fun m hm => h m (List.mem_cons_of_mem l hm)) hstep, write_comm_of_parted hl hx]

/-! ## Maps made of writes -/

/-- In the map that writes make, the keys behind that of a write, if it is the first one at its key,
were written after it.

**Proof sketch.** Induction on the writes after it, from the last one. A write at a key that is
there changes a value in place, and a write at another key comes last. -/
lemma exists_ofList_split {before : List (Path × Value)} {l : Path × Value}
    (hfirst : ∀ b ∈ before, b.1 ≠ l.1) (after : List (Path × Value)) :
    ∃ (done : Entries Path Value) (u : Value) (more : Entries Path Value),
      Entries.ofList (before ++ l :: after) = done ++ (l.1, u) :: more ∧ l.1 ∉ done.keys ∧
        ∀ b ∈ more, b.1 ≠ l.1 ∧ ∃ m ∈ after, m.1 = b.1 := by
  induction after using List.reverseRecOn with
  | nil =>
    have hl := Entries.not_mem_keys_ofList hfirst
    refine ⟨Entries.ofList before, l.2, [], ?_, hl, by simp⟩
    rw [Entries.ofList_concat, Entries.put_of_not_mem hl]
  | append_singleton after m ih =>
    obtain ⟨done, u, more, heq, hl, hmore⟩ := ih
    rw [← List.cons_append, ← List.append_assoc, Entries.ofList_concat, heq, Entries.put,
      Entries.alter_append]
    by_cases hdone : m.1 ∈ done.keys
    · rw [if_pos hdone]
      refine ⟨_, u, more, rfl, ?_, fun b hb => ?_⟩
      · rwa [Entries.keys_alter, if_pos hdone]
      · obtain ⟨hb, m', hm', hbm⟩ := hmore b hb
        exact ⟨hb, m', List.mem_append_left [m] hm', hbm⟩
    · rw [if_neg hdone, Entries.alter]
      by_cases hm : l.1 = m.1
      · rw [if_pos hm]
        refine ⟨done, m.2, more, rfl, hl, fun b hb => ?_⟩
        obtain ⟨hb, m', hm', hbm⟩ := hmore b hb
        exact ⟨hb, m', List.mem_append_left [m] hm', hbm⟩
      · rw [if_neg hm]
        refine ⟨done, u, _, rfl, hl, fun b hb => ?_⟩
        rcases Entries.mem_of_mem_put hb with hb | rfl
        · obtain ⟨hb, m', hm', hbm⟩ := hmore b hb
          exact ⟨hb, m', List.mem_append_left [m] hm', hbm⟩
        · exact ⟨Ne.symm hm, m, by simp, rfl⟩

/-- Where something was written at a path, there is a first write at it. -/
lemma exists_first_write {writes : List (Path × Value)} {p : Path}
    (h : ¬ ∀ b ∈ writes, b.1 ≠ p) :
    ∃ before l after, writes = before ++ l :: after ∧ l.1 = p ∧ ∀ b ∈ before, b.1 ≠ l.1 := by
  have hfind : (writes.find? fun b => decide (b.1 = p)).isSome := by
    simpa using h
  obtain ⟨l, hl⟩ := Option.isSome_iff_exists.mp hfind
  obtain ⟨hlp, before, after, heq, hbefore⟩ := List.find?_eq_some_iff_append.mp hl
  have hlp : l.1 = p := by simpa using hlp
  exact ⟨before, l, after, heq, hlp, fun b hb => by simpa [hlp] using hbefore b hb⟩

/-- Between two writes at one path, all others part from it. -/
def Untangled (writes : List (Path × Value)) : Prop :=
  ∀ before between after l m, writes = before ++ l :: (between ++ m :: after) → l.1 = m.1 →
    ∀ x ∈ between, x.1 = l.1 ∨ Path.Parted x.1 l.1

/-- Without the last one, untangled writes are untangled. -/
lemma Untangled.of_concat {writes : List (Path × Value)} {m : Path × Value}
    (h : Untangled (writes ++ [m])) : Untangled writes := by
  intro before between after l n heq
  exact h before between (after ++ [m]) l n (by simp [heq])

/-- Writes at different paths are untangled. -/
lemma untangled_of_nodup {writes : List (Path × Value)} (h : (writes.map Prod.fst).Nodup) :
    Untangled writes := by
  rintro before between after l m rfl hlm
  simp [List.nodup_append, hlm] at h

/-- **Replaying the map that untangled writes make** is replaying the writes.

**Proof sketch.** Induction on the writes, from the last one. If its path is new, it comes last in
the map as well. Else the map has its value at the place of the first write at the path, and all
that is behind that place was written in between (`exists_ofList_split`) and so parts from the path.
Such writes commute with the last one, which overwrites the first (`write_replay_of_parted`). -/
theorem replay_ofList {writes : List (Path × Value)} (hne : ∀ l ∈ writes, l.1 ≠ [])
    (h : Untangled writes) (tree : Value) :
    tree.replay (Entries.ofList writes) = tree.replay writes := by
  induction writes using List.reverseRecOn with
  | nil => rfl
  | append_singleton writes m ih =>
    have hm : m.1 ≠ [] := hne m (by simp)
    have hih := ih (fun l hl => hne l (List.mem_append_left [m] hl)) h.of_concat
    rw [Entries.ofList_concat, replay_append, ← hih]
    by_cases hnew : ∀ b ∈ writes, b.1 ≠ m.1
    · rw [Entries.put_of_not_mem (Entries.not_mem_keys_ofList hnew), replay_append]
    · obtain ⟨before, l, after, rfl, hlm, hfirst⟩ := exists_first_write hnew
      obtain ⟨done, u, more, heq, hdone, hmore⟩ := exists_ofList_split hfirst after
      have hparted : ∀ b ∈ more, Path.Parted b.1 m.1 := by
        intro b hb
        obtain ⟨hbl, x, hx, hxb⟩ := hmore b hb
        rcases h before after [] l m (by simp) hlm x hx with hxl | hp
        · exact absurd (hxb.symm.trans hxl) hbl
        · rwa [hxb, hlm] at hp
      have hput : Entries.put m.1 m.2 (done ++ (m.1, u) :: more) = done ++ (m.1, m.2) :: more := by
        rw [Entries.put, Entries.alter_append, if_neg (hlm ▸ hdone), Entries.alter, if_pos rfl]
      rw [heq, hlm, hput]
      calc tree.replay (done ++ (m.1, m.2) :: more)
          = (write m.2 m.1 (tree.replay done)).replay more := by
            rw [replay_append, replay_cons, set_of_ne_nil hm]
        _ = (write m.2 m.1 (write u m.1 (tree.replay done))).replay more := by
            rw [write_write_self]
        _ = write m.2 m.1 ((write u m.1 (tree.replay done)).replay more) :=
            (write_replay_of_parted hparted (get?_write_self _ _ _) m.2).symm
        _ = (tree.replay (done ++ (m.1, u) :: more)).replay [m] := by
            rw [replay_cons, set_of_ne_nil hm, replay_append, replay_cons, set_of_ne_nil hm]
            rfl

end Value

end LayeredConfig
