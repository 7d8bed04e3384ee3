import Mathlib
import LayeredConfig.Proofs.Path.Reordering
import LayeredConfig.Proofs.Text.Sorting
import LayeredConfig.Proofs.Value.Building
import LayeredConfig.Value.Render

set_option autoImplicit false

/-!
# Display and equality

Neither the text for display nor equality of content shows in which order the entries of a table
were made, or where a node was read from: entries are shown in the order of their keys, and looked
up by them. Equality looks at two nodes and goes on with what stands one step below them, so its
laws follow by induction on values; only an undefined number is not equal to itself.

## Main definitions

* `Value.Rearranged` — two values differ only in the order of entries and in origins.
* `Value.Defined` — no number inside is undefined.
* `Value.kind` — the kind of a value.

## Main results

* `Value.same_iff` — equality, one step at a time.
* `Value.display_of_rearranged` — the order of entries and origins do not show.
* `Value.display_replay_of_perm` — nor does the order of writes at paths that part.
* `Value.content_laws` — what display and equality leave aside, and the laws of equality.
-/

namespace LayeredConfig

/-! ## Entries -/

namespace Entries

variable {κ α β : Type} [DecidableEq κ]

/-- Where no key stands twice, a value stands at a key iff they are an entry. -/
lemma get?_eq_some_iff {k : κ} {v : α} {es : Entries κ α} (h : es.keys.Nodup) :
    get? k es = some v ↔ (k, v) ∈ es := by
  refine ⟨mem_of_get?_eq_some, fun hmem => ?_⟩
  cases hget : get? k es with
  | none => exact absurd (List.mem_map_of_mem hmem) (get?_eq_none_iff.mp hget)
  | some w =>
    have heq := List.inj_on_of_nodup_map h (mem_of_get?_eq_some hget) hmem rfl
    rw [(Prod.mk.inj heq).2]

/-- The same keys stand in two lists of entries iff both have a value at a key or neither has. -/
lemma perm_keys_iff {es : Entries κ α} {fs : Entries κ β} (hes : es.keys.Nodup)
    (hfs : fs.keys.Nodup) :
    es.keys.Perm fs.keys ↔ ∀ k, get? k es = none ↔ get? k fs = none := by
  simp only [get?_eq_none_iff, not_iff_not]
  exact List.perm_ext_iff_of_nodup hes hfs

end Entries

/-! ## Numbers -/

namespace Number

/-- Two numbers are equal iff both are defined, and they have the same bits or are zeros. -/
lemma sameNumber_iff {x y : Float} :
    sameNumber x y = true ↔ isNaN x = false ∧ isNaN y = false ∧
      (x.toBits = y.toBits ∨ isZero x = true ∧ isZero y = true) := by
  simp [sameNumber, and_assoc]

/-- The bits of a number decide whether it is a zero. -/
lemma isZero_congr {x y : Float} (h : x.toBits = y.toBits) : isZero x = isZero y := by
  simp only [isZero, Binary64.ofFloat, h]

/-- Equality of numbers is symmetric. -/
lemma sameNumber_symm {x y : Float} (h : sameNumber x y = true) : sameNumber y x = true := by
  obtain ⟨hx, hy, hxy⟩ := sameNumber_iff.mp h
  exact sameNumber_iff.mpr ⟨hy, hx, hxy.imp Eq.symm And.symm⟩

/-- Equality of numbers is transitive. -/
lemma sameNumber_trans {x y z : Float} (h : sameNumber x y = true) (h' : sameNumber y z = true) :
    sameNumber x z = true := by
  obtain ⟨hx, -, hxy⟩ := sameNumber_iff.mp h
  obtain ⟨-, hz, hyz⟩ := sameNumber_iff.mp h'
  refine sameNumber_iff.mpr ⟨hx, hz, ?_⟩
  rcases hxy with hxy | ⟨hxzero, hyzero⟩
  · exact hyz.imp hxy.trans fun h => ⟨isZero_congr hxy ▸ h.1, h.2⟩
  · refine .inr ⟨hxzero, ?_⟩
    rcases hyz with hyz | ⟨-, hzzero⟩
    · exact isZero_congr hyz ▸ hyzero
    · exact hzzero

end Number

/-! ## Scalars -/

/-- The kinds of values. -/
inductive Kind where
  /-- The absence of a value. -/
  | nil
  /-- A truth value. -/
  | boolean
  /-- An integer. -/
  | integer
  /-- A floating-point number. -/
  | float
  /-- A text. -/
  | text
  /-- A sequence of values. -/
  | array
  /-- Named values. -/
  | table
deriving DecidableEq, Repr

namespace Scalar

/-- The kind of a scalar. -/
def kind : Scalar → Kind
  | .nil => .nil
  | .boolean _ => .boolean
  | .integer _ => .integer
  | .float _ => .float
  | .text _ => .text

/-- The scalar is not an undefined number. -/
def Defined (c : Scalar) : Prop :=
  ∀ x, c = .float x → Number.isNaN x = false

/-- Two scalars are equal iff they are the same but no numbers, or equal numbers. -/
lemma same_iff {c d : Scalar} :
    c.same d = true ↔ (c = d ∧ ∀ x, c ≠ .float x) ∨
      ∃ x y, c = .float x ∧ d = .float y ∧ Number.sameNumber x y = true := by
  cases c <;> cases d <;> simp [same]

/-- A scalar is equal to itself, unless it is an undefined number. -/
lemma same_refl {c : Scalar} (h : c.Defined) : c.same c = true := by
  rw [same_iff]
  by_cases hfloat : ∃ x, c = .float x
  · obtain ⟨x, rfl⟩ := hfloat
    exact .inr ⟨x, x, rfl, rfl, Number.sameNumber_iff.mpr ⟨h x rfl, h x rfl, .inl rfl⟩⟩
  · exact .inl ⟨rfl, fun x hx => hfloat ⟨x, hx⟩⟩

/-- Equality of scalars is symmetric. -/
lemma same_symm {c d : Scalar} (h : c.same d = true) : d.same c = true := by
  rw [same_iff] at h ⊢
  rcases h with ⟨rfl, hfloat⟩ | ⟨x, y, rfl, rfl, hxy⟩
  · exact .inl ⟨rfl, hfloat⟩
  · exact .inr ⟨y, x, rfl, rfl, Number.sameNumber_symm hxy⟩

/-- Equality of scalars is transitive. -/
lemma same_trans {c d e : Scalar} (h : c.same d = true) (h' : d.same e = true) :
    c.same e = true := by
  rw [same_iff] at h h'
  rcases h with ⟨rfl, -⟩ | ⟨x, y, rfl, rfl, hxy⟩
  · exact same_iff.mpr h'
  · rcases h' with ⟨-, hfloat⟩ | ⟨y', z, hy, rfl, hyz⟩
    · exact absurd rfl (hfloat y)
    · obtain rfl := Scalar.float.inj hy
      exact Number.sameNumber_trans hxy hyz

/-- Equal scalars are of the same kind. -/
lemma kind_of_same {c d : Scalar} (h : c.same d = true) : c.kind = d.kind := by
  rcases same_iff.mp h with ⟨rfl, -⟩ | ⟨x, y, rfl, rfl, -⟩ <;> rfl

end Scalar

namespace Value

/-! ## Equality, one step at a time -/

/-- The kind of a value. -/
def kind : Value → Kind
  | .scalar _ c => c.kind
  | .array .. => .array
  | .table .. => .table

/-- Two nodes are equal, what stands below them aside. -/
def SameHead : Value → Value → Prop
  | .scalar _ c, .scalar _ d => c.same d = true
  | .array .., .array .. => True
  | .table .., .table .. => True
  | _, _ => False

namespace SameHead

/-- Equality of nodes is symmetric. -/
lemma symm {u v : Value} (h : u.SameHead v) : v.SameHead u := by
  cases u <;> cases v <;> first
    | exact h.elim
    | exact Scalar.same_symm h
    | trivial

/-- Equality of nodes is transitive. -/
lemma trans {u v w : Value} (h : u.SameHead v) (h' : v.SameHead w) : u.SameHead w := by
  cases u <;> cases v <;> first
    | exact h.elim
    | cases w <;> first
      | exact h'.elim
      | exact Scalar.same_trans h h'
      | trivial

/-- Equal nodes are of the same kind. -/
lemma kind_eq {u v : Value} (h : u.SameHead v) : u.kind = v.kind := by
  cases u <;> cases v <;> first
    | exact h.elim
    | exact Scalar.kind_of_same h
    | rfl

end SameHead

/-- Induction over values by what stands one step below. -/
lemma child?_induction {P : Value → Prop}
    (step : ∀ v, (∀ a u, child? a v = some u → P u) → P v) (v : Value) : P v := by
  induction v using Value.induction with
  | scalar o c => exact step _ fun a u hu => by cases a <;> cases hu
  | array o vs ih =>
    refine step _ fun a u hu => ?_
    cases a with
    | key k => cases hu
    | index i => exact ih u (List.mem_of_getElem? hu)
  | table o es ih =>
    refine step _ fun a u hu => ?_
    cases a with
    | key k => exact ih (k, u) (Entries.mem_of_get?_eq_some hu)
    | index i => cases hu

/-- Sequences are equal iff they are so at every position. -/
lemma sameItems_iff {vs ws : List Value} :
    sameItems vs ws = true ↔ ∀ i : Nat, Option.Rel (fun v w => same v w = true) vs[i]? ws[i]? := by
  induction vs generalizing ws with
  | nil =>
    cases ws with
    | nil => exact iff_of_true rfl fun i => .none
    | cons w ws => exact iff_of_false Bool.false_ne_true fun h => nomatch h 0
  | cons v vs ih =>
    cases ws with
    | nil => exact iff_of_false Bool.false_ne_true fun h => nomatch h 0
    | cons w ws =>
      rw [sameItems, Bool.and_eq_true, ih]
      constructor
      · rintro ⟨hhead, htail⟩ i
        cases i with
        | zero => exact .some hhead
        | succ i => exact htail i
      · intro h
        obtain ⟨hhead⟩ := h 0
        exact ⟨hhead, fun i => h (i + 1)⟩

/-- Every entry has an equal one in other entries. -/
lemma sameEntries_iff {es fs : List (String × Value)} :
    sameEntries es fs = true ↔ ∀ e ∈ es, ∃ w, Entries.get? e.1 fs = some w ∧ same e.2 w = true := by
  induction es with
  | nil => exact iff_of_true rfl (List.forall_mem_nil _)
  | cons e es ih =>
    obtain ⟨k, v⟩ := e
    rw [sameEntries, Bool.and_eq_true, ih, List.forall_mem_cons]
    apply and_congr_left'
    cases Entries.get? k fs with
    | none => simp
    | some w => simp

/-- Tables are equal iff they are so at every key. -/
lemma same_table_iff {o o' : Option String} {es fs : List (String × Value)}
    (hes : (Entries.keys es).Nodup) (hfs : (Entries.keys fs).Nodup) :
    same (.table o es) (.table o' fs) = true ↔
      ∀ k, Option.Rel (fun v w => same v w = true) (Entries.get? k es) (Entries.get? k fs) := by
  rw [same, Bool.and_eq_true, beq_iff_eq, sameEntries_iff]
  constructor
  · rintro ⟨hlength, hentries⟩ k
    have hsubset : Entries.keys es ⊆ Entries.keys fs := by
      intro k hk
      obtain ⟨e, he, rfl⟩ := List.mem_map.mp hk
      obtain ⟨w, hw, -⟩ := hentries e he
      exact List.mem_map.mpr ⟨(e.1, w), Entries.mem_of_get?_eq_some hw, rfl⟩
    have hkeys : (Entries.keys es).Perm (Entries.keys fs) := by
      apply (List.subperm_of_subset hes hsubset).perm_of_length_le
      simp [Entries.keys, hlength]
    cases hv : Entries.get? k es with
    | none =>
      rw [(Entries.perm_keys_iff hes hfs).mp hkeys k] at hv
      rw [hv]
      exact .none
    | some v =>
      obtain ⟨w, hw, hvw⟩ := hentries (k, v) (Entries.mem_of_get?_eq_some hv)
      rw [hw]
      exact .some hvw
  · intro h
    have hkeys : (Entries.keys es).Perm (Entries.keys fs) := by
      exact (Entries.perm_keys_iff hes hfs).mpr fun k => (optionRel_iff.mp (h k)).1
    refine ⟨by simpa [Entries.keys] using hkeys.length_eq, fun e he => ?_⟩
    obtain ⟨hnone, hsome⟩ := optionRel_iff.mp (h e.1)
    have hv := (Entries.get?_eq_some_iff hes).mpr he
    cases hw : Entries.get? e.1 fs with
    | none =>
      rw [hnone.mpr hw] at hv
      cases hv
    | some w => exact ⟨w, rfl, hsome _ w hv hw⟩

/-- **Equality, one step at a time.** Two values are equal iff their nodes are and what stands one
step below them is, everywhere. -/
theorem same_iff {u v : Value} (hu : u.WellFormed) (hv : v.WellFormed) :
    u.same v = true ↔
      u.SameHead v ∧ ∀ a, Option.Rel (fun x y => x.same y = true) (child? a u) (child? a v) := by
  cases u with
  | scalar o c =>
    cases v with
    | scalar o' d => exact (and_iff_left fun a => by cases a <;> exact .none).symm
    | _ => exact iff_of_false Bool.false_ne_true fun h => h.1
  | array o us =>
    cases v with
    | array o' vs =>
      rw [same, sameItems_iff]
      constructor
      · intro h
        refine ⟨trivial, fun a => ?_⟩
        cases a with
        | key k => exact .none
        | index i => exact h i
      · exact fun h i => h.2 (.index i)
    | _ => exact iff_of_false Bool.false_ne_true fun h => h.1
  | table o es =>
    cases v with
    | table o' fs =>
      rw [same_table_iff (wellFormed_table_iff.mp hu).1 (wellFormed_table_iff.mp hv).1]
      constructor
      · intro h
        refine ⟨trivial, fun a => ?_⟩
        cases a with
        | key k => exact h k
        | index i => exact .none
      · exact fun h k => h.2 (.key k)
    | _ => exact iff_of_false Bool.false_ne_true fun h => h.1

/-! ## The laws of equality -/

/-- No number inside the value is undefined. -/
inductive Defined : Value → Prop
  /-- A scalar that is not an undefined number. -/
  | scalar {o : Option String} {c : Scalar} : c.Defined → Defined (.scalar o c)
  /-- An array without undefined numbers. -/
  | array {o : Option String} {vs : List Value} : (∀ v ∈ vs, Defined v) → Defined (.array o vs)
  /-- A table without undefined numbers. -/
  | table {o : Option String} {es : List (String × Value)} :
      (∀ e ∈ es, Defined e.2) → Defined (.table o es)

/-- One step below a value without undefined numbers there are none either. -/
lemma Defined.child? {u v : Value} (h : v.Defined) {a : Step} (hu : v.child? a = some u) :
    u.Defined := by
  cases h with
  | scalar _ => cases a <;> cases hu
  | array hvs =>
    cases a with
    | key k => cases hu
    | index i => exact hvs u (List.mem_of_getElem? hu)
  | table hes =>
    cases a with
    | key k => exact hes (k, u) (Entries.mem_of_get?_eq_some hu)
    | index i => cases hu

/-- A value without undefined numbers is equal to itself. -/
lemma same_refl {v : Value} (hv : v.WellFormed) (hd : v.Defined) : v.same v = true := by
  induction v using child?_induction with
  | step v ih =>
    refine (same_iff hv hv).mpr ⟨?_, fun a => optionRel_iff.mpr ⟨Iff.rfl, fun x y hx hy => ?_⟩⟩
    · cases hd with
      | scalar hc => exact Scalar.same_refl hc
      | _ => trivial
    · obtain rfl := Option.some.inj (hx.symm.trans hy)
      exact ih a x hx (wellFormed_preserved.child hv hx) (hd.child? hx)

/-- Equality of values is symmetric. -/
lemma same_symm {u v : Value} (hu : u.WellFormed) (hv : v.WellFormed) (h : u.same v = true) :
    v.same u = true := by
  induction u using child?_induction generalizing v with
  | step u ih =>
    obtain ⟨hhead, hbelow⟩ := (same_iff hu hv).mp h
    refine (same_iff hv hu).mpr ⟨hhead.symm, fun a => ?_⟩
    obtain ⟨hnone, hsome⟩ := optionRel_iff.mp (hbelow a)
    refine optionRel_iff.mpr ⟨hnone.symm, fun y x hy hx => ?_⟩
    exact ih a x hx (wellFormed_preserved.child hu hx) (wellFormed_preserved.child hv hy)
      (hsome x y hx hy)

/-- Equality of values is transitive. -/
lemma same_trans {u v w : Value} (hu : u.WellFormed) (hv : v.WellFormed) (hw : w.WellFormed)
    (h : u.same v = true) (h' : v.same w = true) : u.same w = true := by
  induction u using child?_induction generalizing v w with
  | step u ih =>
    obtain ⟨hhead, hbelow⟩ := (same_iff hu hv).mp h
    obtain ⟨hhead', hbelow'⟩ := (same_iff hv hw).mp h'
    refine (same_iff hu hw).mpr ⟨hhead.trans hhead', fun a => ?_⟩
    obtain ⟨hnone, hsome⟩ := optionRel_iff.mp (hbelow a)
    obtain ⟨hnone', hsome'⟩ := optionRel_iff.mp (hbelow' a)
    refine optionRel_iff.mpr ⟨hnone.trans hnone', fun x z hx hz => ?_⟩
    cases hy : v.child? a with
    | none =>
      rw [hnone.mpr hy] at hx
      cases hx
    | some y =>
      exact ih a x hx (wellFormed_preserved.child hu hx) (wellFormed_preserved.child hv hy)
        (wellFormed_preserved.child hw hz) (hsome x y hx hy) (hsome' y z hy hz)

/-- Equal values have values of the same kinds at the same paths. -/
lemma kind_get?_of_same {u v : Value} (hu : u.WellFormed) (hv : v.WellFormed)
    (h : u.same v = true) (p : Path) : (u.get? p).map kind = (v.get? p).map kind := by
  induction p generalizing u v with
  | nil => exact congrArg some ((same_iff hu hv).mp h).1.kind_eq
  | cons a p ih =>
    rw [get?_cons, get?_cons]
    obtain ⟨hnone, hsome⟩ := optionRel_iff.mp (((same_iff hu hv).mp h).2 a)
    cases hx : u.child? a with
    | none => rw [hnone.mp hx]
    | some x =>
      cases hy : v.child? a with
      | none =>
        rw [hnone.mpr hy] at hx
        cases hx
      | some y =>
        rw [Option.bind_some, Option.bind_some]
        exact ih (wellFormed_preserved.child hu hx) (wellFormed_preserved.child hv hy)
          (hsome x y hx hy)

/-! ## The order of entries, and origins -/

/-- Two values differ only in the order of the entries of their tables, at any depth, and in
origins: the same scalars, arrays with the same items in the same order, and tables with the same
keys and the same values at them. -/
abbrev Rearranged : Value → Value → Prop :=
  ReorderedBy fun _ _ => True

/-- **Rearranged values are equal**, if no number inside is undefined. -/
lemma same_of_rearranged {u v : Value} (hu : u.WellFormed) (hv : v.WellFormed) (hd : u.Defined)
    (h : u.Rearranged v) : u.same v = true := by
  induction u using child?_induction generalizing v with
  | step u ih =>
    refine (same_iff hu hv).mpr ⟨?_, fun a => ?_⟩
    · cases h with
      | scalar c _ =>
        cases hd with
        | scalar hc => exact Scalar.same_refl hc
      | _ => trivial
    · obtain ⟨hnone, hsome⟩ := optionRel_iff.mp (h.child? a)
      refine optionRel_iff.mpr ⟨hnone, fun x y hx hy => ?_⟩
      exact ih a x hx (wellFormed_preserved.child hu hx) (wellFormed_preserved.child hv hy)
        (hd.child? hx) (hsome x y hx hy)

/-! ## Display -/

/-- The items of an array are shown one by one. -/
lemma displayItems_eq_map (vs : List Value) : displayItems vs = vs.map display := by
  induction vs with
  | nil => rfl
  | cons v vs ih => rw [displayItems, ih, List.map_cons]

/-- The values of a table are shown one by one, with their keys. -/
lemma displayFields_eq_map (es : List (String × Value)) :
    displayFields es = es.map fun e => (e.1, display e.2) := by
  induction es with
  | nil => rfl
  | cons e es ih => rw [displayFields, ih, List.map_cons]

/-- A key may stand before another one iff it is not after it. -/
lemma keyLe_iff {a b : String × String} : keyLe a b = true ↔ a.1 ≤ b.1 := by
  rw [keyLe, Bool.not_eq_true', decide_eq_false_iff_not, not_lt]

/-- The text of a table does not depend on the order of its entries. -/
lemma displayEntries_eq_of_perm {es fs : List (String × String)} (hes : (es.map Prod.fst).Nodup)
    (h : es.Perm fs) : displayEntries es = displayEntries fs := by
  have hsorted (l : List (String × String)) :
      (l.mergeSort keyLe).Pairwise fun a b => a.1 ≤ b.1 :=
    pairwise_mergeSort_of_iff (fun a b => @keyLe_iff a b) l
  have hperm : (es.mergeSort keyLe).Perm (fs.mergeSort keyLe) :=
    (List.mergeSort_perm es keyLe).trans (h.trans (List.mergeSort_perm fs keyLe).symm)
  have heq : es.mergeSort keyLe = fs.mergeSort keyLe := by
    refine List.Perm.eq_of_pairwise (fun a b ha hb hab hba => ?_) (hsorted es) (hsorted fs) hperm
    -- only one entry has this key
    have hkey : a.1 = b.1 := le_antisymm hab hba
    exact List.inj_on_of_nodup_map hes (List.mem_mergeSort.mp ha)
      (h.mem_iff.mpr (List.mem_mergeSort.mp hb)) hkey
  rw [displayEntries, displayEntries, heq]

/-- **The order of entries and origins do not show.** -/
theorem display_of_rearranged {u v : Value} (hu : u.WellFormed) (hv : v.WellFormed)
    (h : u.Rearranged v) : u.display = v.display := by
  induction h with
  | scalar c _ => rfl
  | @array o o' vs ws _ hlength _ ih =>
    have hitems : displayItems vs = displayItems ws := by
      rw [displayItems_eq_map, displayItems_eq_map]
      refine List.ext_getElem (by simpa using hlength) fun i hi hi' => ?_
      rw [List.length_map] at hi hi'
      simp only [List.getElem_map]
      exact ih i _ _ (List.getElem?_eq_getElem hi) (List.getElem?_eq_getElem hi')
        (wellFormed_array_iff.mp hu _ (List.getElem_mem hi))
        (wellFormed_array_iff.mp hv _ (List.getElem_mem hi'))
    rw [display, display, hitems]
  | @table o o' es fs _ hkeys _ ih =>
    obtain ⟨hes, huvalues⟩ := wellFormed_table_iff.mp hu
    obtain ⟨hfs, hvvalues⟩ := wellFormed_table_iff.mp hv
    have hshown {k : String} {x y : Value} (hx : (k, x) ∈ es) (hy : (k, y) ∈ fs) :
        x.display = y.display :=
      ih k x y ((Entries.get?_eq_some_iff hes).mpr hx) ((Entries.get?_eq_some_iff hfs).mpr hy)
        (huvalues _ hx) (hvvalues _ hy)
    have hnodup {gs : List (String × Value)} (hgs : (Entries.keys gs).Nodup) :
        ((displayFields gs).map Prod.fst).Nodup := by
      rw [displayFields_eq_map, List.map_map]
      exact hgs
    have hfields : (displayFields es).Perm (displayFields fs) := by
      refine (List.perm_ext_iff_of_nodup (hnodup hes).of_map (hnodup hfs).of_map).mpr ?_
      rintro ⟨k, s⟩
      simp only [displayFields_eq_map, List.mem_map, Prod.mk.injEq, Prod.exists]
      constructor
      · rintro ⟨_, x, hx, rfl, rfl⟩
        obtain ⟨⟨_, y⟩, hy, rfl⟩ := List.mem_map.mp (hkeys.mem_iff.mp (List.mem_map_of_mem hx))
        exact ⟨_, y, hy, rfl, (hshown hx hy).symm⟩
      · rintro ⟨_, y, hy, rfl, rfl⟩
        obtain ⟨⟨_, x⟩, hx, rfl⟩ := List.mem_map.mp (hkeys.mem_iff.mpr (List.mem_map_of_mem hy))
        exact ⟨_, x, hx, rfl, hshown hx hy⟩
    exact displayEntries_eq_of_perm (hnodup hes) hfields

/-- In which order values are written at paths that part pairwise does not show. -/
theorem display_replay_of_perm {ls ms : List (Path × Value)} (h : ls.Perm ms)
    (hparted : ls.Pairwise fun l m => Path.Parted l.1 m.1) (hls : ∀ l ∈ ls, l.2.WellFormed)
    {v : Value} (hv : v.WellFormed) : (v.replay ls).display = (v.replay ms).display := by
  refine display_of_rearranged ?_ ?_ ((reordered_replay_of_perm h hparted v).mono fun _ _ _ => trivial)
  · exact wellFormed_preserved.replay hv fun l hl => ⟨fun _ _ => trivial, hls l hl⟩
  · exact wellFormed_preserved.replay hv fun l hl =>
      ⟨fun _ _ => trivial, hls l (h.mem_iff.mpr hl)⟩

/-! ## All together -/

/-- **Display and equality of content leave the order of entries and origins aside**, at any depth:
rearranged values are shown in the same way, and are equal unless a number inside is undefined. On
values without undefined numbers equality is an equivalence relation, and equal values have values
of the same kinds at the same paths.

**Proof sketch.** For display, induction on the comparison: the fields of two tables are the same
but for their order, and sorting them by key leaves one order (`displayEntries_eq_of_perm`).
Equality is equality of nodes and of what stands one step below them (`same_iff`), so each of its
laws is an induction on values. -/
theorem content_laws :
    (∀ {u v : Value}, u.WellFormed → v.WellFormed → u.Rearranged v →
      u.display = v.display ∧ (u.Defined → u.same v = true ∧ v.same u = true)) ∧
    Equivalence (fun u v : {v : Value // v.WellFormed ∧ v.Defined} => u.1.same v.1 = true) ∧
    ∀ {u v : Value}, u.WellFormed → v.WellFormed → u.same v = true →
      ∀ p, (u.get? p).map kind = (v.get? p).map kind := by
  refine ⟨fun hu hv h => ⟨display_of_rearranged hu hv h, fun hd => ?_⟩, ⟨?_, ?_, ?_⟩,
    kind_get?_of_same⟩
  · have hsame := same_of_rearranged hu hv hd h
    exact ⟨hsame, same_symm hu hv hsame⟩
  · exact fun u => same_refl u.2.1 u.2.2
  · exact fun {u v} h => same_symm u.2.1 v.2.1 h
  · exact fun {u v w} h h' => same_trans u.2.1 v.2.1 w.2.1 h h'

/-- A table inside an array. -/
def listed : Value :=
  .array none
    [.table (some "defaults") [("a", .scalar none (.integer 1)), ("b", .scalar none .nil)]]

/-- `listed` with the entries the other way round, and other origins. -/
def listedBack : Value :=
  .array (some "file")
    [.table none [("b", .scalar (some "file") .nil), ("a", .scalar none (.integer 1))]]

/-- `listedBack` is a rearrangement. -/
lemma rearranged_listed : listed.Rearranged listedBack := by
  refine .array trivial rfl fun i v w hv hw => ?_
  cases i with
  | succ i => cases hv
  | zero =>
    obtain rfl := Option.some.inj hv
    obtain rfl := Option.some.inj hw
    refine .table trivial (List.Perm.swap "b" "a" []) fun k v w hv hw => ?_
    simp only [Entries.get?] at hv hw
    split_ifs at hv hw with ha hb
    · exact absurd (ha.trans hb.symm) (by decide)
    · obtain rfl := Option.some.inj hv
      obtain rfl := Option.some.inj hw
      exact .scalar _ trivial
    · obtain rfl := Option.some.inj hv
      obtain rfl := Option.some.inj hw
      exact .scalar _ trivial

/-- Entries the other way round, below an array: the same text, and equal. -/
theorem content_laws_listed :
    listed.WellFormed ∧ listedBack.WellFormed ∧ listed.Rearranged listedBack ∧ listed.Defined ∧
      listed.display = listedBack.display ∧ listed.same listedBack = true ∧
      (listed.get? [.index 0, .key "a"]).map kind =
        (listedBack.get? [.index 0, .key "a"]).map kind := by
  have hu : listed.WellFormed := by
    refine wellFormed_array_iff.mpr (List.forall_mem_singleton.mpr ?_)
    exact wellFormed_table_iff.mpr ⟨by decide, List.forall_mem_cons.mpr
      ⟨rfl, List.forall_mem_singleton.mpr trivial⟩⟩
  have hv : listedBack.WellFormed := by
    refine wellFormed_array_iff.mpr (List.forall_mem_singleton.mpr ?_)
    exact wellFormed_table_iff.mpr ⟨by decide, List.forall_mem_cons.mpr
      ⟨trivial, List.forall_mem_singleton.mpr rfl⟩⟩
  have hd : listed.Defined := by
    refine .array (List.forall_mem_singleton.mpr (.table ?_))
    refine List.forall_mem_cons.mpr ⟨.scalar nofun, List.forall_mem_singleton.mpr (.scalar nofun)⟩
  obtain ⟨hshown, hequal⟩ := content_laws.1 hu hv rearranged_listed
  exact ⟨hu, hv, rearranged_listed, hd, hshown, (hequal hd).1,
    content_laws.2.2 hu hv (hequal hd).1 _⟩

end Value

end LayeredConfig
