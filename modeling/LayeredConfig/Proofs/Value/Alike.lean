import Mathlib.Data.List.Forall2
import LayeredConfig.Proofs.Value.Building

set_option autoImplicit false

/-!
# Data that differ in hidden scalars

Two values, or two pieces of data, are alike if they differ at most in scalars whose paths are
hidden. Data that are alike are built to values that are alike, or fail to be built in the same way;
and values that are alike have their leaves at the same paths, of which only hidden ones differ.

## Main definitions

* `Fault.Agree` — the same fault, or results that are related.
* `Value.Alike`, `Datum.Alike` — equal but for scalars at hidden paths.
* `Value.AlikeLeaf` — equal leaves, or leaves at one hidden path.

## Main results

* `Value.Alike.leaves` — the leaves of values that are alike.
* `Datum.Alike.build` — building data that are alike.
-/

namespace LayeredConfig

/-! ## Results -/

/-- Two steps end with the same fault, or with results that are related. -/
inductive Fault.Agree {α β : Type} (R : α → β → Prop) : Except Fault α → Except Fault β → Prop
  /-- The same fault. -/
  | error (e : Fault) : Agree R (.error e) (.error e)
  /-- Results that are related. -/
  | ok {a : α} {b : β} : R a b → Agree R (.ok a) (.ok b)

namespace Fault.Agree

variable {α β γ δ : Type} {R : α → β → Prop} {S : γ → δ → Prop}

/-- What ends in one way agrees with itself, if every result is related to itself. -/
lemma refl {R : α → α → Prop} (hR : ∀ a, R a a) (x : Except Fault α) : Agree R x x := by
  cases x with
  | error e => exact .error e
  | ok a => exact .ok (hR a)

/-- Steps that agree and go on in ways that agree for related results. -/
lemma bind {x : Except Fault α} {y : Except Fault β} {f : α → Except Fault γ}
    {g : β → Except Fault δ} (h : Agree R x y) (hfg : ∀ a b, R a b → Agree S (f a) (g b)) :
    Agree S (x >>= f) (y >>= g) := by
  cases h with
  | error e => exact .error e
  | ok hab => exact hfg _ _ hab

/-- One step that goes on in ways that agree. -/
lemma bind_left {x : Except Fault α} {f : α → Except Fault γ} {g : α → Except Fault δ}
    (hfg : ∀ a, x = .ok a → Agree S (f a) (g a)) : Agree S (x >>= f) (x >>= g) := by
  cases x with
  | error e => exact .error e
  | ok a => exact hfg a rfl

end Fault.Agree

/-! ## Values -/

namespace Value

mutual

/-- Two values that stand at a path differ at most in scalars at hidden paths. -/
inductive Alike (hidden : Path → Prop) : Path → Value → Value → Prop
  /-- Equal values. -/
  | same (p : Path) (v : Value) : Alike hidden p v v
  /-- Scalars, if the path is hidden. -/
  | scalar {p : Path} (o o' : Option String) (c c' : Scalar) :
      hidden p → Alike hidden p (.scalar o c) (.scalar o' c')
  /-- Arrays of values that are alike. -/
  | array {p : Path} {o : Option String} {vs ws : List Value} :
      AlikeItems hidden p 0 vs ws → Alike hidden p (.array o vs) (.array o ws)
  /-- Tables of values that are alike. -/
  | table {p : Path} {o : Option String} {es fs : List (String × Value)} :
      AlikeEntries hidden p es fs → Alike hidden p (.table o es) (.table o fs)

/-- Values that are alike place by place, from the given position on. -/
inductive AlikeItems (hidden : Path → Prop) : Path → Nat → List Value → List Value → Prop
  /-- No values. -/
  | nil {p : Path} {i : Nat} : AlikeItems hidden p i [] []
  /-- A value and those after it. -/
  | cons {p : Path} {i : Nat} {v w : Value} {vs ws : List Value} :
      Alike hidden (p.subscript i) v w → AlikeItems hidden p (i + 1) vs ws →
      AlikeItems hidden p i (v :: vs) (w :: ws)

/-- Values that are alike entry by entry, at the same keys. -/
inductive AlikeEntries (hidden : Path → Prop) :
    Path → List (String × Value) → List (String × Value) → Prop
  /-- No values. -/
  | nil {p : Path} : AlikeEntries hidden p [] []
  /-- A value and those after it. -/
  | cons {p : Path} {k : String} {v w : Value} {es fs : List (String × Value)} :
      Alike hidden (p.child (Text.lower k)) v w → AlikeEntries hidden p es fs →
      AlikeEntries hidden p ((k, v) :: es) ((k, w) :: fs)

end

/-- Two leaves are equal, or they stand at one hidden path. -/
def AlikeLeaf (hidden : Path → Prop) (l m : Path × Value) : Prop :=
  l = m ∨ l.1 = m.1 ∧ hidden l.1

variable {hidden : Path → Prop}

mutual

/-- **The leaves of values that are alike** stand at the same paths, and only hidden ones differ. -/
theorem Alike.leaves {p : Path} {v w : Value} (h : Alike hidden p v w) :
    List.Forall₂ (AlikeLeaf hidden) (v.leaves p) (w.leaves p) := by
  match h with
  | .same p v => exact List.forall₂_same.mpr fun l _ => .inl rfl
  | .scalar o o' c c' hp => exact .cons (.inr ⟨rfl, hp⟩) .nil
  | .array .nil => exact .cons (.inl rfl) .nil
  | .array (.cons hv hvs) => exact AlikeItems.leaves (.cons hv hvs)
  | .table .nil => exact .cons (.inl rfl) .nil
  | .table (.cons hv hes) => exact AlikeEntries.leaves (.cons hv hes)

/-- The leaves of items that are alike. -/
theorem AlikeItems.leaves {p : Path} {i : Nat} {vs ws : List Value}
    (h : AlikeItems hidden p i vs ws) :
    List.Forall₂ (AlikeLeaf hidden) (leavesOfItems p i vs) (leavesOfItems p i ws) := by
  match h with
  | .nil => exact .nil
  | .cons hv hvs => exact List.rel_append hv.leaves hvs.leaves

/-- The leaves of entries that are alike. -/
theorem AlikeEntries.leaves {p : Path} {es fs : List (String × Value)}
    (h : AlikeEntries hidden p es fs) :
    List.Forall₂ (AlikeLeaf hidden) (leavesOfEntries p es) (leavesOfEntries p fs) := by
  match h with
  | .nil => exact .nil
  | .cons hv hes => exact List.rel_append hv.leaves hes.leaves

end

/-- Items are alike to themselves. -/
lemma AlikeItems.refl (p : Path) (i : Nat) (vs : List Value) : AlikeItems hidden p i vs vs := by
  induction vs generalizing i with
  | nil => exact .nil
  | cons v vs ih => exact .cons (.same _ v) (ih (i + 1))

/-- Entries are alike to themselves. -/
lemma AlikeEntries.refl (p : Path) (es : List (String × Value)) :
    AlikeEntries hidden p es es := by
  induction es with
  | nil => exact .nil
  | cons e es ih => exact .cons (.same _ _) ih

/-- Values that are alike keep entries alike, written at one key. -/
lemma AlikeEntries.put {p : Path} {k : String} {v w : Value}
    (hv : Alike hidden (p.child (Text.lower k)) v w) {es fs : List (String × Value)}
    (h : AlikeEntries hidden p es fs) :
    AlikeEntries hidden p (Entries.put k v es) (Entries.put k w fs) := by
  induction es generalizing fs with
  | nil =>
    cases h
    exact .cons hv .nil
  | cons e es ih =>
    cases h with
    | @cons _ k' v' w' _ fs hhead htail =>
      by_cases hk : k' = k
      · subst hk
        simpa [Entries.put, Entries.alter] using AlikeEntries.cons hv htail
      · simpa [Entries.put, Entries.alter, hk] using AlikeEntries.cons hhead (ih htail)

end Value

/-! ## Data -/

namespace Datum

/-- The data are those of a scalar. -/
def IsScalar (d : Datum) : Prop :=
  ∃ o c, Value.build none d = .ok (.scalar o c)

mutual

/-- Two pieces of data that stand at a path differ at most in scalars at hidden paths. The keys of
tables become steps of paths as they do where the leaves are taken. -/
inductive Alike (hidden : Path → Prop) : Path → Datum → Datum → Prop
  /-- Equal data. -/
  | same (p : Path) (d : Datum) : Alike hidden p d d
  /-- Scalars, if the path is hidden. -/
  | scalar {p : Path} {d d' : Datum} :
      hidden p → d.IsScalar → d'.IsScalar → Alike hidden p d d'
  /-- Sequences of data that are alike. -/
  | sequence {p : Path} {ds ds' : List Datum} :
      AlikeItems hidden p 0 ds ds' → Alike hidden p (.sequence ds) (.sequence ds')
  /-- Sequences of fixed length of data that are alike. -/
  | tuple {p : Path} {ds ds' : List Datum} :
      AlikeItems hidden p 0 ds ds' → Alike hidden p (.tuple ds) (.tuple ds')
  /-- Tables of data that are alike. -/
  | mapping {p : Path} {es es' : List (DatumKey × Datum)} :
      AlikeEntries hidden p es es' → Alike hidden p (.mapping es) (.mapping es')
  /-- Ready-made values that are alike. -/
  | value {p : Path} {v w : Value} :
      v.Alike hidden p w → Alike hidden p (.value v) (.value w)

/-- Data that are alike place by place, from the given position on. -/
inductive AlikeItems (hidden : Path → Prop) : Path → Nat → List Datum → List Datum → Prop
  /-- No data. -/
  | nil {p : Path} {i : Nat} : AlikeItems hidden p i [] []
  /-- Data and those after them. -/
  | cons {p : Path} {i : Nat} {d d' : Datum} {ds ds' : List Datum} :
      Alike hidden (p.subscript i) d d' → AlikeItems hidden p (i + 1) ds ds' →
      AlikeItems hidden p i (d :: ds) (d' :: ds')

/-- Data that are alike entry by entry, at the same keys. -/
inductive AlikeEntries (hidden : Path → Prop) :
    Path → List (DatumKey × Datum) → List (DatumKey × Datum) → Prop
  /-- No data. -/
  | nil {p : Path} : AlikeEntries hidden p [] []
  /-- Data and those after them. -/
  | cons {p : Path} {k : DatumKey} {name : String} {d d' : Datum}
      {es es' : List (DatumKey × Datum)} :
      k.display = .ok name → Alike hidden (p.child (Text.lower name)) d d' →
      AlikeEntries hidden p es es' → AlikeEntries hidden p ((k, d) :: es) ((k, d') :: es')
  /-- The same entry and those after it. -/
  | keep {p : Path} (e : DatumKey × Datum) {es es' : List (DatumKey × Datum)} :
      AlikeEntries hidden p es es' → AlikeEntries hidden p (e :: es) (e :: es')

end

variable {hidden : Path → Prop}

mutual

/-- **Data that are alike** are built to values that are alike, or not at all for the same fault.

**Proof sketch.** Induction on the way in which the data are alike. Where they differ they are
scalars, which can be built on both sides; everywhere else the same is built, in the same order. -/
theorem Alike.build {p : Path} {d d' : Datum} (h : Alike hidden p d d') :
    Fault.Agree (Value.Alike hidden p) (Value.build none d) (Value.build none d') := by
  match h with
  | .same p d => exact .refl (Value.Alike.same p) _
  | .scalar hp ⟨o, c, hd⟩ ⟨o', c', hd'⟩ =>
    rw [hd, hd']
    exact .ok (.scalar o o' c c' hp)
  | .sequence hds => exact hds.build.bind fun _ _ hvs => .ok (.array hvs)
  | .tuple hds => exact hds.build.bind fun _ _ hvs => .ok (.array hvs)
  | .mapping hes => exact (hes.build .nil).bind fun _ _ hfs => .ok (.table hfs)
  | .value hv => exact .ok hv

/-- Items that are alike are built to items that are alike. -/
theorem AlikeItems.build {p : Path} {i : Nat} {ds ds' : List Datum}
    (h : AlikeItems hidden p i ds ds') :
    Fault.Agree (Value.AlikeItems hidden p i) (Value.buildItems none ds)
      (Value.buildItems none ds') := by
  match h with
  | .nil => exact .ok .nil
  | .cons hd hds =>
    exact hd.build.bind fun _ _ hv => hds.build.bind fun _ _ hvs => .ok (.cons hv hvs)

/-- Entries that are alike are built to entries that are alike, if those that are there already are
so. -/
theorem AlikeEntries.build {p : Path} {es es' : List (DatumKey × Datum)}
    (h : AlikeEntries hidden p es es') {done done' : List (String × Value)}
    (hdone : Value.AlikeEntries hidden p done done') :
    Fault.Agree (Value.AlikeEntries hidden p) (Value.buildEntries none done es)
      (Value.buildEntries none done' es') := by
  match h with
  | .nil => exact .ok hdone
  | .cons hname hd hes =>
    refine .bind_left fun name hk => ?_
    obtain rfl := Except.ok.inj (hname.symm.trans hk)
    exact hd.build.bind fun _ _ hv => hes.build (hdone.put hv)
  | .keep e hes =>
    refine .bind_left fun name _ => .bind_left fun v _ => hes.build (hdone.put (.same _ v))

end

end Datum

end LayeredConfig
