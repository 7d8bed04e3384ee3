import Mathlib.Data.List.Basic
import Mathlib.Data.Option.Basic
import LayeredConfig.Path.Access
import LayeredConfig.Proofs.Path.Parting

set_option autoImplicit false

/-!
# Laws of writing at paths

What stands at a path after a value was written at another one. Reading and writing both take one
step at a time, so each law is first stated for a single step and then carried along the path.

## Main definitions

* `Value.child?`, `Value.alterChild` — reading and writing at a single step.
* `Value.Preserved` — writing at single steps preserves a property of trees.

## Main results

* `Value.get?_append`, `Value.write_append` — a path in two parts.
* `Value.get?_write_self`, `Value.write_write_self` — reading what was written, and writing again.
* `Value.get?_write_of_parted` — a write elsewhere keeps what it finds, padding of arrays apart.
* `Value.get?_write_of_clashing` — a write of another shape leaves nothing.
* `Value.Preserved.replay` — what single steps preserve, sequences of writes preserve.
-/

namespace LayeredConfig.Value

/-! ## Items -/

/-- Whatever is written at a position beyond the end replaces an absent value. -/
lemma getElem?_alterItem_self (f : Value → Value) (i : Nat) (vs : List Value) :
    (alterItem f i vs)[i]? = some (f (vs[i]?.getD nil)) := by
  induction i generalizing vs with
  | zero => cases vs <;> rfl
  | succ i ih => cases vs <;> simp [alterItem, ih]

/-- Another item stays as it is; where there was none, it may be an absent value that fills a gap
before the position. -/
lemma getElem?_alterItem_of_ne {i j : Nat} (h : j ≠ i) (f : Value → Value) (vs : List Value) :
    (alterItem f i vs)[j]? = vs[j]? ∨
      vs[j]? = none ∧ (alterItem f i vs)[j]? = some nil ∧ j < i := by
  induction i generalizing j vs with
  | zero =>
    obtain ⟨j, rfl⟩ := Nat.exists_eq_succ_of_ne_zero h
    cases vs <;> simp [alterItem]
  | succ i ih =>
    cases j with
    | zero => cases vs <;> simp [alterItem]
    | succ j =>
      have hij : j ≠ i := by omega
      cases vs with
      | nil => simpa [alterItem] using ih hij []
      | cons v vs => simpa [alterItem] using ih hij vs

/-- Changing an item twice is one change. -/
lemma alterItem_alterItem_self (f g : Value → Value) (i : Nat) (vs : List Value) :
    alterItem g i (alterItem f i vs) = alterItem (fun v => g (f v)) i vs := by
  induction i generalizing vs with
  | zero => cases vs <;> rfl
  | succ i ih => cases vs <;> simp [alterItem, ih]

/-- Only the item that is there matters to a change. -/
lemma alterItem_congr {f g : Value → Value} {i : Nat} {vs : List Value}
    (h : f (vs[i]?.getD nil) = g (vs[i]?.getD nil)) : alterItem f i vs = alterItem g i vs := by
  induction i generalizing vs with
  | zero => cases vs <;> simp_all [alterItem]
  | succ i ih => cases vs <;> simp_all [alterItem]

/-! ## One step -/

/-- The value one step below. -/
def child? (a : Step) (v : Value) : Option Value :=
  match a with
  | .key name => Entries.get? name v.asTable.2
  | .index i => v.asArray.2[i]?

/-- Changes the value one step below, which is there afterwards. -/
def alterChild (a : Step) (f : Option Value → Value) (v : Value) : Value :=
  match a with
  | .key name => .table v.asTable.1 (Entries.alter name f v.asTable.2)
  | .index i => .array v.asArray.1 (alterItem (fun _ => f v.asArray.2[i]?) i v.asArray.2)

/-- Below an empty table there is nothing. -/
@[simp] lemma child?_emptyTable (a : Step) : child? a emptyTable = none := by
  cases a <;> rfl

/-- Below an absent value there is nothing. -/
@[simp] lemma child?_nil (a : Step) : child? a nil = none := by
  cases a <;> rfl

/-- What was written one step below can be read there. -/
@[simp] lemma child?_alterChild_self (a : Step) (f : Option Value → Value) (v : Value) :
    child? a (alterChild a f v) = some (f (child? a v)) := by
  cases a with
  | key name => exact Entries.get?_alter_self name f v.asTable.2
  | index i => exact getElem?_alterItem_self _ i v.asArray.2

/-- Only what stands one step below matters to a change there. -/
lemma alterChild_congr {a : Step} {f g : Option Value → Value} {v : Value}
    (h : f (child? a v) = g (child? a v)) : alterChild a f v = alterChild a g v := by
  cases a with
  | key name =>
    simp only [alterChild]
    rw [Entries.alter_congr h]
  | index i =>
    have h' : f v.asArray.2[i]? = g v.asArray.2[i]? := h
    simp only [alterChild]
    rw [h']

/-- Changing the value one step below twice is one change. -/
lemma alterChild_alterChild_self (a : Step) (f g : Option Value → Value) (v : Value) :
    alterChild a g (alterChild a f v) = alterChild a (fun o => g (some (f o))) v := by
  cases a with
  | key name =>
    simp only [alterChild, asTable]
    rw [Entries.alter_alter_self]
  | index i =>
    simp only [alterChild, asArray]
    rw [alterItem_alterItem_self, getElem?_alterItem_self]

/-- A step that is apart keeps what stands below it; where nothing did, it may be an absent value
that fills a gap. -/
lemma child?_alterChild_of_apart {a b : Step} (h : a.Apart b) (f : Option Value → Value)
    (v : Value) :
    child? b (alterChild a f v) = child? b v ∨
      child? b v = none ∧ child? b (alterChild a f v) = some nil ∧
        ∃ i j, a = .index j ∧ b = .index i ∧ i < j := by
  cases a with
  | key k =>
    cases b with
    | key l => exact .inl (Entries.get?_alter_of_ne (Ne.symm h) f _)
    | index i => exact h.elim
  | index j =>
    cases b with
    | key l => exact h.elim
    | index i =>
      rcases getElem?_alterItem_of_ne (Ne.symm h) (fun _ => f v.asArray.2[j]?) v.asArray.2
        with h | ⟨h₁, h₂, h₃⟩
      · exact .inl h
      · exact .inr ⟨h₁, h₂, i, j, rfl, rfl, h₃⟩

/-- A step that clashes has nothing below it. -/
lemma child?_alterChild_of_clash {a b : Step} (h : a.Clash b) (f : Option Value → Value)
    (v : Value) : child? b (alterChild a f v) = none := by
  cases a <;> cases b <;> first | rfl | exact h.elim

/-! ## Paths -/

/-- Reading takes one step at a time. -/
lemma get?_cons (a : Step) (p : Path) (v : Value) :
    v.get? (a :: p) = (child? a v).bind fun u => u.get? p := by
  cases a with
  | key name =>
    cases v with
    | table o es =>
      simp only [get?, child?, asTable]
      cases Entries.get? name es <;> rfl
    | _ => rfl
  | index i =>
    cases v with
    | array o vs =>
      simp only [get?, child?, asArray]
      cases vs[i]? <;> rfl
    | _ => simp [get?, child?, asArray]

/-- The empty path leads to the value itself. -/
@[simp] lemma get?_root (v : Value) : v.get? [] = some v := by
  cases v <;> rfl

/-- An empty table has nothing below it. -/
lemma get?_emptyTable {p : Path} (h : p ≠ []) : emptyTable.get? p = none := by
  cases p with
  | nil => exact absurd rfl h
  | cons a p => simp [get?_cons]

/-- An absent value has nothing below it. -/
lemma get?_nil {p : Path} (h : p ≠ []) : nil.get? p = none := by
  cases p with
  | nil => exact absurd rfl h
  | cons a p => simp [get?_cons]

/-- An absent value counts as an empty table where something is written. -/
lemma write_nil (w : Value) (p : Path) : write w p nil = write w p emptyTable := by
  cases p with
  | nil => rfl
  | cons a p => cases a <;> rfl

/-- Writing takes one step at a time. -/
lemma write_cons (w : Value) (a : Step) (p : Path) (v : Value) :
    write w (a :: p) v = alterChild a (fun old => write w p (old.getD emptyTable)) v := by
  cases a with
  | key name => rfl
  | index i =>
    simp only [write, alterChild]
    congr 1
    apply alterItem_congr
    cases v.asArray.2[i]? with
    | none => exact write_nil w p
    | some x => rfl

/-- Reading at a path in two parts. -/
lemma get?_append (p q : Path) (v : Value) :
    v.get? (p ++ q) = (v.get? p).bind fun u => u.get? q := by
  induction p generalizing v with
  | nil => simp
  | cons a p ih =>
    rw [List.cons_append, get?_cons, get?_cons, Option.bind_assoc]
    congr 1
    funext u
    exact ih u

/-- What was written at a path can be read there. -/
@[simp] lemma get?_write_self (w : Value) (p : Path) (v : Value) :
    (write w p v).get? p = some w := by
  induction p generalizing v with
  | nil => simp [write]
  | cons a p ih => simp [write_cons, get?_cons, ih]

/-- A later write at the same path replaces an earlier one. -/
lemma write_write_self (u w : Value) (p : Path) (v : Value) :
    write w p (write u p v) = write w p v := by
  induction p generalizing v with
  | nil => rfl
  | cons a p ih => simp only [write_cons, alterChild_alterChild_self, Option.getD_some, ih]

/-- A write at a path in two parts is a write into what stands at the first part. -/
lemma write_append (w : Value) (p q : Path) (v : Value) :
    write w (p ++ q) v = write (write w q ((v.get? p).getD emptyTable)) p v := by
  induction p generalizing v with
  | nil => simp [write]
  | cons a p ih =>
    rw [List.cons_append, write_cons, write_cons]
    apply alterChild_congr
    rw [ih]
    congr 2
    rw [get?_cons]
    cases child? a v with
    | some u => rfl
    | none => cases p <;> simp [get?_emptyTable]

/-- Below a path at which a value was written stands what the value has there. -/
lemma get?_write_append (w : Value) (p q : Path) (v : Value) :
    (write w p v).get? (p ++ q) = w.get? q := by
  rw [get?_append, get?_write_self, Option.bind_some]

/-- A write at a path that parts from `p` keeps what stands at `p`. Where nothing did, it may be an
absent value that fills a gap of an array before the item that is written.

**Proof sketch.** Induction on the path of the write. Where its first step is apart from the first
step of `p`, the law for a single step applies, and nothing stands below an absent value. Where the
steps are equal, the write continues below, in an empty table if nothing stands there. -/
lemma get?_write_of_parted {e p : Path} (h : Path.Parted e p) (w v : Value) :
    (write w e v).get? p = v.get? p ∨
      v.get? p = none ∧ (write w e v).get? p = some nil ∧ Path.Pads e p := by
  induction e generalizing p v with
  | nil => exact h.elim
  | cons a e ih =>
    cases p with
    | nil => exact h.elim
    | cons b p =>
      rw [write_cons, get?_cons, get?_cons]
      rcases h with h | ⟨rfl, h⟩
      · rcases child?_alterChild_of_apart h (fun old => write w e (old.getD emptyTable)) v
          with hc | ⟨hv, hc, i, j, rfl, rfl, hij⟩
        · rw [hc]
          exact .inl rfl
        · rw [hc, hv]
          cases p with
          | nil => exact .inr ⟨rfl, rfl, [], i, j, e, rfl, rfl, hij⟩
          | cons c p => exact .inl (get?_nil (List.cons_ne_nil c p))
      · rw [child?_alterChild_self, Option.bind_some]
        cases hc : child? a v with
        | some u =>
          rcases ih h u with hu | ⟨hu, hn, hp⟩
          · exact .inl hu
          · exact .inr ⟨hu, hn, hp.cons a⟩
        | none =>
          have hE := get?_emptyTable h.ne_nil.2
          rcases ih h emptyTable with hu | ⟨-, hn, hp⟩
          · exact .inl (hu.trans hE)
          · exact .inr ⟨rfl, hn, hp.cons a⟩

/-- A write at a path that clashes with `p` leaves nothing at `p`. -/
lemma get?_write_of_clashing {e p : Path} (h : Path.Clashing e p) (w v : Value) :
    (write w e v).get? p = none := by
  induction e generalizing p v with
  | nil => exact h.elim
  | cons a e ih =>
    cases p with
    | nil => exact h.elim
    | cons b p =>
      rw [write_cons, get?_cons]
      rcases h with h | ⟨rfl, h⟩
      · rw [child?_alterChild_of_clash h]
        rfl
      · rw [child?_alterChild_self, Option.bind_some]
        exact ih h _

/-! ## Sequences of writes -/

/-- Assigning at a path that has steps is writing there. -/
lemma set_of_ne_nil {p : Path} (h : p ≠ []) (v w : Value) : v.set p w = write w p v := by
  simp [set, h]

/-- The first write comes first. -/
lemma replay_cons (v : Value) (l : Path × Value) (ls : List (Path × Value)) :
    v.replay (l :: ls) = (v.set l.1 l.2).replay ls := rfl

/-- Writes in two parts are replayed one part after the other. -/
lemma replay_append (v : Value) (ls ms : List (Path × Value)) :
    v.replay (ls ++ ms) = (v.replay ls).replay ms :=
  List.foldl_append

/-! ## What writing preserves -/

/-- Writing at steps of a kind preserves a property of trees: an empty table has it, as has what
stands one step below a tree that has it, and what comes of changing that to something that has
it. -/
structure Preserved (P : Value → Prop) (K : Step → Prop) : Prop where
  /-- An empty table has the property. -/
  emptyTable : P emptyTable
  /-- What stands one step below has the property. -/
  child : ∀ {v u : Value} {a : Step}, P v → child? a v = some u → P u
  /-- A change one step below preserves the property. -/
  alter : ∀ {v : Value} {a : Step} {f : Option Value → Value}, P v → K a → P (f (child? a v)) →
    P (alterChild a f v)

namespace Preserved

variable {P : Value → Prop} {K : Step → Prop}

/-- A property that is preserved at single steps is preserved at paths. -/
lemma write (h : Preserved P K) {v w : Value} (hv : P v) (hw : P w) {p : Path}
    (hp : ∀ a ∈ p, K a) : P (write w p v) := by
  induction p generalizing v with
  | nil => exact hw
  | cons a p ih =>
    obtain ⟨ha, hp⟩ := List.forall_mem_cons.mp hp
    rw [write_cons]
    apply h.alter hv ha
    cases hc : child? a v with
    | none => exact ih h.emptyTable hp
    | some u => exact ih (h.child hv hc) hp

/-- What stands at a path has a property that single steps down keep. -/
lemma get? (h : Preserved P K) {v u : Value} (hv : P v) {p : Path} (hu : v.get? p = some u) :
    P u := by
  induction p generalizing v with
  | nil =>
    rw [get?_root] at hu
    exact Option.some.inj hu ▸ hv
  | cons a p ih =>
    rw [get?_cons] at hu
    obtain ⟨x, hx, hu⟩ := Option.bind_eq_some_iff.mp hu
    exact ih (h.child hv hx) hu

/-- A property that is preserved at single steps is preserved by sequences of writes. -/
lemma replay (h : Preserved P K) {tree : Value} (htree : P tree) {writes : List (Path × Value)}
    (hw : ∀ l ∈ writes, (∀ a ∈ l.1, K a) ∧ P l.2) : P (tree.replay writes) := by
  induction writes generalizing tree with
  | nil => exact htree
  | cons l ls ih =>
    obtain ⟨⟨hp, hv⟩, hls⟩ := List.forall_mem_cons.mp hw
    rw [replay_cons]
    apply ih _ hls
    by_cases hnil : l.1 = []
    · simpa [set, hnil] using htree
    · rw [set_of_ne_nil hnil]
      exact h.write htree hv hp

end Preserved

end LayeredConfig.Value
