import LayeredConfig.Proofs.Store.Operation

set_option autoImplicit false

/-!
# Reachable stores

The stores that callers can come by: made empty or at once, changed by any operations, whether these
succeed or fail, and frozen at any time.

## Main definitions

* `Store.Reachable` — the stores that can be reached.
* `Store.ReachedBy` — the stores that operations of a kind reach from the one without settings.
* `Layers.Addressed` — the layers hold values at paths that have steps.

## Main results

* `Store.Reachable.addressed` — the layers of every reachable store do so.
-/

namespace LayeredConfig

variable {ω : Type}

namespace Store

/-- The stores that can be reached. -/
inductive Reachable : Store ω → Prop
  /-- The store without settings. -/
  | empty : Reachable empty
  /-- A store made of a table. -/
  | ofTable {d : Datum} {s : Store ω} : ofTable d = .ok s → Reachable s
  /-- A store made of three layers, before its tree is built for the first time. -/
  | ofLayers {defaults overrides : List (DatumKey × Datum)} {below above : Layer}
      (sources : List (Registered ω)) :
      layerOfEntries [] defaults = .ok below → layerOfEntries [] overrides = .ok above →
      Reachable ⟨⟨below, sources, above⟩, .emptyTable, false⟩
  /-- What an operation leaves, whether it succeeds or fails, in any surroundings. -/
  | perform {s : Store ω} (op : Operation ω) (w : ω) :
      Reachable s → Reachable (op.perform (s, w)).2.1
  /-- A store that was frozen. -/
  | freeze {s : Store ω} : Reachable s → Reachable s.freeze

/-- The stores that can be reached from the one without settings by operations of a kind, each in
surroundings of its own, and by freezing. -/
inductive ReachedBy (A : Operation ω → Prop) : Store ω → Prop
  /-- The store without settings. -/
  | empty : ReachedBy A empty
  /-- What an operation of the kind leaves, whether it succeeds or fails. -/
  | perform {s : Store ω} {op : Operation ω} (w : ω) :
      ReachedBy A s → A op → ReachedBy A (op.perform (s, w)).2.1
  /-- A store that was frozen. -/
  | freeze {s : Store ω} : ReachedBy A s → ReachedBy A s.freeze

/-- A run of operations of a kind reaches a store by them. -/
lemma ReachedBy.run {A : Operation ω → Prop} {s : Store ω} (h : s.ReachedBy A)
    {ops : List (Operation ω × ω)} (hops : ∀ o ∈ ops, A o.1) : (s.run ops).ReachedBy A := by
  induction ops generalizing s with
  | nil => exact h
  | cons o ops ih =>
    obtain ⟨ho, hops⟩ := List.forall_mem_cons.mp hops
    exact ih (h.perform o.2 ho) hops

/-- What an operation leaves that succeeds can be reached. -/
lemma Reachable.of_perform {s s' : Store ω} {op : Operation ω} {w w' : ω} {r : Except Fault Unit}
    (hs : s.Reachable) (h : op.perform (s, w) = (r, (s', w'))) : s'.Reachable := by
  have hp := hs.perform op w
  rwa [h] at hp

/-- A store can be made of three layers at once iff refreshing succeeds on these layers, and it is
what refreshing leaves. -/
lemma ofLayers_ok_iff {defaults overrides : List (DatumKey × Datum)}
    {sources : List (Registered ω)} {w w' : ω} {s : Store ω} :
    Store.ofLayers defaults sources overrides w = (.ok s, w') ↔
      ∃ below above, layerOfEntries [] defaults = .ok below ∧
        layerOfEntries [] overrides = .ok above ∧
        Operation.refresh.perform (⟨⟨below, sources, above⟩, .emptyTable, false⟩, w) =
          (.ok (), (s, w')) := by
  unfold Store.ofLayers
  cases layerOfEntries [] defaults with
  | error e => simp
  | ok below =>
    cases layerOfEntries [] overrides with
    | error e => simp
    | ok above => simp [refresh, after_ok_iff]

/-- A store made of three layers at once can be reached. -/
lemma Reachable.of_ofLayers {defaults overrides : List (DatumKey × Datum)}
    {sources : List (Registered ω)} {w w' : ω} {s : Store ω}
    (h : Store.ofLayers defaults sources overrides w = (.ok s, w')) : s.Reachable := by
  obtain ⟨below, above, hb, ha, hp⟩ := ofLayers_ok_iff.mp h
  exact (Reachable.ofLayers sources hb ha).of_perform hp

end Store

/-- The layers of defaults and overrides hold values at paths that have steps. -/
def Layers.Addressed (l : Layers ω) : Prop :=
  (∀ e ∈ l.defaults, e.1 ≠ []) ∧ ∀ e ∈ l.overrides, e.1 ≠ []

namespace Store

/-- An operation keeps the layers addressed. -/
lemma addressed_perform {s : Store ω} (h : s.Addressed) (op : Operation ω) (w : ω) :
    (op.perform (s, w)).2.1.Addressed := by
  rcases hp : op.perform (s, w) with ⟨e | _, s', w'⟩
  · rwa [Operation.perform_error hp]
  · obtain ⟨-, f, leaves, hf, -, rfl⟩ := Operation.perform_ok_iff.mp hp
    obtain rfl := Operation.edit_eq_amend hf
    exact Operation.forall_mem_amend h.1 h.2 fun _ _ _ _ _ hp _ => Path.parseKey_ne_nil hp

/-- **What holds of all values in a layer** that is made of the entries of a table: a property of
all that the entries write. -/
lemma forall_mem_layerOfEntries {P : Path × Value → Prop} {es : List (DatumKey × Datum)}
    (hes : ∀ e ∈ es, ∀ x, Layer.entry e = .ok x → P x) {done l : Layer}
    (h : layerOfEntries done es = .ok l) (hdone : ∀ e ∈ done, P e) : ∀ e ∈ l, P e := by
  induction es generalizing done with
  | nil =>
    obtain rfl := Except.ok.inj h
    exact hdone
  | cons e es ih =>
    obtain ⟨he, hrest⟩ := List.forall_mem_cons.mp hes
    obtain ⟨x, hx, h⟩ := Fault.bind_eq_ok_iff.mp h
    apply ih hrest h
    intro y hy
    rcases Entries.mem_of_mem_move hy with hy | rfl
    · exact hdone y hy
    · exact he x hx

/-- An entry that can be read has a text for its key, which is a path, and data that are a value. -/
lemma exists_of_entry {e : DatumKey × Datum} {x : Path × Value} (h : Layer.entry e = .ok x) :
    ∃ key, e.1 = .text key ∧ Path.parseKey key = .ok x.1 ∧ Value.ofDatum e.2 none = .ok x.2 := by
  obtain ⟨k, d⟩ := e
  cases k with
  | text key =>
    obtain ⟨p, hp, h⟩ := Fault.bind_eq_ok_iff.mp h
    obtain ⟨v, hv, h⟩ := Fault.bind_eq_ok_iff.mp h
    obtain rfl := Except.ok.inj h
    exact ⟨key, rfl, hp, hv⟩
  | _ => cases h

/-- A layer made of the entries of a table is addressed. -/
lemma ne_nil_of_mem_layer {es : List (DatumKey × Datum)} {l : Layer}
    (h : layerOfEntries [] es = .ok l) : ∀ e ∈ l, e.1 ≠ [] := by
  refine forall_mem_layerOfEntries (fun e _ x hx => ?_) h (List.forall_mem_nil _)
  obtain ⟨key, -, hp, -⟩ := exists_of_entry hx
  exact Path.parseKey_ne_nil hp

/-- **Addressed layers**: in every store that can be reached, the layers of defaults and overrides
hold values at paths that have steps. -/
theorem Reachable.addressed {s : Store ω} (h : s.Reachable) : s.Addressed := by
  induction h with
  | empty => simp [Store.empty, Layers.Addressed]
  | @ofTable d s h =>
    obtain ⟨root, -, h⟩ := Fault.bind_eq_ok_iff.mp h
    cases root with
    | table o es =>
      obtain ⟨leaves, hl, h⟩ := Fault.bind_eq_ok_iff.mp h
      obtain rfl := Except.ok.inj h
      refine ⟨by simp [Store.empty], fun e he => ?_⟩
      exact ne_nil_of_mem_contributionOfEntries hl e (Entries.mem_of_mem_ofList he)
    | _ => cases h
  | ofLayers sources hb ha =>
    exact ⟨ne_nil_of_mem_layer hb, ne_nil_of_mem_layer ha⟩
  | perform op w _ ih => exact addressed_perform ih op w
  | freeze _ _ => simp [Store.freeze, Layers.Addressed]

end Store

end LayeredConfig
