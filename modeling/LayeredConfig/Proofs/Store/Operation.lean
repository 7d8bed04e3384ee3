import LayeredConfig.Proofs.Store.Contribution
import LayeredConfig.Store.Operation

set_option autoImplicit false

/-!
# Single operations

What an operation does to a store: all of it where it succeeds, and nothing where it fails.

## Main definitions

* `Store.built` — the store that layers make.
* `Operation.override?`, `Operation.default?`, `Operation.amendSources`, `Operation.amend` — what
  operations do to each layer.
* `Operation.assigned?` — the data that an operation sets.

## Main results

* `Operation.perform_ok_iff`, `Operation.perform_error` — what an operation does to a store.
* `Operation.edit_eq_amend` — what an operation does to each layer.
* `Operation.forall_mem_amend` — what holds of all values in the layers after an operation.
-/

namespace LayeredConfig

variable {ω : Type}

/-! ## The whole store -/

namespace Store

/-- The store that layers make, given the leaves of the sources. -/
def built (l : Layers ω) (leaves : List (Path × Value)) : Store ω :=
  ⟨l, Value.emptyTable.replay (l.writes leaves), false⟩

/-- Building the tree succeeds iff the store is not frozen and all sources contribute. -/
lemma rebuild_ok_iff {s s' : Store ω} {w w' : ω} :
    rebuild (s, w) = (.ok (), (s', w')) ↔
      s.frozen = false ∧ ∃ leaves, Contributed s.sources w leaves w' ∧
        s' = built s.toLayers leaves := by
  obtain ⟨l, cache, frozen⟩ := s
  cases frozen with
  | true => simp [rebuild, guarded]
  | false =>
    simp only [rebuild, guarded, Bool.false_eq_true, ↓reduceIte, true_and, ← gather_ok_iff]
    rcases hg : gather l.sources w with ⟨_ | leaves, w₁⟩
    · simp
    · simp [built, eq_comm, and_comm]

/-- Where building the tree fails, the store stays as it is. -/
lemma rebuild_error {s s' : Store ω} {w w' : ω} {e : Fault}
    (h : rebuild (s, w) = (.error e, (s', w'))) : s' = s := by
  unfold rebuild guarded at h
  split_ifs at h
  · simp_all
  · rcases hg : gather s.sources w with ⟨_ | leaves, w₁⟩ <;> simp_all

/-- A revision succeeds iff the store is not frozen, the edit is possible, and all sources that are
there after it contribute. -/
lemma revise_ok_iff {edit : Except Fault (Layers ω → Layers ω)} {s s' : Store ω} {w w' : ω} :
    revise edit (s, w) = (.ok (), (s', w')) ↔
      s.frozen = false ∧ ∃ f leaves, edit = .ok f ∧
        Contributed (f s.toLayers).sources w leaves w' ∧ s' = built (f s.toLayers) leaves := by
  obtain ⟨l, cache, frozen⟩ := s
  cases frozen with
  | true => simp [revise, guarded]
  | false =>
    cases edit with
    | error e => simp [revise, guarded]
    | ok f =>
      have h : rebuild (⟨f l, cache, false⟩, w) = (.ok (), (s', w')) ↔
          ∃ leaves, Contributed (f l).sources w leaves w' ∧ s' = built (f l) leaves :=
        rebuild_ok_iff.trans (and_iff_right rfl)
      simp only [revise, guarded, undoing, Bool.false_eq_true, ↓reduceIte, Except.ok.injEq,
        true_and, exists_and_left, exists_eq_left', ← h]
      rcases rebuild (⟨f l, cache, false⟩, w) with ⟨_ | _, t, w₁⟩ <;> simp

/-- Where a revision fails, the store is as it was: the edit has been undone, and the tree has not
been touched. -/
lemma revise_error {edit : Except Fault (Layers ω → Layers ω)} {s s' : Store ω} {w w' : ω}
    {e : Fault} (h : revise edit (s, w) = (.error e, (s', w'))) : s' = s := by
  unfold revise guarded at h
  split_ifs at h
  · simp_all
  · cases edit with
    | error e' => simp_all
    | ok f =>
      simp only [undoing] at h
      rcases hr : rebuild ({ s with toLayers := f s.toLayers }, w) with ⟨_ | _, t, w₁⟩
      · rw [hr] at h
        have ht := rebuild_error hr
        simp only [Prod.mk.injEq] at h
        rw [← h.2.1, ht]
      · simp [hr] at h

/-- What a revision does, step by step: the store is looked at first, then the edit, and then the
sources that are there after it are asked. -/
lemma revise_eq (edit : Except Fault (Layers ω → Layers ω)) (s : Store ω) (w : ω) :
    revise edit (s, w) =
      if s.frozen then (.error .frozen, (s, w))
      else match edit with
        | .error e => (.error e, (s, w))
        | .ok f => match gather (f s.toLayers).sources w with
          | (.error e, w') => (.error e, (s, w'))
          | (.ok leaves, w') => (.ok (), (built (f s.toLayers) leaves, w')) := by
  obtain ⟨l, cache, frozen⟩ := s
  cases frozen with
  | true => rfl
  | false =>
    cases edit with
    | error e => rfl
    | ok f =>
      simp only [revise, guarded, undoing, rebuild, Bool.false_eq_true, ↓reduceIte]
      rcases gather (f l).sources w with ⟨e | leaves, w'⟩ <;> rfl

end Store

namespace Operation

/-- Only building the tree anew is the revision that edits nothing. -/
lemma rebuild_eq_revise : (Store.rebuild : Store.Change ω) = Store.revise (.ok id) := by
  funext x
  obtain ⟨⟨l, cache, frozen⟩, w⟩ := x
  cases frozen with
  | true => rfl
  | false =>
    simp only [Store.revise, Store.guarded, Store.undoing, Bool.false_eq_true, ↓reduceIte, id_eq]
    rcases hr : Store.rebuild (⟨l, cache, false⟩, w) with ⟨e | _, t, w₁⟩
    · obtain rfl := Store.rebuild_error hr
      rfl
    · rfl

/-- Every operation is a revision of the layers by its edit. -/
lemma perform_eq_revise (op : Operation ω) : op.perform = Store.revise op.edit := by
  cases op with
  | refresh => exact rebuild_eq_revise
  | _ => rfl

/-- What an operation does to a store where it succeeds: the layers are edited, and the tree is
built from them and from what the sources contribute that are there afterwards. -/
lemma perform_ok_iff {op : Operation ω} {s s' : Store ω} {w w' : ω} :
    op.perform (s, w) = (.ok (), (s', w')) ↔
      s.frozen = false ∧ ∃ f leaves, op.edit = .ok f ∧
        Contributed (f s.toLayers).sources w leaves w' ∧
        s' = Store.built (f s.toLayers) leaves := by
  rw [perform_eq_revise]
  exact Store.revise_ok_iff

/-- An operation succeeds whose edit is possible, if all sources contribute that are there after
it. -/
lemma perform_of_edit {op : Operation ω} {s : Store ω} {w w' : ω} {f : Layers ω → Layers ω}
    {leaves : List (Path × Value)} (hs : s.frozen = false) (hf : op.edit = .ok f)
    (hc : Contributed (f s.toLayers).sources w leaves w') :
    op.perform (s, w) = (.ok (), (Store.built (f s.toLayers) leaves, w')) :=
  perform_ok_iff.mpr ⟨hs, f, leaves, hf, hc, rfl⟩

/-- An override can be set whose key is a path and whose data are a value. -/
lemma edit_set {key : String} {d : Datum} {p : Path} {v : Value} (hp : Path.parseKey key = .ok p)
    (hv : Value.ofDatum d none = .ok v) :
    (set key d : Operation ω).edit = .ok fun l => { l with overrides := l.overrides.move p v } := by
  simp only [edit, hp, hv]
  rfl

/-- A default can be set whose key is a path and whose data are a value. -/
lemma edit_setDefault {key : String} {d : Datum} {p : Path} {v : Value}
    (hp : Path.parseKey key = .ok p) (hv : Value.ofDatum d none = .ok v) :
    (setDefault key d : Operation ω).edit =
      .ok fun l => { l with defaults := l.defaults.move p v } := by
  simp only [edit, hp, hv]
  rfl

/-- What an operation does to a store where it fails: nothing. -/
lemma perform_error {op : Operation ω} {s s' : Store ω} {w w' : ω} {e : Fault}
    (h : op.perform (s, w) = (.error e, (s', w'))) : s' = s := by
  rw [perform_eq_revise] at h
  exact Store.revise_error h

end Operation

/-- The store after an operation is what the operation leaves of it in place. -/
lemma Store.after_ok_iff {s s' : Store ω} {op : Operation ω} {w w' : ω} :
    s.after op w = (.ok s', w') ↔ op.perform (s, w) = (.ok (), (s', w')) := by
  unfold Store.after
  rcases op.perform (s, w) with ⟨_ | _, t, w₁⟩ <;> simp

/-- What comes of building the tree of a store anew. -/
lemma Store.refresh_eq (s : Store ω) (w : ω) :
    s.refresh w =
      if s.frozen then (.error .frozen, w)
      else ((gather s.sources w).1.map (built s.toLayers), (gather s.sources w).2) := by
  simp only [refresh, after, Operation.perform_eq_revise, revise_eq, Operation.edit, id_eq]
  split_ifs
  · rfl
  · rcases gather s.sources w with ⟨e | leaves, w'⟩ <;> rfl

/-! ## Each layer -/

/-- Amends a layer: a value is written last, or what stands at a path is removed. -/
def Layer.amend (l : Layer) : Path × Option Value → Layer
  | (p, some v) => l.move p v
  | (p, none) => l.erase p

/-- What holds of all values in a layer holds after it was amended, if it does of a value that is
written. -/
lemma Layer.forall_mem_amend {P : Path × Value → Prop} {l : Layer} (hl : ∀ e ∈ l, P e)
    {a : Option (Path × Option Value)} (ha : ∀ p v, a = some (p, some v) → P (p, v)) :
    ∀ e ∈ a.elim l l.amend, P e := by
  intro e he
  rcases a with _ | ⟨p, _ | v⟩
  · exact hl e he
  · exact hl e (Entries.mem_of_mem_erase he)
  · rcases Entries.mem_of_mem_move he with he | rfl
    · exact hl e he
    · exact ha p v rfl

namespace Operation

/-- The value that data stand for, to be written at a key. -/
def written (key : String) (d : Datum) : Option (Path × Option Value) :=
  match Path.parseKey key, Value.ofDatum d none with
  | .ok p, .ok v => some (p, some v)
  | _, _ => none

/-- The removal of what stands at a key. -/
def removed (key : String) : Option (Path × Option Value) :=
  match Path.parseKey key with
  | .ok p => some (p, none)
  | .error _ => none

/-- How an operation amends the layer of overrides, if it does. -/
def override? : Operation ω → Option (Path × Option Value)
  | .set key d => written key d
  | .unset key => removed key
  | _ => none

/-- How an operation amends the layer of defaults, if it does. -/
def default? : Operation ω → Option (Path × Option Value)
  | .setDefault key d => written key d
  | .unsetDefault key => removed key
  | _ => none

/-- What an operation makes of the sources. -/
def amendSources (rs : List (Registered ω)) : Operation ω → List (Registered ω)
  | .merge r => rs ++ [r]
  | .removeSource id => rs.filter fun r => !r.source.id.isText id
  | _ => rs

/-- What an operation makes of the layers, each by itself. -/
def amend (op : Operation ω) (l : Layers ω) : Layers ω where
  defaults := op.default?.elim l.defaults l.defaults.amend
  sources := op.amendSources l.sources
  overrides := op.override?.elim l.overrides l.overrides.amend

/-- Where the edit of an operation is possible, it amends each layer by itself. -/
lemma edit_eq_amend {op : Operation ω} {f : Layers ω → Layers ω} (h : op.edit = .ok f) :
    f = op.amend := by
  cases op with
  | set key d =>
    obtain ⟨p, hp, h⟩ := Fault.bind_eq_ok_iff.mp h
    obtain ⟨v, hv, h⟩ := Fault.bind_eq_ok_iff.mp h
    obtain rfl := Except.ok.inj h
    funext l
    simp [amend, default?, amendSources, override?, written, hp, hv, Layer.amend]
  | setDefault key d =>
    obtain ⟨p, hp, h⟩ := Fault.bind_eq_ok_iff.mp h
    obtain ⟨v, hv, h⟩ := Fault.bind_eq_ok_iff.mp h
    obtain rfl := Except.ok.inj h
    funext l
    simp [amend, default?, amendSources, override?, written, hp, hv, Layer.amend]
  | unset key =>
    obtain ⟨p, hp, h⟩ := Fault.bind_eq_ok_iff.mp h
    obtain rfl := Except.ok.inj h
    funext l
    simp [amend, default?, amendSources, override?, removed, hp, Layer.amend]
  | unsetDefault key =>
    obtain ⟨p, hp, h⟩ := Fault.bind_eq_ok_iff.mp h
    obtain rfl := Except.ok.inj h
    funext l
    simp [amend, default?, amendSources, override?, removed, hp, Layer.amend]
  | merge r =>
    obtain rfl := Except.ok.inj h
    rfl
  | removeSource id =>
    obtain rfl := Except.ok.inj h
    rfl
  | refresh =>
    obtain rfl := Except.ok.inj h
    rfl

/-- What is written at a key is the value that the data stand for, at the path that the key is. -/
lemma exists_of_written {key : String} {d : Datum} {a : Path × Option Value}
    (h : written key d = some a) :
    ∃ p v, Path.parseKey key = .ok p ∧ Value.ofDatum d none = .ok v ∧ a = (p, some v) := by
  unfold written at h
  split at h
  · rename_i p v hp hv
    exact ⟨p, v, hp, hv, (Option.some.inj h).symm⟩
  · cases h

/-- The data that an operation sets, with their key. -/
def assigned? : Operation ω → Option (String × Datum)
  | .set key d | .setDefault key d => some (key, d)
  | _ => none

/-- Nothing is written where something is removed. -/
lemma removed_ne_some {key : String} {p : Path} {v : Value} :
    removed key ≠ some (p, some v) := by
  unfold removed
  split <;> simp

/-- A value that an operation writes to a layer is that of the data that it sets. -/
lemma exists_assigned {op : Operation ω} {p : Path} {v : Value}
    (h : op.default? = some (p, some v) ∨ op.override? = some (p, some v)) :
    ∃ key d, op.assigned? = some (key, d) ∧ Path.parseKey key = .ok p ∧
      Value.ofDatum d none = .ok v := by
  have hwritten {key : String} {d : Datum} (hw : written key d = some (p, some v)) :
      Path.parseKey key = .ok p ∧ Value.ofDatum d none = .ok v := by
    obtain ⟨p', v', hp, hv, heq⟩ := exists_of_written hw
    obtain ⟨rfl, hsome⟩ := Prod.mk.inj heq
    obtain rfl := Option.some.inj hsome
    exact ⟨hp, hv⟩
  cases op with
  | set key d =>
    rcases h with h | h
    · cases h
    · exact ⟨key, d, rfl, hwritten h⟩
  | setDefault key d =>
    rcases h with h | h
    · exact ⟨key, d, rfl, hwritten h⟩
    · cases h
  | unset key =>
    rcases h with h | h
    · cases h
    · exact absurd h removed_ne_some
  | unsetDefault key =>
    rcases h with h | h
    · exact absurd h removed_ne_some
    · cases h
  | _ => rcases h with h | h <;> cases h

/-- **What holds of all values in the layers** after an operation: a property that all of them had
before, if the value has it that the operation sets. -/
lemma forall_mem_amend {P : Path × Value → Prop} {op : Operation ω} {l : Layers ω}
    (hd : ∀ e ∈ l.defaults, P e) (ho : ∀ e ∈ l.overrides, P e)
    (h : ∀ key d, op.assigned? = some (key, d) → ∀ p v, Path.parseKey key = .ok p →
      Value.ofDatum d none = .ok v → P (p, v)) :
    (∀ e ∈ (op.amend l).defaults, P e) ∧ ∀ e ∈ (op.amend l).overrides, P e := by
  have hwritten (p : Path) (v : Value)
      (hw : op.default? = some (p, some v) ∨ op.override? = some (p, some v)) : P (p, v) := by
    obtain ⟨key, d, hset, hp, hv⟩ := exists_assigned hw
    exact h key d hset p v hp hv
  exact ⟨Layer.forall_mem_amend hd fun p v hw => hwritten p v (.inl hw),
    Layer.forall_mem_amend ho fun p v hw => hwritten p v (.inr hw)⟩

/-- A source that is there after an operation was there before, or is merged in. -/
lemma mem_amendSources {op : Operation ω} {rs : List (Registered ω)} {r : Registered ω}
    (h : r ∈ op.amendSources rs) : r ∈ rs ∨ op = .merge r := by
  cases op with
  | merge r' =>
    rcases List.mem_append.mp h with h | h
    · exact .inl h
    · exact .inr (by rw [List.mem_singleton.mp h])
  | removeSource id => exact .inl (List.mem_of_mem_filter h)
  | _ => exact .inl h

end Operation

end LayeredConfig
