import LayeredConfig.Proofs.Store.Operation
import LayeredConfig.Proofs.Value.Alike
import LayeredConfig.Schema

set_option autoImplicit false

/-!
# Frozen stores

Freezing ends the changes to a store for good. Whatever happens afterwards, in whatever order:
every operation is refused before it looks at its arguments, no source is asked any more, and every
read gives what it gave before.

## Main definitions

* `Event`, `Store.session` — what can happen while a store is in use, and all that happens to it.
* `Store.tallied` — a store whose sources count how often they are asked.
* `Store.ReadsAlike` — nobody who only reads can tell two stores apart.

## Main results

* `Store.session_freeze` — a frozen store stays as it is in every session.
* `Operation.perform_tallied` — the count sees every source that is asked.
* `Store.freeze_is_final` — freezing is final.

## Design

The surroundings may change between two operations, by a function of their own. So a session says
what becomes of the surroundings if no source is asked, and any source that leaves a trace when it
is asked would show.
-/

namespace LayeredConfig

variable {ω : Type}

/-! ## Sessions -/

/-- What can happen while a store is in use. -/
inductive Event (ω : Type) where
  /-- An operation is performed on the store. -/
  | operation (op : Operation ω)
  /-- The store is frozen. -/
  | freeze
  /-- The surroundings change by themselves. -/
  | elsewhere (f : ω → ω)

namespace Event

/-- What an event does. -/
def occur : Event ω → Store.Change ω
  | .operation op => op.perform
  | .freeze => fun (s, w) => (.ok (), (s.freeze, w))
  | .elsewhere f => fun (s, w) => (.ok (), (s, f w))

/-- How a frozen store answers to an event. -/
def answerOfFrozen : Event ω → Except Fault Unit
  | .operation _ => .error .frozen
  | .freeze => .ok ()
  | .elsewhere _ => .ok ()

/-- What becomes of the surroundings in an event if no source is asked. -/
def drift (w : ω) : Event ω → ω
  | .operation _ => w
  | .freeze => w
  | .elsewhere f => f w

end Event

/-- All that happens to a store: the answers to the events, and the store and the surroundings
after them. -/
def Store.session : List (Event ω) → Store ω × ω → List (Except Fault Unit) × (Store ω × ω)
  | [], x => ([], x)
  | e :: es, x =>
    let (answer, x') := e.occur x
    let (answers, x'') := session es x'
    (answer :: answers, x'')

/-- A frozen store refuses every operation, whatever its arguments. Neither the store nor the
surroundings change. -/
lemma Operation.perform_of_frozen {s : Store ω} (hs : s.frozen = true) (op : Operation ω) (w : ω) :
    op.perform (s, w) = (.error .frozen, (s, w)) := by
  rw [perform_eq_revise, Store.revise_eq, if_pos hs]

namespace Store

/-- No event changes a frozen store, and the surroundings go their own way. -/
lemma occur_freeze (s : Store ω) (e : Event ω) (w : ω) :
    e.occur (s.freeze, w) = (e.answerOfFrozen, (s.freeze, e.drift w)) := by
  cases e with
  | operation op => exact Operation.perform_of_frozen rfl op w
  | freeze => rfl
  | elsewhere f => rfl

/-- A frozen store stays as it is in every session. -/
theorem session_freeze (s : Store ω) (events : List (Event ω)) (w : ω) :
    session events (s.freeze, w) =
      (events.map Event.answerOfFrozen, (s.freeze, events.foldl Event.drift w)) := by
  induction events generalizing w with
  | nil => rfl
  | cons e es ih =>
    simp only [session, occur_freeze, ih]
    rfl

end Store

/-! ## Counting how often sources are asked -/

/-- A source that also counts how often it is asked. -/
def Source.tallied (c : Source ω) : Source (ω × Nat) where
  id := c.id
  name := c.name
  collect x := ((c.collect x.1).1, ((c.collect x.1).2, x.2 + 1))

/-- A registered source that also counts how often it is asked. -/
def Registered.tallied (r : Registered ω) : Registered (ω × Nat) where
  source := r.source.tallied
  filter := r.filter

/-- Layers whose sources count how often they are asked. -/
def Layers.tallied (l : Layers ω) : Layers (ω × Nat) where
  defaults := l.defaults
  sources := l.sources.map Registered.tallied
  overrides := l.overrides

/-- A store whose sources count how often they are asked. -/
def Store.tallied (s : Store ω) : Store (ω × Nat) where
  toLayers := s.toLayers.tallied
  cache := s.cache
  frozen := s.frozen

/-- An operation whose source, if it merges one, counts how often it is asked. -/
def Operation.tallied : Operation ω → Operation (ω × Nat)
  | .set key d => .set key d
  | .setDefault key d => .setDefault key d
  | .unset key => .unset key
  | .unsetDefault key => .unsetDefault key
  | .merge r => .merge r.tallied
  | .removeSource id => .removeSource id
  | .refresh => .refresh

/-- An event whose source, if it merges one, counts how often it is asked. Only sources count. -/
def Event.tallied : Event ω → Event (ω × Nat)
  | .operation op => .operation op.tallied
  | .freeze => .freeze
  | .elsewhere f => .elsewhere fun x => (f x.1, x.2)

/-- A source that counts contributes the same, and has counted once more. -/
lemma Registered.contribute_tallied (r : Registered ω) (w : ω) (n : Nat) :
    r.tallied.contribute (w, n) = ((r.contribute w).1, ((r.contribute w).2, n + 1)) := by
  simp only [contribute, tallied, Source.tallied]
  rcases r.source.collect w with ⟨e | payload, w'⟩
  · rfl
  · cases hc : contribution payload <;> simp only [hc]

/-- How many of several sources are asked, one after the other up to the first that fails. -/
def asked : List (Registered ω) → ω → Nat
  | [], _ => 0
  | r :: rs, w =>
    match r.contribute w with
    | (.error _, _) => 1
    | (.ok _, w') => asked rs w' + 1

/-- Gathering from sources that count gives the same, and the count is up by the number of sources
that were asked. -/
lemma gather_tallied (rs : List (Registered ω)) (w : ω) (n : Nat) :
    gather (rs.map Registered.tallied) (w, n) =
      ((gather rs w).1, ((gather rs w).2, n + asked rs w)) := by
  induction rs generalizing w n with
  | nil => rfl
  | cons r rs ih =>
    simp only [List.map_cons, gather, asked, r.contribute_tallied]
    rcases r.contribute w with ⟨e | leaves, w'⟩
    · rfl
    · simp only [ih]
      rcases gather rs w' with ⟨e | more, w''⟩ <;> simp only [Nat.add_assoc, Nat.add_comm 1]

namespace Operation

/-- Layers whose sources count are edited as the layers are, or neither can be. -/
lemma edit_tallied (op : Operation ω) :
    Fault.Agree (fun f g => ∀ l : Layers ω, g l.tallied = (f l).tallied)
      op.edit op.tallied.edit := by
  cases op with
  | set key d => exact .bind_left fun p _ => .bind_left fun v _ => .ok fun l => rfl
  | setDefault key d => exact .bind_left fun p _ => .bind_left fun v _ => .ok fun l => rfl
  | unset key => exact .bind_left fun p _ => .ok fun l => rfl
  | unsetDefault key => exact .bind_left fun p _ => .ok fun l => rfl
  | merge r =>
    refine .ok fun l => ?_
    simp only [Layers.tallied, List.map_append, List.map_cons, List.map_nil]
  | removeSource id =>
    refine .ok fun l => ?_
    simp only [Layers.tallied, List.filter_map]
    rfl
  | refresh => exact .ok fun l => rfl

/-- How many sources are asked in an operation: none where the store is frozen or the edit is not
possible. -/
def asks (op : Operation ω) (s : Store ω) (w : ω) : Nat :=
  if s.frozen then 0
  else
    match op.edit with
    | .error _ => 0
    | .ok f => asked (f s.toLayers).sources w

/-- An operation on a store whose sources count gives the same as on the store itself, and the count
is up by the number of sources that were asked.

**Proof sketch.** Both are revisions (`perform_eq_revise`), whose edits agree (`edit_tallied`). So
the same sources are gathered from afterwards (`gather_tallied`). -/
theorem perform_tallied (op : Operation ω) (s : Store ω) (w : ω) (n : Nat) :
    op.tallied.perform (s.tallied, (w, n)) =
      ((op.perform (s, w)).1,
        ((op.perform (s, w)).2.1.tallied, ((op.perform (s, w)).2.2, n + op.asks s w))) := by
  obtain ⟨l, cache, frozen⟩ := s
  cases frozen with
  | true => rw [perform_of_frozen rfl, perform_of_frozen rfl]; rfl
  | false =>
    simp only [perform_eq_revise, Store.revise_eq, asks, Store.tallied, Bool.false_eq_true,
      ↓reduceIte]
    have hedit := op.edit_tallied
    generalize op.edit = x, op.tallied.edit = y at hedit
    cases hedit with
    | error e => rfl
    | @ok f g hfg =>
      have hs : (g l.tallied).sources = (f l).sources.map Registered.tallied :=
        congrArg Layers.sources (hfg l)
      simp only [hs, gather_tallied]
      rcases gather (f l).sources w with ⟨e | leaves, w'⟩
      · rfl
      · simp only [Store.built, hfg]
        rfl

end Operation

/-- Sources alone count: what happens elsewhere leaves the count as it is. -/
lemma Event.foldl_drift_tallied (events : List (Event ω)) (w : ω) (n : Nat) :
    (events.map tallied).foldl drift (w, n) = (events.foldl drift w, n) := by
  induction events generalizing w with
  | nil => rfl
  | cons e es ih => cases e <;> exact ih _

/-! ## Reads -/

/-- Nobody who only reads can tell two stores apart. -/
structure Store.ReadsAlike (s t : Store ω) : Prop where
  /-- Every lookup gives the same. -/
  get : ∀ key, s.get key = t.get key
  /-- Every lookup gives the same that reads the value in some shape: as a truth value, a number, a
  text, an array, or a store of its own. -/
  getWith : ∀ {α : Type} (read : Value → Except Fault α) key,
    s.getWith read key = t.getWith read key
  /-- Every lookup gives the same that has a value at hand for where there is none. -/
  getWithOr : ∀ {α : Type} (read : Value → Except Fault α) fallback key,
    s.getWithOr read fallback key = t.getWithOr read fallback key
  /-- Every lookup by a schema gives the same. -/
  getAs : ∀ schema typeName key, s.getAs schema typeName key = t.getAs schema typeName key
  /-- Reading everything by a schema gives the same. -/
  readAs : ∀ schema typeName, s.readAs schema typeName = t.readAs schema typeName
  /-- All settings are the same plain data. -/
  toDatum : s.toDatum = t.toDatum
  /-- All settings have the same text. -/
  display : s.display = t.display

/-- Reads look at nothing but the merged tree. -/
lemma Store.ReadsAlike.of_cache {s t : Store ω} (h : s.cache = t.cache) : s.ReadsAlike t := by
  have hget : ∀ key, s.get key = t.get key := fun key => by simp only [Store.get, h]
  have hwith : ∀ {α : Type} (read : Value → Except Fault α) key,
      s.getWith read key = t.getWith read key := fun read key => by
    simp only [Store.getWith, hget]
  exact {
    get := hget
    getWith := hwith
    getWithOr := fun read fallback key => by simp only [Store.getWithOr, hwith]
    getAs := fun schema typeName key => hwith (Value.readAs schema typeName) key
    readAs := fun schema typeName => by simp only [Store.readAs, h]
    toDatum := congrArg Datum.ofValue h
    display := congrArg Value.display h }

/-! ## The end of all changes -/

/-- **Freezing is final**: whatever a store is like when it is frozen, and whatever happens
afterwards in whatever order,

* every operation is refused because the store is frozen, whatever its arguments, and freezing anew
  succeeds; neither changes the store, and the surroundings change by themselves only;
* no source is asked, be it one of the store or one that is to be merged: if the sources count how
  often they are asked, the count stays;
* every read gives what it gave immediately before the store was frozen, a result or a fault.

**Proof sketch.** By induction on the events, none of them changes a frozen store
(`session_freeze`); the same holds of sources that count. What freezing keeps is the merged tree,
and reads look at nothing else (`ReadsAlike.of_cache`). -/
theorem Store.freeze_is_final (s : Store ω) (events : List (Event ω)) (w : ω) (n : Nat) :
    session events (s.freeze, w) =
        (events.map Event.answerOfFrozen, (s.freeze, events.foldl Event.drift w)) ∧
      session (events.map Event.tallied) (s.tallied.freeze, (w, n)) =
        (events.map Event.answerOfFrozen, (s.tallied.freeze, (events.foldl Event.drift w, n))) ∧
      s.freeze.ReadsAlike s := by
  refine ⟨session_freeze s events w, ?_, .of_cache rfl⟩
  have hanswers : (events.map Event.tallied).map Event.answerOfFrozen =
      events.map Event.answerOfFrozen := by
    rw [List.map_map]
    exact List.map_congr_left fun e _ => by cases e <;> rfl
  rw [session_freeze, Event.foldl_drift_tallied, hanswers]

end LayeredConfig
