import Mathlib
import LayeredConfig.Proofs.Store.Operation

set_option autoImplicit false

/-!
# What layers remember

The layers of a store as a record of its past. Operations that failed leave no trace in them. Of
those that succeeded, a layer of values keeps the last write at each path, unless a removal came
after it, in the order of these writes, and the layer of sources keeps what was merged and not
removed afterwards.

## Main definitions

* `surviving` — what events bring and no later event discards.
* `Layer.lastWrites`, `Layer.Records` — what a layer of values keeps of its amendments.
* `Operation.keptSources` — what the layer of sources keeps of the operations.

## Main results

* `surviving_concat`, `mem_surviving_iff` — one more event, and what survives.
* `Store.toLayers_run` — after a run, the layers are those that the successful operations make.
* `Store.layers_record_history` — what the layers keep of a run.
-/

namespace LayeredConfig

/-! ## What survives -/

section Surviving

variable {α β : Type} (brings : α → Option β) (discards : α → β → Bool)

/-- What events bring, in order, without what a later event discards. -/
def surviving : List α → List β
  | [] => []
  | a :: as =>
    match brings a with
    | some b => if as.any fun a' => discards a' b then surviving as else b :: surviving as
    | none => surviving as

/-- One more event discards some of what survived so far, and what it brings comes last. -/
lemma surviving_concat (as : List α) (a : α) :
    surviving brings discards (as ++ [a]) =
      (surviving brings discards as).filter (fun b => !discards a b) ++ (brings a).toList := by
  induction as with
  | nil => cases h : brings a <;> simp [surviving, h]
  | cons a' as ih =>
    simp only [List.cons_append, surviving]
    cases brings a' with
    | none => exact ih
    | some b =>
      by_cases hl : as.any (fun a' => discards a' b)
      · simp [hl, ih]
      · cases ha : discards a b <;> simp [hl, ha, ih]

/-- What the first event brings survives iff no later event discards it. -/
lemma mem_surviving_cons {a : α} {as : List α} {b : β} :
    b ∈ surviving brings discards (a :: as) ↔
      (brings a = some b ∧ ∀ a' ∈ as, discards a' b = false) ∨ b ∈ surviving brings discards as := by
  rw [surviving]
  cases brings a with
  | none => simp
  | some c =>
    by_cases hc : as.any (fun a' => discards a' c)
    · have hbc : ¬ (c = b ∧ ∀ a' ∈ as, discards a' b = false) := by
        rintro ⟨rfl, hd⟩
        obtain ⟨a', ha', hdc⟩ := List.any_eq_true.mp hc
        rw [hd a' ha'] at hdc
        cases hdc
      simp [hc, hbc]
    · have hd : ∀ a' ∈ as, discards a' c = false := by simpa using hc
      have hbc : (c = b ∧ ∀ a' ∈ as, discards a' b = false) ↔ b = c :=
        ⟨fun h => h.1.symm, fun h => ⟨h.symm, h ▸ hd⟩⟩
      simp [hc, hbc]

/-- What survives was brought by an event after which no event discards it. -/
lemma mem_surviving_iff {as : List α} {b : β} :
    b ∈ surviving brings discards as ↔
      ∃ before a after, as = before ++ a :: after ∧ brings a = some b ∧
        ∀ a' ∈ after, discards a' b = false := by
  induction as with
  | nil => simp [surviving]
  | cons a as ih =>
    rw [mem_surviving_cons, ih]
    constructor
    · rintro (⟨hb, hd⟩ | ⟨before, a', after, rfl, hb, hd⟩)
      · exact ⟨[], a, as, rfl, hb, hd⟩
      · exact ⟨a :: before, a', after, rfl, hb, hd⟩
    · rintro ⟨_ | ⟨c, before⟩, a', after, h, hb, hd⟩
      · obtain ⟨rfl, rfl⟩ := List.cons.inj h
        exact .inl ⟨hb, hd⟩
      · obtain ⟨-, rfl⟩ := List.cons.inj h
        exact .inr ⟨before, a', after, rfl, hb, hd⟩

end Surviving

/-! ## Layers of values -/

namespace Layer

/-- The last writes among amendments of a layer: what each of them writes, in order, unless a later
one has the same path. -/
def lastWrites (as : List (Path × Option Value)) : Layer :=
  surviving (fun a => a.2.map fun v => (a.1, v)) (fun a e => e.1 = a.1) as

/-- One more amendment amends the layer of the last writes. -/
lemma lastWrites_concat (as : List (Path × Option Value)) (a : Path × Option Value) :
    lastWrites (as ++ [a]) = (lastWrites as).amend a := by
  obtain ⟨p, _ | v⟩ := a
  · simp [lastWrites, surviving_concat, amend, Entries.erase]
  · simp [lastWrites, surviving_concat, amend, Entries.move, Entries.erase]

/-- An amendment never makes a path stand in a layer twice. -/
lemma nodup_keys_amend {l : Layer} (h : l.keys.Nodup) (a : Path × Option Value) :
    (l.amend a).keys.Nodup := by
  have herase : (l.erase a.1).keys.Nodup :=
    h.sublist (List.Sublist.map Prod.fst List.filter_sublist)
  obtain ⟨p, _ | v⟩ := a
  · exact herase
  · have hp : p ∉ (l.erase p).keys := by simp [Entries.erase, Entries.keys]
    have hkeys : (l.move p v).keys = (l.erase p).keys.concat p := by
      simp [Entries.move, Entries.keys]
    change (l.move p v).keys.Nodup
    rw [hkeys]
    exact List.Nodup.concat hp herase

/-- What a layer of values keeps of its amendments. -/
structure Records (l : Layer) (as : List (Path × Option Value)) : Prop where
  /-- It holds the last writes, in the order in which they were made. -/
  eq_lastWrites : l = lastWrites as
  /-- No path stands in it twice. -/
  nodup_keys : l.keys.Nodup
  /-- A value stands at a path iff the last amendment at the path wrote it. -/
  mem_iff : ∀ p v, (p, v) ∈ l ↔
    ∃ before after, as = before ++ (p, some v) :: after ∧ ∀ a ∈ after, a.1 ≠ p

/-- The layer of the last writes keeps what a layer should. -/
lemma records_lastWrites (as : List (Path × Option Value)) : (lastWrites as).Records as where
  eq_lastWrites := rfl
  nodup_keys := by
    induction as using List.reverseRecOn with
    | nil => exact List.nodup_nil
    | append_singleton as a ih =>
      rw [lastWrites_concat]
      exact nodup_keys_amend ih a
  mem_iff p v := by
    rw [lastWrites, mem_surviving_iff]
    constructor
    · rintro ⟨before, ⟨q, o⟩, after, rfl, hb, hd⟩
      obtain ⟨u, rfl, hu⟩ := Option.map_eq_some_iff.mp hb
      obtain ⟨rfl, rfl⟩ := Prod.mk.inj hu
      exact ⟨before, after, rfl, fun a ha h => by simpa [h] using hd a ha⟩
    · rintro ⟨before, after, rfl, hd⟩
      exact ⟨before, (p, some v), after, rfl, rfl, fun a ha => decide_eq_false (hd a ha).symm⟩

end Layer

variable {ω : Type}

/-! ## The layer of sources -/

namespace Operation

/-- The source that an operation merges, if it does. -/
def merged? : Operation ω → Option (Registered ω)
  | .merge r => some r
  | _ => none

/-- Whether an operation removes a source. -/
def drops : Operation ω → Registered ω → Bool
  | .removeSource id, r => r.source.id.isText id
  | _, _ => false

/-- The sources that operations merge, in order, without those that a later one removes. -/
def keptSources (ops : List (Operation ω)) : List (Registered ω) :=
  surviving merged? drops ops

/-- One more operation amends the sources that are kept. -/
lemma keptSources_concat (ops : List (Operation ω)) (op : Operation ω) :
    keptSources (ops ++ [op]) = op.amendSources (keptSources ops) := by
  rw [keptSources, surviving_concat]
  cases op <;> simp [amendSources, merged?, drops, keptSources]

end Operation

/-! ## Runs -/

namespace Store

/-- The layers that operations make which succeed one after the other. -/
def recorded (done : List (Operation ω)) : Layers ω where
  defaults := .lastWrites (done.filterMap Operation.default?)
  sources := Operation.keptSources done
  overrides := .lastWrites (done.filterMap Operation.override?)

/-- One more operation amends the layers. -/
lemma recorded_concat (done : List (Operation ω)) (op : Operation ω) :
    recorded (done ++ [op]) = op.amend (recorded done) := by
  unfold recorded Operation.amend
  congr 1
  · cases h : op.default? <;> simp [h, Layer.lastWrites_concat]
  · exact Operation.keptSources_concat done op
  · cases h : op.override? <;> simp [h, Layer.lastWrites_concat]

/-- After a run, the layers are those that were there, amended by the operations that succeeded. -/
lemma toLayers_run (s : Store ω) (ops : List (Operation ω × ω)) :
    (s.run ops).toLayers = (s.succeeded ops).foldl (fun l op => op.amend l) s.toLayers := by
  induction ops generalizing s with
  | nil => rfl
  | cons o ops ih =>
    obtain ⟨op, w⟩ := o
    change ((op.perform (s, w)).2.1.run ops).toLayers = _
    rw [ih, succeeded]
    rcases hp : op.perform (s, w) with ⟨e | _, s', w'⟩
    · rw [Operation.perform_error hp]
    · obtain ⟨-, f, leaves, hf, -, rfl⟩ := Operation.perform_ok_iff.mp hp
      obtain rfl := Operation.edit_eq_amend hf
      rfl

/-- Operations that succeed one after the other, from a store without settings, make the layers that
record them. -/
lemma foldl_amend_eq_recorded (done : List (Operation ω)) :
    done.foldl (fun l op => op.amend l) (empty : Store ω).toLayers = recorded done := by
  induction done using List.reverseRecOn with
  | nil => rfl
  | append_singleton done op ih => rw [List.foldl_append, ih, recorded_concat]; rfl

/-- **The layers record the history**: after any run from a store without settings, each layer of
values keeps the last write at each path, unless a removal that succeeded came after it, in the
order of these writes, and the layer of sources keeps the sources that were merged and not removed
afterwards. Operations that failed have left nothing behind.

**Proof sketch.** A failed operation changes no layer, and a successful one amends each layer by
itself (`Operation.edit_eq_amend`). So the layers are made by the successful operations alone, and
an induction on these, from the last one, compares the amended layers with what survives. -/
theorem layers_record_history (ops : List (Operation ω × ω)) :
    let s := (empty : Store ω).run ops
    let done := (empty : Store ω).succeeded ops
    s.overrides.Records (done.filterMap Operation.override?) ∧
      s.defaults.Records (done.filterMap Operation.default?) ∧
      s.sources = Operation.keptSources done := by
  intro s done
  have hs : s.toLayers = recorded done := by
    rw [toLayers_run, foldl_amend_eq_recorded]
  refine ⟨?_, ?_, ?_⟩
  · rw [hs]
    exact Layer.records_lastWrites _
  · rw [hs]
    exact Layer.records_lastWrites _
  · rw [hs]
    rfl

/-- Spellings of a path that are read alike are one path: letter case and leading zeros do not
count. -/
example :
    let ops : List (Operation Unit) :=
      [.set "A.B" (.integer 1), .set "a[01]" (.integer 2), .set "c" (.integer 3),
        .set "a.b" (.integer 4), .unset "A[1]"]
    Layer.lastWrites (ops.filterMap Operation.override?) =
      [([.key "c"], .scalar none (.integer 3)),
        ([.key "a", .key "b"], .scalar none (.integer 4))] := by
  cbv

end Store

end LayeredConfig
