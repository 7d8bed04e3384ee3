import Mathlib
import LayeredConfig.Environment
import LayeredConfig.Proofs.Store.Operation
import LayeredConfig.Proofs.Text.Sorting
import LayeredConfig.Proofs.Value.Replacing
import LayeredConfig.Snapshot

set_option autoImplicit false

/-!
# Settings from a keyspace, however it is scanned

A server lists the keys that match a pattern in any order, and may list a key more than once.
Sorting the keys leaves one order, in which a key that is listed again follows itself. To set the
same text at the same key once more changes nothing, so the settings depend on which keys are listed
and what stands under them, and on nothing else; and so does the merged tree of a store, since no
other source looks at the keyspace. What a server may fail with is a fault of the source, unless it
is another fault than those that servers are known to have.

## Main definitions

* `RedisSource.Escapes` — the faults that are not said to be faults of the source.
* `World.Rescanned` — the same surroundings, in which the server scans its keys in another way.
* `World.Steady` — a step does not depend on how the server scans.

## Main results

* `RedisSource.table_or_fault` — how collecting ends.
* `Adapter.steady` — no source depends on how the server scans.
* `RedisSource.scan_independent` — neither settings nor stores depend on how the server scans.
-/

namespace LayeredConfig

/-! ## How collecting ends -/

namespace RedisSource

/-- The table of settings. -/
def tableOf (fields : Entries String Value) : Datum :=
  .record (fields.map fun e => (e.1, .value e.2))

/-- The faults of collecting that are not said to be faults of the source. -/
inductive Escapes (s : RedisSource) (w : World) : Fault → Prop
  /-- Scanning has the fault. -/
  | scan {e : Fault} : w.keyspace.scan s.pattern = .error (.other e) → Escapes s w e
  /-- Reading what stands under the keys has it. -/
  | read {scan : List String} {e : Fault} :
      w.keyspace.scan s.pattern = .ok scan → scan ≠ [] →
      w.keyspace.read (scan.mergeSort textLe) = .error (.other e) → Escapes s w e

section Cases

variable {s : RedisSource} {w : World}

/-- The surroundings after a scan. -/
def afterScan (s : RedisSource) (w : World) : World :=
  Action.note (.scan s.pattern) w

/-- The server does not let its keys be scanned. -/
lemma collect_of_scan_error {e : KeyspaceFault} (h : w.keyspace.scan s.pattern = .error e) :
    s.collect w = (.error (s.blame e), s.afterScan w) := by
  simp [collect, afterScan, Action.note, h]

/-- The server lists no keys. -/
lemma collect_of_nil (h : w.keyspace.scan s.pattern = .ok []) :
    s.collect w = (.ok (tableOf []), s.afterScan w) := by
  simp [collect, afterScan, Action.note, h, tableOf, Datum.record]

/-- The server lists keys, and what stands under them is read. -/
lemma collect_of_scan {scan : List String} (h : w.keyspace.scan s.pattern = .ok scan)
    (hscan : scan ≠ []) :
    s.collect w = (((w.keyspace.read (scan.mergeSort textLe)).mapError s.blame).map fun texts =>
        tableOf (s.settings ((scan.mergeSort textLe).zip texts)),
      Action.note (.read (scan.mergeSort textLe)) (s.afterScan w)) := by
  have hkeys : (scan.mergeSort textLe).isEmpty = false := by
    rw [List.isEmpty_eq_false_iff, ← List.length_pos_iff, List.length_mergeSort]
    exact List.length_pos_iff.mpr hscan
  simp only [collect, afterScan, Action.note, h, hkeys, tableOf]
  cases w.keyspace.read (scan.mergeSort textLe) <;> rfl

/-- Collecting fails with each fault that escapes. -/
lemma collect_of_escapes {e : Fault} (h : s.Escapes w e) : (s.collect w).1 = .error e := by
  cases h with
  | scan h =>
    rw [collect_of_scan_error h]
    rfl
  | read h hscan hread =>
    rw [collect_of_scan h hscan, hread]
    rfl

/-- **How settings of a keyspace are collected**: they are a table of values, or the fault is one of
the source or escapes. -/
theorem table_or_fault (s : RedisSource) (w : World) :
    (∃ fields, (s.collect w).1 = .ok (tableOf fields)) ∨
    ∃ e, (s.collect w).1 = .error e ∧
      ((∃ diagnostic, e = .source (some s.name) diagnostic) ∨ s.Escapes w e) := by
  cases h : w.keyspace.scan s.pattern with
  | error e =>
    refine .inr ⟨s.blame e, by rw [collect_of_scan_error h], ?_⟩
    cases e with
    | server diagnostic => exact .inl ⟨_, rfl⟩
    | other e => exact .inr (.scan h)
  | ok scan =>
    by_cases hscan : scan = []
    · rw [hscan] at h
      exact .inl ⟨[], by rw [collect_of_nil h]⟩
    · rw [collect_of_scan h hscan]
      cases hread : w.keyspace.read (scan.mergeSort textLe) with
      | ok texts => exact .inl ⟨_, rfl⟩
      | error e =>
        refine .inr ⟨s.blame e, rfl, ?_⟩
        cases e with
        | server diagnostic => exact .inl ⟨_, rfl⟩
        | other e => exact .inr (.read h hscan hread)

end Cases

end RedisSource

/-! ## Surroundings that differ in scans -/

namespace Keyspace

/-- Two scans list the same keys, in any order and however often, or have the same fault. -/
inductive ScanAlike :
    Except KeyspaceFault (List String) → Except KeyspaceFault (List String) → Prop
  /-- They have the same fault. -/
  | fault (e : KeyspaceFault) : ScanAlike (.error e) (.error e)
  /-- They list the same keys. -/
  | keys {scan scan' : List String} :
      (∀ key, key ∈ scan ↔ key ∈ scan') → ScanAlike (.ok scan) (.ok scan')

/-- Two reads of keys answer key by key, with the same texts, or have the same fault. -/
inductive ReadAlike (keys keys' : List String) :
    Except KeyspaceFault (List (Option String)) →
      Except KeyspaceFault (List (Option String)) → Prop
  /-- They have the same fault. -/
  | fault (e : KeyspaceFault) : ReadAlike keys keys' (.error e) (.error e)
  /-- They answer key by key. -/
  | texts (text : String → Option String) :
      ReadAlike keys keys' (.ok (keys.map text)) (.ok (keys'.map text))

/-- A server that scans its keys in another way: to each pattern it lists the same keys, in any
order and however often, with the same texts under them, and it has the same faults. -/
structure Rescanned (a b : Keyspace) : Prop where
  /-- Connections have the same fault, if any. -/
  connect : a.connect = b.connect
  /-- The same keys are listed. -/
  scan : ∀ pattern, ScanAlike (a.scan pattern) (b.scan pattern)
  /-- The same texts stand under the same keys. -/
  read : ∀ keys keys' : List String, (∀ key, key ∈ keys ↔ key ∈ keys') →
    ReadAlike keys keys' (a.read keys) (b.read keys')

end Keyspace

/-- Surroundings in which the server scans its keys in another way, and in which other calls may
have been noted. -/
inductive World.Rescanned (w : World) : World → Prop
  /-- Nothing else has changed. -/
  | intro {k : Keyspace} (calls : List Call) :
      w.keyspace.Rescanned k → Rescanned w { w with keyspace := k, calls := calls }

/-- The server scans its keys in another way. -/
lemma World.Rescanned.keyspace {w w' : World} (h : w.Rescanned w') :
    w.keyspace.Rescanned w'.keyspace := by
  obtain ⟨_, hk⟩ := h
  exact hk

/-- A call is noted in both surroundings, whatever it is. -/
lemma World.Rescanned.note {w w' : World} (h : w.Rescanned w') (c c' : Call) :
    (Action.note c w).Rescanned (Action.note c' w') := by
  obtain ⟨_, hk⟩ := h
  exact .intro _ hk

/-- How a step ends does not depend on how the server scans. -/
def World.Steady {γ : Type} (step : World → γ × World) : Prop :=
  ∀ w w' : World, w.Rescanned w' →
    (step w).1 = (step w').1 ∧ (step w).2.Rescanned (step w').2

/-- A step that does not depend on how the server scans ends in one way, in surroundings that differ
in the scans at most. -/
lemma World.Steady.cases {γ : Type} {step : World → γ × World} (hstep : World.Steady step)
    {w w' : World} (h : w.Rescanned w') :
    ∃ c w₁ w₁', step w = (c, w₁) ∧ step w' = (c, w₁') ∧ w₁.Rescanned w₁' := by
  obtain ⟨hends, hafter⟩ := hstep w w' h
  exact ⟨(step w).1, (step w).2, (step w').2, rfl, Prod.ext hends.symm rfl, hafter⟩

namespace RedisSource

/-- A text may stand before another one iff it is not greater. -/
lemma textLe_iff {a b : String} : textLe a b = true ↔ a ≤ b := by
  rw [textLe, Bool.not_eq_true', decide_eq_false_iff_not, not_lt]

/-- The settings of keys depend on their set, and on what stands under them. -/
lemma settings_mergeSort_congr (s : RedisSource) (answer : String → Option String)
    {scan scan' : List String} (h : ∀ key, key ∈ scan ↔ key ∈ scan') :
    s.settings ((scan.mergeSort textLe).map fun k => (k, answer k)) =
      s.settings ((scan'.mergeSort textLe).map fun k => (k, answer k)) := by
  unfold settings
  rw [List.foldl_map, List.foldl_map]
  refine foldl_mergeSort_congr (fun _ _ => textLe_iff) (fun done key => ?_) h []
  cases answer key with
  | none => rfl
  | some t => exact Entries.put_put_self _ _ _ done

/-- A keyspace as a source does not depend on how the server scans. -/
lemma steady_collect (s : RedisSource) : World.Steady s.collect := by
  intro w w' h
  have hafter : (s.afterScan w).Rescanned (s.afterScan w') := h.note _ _
  have hscans := h.keyspace.scan s.pattern
  generalize hx : w.keyspace.scan s.pattern = x, hx' : w'.keyspace.scan s.pattern = x' at hscans
  cases hscans with
  | fault e =>
    rw [collect_of_scan_error hx, collect_of_scan_error hx']
    exact ⟨rfl, hafter⟩
  | @keys scan scan' hkeys =>
    have hnil : scan = [] ↔ scan' = [] := by
      simp only [List.eq_nil_iff_forall_not_mem, hkeys]
    by_cases hscan : scan = []
    · rw [hscan] at hx
      rw [hnil.mp hscan] at hx'
      rw [collect_of_nil hx, collect_of_nil hx']
      exact ⟨rfl, hafter⟩
    · rw [collect_of_scan hx hscan, collect_of_scan hx' (mt hnil.mpr hscan)]
      refine ⟨?_, hafter.note _ _⟩
      have hreads := h.keyspace.read (scan.mergeSort textLe) (scan'.mergeSort textLe) (by
        simpa only [List.mem_mergeSort] using hkeys)
      generalize w.keyspace.read (scan.mergeSort textLe) = y,
        w'.keyspace.read (scan'.mergeSort textLe) = y' at hreads
      cases hreads with
      | fault e => rfl
      | texts text =>
        have hsettings := s.settings_mergeSort_congr text hkeys
        rw [List.map_prod_left_eq_zip, List.map_prod_left_eq_zip] at hsettings
        simp only [Except.mapError, Except.map, hsettings]

end RedisSource

/-- A file as a source does not look at the server. -/
lemma FileSource.steady_collect (s : FileSource) : World.Steady s.collect := by
  rintro w _ ⟨_, hk⟩
  exact ⟨rfl, .intro _ hk⟩

namespace GitHubSource

/-- A call of the web server does not depend on how the other server scans. -/
lemma steady_fetch (c : Call) : World.Steady (fetch c) := by
  rintro ⟨files, readers, environ, keyspace, ⟨connect, refusal, answers⟩, feeds, streams, calls,
    warnings⟩ _ ⟨_, hk⟩
  cases hrefusal : refusal c with
  | some e =>
    simp only [fetch, hrefusal]
    exact ⟨trivial, .intro _ hk⟩
  | none =>
    cases answers <;>
    · simp only [fetch, hrefusal]
      exact ⟨trivial, .intro _ hk⟩

/-- Listing variables does not depend on how the other server scans. -/
lemma steady_listFrom (path : String) (fuel page : Nat) :
    World.Steady (listFrom path fuel page) := by
  induction fuel generalizing page with
  | zero => exact fun _ _ h => ⟨rfl, h⟩
  | succ fuel ih =>
    intro w w' h
    obtain ⟨outcome, w₁, w₁', hw, hw', h₁⟩ := (steady_fetch (.page path pageSize page)).cases h
    simp only [listFrom, hw, hw']
    cases answered outcome with
    | error e => exact ⟨rfl, h₁⟩
    | ok found =>
      obtain ⟨r, w₂, w₂', hw₁, hw₁', h₂⟩ := (ih (page + 1)).cases h₁
      simp only [hw₁, hw₁']
      split_ifs
      · exact ⟨rfl, h₁⟩
      · cases r with
        | error e => exact ⟨rfl, h₂⟩
        | ok more => exact ⟨rfl, h₂⟩

/-- The variables of an environment as a source do not look at the other server. -/
lemma steady_collect (s : GitHubSource) : World.Steady s.collect := by
  intro w w' h
  have hweb : w'.web = w.web := by
    obtain ⟨_, -⟩ := h
    rfl
  obtain ⟨r, w₁, w₁', hw, hw', h₁⟩ :=
    (steady_listFrom s.address.path (w.web.answers.length + 1) 1).cases h
  simp only [collect, list, hweb, hw, hw']
  cases r with
  | error e => exact ⟨rfl, h₁⟩
  | ok found => exact ⟨rfl, h₁⟩

end GitHubSource

/-- **No source depends on how the server scans**, whatever its kind. -/
theorem Adapter.steady (a : Adapter) : World.Steady a.source.collect := by
  cases a with
  | memory s =>
    rintro w _ ⟨_, hk⟩
    exact ⟨rfl, .intro _ hk⟩
  | environ s =>
    rintro w _ ⟨_, hk⟩
    exact ⟨rfl, .intro _ hk⟩
  | file s => exact s.steady_collect
  | redis s => exact s.steady_collect
  | gitHub s => exact s.steady_collect

/-! ## Stores -/

/-- What a source contributes does not depend on how the server scans, if its settings do not. -/
lemma Registered.steady_contribute {r : Registered World} (hr : World.Steady r.source.collect) :
    World.Steady r.contribute := by
  intro w w' h
  obtain ⟨c, w₁, w₁', hw, hw', h₁⟩ := hr.cases h
  simp only [contribute, hw, hw']
  cases c with
  | error e => exact ⟨rfl, h₁⟩
  | ok payload =>
    dsimp only
    cases contribution payload with
    | error e => exact ⟨rfl, h₁⟩
    | ok leaves => exact ⟨rfl, h₁⟩

/-- What sources contribute does not depend on how the server scans, if their settings do not. -/
lemma steady_gather {rs : List (Registered World)}
    (hrs : ∀ r ∈ rs, World.Steady r.source.collect) : World.Steady (gather rs) := by
  induction rs with
  | nil => exact fun _ _ h => ⟨rfl, h⟩
  | cons r rs ih =>
    obtain ⟨hr, hrs⟩ := List.forall_mem_cons.mp hrs
    intro w w' h
    obtain ⟨c, w₁, w₁', hw, hw', h₁⟩ := (Registered.steady_contribute hr).cases h
    simp only [gather, hw, hw']
    cases c with
    | error e => exact ⟨rfl, h₁⟩
    | ok leaves =>
      obtain ⟨c, w₂, w₂', hw₁, hw₁', h₂⟩ := (ih hrs).cases h₁
      simp only [hw₁, hw₁']
      cases c with
      | error e => exact ⟨rfl, h₂⟩
      | ok more => exact ⟨rfl, h₂⟩

/-- **No operation on a store depends on how the server scans**, if the settings of the sources do
not that are there after it. -/
theorem Store.steady_after {st : Store World} {op : Operation World}
    (hsources : ∀ r ∈ op.amendSources st.sources, World.Steady r.source.collect) :
    World.Steady (st.after op) := by
  intro w w' h
  simp only [after, Operation.perform_eq_revise, revise_eq]
  split_ifs
  · exact ⟨rfl, h⟩
  · cases hedit : op.edit with
    | error e => exact ⟨rfl, h⟩
    | ok f =>
      obtain rfl := Operation.edit_eq_amend hedit
      obtain ⟨c, w₁, w₁', hw, hw', h₁⟩ := (steady_gather hsources).cases h
      simp only [Operation.amend, hw, hw']
      cases c with
      | error e => exact ⟨rfl, h₁⟩
      | ok leaves => exact ⟨rfl, h₁⟩

namespace RedisSource

/-- **Settings from a keyspace do not depend on how the server scans.**

* Two scans that list the same keys, in any order and however often, lead to the same settings, in
  the same order, whatever stands under the keys.
* So collecting ends in the same way.
* So does merging the source into a store, and with any other operation: the new store, with its
  merged tree, or the fault is the same, if the other sources do not depend on scans.
* No source does, of whatever kind.

**Proof sketch.** Sorting the keys leaves one order but for repetitions, and setting the same text
at the same key once more changes nothing (`foldl_mergeSort_congr`). The other sources do not look
at the keyspace (`Adapter.steady`); so the sources of a store contribute the same, one after the
other (`steady_gather`). -/
theorem scan_independent :
    (∀ (s : RedisSource) (answer : String → Option String) (scan scan' : List String),
      (∀ key, key ∈ scan ↔ key ∈ scan') →
      s.settings ((scan.mergeSort textLe).map fun k => (k, answer k)) =
        s.settings ((scan'.mergeSort textLe).map fun k => (k, answer k))) ∧
    (∀ (s : RedisSource) (w w' : World), w.Rescanned w' → (s.collect w).1 = (s.collect w').1) ∧
    (∀ (st : Store World) (s : RedisSource) (f : Option Filter) (w w' : World),
      (∀ r ∈ st.sources, World.Steady r.source.collect) → w.Rescanned w' →
      (st.merge ⟨(Adapter.redis s).source, f⟩ w).1 =
        (st.merge ⟨(Adapter.redis s).source, f⟩ w').1) ∧
    ∀ a : Adapter, World.Steady a.source.collect := by
  refine ⟨fun s answer scan scan' h => s.settings_mergeSort_congr answer h,
    fun s w w' h => (s.steady_collect w w' h).1, fun st s f w w' hsources h => ?_, Adapter.steady⟩
  have hmerged : ∀ r ∈ st.sources ++ [⟨(Adapter.redis s).source, f⟩],
      World.Steady r.source.collect := by
    refine List.forall_mem_append.mpr ⟨hsources, List.forall_mem_singleton.mpr ?_⟩
    exact Adapter.steady (.redis s)
  have hmerge : World.Steady (st.merge ⟨(Adapter.redis s).source, f⟩) :=
    Store.steady_after hmerged
  exact (hmerge w w' h).1

/-- A server that lists keys in answer to any pattern, and under two of which different texts
stand. -/
def colliding (scan : List String) : World :=
  { World.bare with
    keyspace :=
      { connect := fun _ => .ok ()
        scan := fun _ => .ok scan
        read := fun keys => .ok (keys.map fun key =>
          if key = "app:a:b" then some "first" else if key = "app:a.b" then some "second"
          else none) } }

/-- The same keys are listed in another way. -/
lemma rescanned_colliding {scan scan' : List String} (h : ∀ key, key ∈ scan ↔ key ∈ scan') :
    (colliding scan).Rescanned (colliding scan') :=
  .intro [] ⟨rfl, fun _ => .keys h, fun _ _ _ => .texts _⟩

/-- A source for which the keys stand for the same setting. -/
def application : RedisSource :=
  make "redis://server" "app:" (some ":") none

/-- Two keys stand for the same setting, and one of them is listed again: in whatever order they are
listed, the same of them sets it. -/
theorem scan_independent_colliding :
    let scan := ["app:a:b", "app:a.b"]
    let scan' := ["app:a.b", "app:a:b", "app:a.b"]
    (colliding scan).Rescanned (colliding scan') ∧
      (application.collect (colliding scan)).1 = (application.collect (colliding scan')).1 ∧
      (Store.empty.merge ⟨(Adapter.redis application).source, none⟩ (colliding scan)).1 =
        (Store.empty.merge ⟨(Adapter.redis application).source, none⟩ (colliding scan')).1 := by
  intro scan scan'
  have h : (colliding scan).Rescanned (colliding scan') :=
    rescanned_colliding (by simp only [scan, scan', List.mem_cons, List.not_mem_nil]; tauto)
  exact ⟨h, scan_independent.2.1 _ _ _ h,
    scan_independent.2.2.1 _ _ _ _ _ (List.forall_mem_nil _) h⟩

end RedisSource

end LayeredConfig
