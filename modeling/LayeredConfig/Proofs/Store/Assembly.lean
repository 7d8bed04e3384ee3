import Mathlib
import LayeredConfig.Proofs.Store.Reachable
import LayeredConfig.Proofs.Store.ReadBack

set_option autoImplicit false

/-!
# Building at once and step by step

A store can be built from all three layers at once, or by single operations: the defaults are set
one after the other, then the sources are merged, then the overrides are set. The former builds the
tree a single time, the latter after every step, and asks a source again in each step that comes
after it. As long as asking the sources changes nothing, both succeed for the same layers, and with
the same store.

## Main definitions

* `Source.Quiet` — sources that leave their surroundings as they are.
* `Datum.textual` — entries whose keys are texts.
* `Store.afterAll` — the store after a sequence of operations that all have to succeed.
* `Store.assembly` — the operations that build a store step by step.

## Main results

* `Store.afterAll_entries_ok_iff` — setting the entries of a table one after the other.
* `Store.afterAll_merge_ok_iff` — merging sources one after the other.
* `Store.ofLayers_ok_iff_assembly` — building at once and step by step.
-/

namespace LayeredConfig

variable {ω : Type}

/-! ## Sources that change nothing -/

/-- Asking the source leaves the surroundings as they are. So it answers the same as long as nothing
else changes them. -/
def Source.Quiet (src : Source ω) : Prop :=
  ∀ w, (src.collect w).2 = w

/-- A source that always contributes the same payload changes nothing. -/
lemma Source.quiet_fixed (payload : Datum) : (Source.fixed payload : Source ω).Quiet :=
  fun _ => rfl

/-- Sources that change nothing leave the surroundings as they are. -/
lemma Contributed.eq_of_quiet {rs : List (Registered ω)} {w w' : ω} {leaves : List (Path × Value)}
    (h : Contributed rs w leaves w') (hquiet : ∀ r ∈ rs, r.source.Quiet) : w' = w := by
  induction h with
  | nil w => rfl
  | @cons r rs w w₁ w₂ payload leaves more hc hl hrest ih =>
    obtain ⟨hr, hrs⟩ := List.forall_mem_cons.mp hquiet
    obtain rfl : w₁ = w := by simpa [hc] using hr w
    exact ih hrs

/-- Sources in two parts contribute one part after the other. -/
lemma contributed_append_iff {rs ss : List (Registered ω)} {w w' : ω}
    {leaves : List (Path × Value)} :
    Contributed (rs ++ ss) w leaves w' ↔
      ∃ first w₁ more, Contributed rs w first w₁ ∧ Contributed ss w₁ more w' ∧
        leaves = first ++ more := by
  induction rs generalizing w leaves with
  | nil =>
    constructor
    · intro h
      exact ⟨[], w, leaves, .nil w, h, rfl⟩
    · rintro ⟨first, w₁, more, hf, hm, rfl⟩
      cases hf
      exact hm
  | cons r rs ih =>
    constructor
    · intro h
      cases h with
      | cons hc hl hrest =>
        obtain ⟨first, w₁, more, hf, hm, rfl⟩ := ih.mp hrest
        exact ⟨_, w₁, more, .cons hc hl hf, hm, (List.append_assoc _ _ _).symm⟩
    · rintro ⟨first, w₁, more, hf, hm, rfl⟩
      cases hf with
      | cons hc hl hrest =>
        rw [List.append_assoc]
        exact .cons hc hl (ih.mpr ⟨_, w₁, more, hrest, hm, rfl⟩)

/-- Sources contribute one thing only. -/
lemma Contributed.unique {rs : List (Registered ω)} {w w₁ w₂ : ω}
    {leaves leaves' : List (Path × Value)} (h : Contributed rs w leaves w₁)
    (h' : Contributed rs w leaves' w₂) : leaves = leaves' ∧ w₁ = w₂ := by
  have heq := (gather_ok_iff.mpr h).symm.trans (gather_ok_iff.mpr h')
  simpa using heq

/-! ## Sequences of operations -/

/-- Entries whose keys are texts. -/
def Datum.textual (es : List (String × Datum)) : List (DatumKey × Datum) :=
  es.map fun e => (.text e.1, e.2)

namespace Store

/-- The store after a sequence of operations, performed in order up to the first that fails. -/
def afterAll (s : Store ω) : List (Operation ω) → Action ω (Store ω)
  | [], w => (.ok s, w)
  | op :: ops, w =>
    match s.after op w with
    | (.error e, w') => (.error e, w')
    | (.ok s', w') => s'.afterAll ops w'

/-- All operations of a sequence succeed iff the first one does, and the others do after it. -/
lemma afterAll_cons_ok_iff {s s' : Store ω} {op : Operation ω} {ops : List (Operation ω)}
    {w w' : ω} :
    s.afterAll (op :: ops) w = (.ok s', w') ↔
      ∃ s₁ w₁, s.after op w = (.ok s₁, w₁) ∧ s₁.afterAll ops w₁ = (.ok s', w') := by
  rw [afterAll]
  rcases s.after op w with ⟨_ | s₁, w₁⟩ <;> simp

/-- A sequence of operations in two parts is performed one part after the other. -/
lemma afterAll_append_ok_iff {s s' : Store ω} {ops ops' : List (Operation ω)} {w w' : ω} :
    s.afterAll (ops ++ ops') w = (.ok s', w') ↔
      ∃ s₁ w₁, s.afterAll ops w = (.ok s₁, w₁) ∧ s₁.afterAll ops' w₁ = (.ok s', w') := by
  induction ops generalizing s w with
  | nil => simp [afterAll]
  | cons op ops ih =>
    simp only [List.cons_append, afterAll_cons_ok_iff, ih]
    constructor
    · rintro ⟨s₁, w₁, h₁, s₂, w₂, h₂, h⟩
      exact ⟨s₂, w₂, ⟨s₁, w₁, h₁, h₂⟩, h⟩
    · rintro ⟨s₂, w₂, ⟨s₁, w₁, h₁, h₂⟩, h⟩
      exact ⟨s₁, w₁, h₁, s₂, w₂, h₂, h⟩

/-- An operation on a built store succeeds iff its edit is possible and all sources contribute that
are there after it. -/
lemma built_after_ok_iff {l : Layers ω} {leaves : List (Path × Value)} {op : Operation ω}
    {s : Store ω} {w w' : ω} :
    (built l leaves).after op w = (.ok s, w') ↔
      ∃ f leaves', op.edit = .ok f ∧ Contributed (f l).sources w leaves' w' ∧
        s = built (f l) leaves' := by
  rw [after_ok_iff, Operation.perform_ok_iff]
  exact and_iff_right rfl

/-! ## Setting entries -/

section Entries

variable (op : String → Datum → Operation ω) (write : Path → Value → Layers ω → Layers ω)
  (layers : Layer → Layers ω) {rs : List (Registered ω)}

/-- **Setting the entries of a table** one after the other succeeds iff they make a layer, if all
sources contribute and asking them changes nothing. The operation `op` sets an entry by `write`,
which writes into the one layer that `layers` leaves open. -/
lemma afterAll_entries_ok_iff
    (hedit : ∀ key d, (op key d).edit =
      (do let p ← Path.parseKey key; let v ← Value.ofDatum d none; return write p v))
    (hwrite : ∀ p v layer, write p v (layers layer) = layers (layer.move p v))
    (hsources : ∀ layer, (layers layer).sources = rs)
    {leaves : List (Path × Value)} {w : ω} (hc : Contributed rs w leaves w)
    (es : List (String × Datum)) (done : Layer) (s : Store ω) (w' : ω) :
    (built (layers done) leaves).afterAll (es.map fun e => op e.1 e.2) w = (.ok s, w') ↔
      ∃ layer, layerOfEntries done (Datum.textual es) = .ok layer ∧
        s = built (layers layer) leaves ∧ w' = w := by
  induction es generalizing done with
  | nil => simp [afterAll, layerOfEntries, Datum.textual, eq_comm]
  | cons e es ih =>
    simp only [List.map_cons, afterAll_cons_ok_iff, built_after_ok_iff, Datum.textual,
      layerOfEntries, Layer.entry, hedit, Fault.bind_eq_ok_iff, bind_assoc, pure_bind]
    constructor
    · rintro ⟨_, w₁, ⟨f, leaves', ⟨p, hp, v, hv, hf⟩, hc', rfl⟩, h⟩
      obtain rfl := Except.ok.inj hf
      rw [hwrite, hsources] at hc'
      obtain ⟨rfl, rfl⟩ := hc.unique hc'
      rw [hwrite, ih] at h
      obtain ⟨layer, hlayer, hs⟩ := h
      exact ⟨layer, ⟨p, hp, v, hv, hlayer⟩, hs⟩
    · rintro ⟨layer, ⟨p, hp, v, hv, hlayer⟩, hs⟩
      refine ⟨_, w, ⟨write p v, leaves, ⟨p, hp, v, hv, rfl⟩, ?_, rfl⟩, ?_⟩
      · rwa [hwrite, hsources]
      · rw [hwrite]
        exact (ih _).mpr ⟨layer, hlayer, hs⟩

end Entries

/-- Entries that make a layer have texts for keys. -/
lemma exists_textual_of_layerOfEntries {es : List (DatumKey × Datum)} {done layer : Layer}
    (h : layerOfEntries done es = .ok layer) : ∃ fs, es = Datum.textual fs := by
  induction es generalizing done with
  | nil => exact ⟨[], rfl⟩
  | cons e es ih =>
    obtain ⟨x, hx, hrest⟩ := Fault.bind_eq_ok_iff.mp h
    obtain ⟨key, hkey, -⟩ := exists_of_entry hx
    obtain ⟨fs, rfl⟩ := ih hrest
    obtain ⟨k, d⟩ := e
    obtain rfl : k = .text key := hkey
    exact ⟨(key, d) :: fs, rfl⟩

/-! ## Merging sources -/

/-- **Merging sources** one after the other succeeds iff they all contribute, if asking them changes
nothing.

**Proof sketch.** Induction on the sources that are still to be merged. Each step asks those again
that are there already; they contribute what they contributed before. -/
lemma afterAll_merge_ok_iff {rs more : List (Registered ω)}
    (hquiet : ∀ r ∈ rs ++ more, r.source.Quiet) {leaves : List (Path × Value)} {w : ω}
    (hc : Contributed rs w leaves w) (below above : Layer) (s : Store ω) (w' : ω) :
    (built ⟨below, rs, above⟩ leaves).afterAll (more.map .merge) w = (.ok s, w') ↔
      ∃ leaves', Contributed (rs ++ more) w leaves' w' ∧
        s = built ⟨below, rs ++ more, above⟩ leaves' := by
  induction more generalizing rs leaves with
  | nil =>
    rw [List.append_nil]
    constructor
    · intro h
      obtain ⟨rfl, rfl⟩ : built ⟨below, rs, above⟩ leaves = s ∧ w = w' := by
        simpa [afterAll] using h
      exact ⟨leaves, hc, rfl⟩
    · rintro ⟨leaves', hc', rfl⟩
      obtain ⟨rfl, rfl⟩ := hc.unique hc'
      rfl
  | cons r more ih =>
    have hsplit : rs ++ r :: more = (rs ++ [r]) ++ more := by simp
    have hfirst : ∀ q ∈ rs ++ [r], q.source.Quiet := fun q hq =>
      hquiet q (hsplit ▸ List.mem_append_left more hq)
    rw [hsplit] at hquiet ⊢
    rw [List.map_cons, afterAll_cons_ok_iff]
    simp only [built_after_ok_iff]
    constructor
    · rintro ⟨_, w₁, ⟨f, leaves', hf, hc', rfl⟩, h⟩
      obtain rfl := Except.ok.inj hf
      obtain rfl := hc'.eq_of_quiet hfirst
      exact (ih hquiet hc').mp h
    · rintro ⟨leaves', hc', rfl⟩
      obtain ⟨first, w₁, rest, hf, hm, rfl⟩ := contributed_append_iff.mp hc'
      obtain rfl := hf.eq_of_quiet hfirst
      exact ⟨_, w₁, ⟨_, first, rfl, hf, rfl⟩, (ih hquiet hf).mpr ⟨_, hc', rfl⟩⟩

/-! ## The whole store -/

/-- The operations that build a store step by step: the defaults are set, then the sources are
merged, then the overrides are set, each in order. -/
def assembly (defaults : List (String × Datum)) (sources : List (Registered ω))
    (overrides : List (String × Datum)) : List (Operation ω) :=
  defaults.map (fun e => .setDefault e.1 e.2) ++ sources.map .merge ++
    overrides.map fun e => .set e.1 e.2

/-- Building step by step succeeds iff the entries make layers and the sources contribute. -/
lemma afterAll_assembly_ok_iff {defaults overrides : List (String × Datum)}
    {sources : List (Registered ω)} (hquiet : ∀ r ∈ sources, r.source.Quiet) {w w' : ω}
    {s : Store ω} :
    (empty : Store ω).afterAll (assembly defaults sources overrides) w = (.ok s, w') ↔
      ∃ below above leaves, layerOfEntries [] (Datum.textual defaults) = .ok below ∧
        layerOfEntries [] (Datum.textual overrides) = .ok above ∧
        Contributed sources w leaves w' ∧ s = built ⟨below, sources, above⟩ leaves := by
  have hdefaults :=
    afterAll_entries_ok_iff .setDefault (fun p v l => { l with defaults := l.defaults.move p v })
      (fun layer => ⟨layer, [], []⟩) (fun _ _ => rfl) (fun _ _ _ => rfl) (fun _ => rfl)
      (Contributed.nil w) defaults []
  have hsources (below : Layer) := afterAll_merge_ok_iff hquiet (Contributed.nil w) below []
  have hoverrides (below : Layer) {leaves : List (Path × Value)}
      (hc : Contributed sources w leaves w) :=
    afterAll_entries_ok_iff .set (fun p v l => { l with overrides := l.overrides.move p v })
      (fun layer => ⟨below, sources, layer⟩) (fun _ _ => rfl) (fun _ _ _ => rfl) (fun _ => rfl)
      hc overrides []
  rw [assembly]
  simp only [afterAll_append_ok_iff]
  constructor
  · rintro ⟨_, _, ⟨_, _, hd, hm⟩, ho⟩
    obtain ⟨below, hb, rfl, rfl⟩ := (hdefaults _ _).mp hd
    obtain ⟨leaves, hc, rfl⟩ := (hsources below _ _).mp hm
    obtain rfl := hc.eq_of_quiet hquiet
    obtain ⟨above, ha, rfl, rfl⟩ := (hoverrides below hc _ _).mp ho
    exact ⟨below, above, leaves, hb, ha, hc, rfl⟩
  · rintro ⟨below, above, leaves, hb, ha, hc, rfl⟩
    obtain rfl := hc.eq_of_quiet hquiet
    exact ⟨_, _, ⟨_, _, (hdefaults _ _).mpr ⟨below, hb, rfl, rfl⟩,
      (hsources below _ _).mpr ⟨leaves, hc, rfl⟩⟩,
      (hoverrides below hc _ _).mpr ⟨above, ha, rfl, rfl⟩⟩

/-- A store can be made of three layers at once iff the entries make layers and the sources
contribute. -/
lemma ofLayers_eq_built_iff {defaults overrides : List (DatumKey × Datum)}
    {sources : List (Registered ω)} {w w' : ω} {s : Store ω} :
    Store.ofLayers defaults sources overrides w = (.ok s, w') ↔
      ∃ below above leaves, layerOfEntries [] defaults = .ok below ∧
        layerOfEntries [] overrides = .ok above ∧ Contributed sources w leaves w' ∧
        s = built ⟨below, sources, above⟩ leaves := by
  simp only [ofLayers_ok_iff, Operation.perform_ok_iff]
  constructor
  · rintro ⟨below, above, hb, ha, -, f, leaves, hf, hc, rfl⟩
    obtain rfl := Except.ok.inj hf
    exact ⟨below, above, leaves, hb, ha, hc, rfl⟩
  · rintro ⟨below, above, leaves, hb, ha, hc, rfl⟩
    exact ⟨below, above, hb, ha, trivial, id, leaves, rfl, hc, rfl⟩

/-- **Building at once and step by step**: where asking the sources changes nothing, a store can be
built from three layers at once iff the keys of defaults and overrides are texts and all operations
succeed that set the defaults, merge the sources and set the overrides one after the other. Both
ways lead to the same store: to the same defaults and overrides in the same order, to the same
sources, and to the same merged tree.

**Proof sketch.** Setting the entries of a table makes the same layer as taking them all at once
(`afterAll_entries_ok_iff`), for the defaults without any source, for the overrides with all of
them. In between the sources are merged (`afterAll_merge_ok_iff`), which contribute the same each
time that they are asked. -/
theorem ofLayers_ok_iff_assembly {defaults overrides : List (DatumKey × Datum)}
    {sources : List (Registered ω)} (hquiet : ∀ r ∈ sources, r.source.Quiet) (w w' : ω)
    (s : Store ω) :
    Store.ofLayers defaults sources overrides w = (.ok s, w') ↔
      ∃ below above, defaults = Datum.textual below ∧ overrides = Datum.textual above ∧
        (empty : Store ω).afterAll (assembly below sources above) w = (.ok s, w') := by
  simp only [ofLayers_eq_built_iff, afterAll_assembly_ok_iff hquiet]
  constructor
  · rintro ⟨below, above, leaves, hb, ha, hc, rfl⟩
    obtain ⟨ds, rfl⟩ := exists_textual_of_layerOfEntries hb
    obtain ⟨os, rfl⟩ := exists_textual_of_layerOfEntries ha
    exact ⟨ds, os, rfl, rfl, below, above, leaves, hb, ha, hc, rfl⟩
  · rintro ⟨ds, os, rfl, rfl, below, above, leaves, hb, ha, hc, rfl⟩
    exact ⟨below, above, leaves, hb, ha, hc, rfl⟩

/-- Two spellings of one default, with another between them, and a source that overlaps with both:
the repeated default is moved behind the other one. -/
theorem ofLayers_ok_iff_assembly_spellings :
    let number (i : Int) : Value := .scalar none (.integer i)
    let defaults : List (String × Datum) :=
      [("a.b", .integer 1), ("a[0]", .integer 2), ("A.B", .integer 3)]
    let sources : List (Registered Unit) := [⟨.fixed (.record [("a.c", .integer 4)]), none⟩]
    let overrides : List (String × Datum) := [("D", .integer 5)]
    ∃ s : Store Unit,
      empty.afterAll (assembly defaults sources overrides) () = (.ok s, ()) ∧
      Store.ofLayers (Datum.textual defaults) sources (Datum.textual overrides) () = (.ok s, ()) ∧
      s.defaults = [([.key "a", .index 0], number 2), ([.key "a", .key "b"], number 3)] ∧
      s.cache = .table none [("a", .table none [("b", number 3), ("c", number 4)]),
        ("d", number 5)] := by
  intro number defaults sources overrides
  have hquiet : ∀ r ∈ sources, r.source.Quiet := by
    simpa [sources] using Source.quiet_fixed _
  have hbelow : layerOfEntries [] (Datum.textual defaults) =
      .ok [([.key "a", .index 0], number 2), ([.key "a", .key "b"], number 3)] := by
    cbv
  have habove : layerOfEntries [] (Datum.textual overrides) = .ok [([.key "d"], number 5)] := by
    cbv
  have hgather : gather sources () = (.ok [([.key "a", .key "c"], number 4)], ()) := by
    cbv
  have hsteps := (afterAll_assembly_ok_iff hquiet).mpr
    ⟨_, _, _, hbelow, habove, gather_ok_iff.mp hgather, rfl⟩
  have hat := (ofLayers_ok_iff_assembly hquiet () () _).mpr ⟨_, _, rfl, rfl, hsteps⟩
  exact ⟨_, hsteps, hat, rfl, by cbv⟩

end Store

end LayeredConfig
