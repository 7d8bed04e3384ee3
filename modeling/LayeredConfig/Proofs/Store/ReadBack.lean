import Mathlib
import LayeredConfig.Proofs.Path.LetterCase
import LayeredConfig.Proofs.Store.Precedence
import LayeredConfig.Proofs.Value.Building
import LayeredConfig.Store.Reading

set_option autoImplicit false

/-!
# Reading back what a source contributes

A leaf that a source contributes stands at a path in lower case. Where the steps of this path have a
written form, the leaf can be read from the store by the written form of its path, unless a later
leaf got in its way. Below the top of a payload, tables may have keys without a written form: keys
that hold a dot or a bracket, or are empty. Such a key is one step of a path, and what stands there
can only be read as a part of the table that it belongs to.

## Main definitions

* `Source.fixed` — a source that always contributes the same payload.

## Main results

* `isLowerCase_of_mem_contribution` — the paths of leaves are in lower case.
* `Store.merge_empty_ok_iff` — a store that holds a single source.
* `Store.get_of_parseKey` — what a read answers.
* `Store.get_text_of_leaf` — reading a leaf back.
-/

namespace LayeredConfig

/-- A leaf of the entries of a table is a leaf of the value of one of them, which stands at the path
that its key is. -/
lemma exists_root_of_mem_contributionOfEntries {es : List (DatumKey × Datum)}
    {leaves : List (Path × Value)} (h : contributionOfEntries es = .ok leaves) {l : Path × Value}
    (hl : l ∈ leaves) :
    ∃ e ∈ es, ∃ key root v, Path.parseKey key = .ok root ∧ Value.build none e.2 = .ok v ∧
      l ∈ Value.leaves root v := by
  induction es generalizing leaves with
  | nil =>
    obtain rfl := Except.ok.inj h
    cases hl
  | cons e es ih =>
    obtain ⟨k, d⟩ := e
    obtain ⟨key, -, h⟩ := Fault.bind_eq_ok_iff.mp h
    obtain ⟨root, hroot, h⟩ := Fault.bind_eq_ok_iff.mp h
    obtain ⟨v, hv, h⟩ := Fault.bind_eq_ok_iff.mp h
    obtain ⟨more, hmore, h⟩ := Fault.bind_eq_ok_iff.mp h
    obtain rfl := Except.ok.inj h
    rcases List.mem_append.mp hl with hl | hl
    · rw [Value.ofDatum_none] at hv
      exact ⟨(k, d), List.mem_cons_self, key, root, v, hroot, hv, hl⟩
    · obtain ⟨e, he, hrest⟩ := ih hmore hl
      exact ⟨e, List.mem_cons_of_mem _ he, hrest⟩

/-- The leaves of a payload stand at paths in lower case that begin with a name. -/
lemma isLowerCase_of_mem_contribution {payload : Datum} {leaves : List (Path × Value)}
    (h : contribution payload = .ok leaves) {l : Path × Value} (hl : l ∈ leaves) :
    (∃ name rest, l.1 = .key name :: rest ∧ Path.IsName name) ∧ ∀ a ∈ l.1, a.IsLowerCase := by
  cases payload with
  | mapping es =>
    obtain ⟨-, -, key, root, v, hroot, -, hl⟩ := exists_root_of_mem_contributionOfEntries h hl
    obtain ⟨⟨name, rest, rfl, hn⟩, hlower⟩ := Path.exists_of_parseKey hroot
    refine ⟨?_, Value.isLowerCase_of_mem_leaves hlower hl⟩
    obtain ⟨q, hq⟩ := Value.prefix_of_mem_leaves hl
    exact ⟨name, rest ++ q, hq.symm, hn⟩
  | _ => cases h

variable {ω : Type}

/-- A source that always contributes the same payload. -/
def Source.fixed (payload : Datum) : Source ω where
  id := .text "fixed"
  name := .text "fixed payload"
  collect := fun w => (.ok payload, w)

namespace Store

/-- A source can be merged into a store without settings iff it returns a payload that can be taken
apart. The merged tree comes of writing the leaves of the payload that its filter admits. -/
lemma merge_empty_ok_iff {r : Registered ω} {s : Store ω} {w w' : ω} :
    (empty : Store ω).merge r w = (.ok s, w') ↔
      ∃ payload leaves, r.source.collect w = (.ok payload, w') ∧ contribution payload = .ok leaves ∧
        s = built ⟨[], [r], []⟩ (leaves.filter fun l => Filter.admits r.filter l.1.text) := by
  rw [merge, after_ok_iff, Operation.perform_ok_iff]
  constructor
  · rintro ⟨-, f, kept, hf, hc, rfl⟩
    obtain rfl := Except.ok.inj hf
    cases hc with
    | cons hcollect hleaves hrest =>
      cases hrest
      exact ⟨_, _, hcollect, hleaves, by simp [empty]⟩
  · rintro ⟨payload, leaves, hcollect, hleaves, rfl⟩
    have hc := Contributed.cons hcollect hleaves (.nil w')
    rw [List.append_nil] at hc
    exact ⟨rfl, _, _, rfl, hc, rfl⟩

/-- A source without a filter can be merged into a store without settings iff it returns a payload
that can be taken apart. The merged tree comes of writing the leaves of the payload. -/
lemma merge_empty_unfiltered_ok_iff {src : Source ω} {s : Store ω} {w w' : ω} :
    (empty : Store ω).merge ⟨src, none⟩ w = (.ok s, w') ↔
      ∃ payload leaves, src.collect w = (.ok payload, w') ∧ contribution payload = .ok leaves ∧
        s = built ⟨[], [⟨src, none⟩], []⟩ leaves := by
  have hall (leaves : List (Path × Value)) :
      (leaves.filter fun l => Filter.admits none l.1.text) = leaves :=
    List.filter_eq_self.mpr fun _ _ => rfl
  simp only [merge_empty_ok_iff, hall]

/-- A payload that can be taken apart can be merged into a store without settings. -/
lemma merge_fixed {payload : Datum} {leaves : List (Path × Value)}
    (h : contribution payload = .ok leaves) (w : ω) :
    (empty : Store ω).merge ⟨.fixed payload, none⟩ w =
      (.ok (built ⟨[], [⟨.fixed payload, none⟩], []⟩ leaves), w) :=
  merge_empty_unfiltered_ok_iff.mpr ⟨payload, leaves, rfl, h, rfl⟩

/-- The merged tree of a single source comes of writing its leaves. -/
lemma cache_built_single (src : Source ω) (leaves : List (Path × Value)) :
    (built ⟨[], [⟨src, none⟩], []⟩ leaves).cache = Value.emptyTable.replay leaves := by
  simp [built, Layers.writes]

/-- A read of a key that is a path answers what stands there. -/
lemma get_of_parseKey {s : Store ω} {key : String} {p : Path} (h : Path.parseKey key = .ok p) :
    s.get key = match s.cache.get? p with
      | some v => .ok v
      | none => .error (.absent key) := by
  simp only [get, h, Fault.ok_bind]
  cases s.cache.get? p <;> rfl

/-- **Reading a leaf back**: where a source was merged into a store without settings, a leaf of its
payload can be read by the written form of its path, if the steps of the path have a written form
and all later leaves part from it: none of them stands at the path, above it or below it, or clashes
with it (`Path.not_parted_iff`).

**Proof sketch.** The path is in lower case (`isLowerCase_of_mem_contribution`), so its written form
is read as the path (`Path.parseKey_text`). The leaf is the last write that touches the path, so it
stands there (`Value.get?_replay_of_lastTouching`). -/
theorem get_text_of_leaf {src : Source ω} {s : Store ω} {w w' : ω}
    (h : (empty : Store ω).merge ⟨src, none⟩ w = (.ok s, w')) :
    ∃ payload leaves, src.collect w = (.ok payload, w') ∧ contribution payload = .ok leaves ∧
      ∀ before e v after, leaves = before ++ (e, v) :: after →
        (∀ m ∈ after, Path.Parted m.1 e) → (∀ a ∈ e, a.Writable) → s.get e.text = .ok v := by
  obtain ⟨payload, leaves, hcollect, hleaves, rfl⟩ := merge_empty_unfiltered_ok_iff.mp h
  refine ⟨payload, leaves, hcollect, hleaves, ?_⟩
  rintro before e v after rfl hafter hwritable
  obtain ⟨⟨name, rest, rfl, -⟩, hlower⟩ :=
    isLowerCase_of_mem_contribution hleaves (l := (e, v)) (by simp)
  have hlast : LastTouching (before ++ (.key name :: rest, v) :: after) (.key name :: rest ++ [])
      (.key name :: rest, v) after := by
    rw [List.append_nil]
    exact ⟨⟨before, rfl⟩, Path.not_parted_iff.mpr (.inl List.prefix_rfl), hafter⟩
  have hget := Value.get?_replay_of_lastTouching hlast (List.cons_ne_nil _ _) (Value.get?_root v)
    Value.emptyTable
  rw [List.append_nil] at hget
  rw [get_of_parseKey (Path.parseKey_text hwritable hlower), cache_built_single, hget]

/-- An item of an array that is a table: the keys are written in capitals, the leaf is read in lower
case. -/
theorem get_text_of_leaf_in_item :
    ∃ s : Store Unit,
      empty.merge ⟨Source.fixed (.record [("A", .sequence [.nil, .record [("B", .integer 2)]])]),
        none⟩ () = (.ok s, ()) ∧
      s.get "a[1].b" = .ok (.scalar none (.integer 2)) := by
  have hleaves : contribution (.record [("A", .sequence [.nil, .record [("B", .integer 2)]])]) =
      .ok [([.key "a", .index 0], .nil),
        ([.key "a", .index 1, .key "b"], .scalar none (.integer 2))] := by
    cbv
  have hmerge := merge_fixed hleaves ()
  have htext : Path.text [.key "a", .index 1, .key "b"] = "a[1].b" := by cbv
  refine ⟨_, hmerge, ?_⟩
  obtain ⟨payload, leaves, hpayload, hl, hget⟩ := get_text_of_leaf hmerge
  generalize (Datum.record [("A", .sequence [.nil, .record [("B", .integer 2)]])]) = p at *
  cases hpayload
  rw [hleaves] at hl
  cases hl
  rw [← htext]
  refine hget [([.key "a", .index 0], .nil)] _ _ [] rfl (by simp) ?_
  decide

/-- A key of a nested table that holds a dot is one step, but its written form is read as two: the
leaf is there, and the written form of its path does not lead to it. -/
theorem get_text_of_leaf_below_dot :
    ∃ s : Store Unit,
      empty.merge ⟨Source.fixed (.record [("a", .record [("b.c", .integer 1)])]), none⟩ () =
        (.ok s, ()) ∧
      contribution (.record [("a", .record [("b.c", .integer 1)])]) =
        .ok [([.key "a", .key "b.c"], .scalar none (.integer 1))] ∧
      s.get (Path.text [.key "a", .key "b.c"]) = .error (.absent "a.b.c") := by
  have hleaves : contribution (.record [("a", .record [("b.c", .integer 1)])]) =
      .ok [([.key "a", .key "b.c"], .scalar none (.integer 1))] := by
    cbv
  refine ⟨_, merge_fixed hleaves (), hleaves, ?_⟩
  cbv

end Store

end LayeredConfig
