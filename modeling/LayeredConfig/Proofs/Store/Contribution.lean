import Mathlib.Data.List.Basic
import LayeredConfig.Proofs.Path.Grammar
import LayeredConfig.Proofs.Path.Leaves
import LayeredConfig.Store.Contribution

set_option autoImplicit false

/-!
# What sources contribute

The leaves that payloads stand for, and those that sources contribute when they are asked one after
the other.

## Main definitions

* `Contributed` — what sources contribute that are asked one after the other.

## Main results

* `gather_ok_iff` — gathering succeeds iff all sources contribute.
* `Contributed.forall_mem` — what holds of the leaves of payloads holds of what is contributed.
-/

namespace LayeredConfig

/-! ## Leaves of a payload -/

/-- A key is read as a path that has steps. -/
lemma Path.parseKey_ne_nil {key : String} {p : Path} (h : parseKey key = .ok p) : p ≠ [] :=
  (parse_ok_iff.mp h).ne_nil

/-- The leaves of the entries of a table stand at paths that have steps. -/
lemma ne_nil_of_mem_contributionOfEntries {es : List (DatumKey × Datum)}
    {leaves : List (Path × Value)} (h : contributionOfEntries es = .ok leaves) :
    ∀ l ∈ leaves, l.1 ≠ [] := by
  induction es generalizing leaves with
  | nil =>
    obtain rfl := Except.ok.inj h
    simp
  | cons e es ih =>
    obtain ⟨k, d⟩ := e
    rw [contributionOfEntries] at h
    obtain ⟨key, -, h⟩ := Fault.bind_eq_ok_iff.mp h
    obtain ⟨root, hroot, h⟩ := Fault.bind_eq_ok_iff.mp h
    obtain ⟨v, -, h⟩ := Fault.bind_eq_ok_iff.mp h
    obtain ⟨more, hmore, h⟩ := Fault.bind_eq_ok_iff.mp h
    obtain rfl := Except.ok.inj h
    intro l hl
    rcases List.mem_append.mp hl with hl | hl
    · exact (Value.prefix_of_mem_leaves hl).ne_nil (Path.parseKey_ne_nil hroot)
    · exact ih hmore l hl

/-- The leaves of a payload stand at paths that have steps. -/
lemma ne_nil_of_mem_contribution {payload : Datum} {leaves : List (Path × Value)}
    (h : contribution payload = .ok leaves) : ∀ l ∈ leaves, l.1 ≠ [] := by
  cases payload with
  | mapping es => exact ne_nil_of_mem_contributionOfEntries h
  | _ => cases h

variable {ω : Type}

/-! ## Asking the sources -/

/-- What sources contribute that are asked one after the other: each returns a payload that can be
taken apart, and contributes those of its leaves that its filter admits. The surroundings lead from
one source to the next. -/
inductive Contributed : List (Registered ω) → ω → List (Path × Value) → ω → Prop
  /-- Without sources there are no leaves. -/
  | nil (w : ω) : Contributed [] w [] w
  /-- The leaves of the first source come before those of the others. -/
  | cons {r : Registered ω} {rs : List (Registered ω)} {w w₁ w₂ : ω} {payload : Datum}
      {leaves more : List (Path × Value)} :
      r.source.collect w = (.ok payload, w₁) → contribution payload = .ok leaves →
      Contributed rs w₁ more w₂ →
      Contributed (r :: rs) w (leaves.filter (fun l => Filter.admits r.filter l.1.text) ++ more) w₂

/-- A source contributes iff it returns a payload that can be taken apart. -/
lemma Registered.contribute_ok_iff {r : Registered ω} {w w' : ω} {kept : List (Path × Value)} :
    r.contribute w = (.ok kept, w') ↔
      ∃ payload leaves, r.source.collect w = (.ok payload, w') ∧ contribution payload = .ok leaves ∧
        kept = leaves.filter fun l => Filter.admits r.filter l.1.text := by
  unfold Registered.contribute
  rcases hc : r.source.collect w with ⟨_ | payload, w₁⟩
  · simp
  · rcases hl : contribution payload with e | leaves
    · constructor
      · intro h
        simp [hl] at h
      · rintro ⟨payload', leaves', h, hl', -⟩
        obtain ⟨rfl, rfl⟩ := h
        simp [hl] at hl'
    · simp only [hl]
      constructor
      · intro h
        simp only [Prod.mk.injEq, Except.ok.injEq] at h
        exact ⟨payload, leaves, by rw [h.2], hl, h.1.symm⟩
      · rintro ⟨payload', leaves', h, hl', rfl⟩
        obtain ⟨rfl, rfl⟩ := h
        rw [hl] at hl'
        obtain rfl := Except.ok.inj hl'
        rfl

/-- Gathering succeeds iff all sources contribute.

**Proof sketch.** Induction on the sources: the first one contributes iff it returns a payload that
can be taken apart (`Registered.contribute_ok_iff`), and the others are asked in the surroundings
that it leaves. -/
lemma gather_ok_iff {rs : List (Registered ω)} {w w' : ω} {leaves : List (Path × Value)} :
    gather rs w = (.ok leaves, w') ↔ Contributed rs w leaves w' := by
  induction rs generalizing w leaves with
  | nil =>
    constructor
    · intro h
      simp only [gather, Prod.mk.injEq, Except.ok.injEq] at h
      obtain ⟨rfl, rfl⟩ := h
      exact .nil w
    · intro h
      cases h
      rfl
  | cons r rs ih =>
    constructor
    · intro h
      unfold gather at h
      rcases hr : r.contribute w with ⟨_ | kept, w₁⟩
      · simp [hr] at h
      · rcases hm : gather rs w₁ with ⟨_ | more, w₂⟩
        · simp [hr, hm] at h
        · simp only [hr, hm, Prod.mk.injEq, Except.ok.injEq] at h
          obtain ⟨rfl, rfl⟩ := h
          obtain ⟨payload, leaves, hc, hl, rfl⟩ := Registered.contribute_ok_iff.mp hr
          exact .cons hc hl (ih.mp hm)
    · intro h
      cases h with
      | cons hc hl hrest =>
        have hr := Registered.contribute_ok_iff.mpr ⟨_, _, hc, hl, rfl⟩
        have hm := ih.mpr hrest
        simp only [gather, hr, hm]

/-- What holds of the leaves of every payload that the sources may return holds of what they
contribute. -/
lemma Contributed.forall_mem {P : Path × Value → Prop} {rs : List (Registered ω)} {w w' : ω}
    {leaves : List (Path × Value)} (h : Contributed rs w leaves w')
    (hP : ∀ r ∈ rs, ∀ w payload w' ls, r.source.collect w = (.ok payload, w') →
      contribution payload = .ok ls → ∀ l ∈ ls, P l) :
    ∀ l ∈ leaves, P l := by
  induction h with
  | nil w => exact List.forall_mem_nil _
  | cons hc hl _ ih =>
    obtain ⟨hr, hrs⟩ := List.forall_mem_cons.mp hP
    refine List.forall_mem_append.mpr ⟨fun l hmem => ?_, ih hrs⟩
    exact hr _ _ _ _ hc hl l (List.mem_of_mem_filter hmem)

/-- What sources contribute stands at paths that have steps. -/
lemma Contributed.ne_nil {rs : List (Registered ω)} {w w' : ω} {leaves : List (Path × Value)}
    (h : Contributed rs w leaves w') : ∀ l ∈ leaves, l.1 ≠ [] :=
  h.forall_mem fun _ _ _ _ _ _ _ hl => ne_nil_of_mem_contribution hl

end LayeredConfig
