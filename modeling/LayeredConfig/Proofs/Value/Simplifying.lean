import Mathlib
import LayeredConfig.Proofs.Value.Stopping
import LayeredConfig.Source.File

set_option autoImplicit false

/-!
# Simplifying data

Simplified data have texts for keys. They come of their data part by part, and nothing can go wrong
but that a key is an integer that cannot be written.

## Main results

* `Datum.exists_of_mem_parts_simplify` — the parts of simplified data are simplified parts.
* `Datum.simplify_error_iff` — when data cannot be simplified.
-/

namespace LayeredConfig

/-- Where items are simplified, each of them can be, and each result is that of an item. -/
lemma of_simplifyItems {ds ds' : List Datum} (h : simplifyItems ds = .ok ds') :
    (∀ x ∈ ds, ∃ x', x.simplify = .ok x') ∧ ∀ x' ∈ ds', ∃ x ∈ ds, x.simplify = .ok x' := by
  induction ds generalizing ds' with
  | nil =>
    obtain rfl := Except.ok.inj h
    exact ⟨List.forall_mem_nil _, List.forall_mem_nil _⟩
  | cons d ds ih =>
    obtain ⟨d', hd, h⟩ := Fault.bind_eq_ok_iff.mp h
    obtain ⟨more, hmore, h⟩ := Fault.bind_eq_ok_iff.mp h
    obtain rfl := Except.ok.inj h
    obtain ⟨hall, hout⟩ := ih hmore
    refine ⟨List.forall_mem_cons.mpr ⟨⟨d', hd⟩, hall⟩,
      List.forall_mem_cons.mpr ⟨⟨d, List.mem_cons_self, hd⟩, fun x' hx' => ?_⟩⟩
    obtain ⟨x, hx, hx'⟩ := hout x' hx'
    exact ⟨x, List.mem_cons_of_mem d hx, hx'⟩

/-- Items that cannot be simplified hold one that cannot. -/
lemma exists_of_simplifyItems_error {ds : List Datum} {e : Fault}
    (h : simplifyItems ds = .error e) : ∃ d ∈ ds, d.simplify = .error e := by
  induction ds with
  | nil => cases h
  | cons d ds ih =>
    rcases Fault.bind_eq_error_iff.mp h with h | ⟨d', -, h⟩
    · exact ⟨d, List.mem_cons_self, h⟩
    · rcases Fault.bind_eq_error_iff.mp h with h | ⟨more, -, h⟩
      · obtain ⟨x, hx, h⟩ := ih h
        exact ⟨x, List.mem_cons_of_mem d hx, h⟩
      · cases h

/-- Where entries are simplified, all keys can be written and all data be simplified, and each entry
was there before or has data that were simplified. -/
lemma of_simplifyEntries {es : List (DatumKey × Datum)} {done out : Entries String Datum}
    (h : simplifyEntries done es = .ok out) :
    (∀ f ∈ es, (∃ name, f.1.display = .ok name) ∧ ∃ d, f.2.simplify = .ok d) ∧
      ∀ x ∈ out, x ∈ done ∨ ∃ f ∈ es, f.2.simplify = .ok x.2 := by
  induction es generalizing done with
  | nil =>
    obtain rfl := Except.ok.inj h
    exact ⟨List.forall_mem_nil _, fun x hx => .inl hx⟩
  | cons f es ih =>
    obtain ⟨name, hname, h⟩ := Fault.bind_eq_ok_iff.mp h
    obtain ⟨d, hd, h⟩ := Fault.bind_eq_ok_iff.mp h
    obtain ⟨hall, hout⟩ := ih h
    refine ⟨List.forall_mem_cons.mpr ⟨⟨⟨name, hname⟩, d, hd⟩, hall⟩, fun x hx => ?_⟩
    rcases hout x hx with hx | ⟨f', hf', hx⟩
    · rcases Entries.mem_of_mem_put hx with hx | rfl
      · exact .inl hx
      · exact .inr ⟨f, List.mem_cons_self, hd⟩
    · exact .inr ⟨f', List.mem_cons_of_mem f hf', hx⟩

/-- Entries that cannot be simplified hold a key that cannot be written, or data that cannot be
simplified. -/
lemma exists_of_simplifyEntries_error {es : List (DatumKey × Datum)} {done : Entries String Datum}
    {e : Fault} (h : simplifyEntries done es = .error e) :
    ∃ f ∈ es, f.1.display = .error e ∨ f.2.simplify = .error e := by
  induction es generalizing done with
  | nil => cases h
  | cons f es ih =>
    rcases Fault.bind_eq_error_iff.mp h with h | ⟨name, -, h⟩
    · exact ⟨f, List.mem_cons_self, .inl h⟩
    · rcases Fault.bind_eq_error_iff.mp h with h | ⟨d, -, h⟩
      · exact ⟨f, List.mem_cons_self, .inr h⟩
      · obtain ⟨x, hx, h⟩ := ih h
        exact ⟨x, List.mem_cons_of_mem f hx, h⟩

namespace Datum

/-- Where data are simplified, each part can be. -/
lemma exists_simplify_of_mem_parts {d d' : Datum} (h : d.simplify = .ok d') :
    ∀ x ∈ d.parts, ∃ x', x.simplify = .ok x' := by
  cases d with
  | sequence ds =>
    obtain ⟨ds', hds, -⟩ := Fault.bind_eq_ok_iff.mp h
    exact (of_simplifyItems hds).1
  | tuple ds =>
    obtain ⟨ds', hds, -⟩ := Fault.bind_eq_ok_iff.mp h
    exact (of_simplifyItems hds).1
  | mapping es =>
    obtain ⟨out, hout, -⟩ := Fault.bind_eq_ok_iff.mp h
    exact List.forall_mem_map.mpr fun f hf => ((of_simplifyEntries hout).1 f hf).2
  | _ => exact List.forall_mem_nil _

/-- Each part of simplified data is a part that was simplified. -/
lemma exists_of_mem_parts_simplify {d d' : Datum} (h : d.simplify = .ok d') :
    ∀ x' ∈ d'.parts, ∃ x ∈ d.parts, x.simplify = .ok x' := by
  cases d with
  | sequence ds =>
    obtain ⟨ds', hds, h⟩ := Fault.bind_eq_ok_iff.mp h
    obtain rfl := Except.ok.inj h
    exact (of_simplifyItems hds).2
  | tuple ds =>
    obtain ⟨ds', hds, h⟩ := Fault.bind_eq_ok_iff.mp h
    obtain rfl := Except.ok.inj h
    exact (of_simplifyItems hds).2
  | mapping es =>
    obtain ⟨out, hout, h⟩ := Fault.bind_eq_ok_iff.mp h
    obtain rfl := Except.ok.inj h
    intro x' hx'
    obtain ⟨x, hx, rfl⟩ : ∃ x ∈ out, x.2 = x' := by
      simpa [record, parts, and_comm] using hx'
    rcases (of_simplifyEntries hout).2 x hx with hx | ⟨f, hf, hx⟩
    · exact absurd hx List.not_mem_nil
    · exact ⟨f.2, List.mem_map_of_mem hf, hx⟩
  | _ =>
    obtain rfl := Except.ok.inj h
    exact List.forall_mem_nil _

/-- Simplified data have texts for keys. -/
lemma keys_of_simplify {d : Datum} {es : List (DatumKey × Datum)}
    (h : d.simplify = .ok (.mapping es)) : ∀ f ∈ es, ∃ name, f.1 = .text name := by
  cases d with
  | mapping es' =>
    obtain ⟨out, -, h⟩ := Fault.bind_eq_ok_iff.mp h
    obtain rfl := Datum.mapping.inj (Except.ok.inj h)
    exact List.forall_mem_map.mpr fun f _ => ⟨f.1, rfl⟩
  | sequence ds =>
    obtain ⟨ds', -, h⟩ := Fault.bind_eq_ok_iff.mp h
    cases h
  | tuple ds =>
    obtain ⟨ds', -, h⟩ := Fault.bind_eq_ok_iff.mp h
    cases h
  | _ => cases h

/-- Simplified data have no key that cannot be written. -/
lemma not_hasLongKey_of_simplify {d d' : Datum} (h : d.simplify = .ok d') : ¬ d'.HasLongKey := by
  intro hlong
  induction hlong generalizing d with
  | key hmem _ =>
    obtain ⟨name, hname⟩ := keys_of_simplify h _ hmem
    cases hname
  | part hmem _ ih =>
    obtain ⟨x, -, hx⟩ := exists_of_mem_parts_simplify h _ hmem
    exact ih hx

/-- Data that can be simplified had no key that cannot be written. -/
lemma not_hasLongKey_of_simplify_ok {d d' : Datum} (h : d.simplify = .ok d') : ¬ d.HasLongKey := by
  intro hlong
  induction hlong generalizing d' with
  | @key es i x hmem hi =>
    obtain ⟨out, hout, -⟩ := Fault.bind_eq_ok_iff.mp h
    obtain ⟨⟨name, hname⟩, -⟩ := (of_simplifyEntries hout).1 _ hmem
    rw [DatumKey.display_error_iff.mpr ⟨rfl, i, rfl, hi⟩] at hname
    cases hname
  | part hmem _ ih =>
    obtain ⟨x', hx'⟩ := exists_simplify_of_mem_parts h _ hmem
    exact ih hx'

/-- Data that cannot be simplified have a key that cannot be written, and that is the fault. -/
lemma hasLongKey_of_simplify_error {d : Datum} {e : Fault} (h : d.simplify = .error e) :
    e = .unwritableInteger ∧ d.HasLongKey := by
  induction d using parts_induction with
  | step d ih =>
    have hpart {x : Datum} (hx : x ∈ d.parts) (h : x.simplify = .error e) :
        e = .unwritableInteger ∧ d.HasLongKey := (ih x hx h).imp_right (.part hx)
    cases d with
    | sequence ds =>
      rcases Fault.bind_eq_error_iff.mp h with h | ⟨_, -, h⟩
      · obtain ⟨x, hx, h⟩ := exists_of_simplifyItems_error h
        exact hpart hx h
      · cases h
    | tuple ds =>
      rcases Fault.bind_eq_error_iff.mp h with h | ⟨_, -, h⟩
      · obtain ⟨x, hx, h⟩ := exists_of_simplifyItems_error h
        exact hpart hx h
      · cases h
    | mapping es =>
      rcases Fault.bind_eq_error_iff.mp h with h | ⟨_, -, h⟩
      · obtain ⟨⟨k, x⟩, hx, h⟩ := exists_of_simplifyEntries_error h
        rcases h with h | h
        · obtain ⟨rfl, i, rfl, hi⟩ := DatumKey.display_error_iff.mp h
          exact ⟨rfl, .key hx hi⟩
        · exact hpart (List.mem_map_of_mem hx) h
      · cases h
    | _ => cases h

/-- **When data cannot be simplified**: a key inside is an integer that cannot be written. -/
theorem simplify_error_iff {d : Datum} {e : Fault} :
    d.simplify = .error e ↔ e = .unwritableInteger ∧ d.HasLongKey := by
  constructor
  · exact hasLongKey_of_simplify_error
  · rintro ⟨rfl, hlong⟩
    cases h : d.simplify with
    | ok d' => exact absurd hlong (not_hasLongKey_of_simplify_ok h)
    | error e => rw [(hasLongKey_of_simplify_error h).1]

end Datum

end LayeredConfig
