import Mathlib
import LayeredConfig.Proofs.Value.Replacing
import LayeredConfig.Proofs.Value.Simplifying

set_option autoImplicit false

/-!
# Values of one origin

Native data hold no ready-made values. They are built to a value all of whose nodes have the origin
that is given, and they stay native when they are simplified.

## Main definitions

* `Value.AllFrom` — a value all of whose nodes have one origin.
* `Datum.Native` — data without ready-made values inside.
* `Datum.IsTableOf` — data that are a table of ready-made values.

## Main results

* `Value.allFrom_of_build` — values are built with one origin.
* `Datum.Native.simplify` — native data stay native.
-/

namespace LayeredConfig

namespace Datum

/-- Data without ready-made values inside. -/
inductive Native : Datum → Prop
  /-- The data are no ready-made value, and their parts are native. -/
  | intro {d : Datum} : (∀ v, d ≠ .value v) → (∀ d' ∈ d.parts, Native d') → Native d

/-- The data are a table of ready-made values, in which each key stands once. -/
def IsTableOf (d : Datum) (fields : List (String × Value)) : Prop :=
  d = .record (fields.map fun e => (e.1, .value e.2)) ∧ (Entries.keys fields).Nodup

end Datum

namespace Value

/-- A value all of whose nodes have one origin. -/
inductive AllFrom (o : Option String) : Value → Prop
  /-- A scalar. -/
  | scalar (c : Scalar) : AllFrom o (.scalar o c)
  /-- An array of such values. -/
  | array {vs : List Value} : (∀ v ∈ vs, AllFrom o v) → AllFrom o (.array o vs)
  /-- A table of such values. -/
  | table {es : List (String × Value)} : (∀ e ∈ es, AllFrom o e.2) → AllFrom o (.table o es)

variable {o : Option String}

/-- Each item that is built comes of data. -/
lemma mem_of_buildItems {ds : List Datum} {vs : List Value} (h : buildItems o ds = .ok vs) :
    ∀ v ∈ vs, ∃ d ∈ ds, build o d = .ok v := by
  induction ds generalizing vs with
  | nil =>
    obtain rfl := Except.ok.inj h
    exact List.forall_mem_nil _
  | cons d ds ih =>
    obtain ⟨v, hv, h⟩ := Fault.bind_eq_ok_iff.mp h
    obtain ⟨ws, hws, h⟩ := Fault.bind_eq_ok_iff.mp h
    obtain rfl := Except.ok.inj h
    intro x hx
    rcases List.mem_cons.mp hx with rfl | hx
    · exact ⟨d, List.mem_cons_self, hv⟩
    · obtain ⟨d', hd', hx⟩ := ih hws x hx
      exact ⟨d', List.mem_cons_of_mem d hd', hx⟩

/-- Each entry that is built was there before, or its value comes of data. -/
lemma mem_of_buildEntries {es : List (DatumKey × Datum)} {done out : List (String × Value)}
    (h : buildEntries o done es = .ok out) :
    ∀ x ∈ out, x ∈ done ∨ ∃ e ∈ es, build o e.2 = .ok x.2 := by
  induction es generalizing done with
  | nil =>
    obtain rfl := Except.ok.inj h
    exact fun x hx => .inl hx
  | cons e es ih =>
    obtain ⟨name, -, h⟩ := Fault.bind_eq_ok_iff.mp h
    obtain ⟨v, hv, h⟩ := Fault.bind_eq_ok_iff.mp h
    intro x hx
    rcases ih h x hx with hx | ⟨e', he', hx⟩
    · rcases Entries.mem_of_mem_put hx with hx | rfl
      · exact .inl hx
      · exact .inr ⟨e, List.mem_cons_self, hv⟩
    · exact .inr ⟨e', List.mem_cons_of_mem e he', hx⟩

/-- **Values are built with one origin**, of native data. -/
theorem allFrom_of_build {d : Datum} (hd : d.Native) {v : Value} (h : build o d = .ok v) :
    v.AllFrom o := by
  induction hd generalizing v with
  | @intro d hvalue _ ih =>
    cases d with
    | sequence ds =>
      obtain ⟨vs, hvs, h⟩ := Fault.bind_eq_ok_iff.mp h
      obtain rfl := Except.ok.inj h
      refine .array fun v hv => ?_
      obtain ⟨d, hd, hv⟩ := mem_of_buildItems hvs v hv
      exact ih d hd hv
    | tuple ds =>
      obtain ⟨vs, hvs, h⟩ := Fault.bind_eq_ok_iff.mp h
      obtain rfl := Except.ok.inj h
      refine .array fun v hv => ?_
      obtain ⟨d, hd, hv⟩ := mem_of_buildItems hvs v hv
      exact ih d hd hv
    | mapping es =>
      obtain ⟨out, hout, h⟩ := Fault.bind_eq_ok_iff.mp h
      obtain rfl := Except.ok.inj h
      refine .table fun x hx => ?_
      rcases mem_of_buildEntries hout x hx with hx | ⟨e, he, hx⟩
      · exact absurd hx (List.not_mem_nil)
      · exact ih e.2 (List.mem_map_of_mem he) hx
    | value v => exact absurd rfl (hvalue v)
    | integer i =>
      rw [build, ofInteger] at h
      split_ifs at h
      · obtain rfl := Except.ok.inj h
        exact .scalar _
      · obtain ⟨_, -, h⟩ := Fault.bind_eq_ok_iff.mp h
        cases h
    | nil | boolean | float | text =>
      obtain rfl := Except.ok.inj h
      exact .scalar _
    | _ => cases h

end Value

namespace Datum

/-- Native data stay native. -/
lemma Native.simplify {d d' : Datum} (hd : d.Native) (h : d.simplify = .ok d') : d'.Native := by
  induction hd generalizing d' with
  | @intro d hvalue _ ih =>
    refine .intro ?_ fun x' hx' => ?_
    · rintro v rfl
      cases d with
      | sequence ds =>
        obtain ⟨ds', -, h⟩ := Fault.bind_eq_ok_iff.mp h
        cases h
      | tuple ds =>
        obtain ⟨ds', -, h⟩ := Fault.bind_eq_ok_iff.mp h
        cases h
      | mapping es =>
        obtain ⟨out, -, h⟩ := Fault.bind_eq_ok_iff.mp h
        cases h
      | value w => exact hvalue w rfl
      | _ => cases h
    · obtain ⟨x, hx, hx'⟩ := exists_of_mem_parts_simplify h x' hx'
      exact ih x hx hx'

end Datum

end LayeredConfig
