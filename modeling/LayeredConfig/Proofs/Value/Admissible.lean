import Mathlib
import LayeredConfig.Proofs.Value.Reading
import LayeredConfig.Proofs.Value.Stopping

set_option autoImplicit false

/-!
# Data that have a place in a configuration

Whether data can be built to a value is said here without building them. Integers have to fit in 64
bits, data of some types have no place at all, and what a table has at its keys stands behind the
keys: these are visited first, one after the other with the data, and the first thing that is wrong
is the fault of the whole.

## Main definitions

* `Datum.places` — the parts of data, in order, each with its key if it has one.
* `Datum.Misplaced` — data that have no place in a configuration themselves.
* `Datum.Admissible`, `Datum.Inadmissible` — data without such data inside, and the fault of others.

## Main results

* `Value.build_ends` — how building ends.
-/

namespace LayeredConfig

namespace Datum

/-- The parts of data, in order, each with its key if it has one. -/
def places : Datum → List (Option DatumKey × Datum)
  | .sequence items => items.map fun d => (none, d)
  | .tuple items => items.map fun d => (none, d)
  | .mapping entries => entries.map fun e => (some e.1, e.2)
  | _ => []

/-- Data of a type that no configuration knows: dates and times, octets, sets, and objects. -/
def Foreign : Datum → Prop
  | .moment _ | .octets _ | .set _ | .foreign _ => True
  | _ => False

/-- Data have no place in a configuration, whatever their parts are: an integer of more than 64
bits, or data of an unknown type. An integer with too many digits cannot be named in a fault. -/
inductive Misplaced : Datum → Fault → Prop
  /-- An integer does not fit in 64 bits. -/
  | wide {i : Int} :
      ¬ (-2 ^ 63 ≤ i ∧ i ≤ 2 ^ 63 - 1) → ¬ Number.TooLong i →
      Misplaced (.integer i) (.wideInteger i)
  /-- An integer does not fit in 64 bits and has too many digits. -/
  | unwritable {i : Int} : Number.TooLong i → Misplaced (.integer i) .unwritableInteger
  /-- The type is unknown. -/
  | unsupported {d : Datum} : d.Foreign → Misplaced d (.unsupported d.typeName)

/-- Data of a known type are not misplaced, unless they are an integer. -/
lemma not_misplaced {d : Datum} (hforeign : ¬ d.Foreign) (hinteger : ∀ i, d ≠ .integer i)
    (e : Fault) : ¬ d.Misplaced e := by
  intro h
  cases h with
  | wide _ _ => exact hinteger _ rfl
  | unwritable _ => exact hinteger _ rfl
  | unsupported h => exact hforeign h

/-- No integer among the keys has too many digits to be written, if there is a key. -/
def KeyWritable (k : Option DatumKey) : Prop :=
  ∀ i, k = some (.integer i) → ¬ Number.TooLong i

/-- Data have a place in a configuration at all depths, and their keys can be written. -/
inductive Admissible : Datum → Prop
  /-- The data are not misplaced, and neither are those at their places. -/
  | intro {d : Datum} : (∀ e, ¬ d.Misplaced e) → (∀ p ∈ d.places, KeyWritable p.1) →
      (∀ p ∈ d.places, Admissible p.2) → Admissible d

/-- Something in the data is wrong, with a fault: it is the first such thing when places are visited
in order, and the key of each before its data. -/
inductive Inadmissible : Datum → Fault → Prop
  /-- The data themselves are misplaced. -/
  | here {d : Datum} {e : Fault} : d.Misplaced e → Inadmissible d e
  /-- A key cannot be written. -/
  | key {d x : Datum} {i : Int} {before after : List (Option DatumKey × Datum)} :
      d.places = before ++ (some (.integer i), x) :: after →
      (∀ p ∈ before, KeyWritable p.1 ∧ p.2.Admissible) → Number.TooLong i →
      Inadmissible d .unwritableInteger
  /-- Something is wrong at a place. -/
  | part {d x : Datum} {k : Option DatumKey} {e : Fault}
      {before after : List (Option DatumKey × Datum)} :
      d.places = before ++ (k, x) :: after →
      (∀ p ∈ before, KeyWritable p.1 ∧ p.2.Admissible) → KeyWritable k → Inadmissible x e →
      Inadmissible d e

/-- The fault of inadmissible data concerns their type, or an integer that cannot be written. -/
lemma fault_of_inadmissible {d : Datum} {e : Fault} (h : d.Inadmissible e) :
    e.isTypeFault = true ∨ e = .unwritableInteger := by
  induction h with
  | here hself =>
    cases hself with
    | wide _ _ => exact .inl rfl
    | unwritable _ => exact .inr rfl
    | unsupported _ => exact .inl rfl
  | key _ _ _ => exact .inr rfl
  | part _ _ _ _ ih => exact ih

/-- What stands at the places of data are their parts. -/
lemma snd_mem_parts {d : Datum} {p : Option DatumKey × Datum} (h : p ∈ d.places) :
    p.2 ∈ d.parts := by
  cases d with
  | sequence items | tuple items | mapping entries =>
    obtain ⟨x, hx, rfl⟩ := List.mem_map.mp h
    first | exact hx | exact List.mem_map_of_mem hx
  | _ => cases h

end Datum

namespace Value

open Datum

variable {o : Option String}

/-- Visits a place: the key is written, then the data are built. -/
def buildPlace (o : Option String) : Option DatumKey × Datum → Except Fault Value
  | (none, d) => build o d
  | (some k, d) => do
    let _ ← k.display
    build o d

/-- An integer with too many digits to be written does not fit in 64 bits. -/
lemma not_fitsInteger_of_tooLong {i : Int} (h : Number.TooLong i) : ¬ fitsInteger i = true := by
  intro hfits
  obtain ⟨hleast, hgreatest⟩ := fitsInteger_iff.mp hfits
  have hlarge : 10 ^ 19 ≤ i.natAbs := (Nat.pow_le_pow_right (by decide) (by decide)).trans h
  omega

/-- An integer cannot be built iff it is misplaced. -/
lemma ofInteger_error_iff {i : Int} {e : Fault} :
    ofInteger o i = .error e ↔ (Datum.integer i).Misplaced e := by
  unfold ofInteger
  split_ifs with hfits
  · refine iff_of_false nofun fun h => ?_
    cases h with
    | wide hwide _ => exact hwide (fitsInteger_iff.mp hfits)
    | unwritable hlong => exact not_fitsInteger_of_tooLong hlong hfits
    | unsupported h => exact h
  · constructor
    · intro h
      rcases Fault.bind_eq_error_iff.mp h with h | ⟨text, htext, h⟩
      · obtain ⟨rfl, hlong⟩ := DatumKey.integerText_error_iff.mp h
        exact .unwritable hlong
      · obtain rfl := Except.error.inj h
        refine .wide (mt fitsInteger_iff.mpr hfits) fun hlong => ?_
        cases htext.symm.trans (DatumKey.integerText_error_iff.mpr ⟨rfl, hlong⟩)
    · intro h
      cases h with
      | wide _ hshort =>
        cases htext : DatumKey.integerText i with
        | error e => exact absurd (DatumKey.integerText_error_iff.mp htext).2 hshort
        | ok text => rfl
      | unwritable hlong =>
        rw [DatumKey.integerText_error_iff.mpr ⟨rfl, hlong⟩]
        rfl
      | unsupported h => exact h.elim

/-- Building entries fails for the first of their places that cannot be built. -/
lemma buildEntries_error_iff_places {es : List (DatumKey × Datum)} {done : List (String × Value)}
    {e : Fault} :
    buildEntries o done es = .error e ↔
      Fault.First (buildPlace o) (es.map fun f => (some f.1, f.2)) e := by
  induction es generalizing done with
  | nil => exact iff_of_false nofun nofun
  | cons f es ih =>
    obtain ⟨k, d⟩ := f
    rw [List.map_cons, Fault.first_cons_iff]
    cases hk : k.display with
    | error e' => simp [buildEntries, buildPlace, hk]
    | ok name =>
      cases hd : build o d with
      | error e' => simp [buildEntries, buildPlace, hk, hd]
      | ok v => simp [buildEntries, buildPlace, hk, hd, ih]

/-- Building items fails for the first of their places that cannot be built. -/
lemma buildItems_error_iff_places {ds : List Datum} {e : Fault} :
    buildItems o ds = .error e ↔ Fault.First (buildPlace o) (ds.map fun d => (none, d)) e := by
  rw [buildItems_error_iff, Fault.first_map_iff]
  rfl

/-- Data are built by visiting their places, unless they are misplaced. -/
lemma build_error_iff_places {d : Datum} {e : Fault} :
    build o d = .error e ↔ d.Misplaced e ∨ Fault.First (buildPlace o) d.places e := by
  have hsingle (hplaces : d.places = []) : Fault.First (buildPlace o) d.places e ↔ False := by
    rw [hplaces]
    exact iff_of_false nofun id
  have hknown (hforeign : ¬ d.Foreign) (hinteger : ∀ i, d ≠ .integer i) :
      d.Misplaced e ∨ Fault.First (buildPlace o) d.places e ↔
        Fault.First (buildPlace o) d.places e :=
    or_iff_right (not_misplaced hforeign hinteger e)
  cases d with
  | integer i => rw [hsingle rfl, or_false, build, ofInteger_error_iff]
  | sequence items =>
    rw [hknown id fun _ => nofun, places, ← buildItems_error_iff_places, build]
    exact Fault.map_error_iff (g := Value.array o)
  | tuple items =>
    rw [hknown id fun _ => nofun, places, ← buildItems_error_iff_places, build]
    exact Fault.map_error_iff (g := Value.array o)
  | mapping entries =>
    rw [hknown id fun _ => nofun, places, ← buildEntries_error_iff_places, build]
    exact Fault.map_error_iff (g := Value.table o)
  | moment m | octets bytes | set members | foreign typeName =>
    rw [hsingle rfl, or_false, build]
    constructor
    · rintro ⟨⟩
      exact .unsupported trivial
    · rintro ⟨⟩
      rfl
  | _ =>
    rw [hknown id fun _ => nofun, hsingle rfl]
    exact iff_of_false nofun id

/-- A key can be written unless it is an integer with too many digits. -/
lemma display_ok_iff {k : DatumKey} : (∃ name, k.display = .ok name) ↔ KeyWritable (some k) := by
  constructor
  · rintro ⟨name, hname⟩ i hi hlong
    obtain rfl := Option.some.inj hi
    cases hname.symm.trans (DatumKey.display_error_iff.mpr ⟨rfl, i, rfl, hlong⟩)
  · intro h
    cases hk : k.display with
    | ok name => exact ⟨name, rfl⟩
    | error e =>
      obtain ⟨-, i, rfl, hlong⟩ := DatumKey.display_error_iff.mp hk
      exact absurd hlong (h i rfl)

/-- The data at a place are built iff the key can be written. -/
lemma buildPlace_of_keyWritable {k : Option DatumKey} (h : KeyWritable k) (d : Datum) :
    buildPlace o (k, d) = build o d := by
  cases k with
  | none => rfl
  | some k =>
    obtain ⟨name, hname⟩ := display_ok_iff.mpr h
    rw [buildPlace, hname]
    rfl

/-- A key that cannot be written is the fault of a place, before the data are looked at. -/
lemma buildPlace_of_not_keyWritable {k : Option DatumKey} (h : ¬ KeyWritable k) :
    (∃ i, k = some (.integer i) ∧ Number.TooLong i) ∧
      ∀ d, buildPlace o (k, d) = .error .unwritableInteger := by
  obtain ⟨i, rfl, hlong⟩ : ∃ i, k = some (.integer i) ∧ Number.TooLong i := by
    simpa [KeyWritable] using h
  refine ⟨⟨i, rfl, hlong⟩, fun d => ?_⟩
  rw [buildPlace, DatumKey.display_error_iff.mpr ⟨rfl, i, rfl, hlong⟩]
  rfl

/-- How building the data at each of the places ends is known. -/
structure PlacesEnd (o : Option String) (d : Datum) : Prop where
  /-- The data at a place are built iff they are admissible. -/
  ok : ∀ p ∈ d.places, (∃ v, build o p.2 = .ok v) ↔ p.2.Admissible
  /-- The fault of the data at a place is the one with which they are inadmissible. -/
  error : ∀ p ∈ d.places, ∀ e, build o p.2 = .error e ↔ p.2.Inadmissible e

/-- A place can be visited iff its key can be written and its data are admissible. -/
lemma PlacesEnd.buildPlace_ok_iff {d : Datum} (h : PlacesEnd o d) {p : Option DatumKey × Datum}
    (hp : p ∈ d.places) : (∃ v, buildPlace o p = .ok v) ↔ KeyWritable p.1 ∧ p.2.Admissible := by
  obtain ⟨k, x⟩ := p
  rw [← h.ok _ hp]
  by_cases hk : KeyWritable k
  · rw [buildPlace_of_keyWritable hk]
    exact ⟨fun hx => ⟨hk, hx⟩, And.right⟩
  · rw [(buildPlace_of_not_keyWritable hk).2 x]
    exact iff_of_false nofun fun hx => hk hx.1

/-- If it is known how building ends at the places, the first that cannot be visited says with which
fault the data are inadmissible. -/
lemma PlacesEnd.error_iff {d : Datum} (h : PlacesEnd o d) {e : Fault} :
    build o d = .error e ↔ d.Inadmissible e := by
  rw [build_error_iff_places, Fault.first_iff]
  constructor
  · rintro (hself | ⟨before, ⟨k, x⟩, after, hsplit, hbefore, hx⟩)
    · exact .here hself
    · have hvisited : ∀ p ∈ before, KeyWritable p.1 ∧ p.2.Admissible := fun p hp =>
        (h.buildPlace_ok_iff (by simp [hsplit, hp])).mp (hbefore p hp)
      by_cases hk : KeyWritable k
      · rw [buildPlace_of_keyWritable hk] at hx
        exact .part hsplit hvisited hk ((h.error (k, x) (by simp [hsplit]) e).mp hx)
      · obtain ⟨⟨i, rfl, hlong⟩, hfault⟩ := buildPlace_of_not_keyWritable (o := o) hk
        obtain rfl := Except.error.inj ((hfault x).symm.trans hx)
        exact .key hsplit hvisited hlong
  · intro hbad
    cases hbad with
    | here hself => exact .inl hself
    | @key _ x i before after hsplit hbefore hlong =>
      have hk : ¬ KeyWritable (some (.integer i)) := fun hk => hk i rfl hlong
      exact .inr ⟨before, _, after, hsplit,
        fun p hp => (h.buildPlace_ok_iff (by simp [hsplit, hp])).mpr (hbefore p hp),
        (buildPlace_of_not_keyWritable hk).2 x⟩
    | @part _ x k e before after hsplit hbefore hk hx =>
      exact .inr ⟨before, _, after, hsplit,
        fun p hp => (h.buildPlace_ok_iff (by simp [hsplit, hp])).mpr (hbefore p hp),
        (buildPlace_of_keyWritable hk x).trans ((h.error (k, x) (by simp [hsplit]) e).mpr hx)⟩

/-- If it is known how building ends at the places, the data are built iff they are not misplaced
and all places can be visited. -/
lemma PlacesEnd.ok_iff {d : Datum} (h : PlacesEnd o d) :
    (∃ v, build o d = .ok v) ↔ d.Admissible := by
  constructor
  · rintro ⟨v, hv⟩
    have hno (e : Fault) : ¬ (d.Misplaced e ∨ Fault.First (buildPlace o) d.places e) := fun he => by
      cases hv.symm.trans (build_error_iff_places.mpr he)
    rcases Fault.forall_or_first (buildPlace o) d.places with hall | ⟨e, hfirst⟩
    · have hvisited p hp := (h.buildPlace_ok_iff hp).mp (hall p hp)
      exact .intro (fun e he => hno e (.inl he)) (fun p hp => (hvisited p hp).1)
        fun p hp => (hvisited p hp).2
    · exact absurd (.inr hfirst) (hno e)
  · rintro ⟨hself, hkeys, hparts⟩
    cases hd : build o d with
    | ok v => exact ⟨v, rfl⟩
    | error e =>
      rcases build_error_iff_places.mp hd with he | he
      · exact absurd he (hself e)
      · obtain ⟨before, x, after, hsplit, -, hx⟩ := Fault.first_iff.mp he
        have hmem : x ∈ d.places := by simp [hsplit]
        obtain ⟨v, hv⟩ := (h.buildPlace_ok_iff hmem).mpr ⟨hkeys x hmem, hparts x hmem⟩
        cases hx.symm.trans hv

/-- **How building ends**: with a value iff the data are admissible, and otherwise with the fault
with which they are inadmissible. -/
theorem build_ends (d : Datum) :
    (∀ e, build o d = .error e ↔ d.Inadmissible e) ∧
      ((∃ v, build o d = .ok v) ↔ d.Admissible) := by
  induction d using Datum.parts_induction with
  | step d ih =>
    have hplaces : PlacesEnd o d :=
      ⟨fun p hp => (ih p.2 (snd_mem_parts hp)).2, fun p hp => (ih p.2 (snd_mem_parts hp)).1⟩
    exact ⟨fun e => hplaces.error_iff, hplaces.ok_iff⟩

end Value

end LayeredConfig
