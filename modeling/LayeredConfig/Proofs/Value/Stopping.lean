import Mathlib
import LayeredConfig.Proofs.Path.Printing
import LayeredConfig.Proofs.Value.Building

set_option autoImplicit false

/-!
# Where building stops

Data are built part by part, and building stops at the first of the data that have no place in a
configuration. Most of their faults concern the type of the data. But an integer may also have too
many digits to be written, and then it cannot even be named in a fault; it may be a key of a table
as well.

## Main definitions

* `Fault.First` — the fault of the first of several steps that fails.
* `Number.TooLong`, `Datum.HasLongKey` — integers, and data with keys, that cannot be written.
* `Datum.StopsAt` — the data at which building stops.

## Main results

* `Value.build_error_iff` — when data cannot be built.
* `Value.build_unwritable_iff` — when the fault is an integer that cannot be written.
-/

namespace LayeredConfig

/-! ## The first fault -/

/-- Steps are taken one after the other, and the first that fails does so with the given fault. -/
inductive Fault.First {ε α β : Type} (f : α → Except ε β) : List α → ε → Prop
  /-- The first step fails. -/
  | head {x : α} {e : ε} (xs : List α) : f x = .error e → First f (x :: xs) e
  /-- The first step succeeds, and one after it fails. -/
  | tail {x : α} {y : β} {xs : List α} {e : ε} :
      f x = .ok y → First f xs e → First f (x :: xs) e

namespace Fault

variable {ε α β : Type} {f : α → Except ε β}

/-- The first fault of several steps is that of the first step, or the first of the others. -/
lemma first_cons_iff {x : α} {xs : List α} {e : ε} :
    First f (x :: xs) e ↔ f x = .error e ∨ (∃ y, f x = .ok y) ∧ First f xs e := by
  constructor
  · intro h
    cases h with
    | head _ hx => exact .inl hx
    | tail hx hxs => exact .inr ⟨⟨_, hx⟩, hxs⟩
  · rintro (hx | ⟨⟨y, hx⟩, hxs⟩)
    · exact .head xs hx
    · exact .tail hx hxs

/-- The first fault is that of a step before which all others succeed. -/
lemma first_iff {xs : List α} {e : ε} :
    First f xs e ↔ ∃ before x after, xs = before ++ x :: after ∧
      (∀ b ∈ before, ∃ y, f b = .ok y) ∧ f x = .error e := by
  constructor
  · intro h
    induction h with
    | @head x e xs hx => exact ⟨[], x, xs, rfl, List.forall_mem_nil _, hx⟩
    | @tail x y xs e hx _ ih =>
      obtain ⟨before, z, after, rfl, hbefore, hz⟩ := ih
      exact ⟨x :: before, z, after, rfl, List.forall_mem_cons.mpr ⟨⟨y, hx⟩, hbefore⟩, hz⟩
  · rintro ⟨before, x, after, rfl, hbefore, hx⟩
    induction before with
    | nil => exact .head after hx
    | cons b before ih =>
      obtain ⟨⟨y, hy⟩, hbefore⟩ := List.forall_mem_cons.mp hbefore
      exact .tail hy (ih hbefore)

/-- All steps succeed, or there is a first fault. -/
lemma forall_or_first (f : α → Except ε β) (xs : List α) :
    (∀ x ∈ xs, ∃ y, f x = .ok y) ∨ ∃ e, First f xs e := by
  induction xs with
  | nil => exact .inl (List.forall_mem_nil _)
  | cons x xs ih =>
    cases hx : f x with
    | error e => exact .inr ⟨e, .head xs hx⟩
    | ok y =>
      rcases ih with hxs | ⟨e, he⟩
      · exact .inl (List.forall_mem_cons.mpr ⟨⟨y, hx⟩, hxs⟩)
      · exact .inr ⟨e, .tail hx he⟩

/-- The first fault depends on nothing but which steps fail, and with which faults. -/
lemma first_congr {γ : Type} {g : α → Except ε γ} {xs : List α} {e : ε}
    (h : ∀ x ∈ xs, ∀ e, f x = .error e ↔ g x = .error e) : First f xs e ↔ First g xs e := by
  induction xs with
  | nil => exact iff_of_false nofun nofun
  | cons x xs ih =>
    obtain ⟨hx, hxs⟩ := List.forall_mem_cons.mp h
    have hok : (∃ y, f x = .ok y) ↔ ∃ y, g x = .ok y := by
      cases hf : f x with
      | error e => simp [(hx e).mp hf]
      | ok y =>
        cases hg : g x with
        | error e => cases hf.symm.trans ((hx e).mpr hg)
        | ok z => simp
    rw [first_cons_iff, first_cons_iff, hx e, hok, ih hxs]

/-- The first fault of steps that are made of others. -/
lemma first_map_iff {γ : Type} {g : γ → α} {xs : List γ} {e : ε} :
    First f (xs.map g) e ↔ First (fun x => f (g x)) xs e := by
  induction xs with
  | nil => exact iff_of_false nofun nofun
  | cons x xs ih => rw [List.map_cons, first_cons_iff, first_cons_iff, ih]

/-- Steps are all taken unless one fails, and then the fault is that of the first that does. -/
lemma mapM_error_iff {xs : List α} {e : ε} :
    xs.mapM f = .error e ↔ First f xs e := by
  induction xs with
  | nil => exact iff_of_false nofun nofun
  | cons x xs ih =>
    rw [List.mapM_cons, first_cons_iff, ← ih]
    cases hx : f x with
    | error e' => simp
    | ok y => cases hxs : xs.mapM f <;> simp

end Fault

/-! ## Integers that cannot be written -/

/-- An integer has more digits than can be written. -/
def Number.TooLong (i : Int) : Prop :=
  10 ^ Number.digitLimit ≤ i.natAbs

/-- The text of a number has no more digits than can be written iff the number is small enough. -/
lemma Number.length_toString_le_iff (n : Nat) :
    (toString n).length ≤ digitLimit ↔ n < 10 ^ digitLimit := by
  rw [← String.length_toList, Path.toList_toString]
  exact Nat.length_toDigits_le_iff (by decide) (by decide)

/-- A number of fewer than 140 bits for each 43 digits has no more digits, since `2 ^ 140` is less
than `10 ^ 43`. -/
lemma Number.lt_of_log2_lt {n k : Nat} (h : n.log2 < 140 * k) : n < 10 ^ (43 * k) := by
  rcases Nat.eq_zero_or_pos n with rfl | hpos
  · exact Nat.pow_pos (by decide)
  · calc n < 2 ^ (140 * k) := (Nat.log2_lt hpos.ne').mp h
      _ = (2 ^ 140) ^ k := Nat.pow_mul 2 140 k
      _ ≤ (10 ^ 43) ^ k := Nat.pow_le_pow_left (by decide) k
      _ = 10 ^ (43 * k) := (Nat.pow_mul 10 43 k).symm

/-- An integer cannot be written iff it has too many digits. These are only counted if it has at
least 14000 bits. -/
lemma DatumKey.integerText_error_iff {i : Int} {e : Fault} :
    integerText i = .error e ↔ e = .unwritableInteger ∧ Number.TooLong i := by
  unfold integerText Number.TooLong
  dsimp only
  split_ifs with h
  · have hsmall : i.natAbs < 10 ^ Number.digitLimit := by
      rcases h with hbits | hlength
      · rw [show Number.digitLimit = 43 * 100 from rfl]
        exact Number.lt_of_log2_lt hbits
      · exact (Number.length_toString_le_iff _).mp hlength
    simp [hsmall]
  · rw [not_or, Number.length_toString_le_iff, not_lt] at h
    have hlarge : 10 ^ Number.digitLimit ≤ i.natAbs := not_lt.mp h.2
    simp [hlarge, eq_comm]

/-- Only an integer may be a key that has no text. -/
lemma DatumKey.display_error_iff {k : DatumKey} {e : Fault} :
    k.display = .error e ↔ e = .unwritableInteger ∧ ∃ i, k = .integer i ∧ Number.TooLong i := by
  cases k with
  | integer i =>
    rw [display, integerText_error_iff]
    simp
  | _ => simp [display]

namespace Datum

/-- A table inside the data has a key that cannot be written. -/
inductive HasLongKey : Datum → Prop
  /-- A key of the table itself. -/
  | key {es : List (DatumKey × Datum)} {i : Int} {d : Datum} :
      (.integer i, d) ∈ es → Number.TooLong i → HasLongKey (.mapping es)
  /-- A key inside a part. -/
  | part {d d' : Datum} : d' ∈ d.parts → HasLongKey d' → HasLongKey d

/-- Data can be built to a value. -/
def Buildable (d : Datum) : Prop :=
  ∃ v, Value.build none d = .ok v

/-- Building data stops at certain data inside: these have no parts and cannot be built, and all
parts that come before them can. -/
inductive StopsAt : Datum → Datum → Prop
  /-- The data themselves have no parts and cannot be built. -/
  | here {d : Datum} : d.parts = [] → ¬ d.Buildable → StopsAt d d
  /-- Building stops inside a part. -/
  | part {d x y : Datum} {before after : List Datum} :
      d.parts = before ++ x :: after → (∀ b ∈ before, b.Buildable) → StopsAt x y → StopsAt d y

end Datum

/-! ## Building -/

namespace Value

variable {o : Option String}

/-- Building items fails for the first of their data that cannot be built. -/
lemma buildItems_error_iff {ds : List Datum} {e : Fault} :
    buildItems o ds = .error e ↔ Fault.First (build o) ds e := by
  induction ds with
  | nil => exact iff_of_false nofun nofun
  | cons d ds ih =>
    rw [Fault.first_cons_iff, ← ih]
    cases hd : build o d with
    | error e' => simp [buildItems, hd]
    | ok v =>
      cases hds : buildItems o ds with
      | error e' => simp [buildItems, hd, hds]
      | ok vs => simp [buildItems, hd, hds]

/-- Building entries fails for the first whose data cannot be built, if all keys can be written. -/
lemma buildEntries_error_iff {es : List (DatumKey × Datum)} {done : List (String × Value)}
    {e : Fault} (hkeys : ∀ f ∈ es, ∃ name, f.1.display = .ok name) :
    buildEntries o done es = .error e ↔ Fault.First (build o) (es.map Prod.snd) e := by
  induction es generalizing done with
  | nil => exact iff_of_false nofun nofun
  | cons f es ih =>
    obtain ⟨k, d⟩ := f
    obtain ⟨⟨name, hname⟩, hkeys⟩ := List.forall_mem_cons.mp hkeys
    rw [List.map_cons, Fault.first_cons_iff]
    cases hd : build o d with
    | error e' => simp [buildEntries, hname, hd]
    | ok v =>
      have hunfold : buildEntries o done ((k, d) :: es) =
          buildEntries o (Entries.put name v done) es := by
        simp [buildEntries, hname, hd]
      rw [hunfold, ih hkeys]
      simp

/-- Origins do not matter to whether data without parts can be built. -/
lemma build_error_congr_of_parts_nil {d : Datum} (hd : d.parts = []) (o o' : Option String)
    {e : Fault} :
    build o d = .error e ↔ build o' d = .error e := by
  cases d with
  | sequence ds =>
    obtain rfl : ds = [] := hd
    simp [build, buildItems]
  | tuple ds =>
    obtain rfl : ds = [] := hd
    simp [build, buildItems]
  | mapping es =>
    obtain rfl : es = [] := List.map_eq_nil_iff.mp hd
    simp [build, buildEntries]
  | integer i =>
    simp only [build, ofInteger]
    split_ifs <;> simp
  | _ => simp [build]

/-- The data at which building stops have no parts. -/
lemma parts_eq_nil_of_stopsAt {d x : Datum} (h : d.StopsAt x) : x.parts = [] := by
  induction h with
  | here hd _ => exact hd
  | part _ _ _ ih => exact ih

/-- The data at which building stops cannot be built with any origin. -/
lemma exists_error_of_stopsAt {d x : Datum} (h : d.StopsAt x) (o : Option String) :
    ∃ e, build o x = .error e := by
  induction h with
  | @here d hd hstuck =>
    cases herr : build none d with
    | ok v => exact absurd ⟨v, herr⟩ hstuck
    | error e => exact ⟨e, (build_error_congr_of_parts_nil hd none o).mp herr⟩
  | part _ _ _ ih => exact ih

/-- Data are built part by part, if their own keys can be written. -/
lemma build_error_iff_first {d : Datum} (hkeys : ¬ d.HasLongKey) (hparts : d.parts ≠ [])
    {e : Fault} : build o d = .error e ↔ Fault.First (build o) d.parts e := by
  cases d with
  | sequence ds =>
    rw [Datum.parts, ← buildItems_error_iff]
    cases hds : buildItems o ds <;> simp [build, hds]
  | tuple ds =>
    rw [Datum.parts, ← buildItems_error_iff]
    cases hds : buildItems o ds <;> simp [build, hds]
  | mapping es =>
    have hnames : ∀ f ∈ es, ∃ name, f.1.display = .ok name := by
      intro f hf
      cases hname : f.1.display with
      | ok name => exact ⟨name, rfl⟩
      | error e' =>
        obtain ⟨k, b⟩ := f
        obtain ⟨-, i, rfl, hlong⟩ := DatumKey.display_error_iff.mp hname
        exact absurd (.key hf hlong) hkeys
    have hentries : buildEntries o [] es = .error e ↔ Fault.First (build o) (es.map Prod.snd) e :=
      buildEntries_error_iff hnames
    rw [Datum.parts, ← hentries]
    cases hes : buildEntries o [] es <;> simp [build, hes]
  | _ => exact absurd rfl hparts

/-- Origins do not matter to whether data can be built. -/
lemma build_error_congr {d : Datum} (hkeys : ¬ d.HasLongKey) (o o' : Option String) {e : Fault} :
    build o d = .error e ↔ build o' d = .error e := by
  induction d using Datum.parts_induction generalizing e with
  | step d ih =>
    by_cases hparts : d.parts = []
    · exact build_error_congr_of_parts_nil hparts o o'
    · rw [build_error_iff_first hkeys hparts, build_error_iff_first hkeys hparts]
      exact Fault.first_congr fun x hx e => ih x hx fun h => hkeys (.part hx h)

/-- Without an origin, data cannot be built iff building stops inside. -/
lemma build_none_error_iff {d : Datum} (hkeys : ¬ d.HasLongKey) {e : Fault} :
    build none d = .error e ↔ ∃ x, d.StopsAt x ∧ build none x = .error e := by
  induction d using Datum.parts_induction generalizing e with
  | step d ih =>
    by_cases hparts : d.parts = []
    · constructor
      · intro h
        refine ⟨d, .here hparts ?_, h⟩
        rintro ⟨v, hv⟩
        cases h.symm.trans hv
      · rintro ⟨x, hx, h⟩
        cases hx with
        | here => exact h
        | part hsplit => simp [hparts] at hsplit
    · rw [build_error_iff_first hkeys hparts, Fault.first_iff]
      constructor
      · rintro ⟨before, x, after, hsplit, hbefore, hx⟩
        have hmem : x ∈ d.parts := by simp [hsplit]
        obtain ⟨y, hy, herr⟩ := (ih x hmem fun h => hkeys (.part hmem h)).mp hx
        exact ⟨y, .part hsplit hbefore hy, herr⟩
      · rintro ⟨y, hy, herr⟩
        cases hy with
        | here hnil => exact absurd hnil hparts
        | @part _ x _ before after hsplit hbefore hstops =>
          have hmem : x ∈ d.parts := by simp [hsplit]
          exact ⟨before, x, after, hsplit, hbefore,
            (ih x hmem fun h => hkeys (.part hmem h)).mpr ⟨y, hstops, herr⟩⟩

/-- **When data cannot be built**: building stops inside, and the fault is that of the data at which
it stops. -/
theorem build_error_iff {d : Datum} (hkeys : ¬ d.HasLongKey) (o : Option String) {e : Fault} :
    build o d = .error e ↔ ∃ x, d.StopsAt x ∧ build o x = .error e :=
  calc build o d = .error e
    _ ↔ build none d = .error e := build_error_congr hkeys o none
    _ ↔ ∃ x, d.StopsAt x ∧ build none x = .error e := build_none_error_iff hkeys
    _ ↔ ∃ x, d.StopsAt x ∧ build o x = .error e := exists_congr fun _ =>
      and_congr_right fun hx => build_error_congr_of_parts_nil (parts_eq_nil_of_stopsAt hx) none o

/-- The fault of data without parts concerns their type, unless they are an integer that cannot be
written. -/
lemma fault_of_build_of_parts_nil {d : Datum} (hd : d.parts = []) {e : Fault}
    (h : build o d = .error e) :
    e.isTypeFault = true ∧ (∀ i, d = .integer i → ¬ Number.TooLong i) ∨
      e = .unwritableInteger ∧ ∃ i, d = .integer i ∧ Number.TooLong i := by
  cases d with
  | sequence ds =>
    obtain rfl : ds = [] := hd
    cases h
  | tuple ds =>
    obtain rfl : ds = [] := hd
    cases h
  | mapping es =>
    obtain rfl : es = [] := List.map_eq_nil_iff.mp hd
    cases h
  | integer i =>
    rw [build, ofInteger] at h
    split_ifs at h
    rcases Fault.bind_eq_error_iff.mp h with h | ⟨text, htext, h⟩
    · obtain ⟨rfl, hlong⟩ := DatumKey.integerText_error_iff.mp h
      exact .inr ⟨rfl, i, rfl, hlong⟩
    · obtain rfl := Except.error.inj h
      refine .inl ⟨rfl, ?_⟩
      rintro j hij hlong
      obtain rfl := Datum.integer.inj hij
      rw [DatumKey.integerText_error_iff.mpr ⟨rfl, hlong⟩] at htext
      cases htext
  | nil | boolean b | float x | text s | value v => cases h
  | moment m | octets bytes | set members | foreign name =>
    obtain rfl := Except.error.inj h
    exact .inl ⟨rfl, by simp⟩

/-- The fault of data that cannot be built concerns their type, or an integer that cannot be
written. -/
lemma fault_of_build {d : Datum} (hkeys : ¬ d.HasLongKey) {e : Fault} (h : build o d = .error e) :
    e.isTypeFault = true ∨ e = .unwritableInteger := by
  obtain ⟨x, hx, h⟩ := (build_error_iff hkeys o).mp h
  exact (fault_of_build_of_parts_nil (parts_eq_nil_of_stopsAt hx) h).imp And.left And.left

/-- **When an integer cannot be written**: building stops at it. -/
theorem build_unwritable_iff {d : Datum} (hkeys : ¬ d.HasLongKey) :
    build o d = .error .unwritableInteger ↔ ∃ i, d.StopsAt (.integer i) ∧ Number.TooLong i := by
  rw [build_error_iff hkeys]
  constructor
  · rintro ⟨x, hx, h⟩
    rcases fault_of_build_of_parts_nil (parts_eq_nil_of_stopsAt hx) h with ⟨h, -⟩ | ⟨-, i, rfl, hi⟩
    · cases h
    · exact ⟨i, hx, hi⟩
  · rintro ⟨i, hx, hi⟩
    obtain ⟨e, h⟩ := exists_error_of_stopsAt hx o
    rcases fault_of_build_of_parts_nil rfl h with ⟨-, hshort⟩ | ⟨rfl, -⟩
    · exact absurd hi (hshort i rfl)
    · exact ⟨_, hx, h⟩

end Value

end LayeredConfig
