import Mathlib
import LayeredConfig.Proofs.Path.Refusal
import LayeredConfig.Proofs.Store.Freezing
import LayeredConfig.Proofs.Store.Gathering
import LayeredConfig.Proofs.Store.ReadBack
import LayeredConfig.Proofs.Value.Admissible

set_option autoImplicit false

/-!
# Which source fails

Building the tree anew asks the sources one after the other. Each of them may fail in itself, or
hand in a payload with a key that is no path or with data that have no place in a configuration. The
first that does so ends everything, and its fault says which source it is where the fault is about a
source.

## Main definitions

* `Entry.Delivers`, `Entry.Fails` — whether an entry of a payload can be taken apart.
* `Registered.Delivers`, `Registered.Fails` — whether a source contributes when it is asked.
* `Delivered`, `FailsAt` — whether sources contribute that are asked one after the other.
* `Store.noting` — a store whose sources note in a log when they are asked.

## Main results

* `Registered.contribute_ends` — how asking a source ends.
* `Store.refresh_ends` — how building the tree anew ends, and which sources were asked.
-/

namespace LayeredConfig

namespace Fault

/-- A fault that says whose it is, or that is not about a source, is not named anew. -/
lemma tagged_of_named {e : Fault} {name : Label} (h : ∀ diagnostic, e ≠ .source none diagnostic) :
    e.tagged name = e := by
  unfold tagged
  split
  · exact absurd rfl (h _)
  · rfl

/-- What ends with one of certain faults, or with a success of a certain kind, does nothing else, if
one of them is bound to happen. -/
lemma ends_iff {α σ : Type} {x : Except Fault α × σ} {F : Fault → σ → Prop} {D : σ → Prop}
    (hF : ∀ e w, F e w → x = (.error e, w)) (hD : ∀ w, D w → ∃ a, x = (.ok a, w))
    (htotal : (∃ w, D w) ∨ ∃ e w, F e w) :
    (∀ e w, x = (.error e, w) ↔ F e w) ∧ ∀ w, (∃ a, x = (.ok a, w)) ↔ D w := by
  rcases htotal with ⟨w, h⟩ | ⟨e, w, h⟩
  · obtain ⟨a, rfl⟩ := hD w h
    refine ⟨fun e w' => iff_of_false nofun fun h' => ?_, fun w' => ⟨?_, hD w'⟩⟩
    · cases hF e w' h'
    · rintro ⟨a', ⟨⟩⟩
      exact h
  · obtain rfl := hF e w h
    refine ⟨fun e' w' => ⟨?_, hF e' w'⟩, fun w' => iff_of_false nofun fun h' => ?_⟩
    · rintro ⟨⟩
      exact h
    · obtain ⟨a, h'⟩ := hD w' h'
      cases h'

end Fault

/-! ## Entries of a payload -/

namespace Entry

/-- The key of an entry is read as a path. -/
def KeyReads (f : DatumKey × Datum) : Prop :=
  ∃ text p, f.1.display = .ok text ∧ Path.parseKey text = .ok p

/-- An entry can be taken apart: its key is a path, and its data have a place in a configuration. -/
structure Delivers (f : DatumKey × Datum) : Prop where
  /-- The key is read as a path. -/
  key : KeyReads f
  /-- The data can be built to a value. -/
  data : f.2.Admissible

/-- An entry cannot be taken apart that a source called `name` hands in. The key is read first. Data
of the wrong type or range are a fault of the source; no other fault says whose it is. -/
inductive Fails (name : Label) : DatumKey × Datum → Fault → Prop
  /-- The key is no path. -/
  | malformed {k : DatumKey} {d : Datum} {text : String} {m : PathError} :
      k.display = .ok text → Path.parseKey text = .error (.path m) → Fails name (k, d) (.path m)
  /-- The key has an index with too many digits. -/
  | overlong {k : DatumKey} {d : Datum} {text : String} {n : Nat} :
      k.display = .ok text → Path.parseKey text = .error (.tooManyDigits n) →
      Fails name (k, d) (.tooManyDigits n)
  /-- The key is an integer with too many digits. -/
  | unwritableKey {i : Int} {d : Datum} :
      Number.TooLong i → Fails name (.integer i, d) .unwritableInteger
  /-- The data are out of range, or of an unsupported type, at any depth. -/
  | inadmissible {f : DatumKey × Datum} {e : Fault} :
      KeyReads f → f.2.Inadmissible e → e.isTypeFault = true →
      Fails name f (.source (some name) e.message)
  /-- The data hold an integer with too many digits. -/
  | unwritable {f : DatumKey × Datum} :
      KeyReads f → f.2.Inadmissible .unwritableInteger → Fails name f .unwritableInteger

/-- The leaves of an entry. -/
def leaves (f : DatumKey × Datum) : Except Fault (List (Path × Value)) := do
  let root ← Path.parseKey (← f.1.display)
  let v ← Value.ofDatum f.2 none
  return v.leaves root

/-- An entry cannot be taken apart where its key has no text, where the text is not read as a path,
or where the data cannot be built. -/
lemma leaves_error_cases {f : DatumKey × Datum} {e : Fault} :
    leaves f = .error e ↔
      f.1.display = .error e ∨ (∃ text, f.1.display = .ok text ∧ Path.parseKey text = .error e) ∨
        KeyReads f ∧ f.2.Inadmissible e := by
  rw [leaves, Fault.bind_eq_error_iff]
  refine or_congr_right ?_
  rw [← (Value.build_ends f.2).1 e, ← Value.ofDatum_none]
  constructor
  · rintro ⟨text, htext, h⟩
    rcases Fault.bind_eq_error_iff.mp h with h | ⟨p, hp, h⟩
    · exact .inl ⟨text, htext, h⟩
    · rcases Fault.bind_eq_error_iff.mp h with h | ⟨v, -, h⟩
      · exact .inr ⟨⟨text, p, htext, hp⟩, h⟩
      · cases h
  · rintro (⟨text, htext, h⟩ | ⟨⟨text, p, htext, hp⟩, h⟩)
    · exact ⟨text, htext, Fault.bind_eq_error_iff.mpr (.inl h)⟩
    · refine ⟨text, htext, Fault.bind_eq_error_iff.mpr (.inr ⟨p, hp, ?_⟩)⟩
      exact Fault.bind_eq_error_iff.mpr (.inl h)

/-- An entry can be taken apart iff its key is read as a path and its data have a place in a
configuration. -/
lemma leaves_ok_iff {f : DatumKey × Datum} : (∃ ls, leaves f = .ok ls) ↔ Delivers f := by
  constructor
  · rintro ⟨ls, h⟩
    obtain ⟨text, htext, h⟩ := Fault.bind_eq_ok_iff.mp h
    obtain ⟨p, hp, h⟩ := Fault.bind_eq_ok_iff.mp h
    obtain ⟨v, hv, -⟩ := Fault.bind_eq_ok_iff.mp h
    rw [Value.ofDatum_none] at hv
    exact ⟨⟨text, p, htext, hp⟩, (Value.build_ends f.2).2.mp ⟨v, hv⟩⟩
  · rintro ⟨⟨text, p, htext, hp⟩, hdata⟩
    obtain ⟨v, hv⟩ := (Value.build_ends (o := none) f.2).2.mpr hdata
    refine ⟨v.leaves p, ?_⟩
    rw [leaves, htext, Value.ofDatum_none, hv]
    simp only [Fault.ok_bind, hp]
    rfl

/-- The fault of an entry, on account of the source that hands it in. -/
lemma leaves_error_iff {name : Label} {f : DatumKey × Datum} {e : Fault} :
    (∃ e', leaves f = .error e' ∧ e'.blamed name = e) ↔ Fails name f e := by
  constructor
  · rintro ⟨e', h, rfl⟩
    rcases leaves_error_cases.mp h with h | ⟨text, htext, h⟩ | ⟨hkey, h⟩
    · obtain ⟨k, d⟩ := f
      obtain ⟨rfl, i, rfl, hlong⟩ := DatumKey.display_error_iff.mp h
      exact .unwritableKey hlong
    · rcases Path.refused_of_parse h with ⟨m, rfl⟩ | ⟨n, rfl, -⟩
      · exact .malformed htext h
      · exact .overlong htext h
    · rcases Datum.fault_of_inadmissible h with htype | rfl
      · rw [Fault.blamed, if_pos htype]
        exact .inadmissible hkey h htype
      · exact .unwritable hkey h
  · intro h
    cases h with
    | malformed htext h => exact ⟨_, leaves_error_cases.mpr (.inr (.inl ⟨_, htext, h⟩)), rfl⟩
    | overlong htext h => exact ⟨_, leaves_error_cases.mpr (.inr (.inl ⟨_, htext, h⟩)), rfl⟩
    | @unwritableKey i d hlong =>
      have hkey := DatumKey.display_error_iff.mpr ⟨rfl, i, rfl, hlong⟩
      exact ⟨_, leaves_error_cases.mpr (.inl hkey), rfl⟩
    | inadmissible hkey h htype =>
      exact ⟨_, leaves_error_cases.mpr (.inr (.inr ⟨hkey, h⟩)), if_pos htype⟩
    | unwritable hkey h => exact ⟨_, leaves_error_cases.mpr (.inr (.inr ⟨hkey, h⟩)), rfl⟩

end Entry

/-- The leaves of a payload are those of its first entry and then those of the others. -/
lemma contributionOfEntries_cons (f : DatumKey × Datum) (es : List (DatumKey × Datum)) :
    contributionOfEntries (f :: es) =
      Entry.leaves f >>= fun ls => (contributionOfEntries es).map (ls ++ ·) := by
  obtain ⟨k, d⟩ := f
  simp only [contributionOfEntries, Entry.leaves, bind_assoc, pure_bind]
  rfl

/-- A payload cannot be taken apart iff one of its entries cannot, and the fault is that of the
first. -/
lemma contributionOfEntries_error_iff {es : List (DatumKey × Datum)} {e : Fault} :
    contributionOfEntries es = .error e ↔ Fault.First Entry.leaves es e := by
  induction es with
  | nil => exact iff_of_false nofun nofun
  | cons f es ih =>
    rw [Fault.first_cons_iff, contributionOfEntries_cons, Fault.bind_eq_error_iff]
    simp only [Fault.map_error_iff, ih, exists_and_right]

/-- A payload can be taken apart iff all of its entries can. -/
lemma contributionOfEntries_ok_iff {es : List (DatumKey × Datum)} :
    (∃ ls, contributionOfEntries es = .ok ls) ↔ ∀ f ∈ es, Entry.Delivers f := by
  simp only [← Entry.leaves_ok_iff]
  constructor
  · rintro ⟨ls, h⟩
    rcases Fault.forall_or_first Entry.leaves es with hall | ⟨e, hfirst⟩
    · exact hall
    · cases h.symm.trans (contributionOfEntries_error_iff.mpr hfirst)
  · intro hall
    cases h : contributionOfEntries es with
    | ok ls => exact ⟨ls, rfl⟩
    | error e =>
      obtain ⟨before, f, after, rfl, -, hf⟩ :=
        Fault.first_iff.mp (contributionOfEntries_error_iff.mp h)
      obtain ⟨ls, hls⟩ := hall f (by simp)
      cases hf.symm.trans hls

variable {ω : Type}

/-! ## Sources -/

namespace Registered

/-- A source contributes when it is asked: it returns a table whose entries can all be taken
apart. -/
def Delivers (r : Registered ω) (w w' : ω) : Prop :=
  ∃ es, r.source.collect w = (.ok (.mapping es), w') ∧ ∀ f ∈ es, Entry.Delivers f

/-- A source fails when it is asked. -/
inductive Fails (r : Registered ω) (w : ω) : Fault → ω → Prop
  /-- Collecting fails with a fault of a source that does not say which. -/
  | unnamed {diagnostic : String} {w' : ω} :
      r.source.collect w = (.error (.source none diagnostic), w') →
      Fails r w (.source (some r.source.name) diagnostic) w'
  /-- Collecting fails in any other way. -/
  | raised {e : Fault} {w' : ω} :
      r.source.collect w = (.error e, w') → (∀ diagnostic, e ≠ .source none diagnostic) →
      Fails r w e w'
  /-- An entry of the payload cannot be taken apart, and it is the first of them. -/
  | entry {before after : List (DatumKey × Datum)} {f : DatumKey × Datum} {e : Fault} {w' : ω} :
      r.source.collect w = (.ok (.mapping (before ++ f :: after)), w') →
      (∀ b ∈ before, Entry.Delivers b) → Entry.Fails r.source.name f e → Fails r w e w'
  /-- The payload is no table. -/
  | shapeless {payload : Datum} {w' : ω} :
      r.source.collect w = (.ok payload, w') → (∀ es, payload ≠ .mapping es) →
      Fails r w (.misuse .noOperation) w'

/-- A source that fails contributes nothing but the fault. -/
lemma contribute_of_fails {r : Registered ω} {w w' : ω} {e : Fault} (h : r.Fails w e w') :
    r.contribute w = (.error e, w') := by
  cases h with
  | unnamed hc => simp only [contribute, hc, Fault.tagged]
  | raised hc hnamed => simp only [contribute, hc, Fault.tagged_of_named hnamed]
  | @entry before after f e w' hc hbefore hf =>
    obtain ⟨e', he', rfl⟩ := Entry.leaves_error_iff.mpr hf
    have hfirst : Fault.First Entry.leaves (before ++ f :: after) e' :=
      Fault.first_iff.mpr ⟨before, f, after, rfl,
        fun b hb => Entry.leaves_ok_iff.mpr (hbefore b hb), he'⟩
    have hpayload : contribution (.mapping (before ++ f :: after)) = .error e' :=
      contributionOfEntries_error_iff.mpr hfirst
    simp only [contribute, hc, hpayload]
  | @shapeless payload w' hc hshape =>
    have hpayload : contribution payload = .error (.misuse .noOperation) := by
      unfold contribution
      split
      · exact absurd rfl (hshape _)
      · rfl
    simp only [contribute, hc, hpayload]
    rfl

/-- A source that delivers contributes leaves. -/
lemma contribute_of_delivers {r : Registered ω} {w w' : ω} (h : r.Delivers w w') :
    ∃ ls, r.contribute w = (.ok ls, w') := by
  obtain ⟨es, hc, hes⟩ := h
  obtain ⟨ls, hls⟩ := contributionOfEntries_ok_iff.mpr hes
  have hpayload : contribution (.mapping es) = .ok ls := hls
  exact ⟨ls.filter fun l => Filter.admits r.filter l.1.text,
    by simp only [contribute, hc, hpayload]⟩

/-- A source delivers or fails when it is asked. -/
lemma delivers_or_fails (r : Registered ω) (w : ω) :
    (∃ w', r.Delivers w w') ∨ ∃ e w', r.Fails w e w' := by
  rcases hc : r.source.collect w with ⟨e | payload, w'⟩
  · by_cases hnamed : ∀ diagnostic, e ≠ .source none diagnostic
    · exact .inr ⟨e, w', .raised hc hnamed⟩
    · obtain ⟨diagnostic, rfl⟩ := not_forall_not.mp hnamed
      exact .inr ⟨_, w', .unnamed hc⟩
  · by_cases hshape : ∀ es, payload ≠ .mapping es
    · exact .inr ⟨_, w', .shapeless hc hshape⟩
    · obtain ⟨es, rfl⟩ := not_forall_not.mp hshape
      rcases Fault.forall_or_first Entry.leaves es with hall | ⟨e, hfirst⟩
      · exact .inl ⟨w', es, hc, fun f hf => Entry.leaves_ok_iff.mp (hall f hf)⟩
      · obtain ⟨before, f, after, rfl, hbefore, hf⟩ := Fault.first_iff.mp hfirst
        exact .inr ⟨_, w', .entry hc (fun b hb => Entry.leaves_ok_iff.mp (hbefore b hb))
          (Entry.leaves_error_iff.mp ⟨e, hf, rfl⟩)⟩

/-- **How asking a source ends**: it contributes iff it delivers, and otherwise it fails. -/
theorem contribute_ends (r : Registered ω) (w : ω) :
    (∀ e w', r.contribute w = (.error e, w') ↔ r.Fails w e w') ∧
      ∀ w', (∃ ls, r.contribute w = (.ok ls, w')) ↔ r.Delivers w w' :=
  Fault.ends_iff (fun _ _ => contribute_of_fails) (fun _ => contribute_of_delivers)
    (r.delivers_or_fails w)

end Registered

/-- Sources that are asked one after the other all contribute. -/
inductive Delivered : List (Registered ω) → ω → ω → Prop
  /-- There is nobody to ask. -/
  | nil (w : ω) : Delivered [] w w
  /-- The first source contributes, and then the others. -/
  | cons {r : Registered ω} {rs : List (Registered ω)} {w w₁ w₂ : ω} :
      r.Delivers w w₁ → Delivered rs w₁ w₂ → Delivered (r :: rs) w w₂

/-- Of sources that are asked one after the other, the one at a position is the first to fail. -/
inductive FailsAt : List (Registered ω) → ω → Nat → Fault → ω → Prop
  /-- The first source fails. -/
  | here {r : Registered ω} {rs : List (Registered ω)} {w w' : ω} {e : Fault} :
      r.Fails w e w' → FailsAt (r :: rs) w 0 e w'
  /-- The first source contributes, and one after it fails. -/
  | later {r : Registered ω} {rs : List (Registered ω)} {w w₁ w' : ω} {k : Nat} {e : Fault} :
      r.Delivers w w₁ → FailsAt rs w₁ k e w' → FailsAt (r :: rs) w (k + 1) e w'

/-- Gathering ends with the fault of the first source to fail. -/
lemma gather_of_failsAt {rs : List (Registered ω)} {w w' : ω} {k : Nat} {e : Fault}
    (h : FailsAt rs w k e w') : gather rs w = (.error e, w') := by
  induction h with
  | here hr => simp only [gather, Registered.contribute_of_fails hr]
  | later hr _ ih =>
    obtain ⟨ls, hls⟩ := Registered.contribute_of_delivers hr
    simp only [gather, hls, ih]

/-- Gathering from sources that all contribute gives leaves. -/
lemma gather_of_delivered {rs : List (Registered ω)} {w w' : ω} (h : Delivered rs w w') :
    ∃ ls, gather rs w = (.ok ls, w') := by
  induction h with
  | nil w => exact ⟨[], rfl⟩
  | cons hr _ ih =>
    obtain ⟨ls, hls⟩ := Registered.contribute_of_delivers hr
    obtain ⟨more, hmore⟩ := ih
    exact ⟨ls ++ more, by simp only [gather, hls, hmore]⟩

/-- One more source contributes after the others. -/
lemma Delivered.concat {rs : List (Registered ω)} {r : Registered ω} {w w₁ w₂ : ω}
    (h : Delivered rs w w₁) (hr : r.Delivers w₁ w₂) : Delivered (rs ++ [r]) w w₂ := by
  induction h with
  | nil w => exact .cons hr (.nil w₂)
  | cons hx _ ih => exact .cons hx (ih hr)

/-- Sources that are asked one after the other all contribute, or one is the first to fail. -/
lemma delivered_or_failsAt (rs : List (Registered ω)) (w : ω) :
    (∃ w', Delivered rs w w') ∨ ∃ e w' k, FailsAt rs w k e w' := by
  induction rs generalizing w with
  | nil => exact .inl ⟨w, .nil w⟩
  | cons r rs ih =>
    rcases r.delivers_or_fails w with ⟨w₁, hr⟩ | ⟨e, w', hr⟩
    · rcases ih w₁ with ⟨w', hrs⟩ | ⟨e, w', k, hrs⟩
      · exact .inl ⟨w', .cons hr hrs⟩
      · exact .inr ⟨e, w', k + 1, .later hr hrs⟩
    · exact .inr ⟨e, w', 0, .here hr⟩

/-- How asking sources one after the other ends: all of them contribute, or one is the first to
fail. -/
theorem gather_ends (rs : List (Registered ω)) (w : ω) :
    (∀ e w', gather rs w = (.error e, w') ↔ ∃ k, FailsAt rs w k e w') ∧
      ∀ w', (∃ ls, gather rs w = (.ok ls, w')) ↔ Delivered rs w w' :=
  Fault.ends_iff (fun _ _ ⟨_, h⟩ => gather_of_failsAt h) (fun _ => gather_of_delivered)
    (delivered_or_failsAt rs w)

/-! ## Which sources are asked -/

/-- A source that notes its number in a log when it is asked. -/
def Registered.noting (r : Registered ω) (n : Nat) : Registered (ω × List Nat) where
  source := {
    id := r.source.id
    name := r.source.name
    collect := fun x => ((r.source.collect x.1).1, ((r.source.collect x.1).2, x.2 ++ [n])) }
  filter := r.filter

/-- Sources that note in a log when they are asked, numbered from `start` on. -/
def notingFrom (start : Nat) : List (Registered ω) → List (Registered (ω × List Nat))
  | [] => []
  | r :: rs => r.noting start :: notingFrom (start + 1) rs

/-- Layers whose sources note in a log when they are asked, numbered by their positions. -/
def Layers.noting (l : Layers ω) : Layers (ω × List Nat) where
  defaults := l.defaults
  sources := notingFrom 0 l.sources
  overrides := l.overrides

/-- A store whose sources note in a log when they are asked, numbered by their positions. -/
def Store.noting (s : Store ω) : Store (ω × List Nat) where
  toLayers := s.toLayers.noting
  cache := s.cache
  frozen := s.frozen

/-- A source that notes contributes the same, and has noted its number. -/
lemma Registered.contribute_noting (r : Registered ω) (n : Nat) (w : ω) (log : List Nat) :
    (r.noting n).contribute (w, log) =
      ((r.contribute w).1, ((r.contribute w).2, log ++ [n])) := by
  simp only [contribute, noting]
  rcases r.source.collect w with ⟨e | payload, w'⟩
  · rfl
  · cases hc : contribution payload <;> simp only [hc]

/-- Gathering from sources that note gives the same, and the log has the numbers of those that were
asked, in order. -/
lemma gather_noting (rs : List (Registered ω)) (start : Nat) (w : ω) (log : List Nat) :
    gather (notingFrom start rs) (w, log) =
      ((gather rs w).1, ((gather rs w).2, log ++ List.range' start (asked rs w))) := by
  induction rs generalizing start w log with
  | nil => simp [notingFrom, gather, asked]
  | cons r rs ih =>
    simp only [notingFrom, gather, asked, r.contribute_noting]
    rcases r.contribute w with ⟨e | leaves, w'⟩
    · rfl
    · simp only [ih]
      rcases gather rs w' with ⟨e | more, w''⟩ <;> simp [List.range'_succ]

/-- The first source to fail is the last to be asked. -/
lemma FailsAt.asked_eq {rs : List (Registered ω)} {w w' : ω} {k : Nat} {e : Fault}
    (h : FailsAt rs w k e w') : asked rs w = k + 1 := by
  induction h with
  | @here r rs w w' e hr =>
    simp only [asked, Registered.contribute_of_fails hr]
  | @later r rs w w₁ w' k e hr _ ih =>
    obtain ⟨ls, hls⟩ := Registered.contribute_of_delivers hr
    simp only [asked, hls, ih]

/-- Sources that all contribute are all asked. -/
lemma Delivered.asked_eq {rs : List (Registered ω)} {w w' : ω} (h : Delivered rs w w') :
    asked rs w = rs.length := by
  induction h with
  | nil w => rfl
  | @cons r rs w w₁ w₂ hr _ ih =>
    obtain ⟨ls, hls⟩ := Registered.contribute_of_delivers hr
    simp only [asked, hls, ih, List.length_cons]

namespace Store

/-- Building the tree of a store that is open to changes gathers from the sources. -/
lemma refresh_of_open {s : Store ω} (hs : s.frozen = false) (w : ω) :
    s.refresh w = ((gather s.sources w).1.map (built s.toLayers), (gather s.sources w).2) := by
  rw [refresh_eq, hs]
  rfl

/-- Building the tree fails iff a source is the first to fail. -/
lemma refresh_error_iff {s : Store ω} (hs : s.frozen = false) {w w' : ω} {e : Fault} :
    s.refresh w = (.error e, w') ↔ ∃ k, FailsAt s.sources w k e w' := by
  rw [refresh_of_open hs, ← (gather_ends s.sources w).1]
  rcases gather s.sources w with ⟨e' | ls, w₁⟩ <;> simp [Except.map]

/-- The tree is built iff all sources contribute. -/
lemma refresh_ok_iff {s : Store ω} (hs : s.frozen = false) {w w' : ω} :
    (∃ t, s.refresh w = (.ok t, w')) ↔ Delivered s.sources w w' := by
  rw [refresh_of_open hs, ← (gather_ends s.sources w).2]
  rcases gather s.sources w with ⟨e' | ls, w₁⟩ <;> simp [Except.map]

/-- A source can be merged into a store that is open to changes if the other sources contribute, and
then it does. -/
lemma merge_of_delivers {s : Store ω} (hs : s.frozen = false) {r : Registered ω} {w w₁ w₂ : ω}
    (h : Delivered s.sources w w₁) (hr : r.Delivers w₁ w₂) :
    ∃ s', s.merge r w = (.ok s', w₂) := by
  obtain ⟨leaves, hgather⟩ := gather_of_delivered (h.concat hr)
  exact ⟨_, Store.after_ok_iff.mpr
    (Operation.perform_of_edit hs rfl (gather_ok_iff.mp hgather))⟩

/-- A store whose sources note is built as the store is, and notes which sources are asked. -/
lemma refresh_noting {s : Store ω} (hs : s.frozen = false) (w : ω) (log : List Nat) :
    s.noting.refresh (w, log) =
      ((s.refresh w).1.map noting, ((s.refresh w).2, log ++ List.range (asked s.sources w))) := by
  have hsources : s.noting.sources = notingFrom 0 s.sources := rfl
  rw [refresh_of_open hs, refresh_of_open (s := s.noting) hs, hsources, gather_noting,
    List.range_eq_range']
  rcases gather s.sources w with ⟨e | ls, w'⟩ <;> rfl

/-- **How building the tree anew ends.** Sources are asked in order, up to the first that fails.

* It ends with a fault iff a source is the first to fail, with this fault. That is the fault with
  which collecting fails, where a fault of a source is named after it if it does not say whose it
  is; or the fault of the first entry of the payload that cannot be taken apart, where data that are
  out of range or of an unsupported type, at any depth, are a fault of the source.
* It succeeds iff all sources contribute, that is, iff no source is the first to fail.
* If sources note when they are asked, the log has the numbers of the sources up to the one that
  fails, or of all, in order and each of them once.

**Proof sketch.** Gathering follows the sources (`gather_ends`), asking a source follows the entries
of its payload (`Registered.contribute_ends`), and building follows the data of an entry
(`Value.build_ends`). Each time, what is described is bound to happen, so nothing else does. -/
theorem refresh_ends {s : Store ω} (hs : s.frozen = false) (w : ω) (log : List Nat) :
    (∀ e w', s.refresh w = (.error e, w') ↔ ∃ k, FailsAt s.sources w k e w') ∧
    (∀ w', (∃ t, s.refresh w = (.ok t, w')) ↔ Delivered s.sources w w') ∧
    ((∃ t w', s.refresh w = (.ok t, w')) ↔ ¬ ∃ k e w', FailsAt s.sources w k e w') ∧
    (∀ k e w', FailsAt s.sources w k e w' →
      s.noting.refresh (w, log) = (.error e, (w', log ++ List.range (k + 1)))) ∧
    (∀ t w', s.refresh w = (.ok t, w') →
      s.noting.refresh (w, log) = (.ok t.noting, (w', log ++ List.range s.sources.length))) := by
  refine ⟨fun e w' => refresh_error_iff hs, fun w' => refresh_ok_iff hs, ?_, fun k e w' h => ?_,
    fun t w' h => ?_⟩
  · constructor
    · rintro ⟨t, w', h⟩ ⟨k, e, w₁, hfails⟩
      cases h.symm.trans ((refresh_error_iff hs).mpr ⟨k, hfails⟩)
    · intro hnone
      rcases delivered_or_failsAt s.sources w with ⟨w', h⟩ | ⟨e, w', k, h⟩
      · obtain ⟨t, ht⟩ := (refresh_ok_iff hs).mpr h
        exact ⟨t, w', ht⟩
      · exact absurd ⟨k, e, w', h⟩ hnone
  · rw [refresh_noting hs, (refresh_error_iff hs).mpr ⟨k, h⟩, h.asked_eq]
    rfl
  · rw [refresh_noting hs, h, ((refresh_ok_iff hs).mp ⟨t, h⟩).asked_eq]
    rfl

/-- A source that hands in an integer at a key. -/
def offering (i : Int) : Registered Unit :=
  ⟨Source.fixed (.record [("a", .integer i)]), none⟩

/-- The key is a path. -/
lemma keyReads_offering (i : Int) : Entry.KeyReads (.text "a", .integer i) :=
  ⟨"a", [.key "a"], rfl, by cbv⟩

/-- An integer of 64 bits is contributed. -/
lemma delivers_offering {i : Int} (h : fitsInteger i = true) : (offering i).Delivers () () := by
  have hdata : (Datum.integer i).Admissible :=
    (Value.build_ends (o := none) _).2.mp ⟨.scalar none (.integer i), if_pos h⟩
  exact ⟨_, rfl, List.forall_mem_singleton.mpr ⟨keyReads_offering i, hdata⟩⟩

/-- The source fails if its entry does. -/
lemma fails_offering {i : Int} {e : Fault}
    (h : Entry.Fails (.text "fixed payload") (.text "a", .integer i) e) :
    (offering i).Fails () e () := by
  have hcollect : (offering i).source.collect () =
      (.ok (.mapping ([] ++ (.text "a", .integer i) :: [])), ()) := rfl
  exact .entry hcollect (List.forall_mem_nil _) h

/-- Of two sources, the second hands in an integer of more than 64 bits. Both are asked. -/
theorem refresh_ends_wide :
    (unbuilt ⟨[], [offering 1, offering (2 ^ 63)], []⟩).noting.refresh ((), []) =
      (.error (.source (some (.text "fixed payload")) (Fault.wideInteger (2 ^ 63)).message),
        ((), [0, 1])) := by
  have hshort : ¬ Number.TooLong (2 ^ 63) := fun h => by
    have hlarge : 10 ^ 19 ≤ (2 ^ 63 : Int).natAbs :=
      (Nat.pow_le_pow_right (by decide) (by decide)).trans h
    exact absurd hlarge (by decide)
  have hsecond : (offering (2 ^ 63)).Fails ()
      (.source (some (.text "fixed payload")) (Fault.wideInteger (2 ^ 63)).message) () :=
    fails_offering (.inadmissible (keyReads_offering _) (.here (.wide (by decide) hshort)) rfl)
  exact (refresh_ends (s := unbuilt ⟨[], [offering 1, offering (2 ^ 63)], []⟩) rfl () []).2.2.2.1
    1 _ () (.later (delivers_offering (by decide)) (.here hsecond))

/-- **An integer that cannot be named is no fault of the source.** An integer with more digits than
can be written does not fit in 64 bits either. But no fault of the source says so, since the wording
of that fault cannot be made. -/
theorem refresh_ends_unwritable :
    ¬ (-2 ^ 63 ≤ (10 : Int) ^ Number.digitLimit ∧ (10 : Int) ^ Number.digitLimit ≤ 2 ^ 63 - 1) ∧
      (unbuilt ⟨[], [offering (10 ^ Number.digitLimit)], []⟩).refresh () =
        (.error .unwritableInteger, ()) := by
  have hlong : Number.TooLong (10 ^ Number.digitLimit) := by
    rw [Number.TooLong, Int.natAbs_pow]
    exact Nat.pow_le_pow_left (by decide) _
  have hfirst : (offering (10 ^ Number.digitLimit)).Fails () .unwritableInteger () :=
    fails_offering (.unwritable (keyReads_offering _) (.here (.unwritable hlong)))
  exact ⟨mt fitsInteger_iff.mpr (Value.not_fitsInteger_of_tooLong hlong),
    (refresh_error_iff rfl).mpr ⟨0, .here hfirst⟩⟩

end Store

end LayeredConfig
