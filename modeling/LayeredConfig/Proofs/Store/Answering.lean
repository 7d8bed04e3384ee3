import Mathlib
import LayeredConfig.Proofs.Path.Refusal
import LayeredConfig.Proofs.Store.WellFormed
import LayeredConfig.Proofs.Value.Reading

set_option autoImplicit false

/-!
# How reads of a store end

A read in a shape ends in one of four ways: the key is malformed, nothing stands there, the value
that stands there has another shape, or it is read. Which one it is depends on the key in lower case
and on the merged tree alone.

A fifth way is not meant for callers: digits that write an integer, be it an index of the key or a
text that is read as an integer, are given up if they are more than an integer is read from.

## Main definitions

* `Store.Answers` — how a read ends.

## Main results

* `Store.answers_getWith` — reading in any shape.
* `Store.reads_answer` — reading in each of the shapes that a store offers.
-/

namespace LayeredConfig

namespace Path

/-- A key in lower case spells a path iff it is read as this path. -/
lemma spells_lower_iff {key : String} {p : Path} :
    Spells (Text.lower key).toList p ↔ parseKey key = .ok p :=
  parse_ok_iff.symm

/-- A key in lower case has an index with too many digits iff it is given up for them. -/
lemma overlong_lower_iff {key : String} {n : Nat} :
    Overlong Spells (Text.lower key).toList n ↔ parseKey key = .error (.tooManyDigits n) :=
  parse_tooManyDigits_iff.symm

/-- A key in lower case is outside the grammar, as far as it is looked at, iff it is malformed. -/
lemma malformed_lower_iff {key : String} :
    (¬ Grammatical (Text.lower key).toList ∧ ∀ n, ¬ Overlong Spells (Text.lower key).toList n) ↔
      ∃ m, parseKey key = .error (.path m) :=
  parse_malformed_iff.symm

end Path

namespace Store

variable {ω : Type}

/-- How a read of a key ends, by the key in lower case and what stands there. `Long` are the values
that have too many digits to be read. -/
structure Answers (s : Store ω) (key : String) (expected : String) (Long : Value → Nat → Prop)
    {α : Type} (answer : Except Fault α) : Prop where
  /-- The key is malformed iff it is not in the grammar, and no index with too many digits is found
  before that shows. -/
  malformed : (∃ m, answer = .error (.path m)) ↔
    ¬ Path.Grammatical (Text.lower key).toList ∧
      ∀ n, ¬ Path.Overlong Path.Spells (Text.lower key).toList n
  /-- Nothing is found, and the fault names the key as it was written, iff the key spells a path at
  which nothing stands. -/
  absent : answer = .error (.absent key) ↔
    ∃ p, Path.Spells (Text.lower key).toList p ∧ s.cache.get? p = none
  /-- Digits are given up iff there are too many of them in an index of the key, or in the value
  that stands there. -/
  tooManyDigits : ∀ n, answer = .error (.tooManyDigits n) ↔
    Path.Overlong Path.Spells (Text.lower key).toList n ∨
      ∃ p v, Path.Spells (Text.lower key).toList p ∧ s.cache.get? p = some v ∧ Long v n
  /-- A value that stands at the key is read, or it is a mismatch: the fault has the origin and the
  description of the value, what was expected, and the key as it was written. -/
  found : ∀ p v, Path.Spells (Text.lower key).toList p → s.cache.get? p = some v →
    (∀ n, ¬ Long v n) → (∃ a, answer = .ok a) ∨
      answer = .error (.mismatch ⟨v.origin, v.describe, expected, some key⟩)
  /-- There are no other faults, and a mismatch is that of a value that stands at the key. -/
  faults : ∀ e, answer = .error e → (∃ m, e = .path m) ∨ e = .absent key ∨
    (∃ n, e = .tooManyDigits n) ∨ ∃ p v, Path.Spells (Text.lower key).toList p ∧
      s.cache.get? p = some v ∧ e = .mismatch ⟨v.origin, v.describe, expected, some key⟩

section Answers

variable {α : Type} {s : Store ω} {key expected : String} {Long : Value → Nat → Prop}

/-- A key that is refused is the fault of the read. -/
lemma answers_of_refused {e : Fault} (hkey : Path.parseKey key = .error e) :
    s.Answers key expected Long (.error e : Except Fault α) := by
  have hrefused : (∃ m, e = .path m) ∨ ∃ n, e = .tooManyDigits n :=
    (Path.refused_of_parse hkey).imp_right fun ⟨n, he, _⟩ => ⟨n, he⟩
  constructor
  · rw [Path.malformed_lower_iff, hkey]
    simp
  · rcases hrefused with ⟨m, rfl⟩ | ⟨n, rfl⟩ <;> simp [Path.spells_lower_iff, hkey]
  · simp [Path.overlong_lower_iff, Path.spells_lower_iff, hkey]
  · simp [Path.spells_lower_iff, hkey]
  · intro e' he'
    obtain rfl := Except.error.inj he'
    rcases hrefused with hm | hn
    · exact .inl hm
    · exact .inr (.inr (.inl hn))

/-- A key at which nothing stands is named as it was written. -/
lemma answers_of_absent {p : Path} (hkey : Path.parseKey key = .ok p)
    (hv : s.cache.get? p = none) :
    s.Answers key expected Long (.error (.absent key) : Except Fault α) := by
  constructor
  · simp [Path.malformed_lower_iff, hkey]
  · exact iff_of_true rfl ⟨p, Path.spells_lower_iff.mpr hkey, hv⟩
  · simp [Path.overlong_lower_iff, Path.spells_lower_iff, hkey, hv]
  · intro p' v' hp' hv' _
    rw [Path.spells_lower_iff, hkey] at hp'
    obtain rfl := Except.ok.inj hp'
    rw [hv] at hv'
    cases hv'
  · intro e he
    exact .inr (.inl (Except.error.inj he).symm)

/-- A value with too many digits is given up. -/
lemma answers_of_long {p : Path} {v : Value} {n : Nat} (hkey : Path.parseKey key = .ok p)
    (hv : s.cache.get? p = some v) (hlong : ∀ k, Long v k ↔ k = n) :
    s.Answers key expected Long (.error (.tooManyDigits n) : Except Fault α) := by
  constructor
  · simp [Path.malformed_lower_iff, hkey]
  · simp [Path.spells_lower_iff, hkey, hv]
  · simp [Path.overlong_lower_iff, Path.spells_lower_iff, hkey, hv, hlong, eq_comm]
  · intro p' v' hp' hv' hshort
    rw [Path.spells_lower_iff, hkey] at hp'
    obtain rfl := Except.ok.inj hp'
    obtain rfl := Option.some.inj (hv.symm.trans hv')
    exact absurd ((hlong n).mpr rfl) (hshort n)
  · intro e he
    exact .inr (.inr (.inl ⟨n, (Except.error.inj he).symm⟩))

/-- Every other value is read, or it is a mismatch. -/
lemma answers_of_short {p : Path} {v : Value} (hkey : Path.parseKey key = .ok p)
    (hv : s.cache.get? p = some v) (hshort : ∀ n, ¬ Long v n) {answer : Except Fault α}
    (h : (∃ a, answer = .ok a) ∨
      answer = .error (.mismatch ⟨v.origin, v.describe, expected, some key⟩)) :
    s.Answers key expected Long answer := by
  constructor
  · rw [Path.malformed_lower_iff, hkey]
    rcases h with ⟨a, rfl⟩ | rfl <;> simp
  · rcases h with ⟨a, rfl⟩ | rfl <;> simp [Path.spells_lower_iff, hkey, hv]
  · rcases h with ⟨a, rfl⟩ | rfl <;>
      simp [Path.overlong_lower_iff, Path.spells_lower_iff, hkey, hv, hshort]
  · intro p' v' hp' hv' _
    rw [Path.spells_lower_iff, hkey] at hp'
    obtain rfl := Except.ok.inj hp'
    obtain rfl := Option.some.inj (hv.symm.trans hv')
    exact h
  · rintro e rfl
    rcases h with ⟨a, h⟩ | h
    · cases h
    · exact .inr (.inr (.inr ⟨p, v, Path.spells_lower_iff.mpr hkey, hv, Except.error.inj h⟩))

end Answers

/-- A read of a key that is refused ends with its fault. -/
lemma getWith_of_parseKey_error {α : Type} (read : Value → Except Fault α) {s : Store ω}
    {key : String} {e : Fault} (h : Path.parseKey key = .error e) :
    s.getWith read key = .error e := by
  simp only [getWith, get, h, Fault.error_bind]

/-- A read of a key at which nothing stands. -/
lemma getWith_of_absent {α : Type} (read : Value → Except Fault α) {s : Store ω} {key : String}
    {p : Path} (h : Path.parseKey key = .ok p) (hv : s.cache.get? p = none) :
    s.getWith read key = .error (.absent key) := by
  simp only [getWith, get_of_parseKey h, hv, Fault.error_bind]

/-- A read of a key at which a value stands reads this value, and names the key in a mismatch. -/
lemma getWith_of_found {α : Type} (read : Value → Except Fault α) {s : Store ω} {key : String}
    {p : Path} (h : Path.parseKey key = .ok p) {v : Value} (hv : s.cache.get? p = some v) :
    s.getWith read key = match read v with
      | .ok a => .ok a
      | .error e => .error (e.withKey key) := by
  cases hread : read v <;>
    simp only [getWith, get_of_parseKey h, hv, hread, Fault.ok_bind, Fault.pure_eq_ok]

/-- **Reading in a shape**: how a read ends follows from how the readings of values end.

**Proof sketch.** The key is refused, or it is a path (`Path.refused_of_parse`). At a path there
stands nothing or a value. The reading of the value ends with a number of digits, which is the same
for all ways to see that they are too many, or with a result or a mismatch. -/
theorem answers_getWith {α : Type} {read : Value → Except Fault α} {expected : String}
    {Long : Value → Nat → Prop} (hread : Value.EndsAs read expected Long) (s : Store ω)
    (key : String) : s.Answers key expected Long (s.getWith read key) := by
  cases hkey : Path.parseKey key with
  | error e =>
    rw [getWith_of_parseKey_error read hkey]
    exact answers_of_refused hkey
  | ok p =>
    cases hv : s.cache.get? p with
    | none =>
      rw [getWith_of_absent read hkey hv]
      exact answers_of_absent hkey hv
    | some v =>
      rw [getWith_of_found read hkey hv]
      by_cases hlong : ∃ n, Long v n
      · obtain ⟨n, hn⟩ := hlong
        have huniq (k : Nat) : Long v k ↔ k = n := by
          constructor
          · intro hk
            have hsame := (hread.long v k hk).symm.trans (hread.long v n hn)
            exact Fault.tooManyDigits.inj (Except.error.inj hsame)
          · rintro rfl
            exact hn
        rw [hread.long v n hn]
        exact answers_of_long hkey hv huniq
      · have hshort : ∀ n, ¬ Long v n := not_exists.mp hlong
        apply answers_of_short hkey hv hshort
        rcases hread.other v hshort with ⟨a, ha⟩ | hfail
        · rw [ha]
          exact .inl ⟨a, rfl⟩
        · rw [hfail]
          exact .inr rfl

/-- **How reads end**: in every store, every key is read in each shape as follows. The read fails
with a malformed key iff the key in lower case is outside the grammar, and with the key itself iff
it spells a path at which nothing stands. Where a value stands, it is read, or the fault is a
mismatch with the key, the origin of the value and its description. The only other fault is an
integer with too many digits, in an index of the key or in a text that is read as an integer. If the
store can be reached with sound data, an integer that is read fits in 64 bits. -/
theorem reads_answer (s : Store ω) (key : String) :
    s.Answers key "a boolean" (fun _ _ => False) (s.getBool key) ∧
    s.Answers key "an integer" Value.LongNumeral (s.getInteger key) ∧
    s.Answers key "a floating point" (fun _ _ => False) (s.getFloat key) ∧
    s.Answers key "a string" (fun _ _ => False) (s.getText key) ∧
    s.Answers key "an array" (fun _ _ => False) (s.getArray key) ∧
    (s.SoundlyReachable → ∀ i, s.getInteger key = .ok i → fitsInteger i = true) := by
  refine ⟨answers_getWith Value.endsAs_toBool s key, answers_getWith Value.endsAs_toInteger s key,
    answers_getWith Value.endsAs_toFloat s key, answers_getWith Value.endsAs_toText s key,
    answers_getWith Value.endsAs_toArray s key, fun h i hi => ?_⟩
  obtain ⟨v, hv, hi⟩ := Fault.bind_eq_ok_iff.mp hi
  obtain ⟨p, hp, -⟩ := Fault.bind_eq_ok_iff.mp hv
  rw [get_of_parseKey hp] at hv
  split at hv
  · rename_i u hu
    obtain rfl := Except.ok.inj hv
    have hwf := wellFormed_of_get? h.wellFormed_cache hu
    split at hi
    · rename_i j hj
      obtain rfl := Except.ok.inj hi
      exact Value.fits_of_toInteger hwf hj
    · cases hi
  · cases hv

/-- A key in capitals is found below a table, and one that nothing stands at is named as written. -/
theorem reads_answer_capitals :
    ∃ s : Store Unit, ofTable (.record [("a", .record [("n", .text "12")])]) = .ok s ∧
      s.SoundlyReachable ∧ s.getInteger "A.N" = .ok 12 ∧ fitsInteger 12 = true ∧
      s.getInteger "A.X" = .error (.absent "A.X") := by
  let leaf : Value := .scalar none (.text "12")
  let s : Store Unit := ⟨⟨[], [], [([.key "a", .key "n"], leaf)]⟩,
    .table none [("a", .table none [("n", leaf)])], false⟩
  have hs : ofTable (.record [("a", .record [("n", .text "12")])]) = .ok s := by cbv
  have hsound : (Datum.record [("a", .record [("n", .text "12")])]).Sound := by
    simp [Datum.record, Datum.Sound, Datum.SoundEntries]
  have hreach : s.SoundlyReachable := .ofTable hsound hs
  have hread : s.getInteger "A.N" = .ok 12 := by
    have hkey : Path.parseKey "A.N" = .ok [.key "a", .key "n"] := by cbv
    rw [getInteger, getWith_of_found Value.toInteger hkey (v := leaf) rfl]
    cbv
  have habsent : Path.parseKey "A.X" = .ok [.key "a", .key "x"] := by cbv
  exact ⟨s, hs, hreach, hread, (reads_answer s "A.N").2.2.2.2.2 hreach 12 hread,
    (reads_answer s "A.X").2.1.absent.mpr ⟨_, Path.spells_lower_iff.mpr habsent, rfl⟩⟩

/-- Digits that are too many are given up, both in a text that is read as an integer and in an index
of a key, although the key is in the grammar. -/
lemma exists_gives_up {ds : List Char} (hd : Path.IsIndex ds)
    (hlimit : Number.digitLimit < ds.length) :
    ∃ s : Store Unit, ofTable (.record [("a", .text (String.ofList ds))]) = .ok s ∧
      s.getInteger "a" = .error (.tooManyDigits ds.length) ∧
      Path.Grammatical (Text.lower ("a[" ++ String.ofList ds ++ "]")).toList ∧
      s.getBool ("a[" ++ String.ofList ds ++ "]") = .error (.tooManyDigits ds.length) := by
  let leaf (t : String) : Value := .scalar none (.text t)
  let s (t : String) : Store Unit :=
    ⟨⟨[], [], [([.key "a"], leaf t)]⟩, .table none [("a", leaf t)], false⟩
  have ha : Path.parseKey "a" = .ok [.key "a"] := by cbv
  have hs (t : String) : ofTable (.record [("a", .text t)]) = .ok (s t) := by cbv
  have hlong : (leaf (String.ofList ds)).LongNumeral ds.length :=
    ⟨none, _, false, ds, rfl, by
      rw [String.toList_ofList]; exact Number.integerLiteral?_of_digits hd.1 hd.2, rfl, hlimit⟩
  have hname : Path.IsName "a" := by decide
  have hkey : (Text.lower ("a[" ++ String.ofList ds ++ "]")).toList =
      ['a'] ++ '[' :: (ds ++ [']']) := by
    rw [Text.lower_eq_self]
    · simp
    · intro c hc
      have hc : c = 'a' ∨ c = '[' ∨ c ∈ ds ∨ c = ']' := by simpa using hc
      rcases hc with rfl | rfl | hc | rfl
      · decide +kernel
      · exact Path.lowerChar_separator rfl
      · exact Path.lowerChar_of_isAsciiDigit (hd.2 c hc)
      · exact Path.lowerChar_separator rfl
  refine ⟨_, hs _, ?_, ?_, ?_⟩
  · rw [getInteger, getWith_of_found Value.toInteger ha (v := leaf _) rfl,
      Value.toInteger_of_longNumeral hlong]
    rfl
  · rw [hkey]
    exact .key hname (.index hd .nil)
  · have hoverlong : Path.Overlong Path.Spells
        (Text.lower ("a[" ++ String.ofList ds ++ "]")).toList ds.length := by
      rw [hkey]
      exact ⟨['a'], _, ds, [], .key hname .nil, hd, rfl, hlimit, rfl⟩
    exact getWith_of_parseKey_error _ hoverlong.parse_eq

/-- A text that writes an integer with 4301 digits is no mismatch, and a key with such an index is
not found to be absent. -/
theorem reads_give_up_digits :
    let numeral := String.ofList (List.replicate 4301 '1')
    ∃ s : Store Unit, ofTable (.record [("a", .text numeral)]) = .ok s ∧
      s.getInteger "a" = .error (.tooManyDigits 4301) ∧
      Path.Grammatical (Text.lower ("a[" ++ numeral ++ "]")).toList ∧
      s.getBool ("a[" ++ numeral ++ "]") = .error (.tooManyDigits 4301) := by
  have hdigits : ∀ c ∈ List.replicate 4301 '1', Text.isAsciiDigit c = true := by
    intro c hc
    rw [List.eq_of_mem_replicate hc]
    decide
  have hlength : (List.replicate 4301 '1').length = 4301 := List.length_replicate
  have hindex : Path.IsIndex (List.replicate 4301 '1') := ⟨List.cons_ne_nil _ _, hdigits⟩
  have h := exists_gives_up hindex (by rw [hlength]; decide)
  rwa [hlength] at h

end Store

end LayeredConfig
