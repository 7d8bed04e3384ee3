import Mathlib
import LayeredConfig.Proofs.Path.LetterCase
import LayeredConfig.Value.Reading

set_option autoImplicit false

/-!
# How readings end

A value is read in a shape, or it is a mismatch that describes the value and names the shape. Only
an integer may end otherwise: a text may write one with more digits than an integer can be read
from.

## Main definitions

* `Value.LongNumeral` — a text that writes an integer with too many digits.
* `Value.EndsAs` — how a reading ends.

## Main results

* `Value.endsAs_toInteger` — reading integers.
* `Value.fits_of_toInteger` — an integer that is read fits in 64 bits.
-/

namespace LayeredConfig

/-- A value is a text that writes an integer with `n` digits, more than one can be read from. -/
def Value.LongNumeral (v : Value) (n : Nat) : Prop :=
  ∃ o s negative ds, v = .scalar o (.text s) ∧
    Number.integerLiteral? s.toList = some (negative, ds) ∧ ds.length = n ∧ Number.digitLimit < n

/-- The integers that fit in 64 bits. -/
lemma fitsInteger_iff {i : Int} : fitsInteger i = true ↔ -2 ^ 63 ≤ i ∧ i ≤ 2 ^ 63 - 1 := by
  rw [fitsInteger, Bool.and_eq_true, decide_eq_true_iff, decide_eq_true_iff, minInteger, maxInteger]
  omega

/-! ## Numerals and words -/

namespace Number

/-- A numeral is an optional sign and at least one digit. -/
lemma integerLiteral?_eq_some {cs ds : List Char} {negative : Bool}
    (h : integerLiteral? cs = some (negative, ds)) :
    splitSign cs = (negative, ds) ∧ ds ≠ [] ∧ ∀ c ∈ ds, Text.isAsciiDigit c = true := by
  unfold integerLiteral? at h
  rcases hs : splitSign cs with ⟨sign, digits⟩
  simp only [hs] at h
  split_ifs at h with hcheck
  obtain ⟨rfl, rfl⟩ : sign = negative ∧ digits = ds := by simpa using h
  rw [Bool.and_eq_true, Bool.not_eq_true'] at hcheck
  refine ⟨rfl, ?_, List.all_eq_true.mp hcheck.2⟩
  rintro rfl
  simp at hcheck

/-- The characters of a text are a sign, or they are left when the sign is split off. -/
lemma mem_of_splitSign {cs : List Char} {c : Char} (h : c ∈ cs) :
    c = '-' ∨ c = '+' ∨ c ∈ (splitSign cs).2 := by
  unfold splitSign
  split
  · rcases List.mem_cons.mp h with rfl | h
    · exact .inl rfl
    · exact .inr (.inr h)
  · rcases List.mem_cons.mp h with rfl | h
    · exact .inr (.inl rfl)
    · exact .inr (.inr h)
  · exact .inr (.inr h)

/-- An optional sign and at least one digit are a numeral. -/
lemma integerLiteral?_of_splitSign {cs ds : List Char} {negative : Bool}
    (hsign : splitSign cs = (negative, ds)) (hne : ds ≠ [])
    (hdigits : ∀ c ∈ ds, Text.isAsciiDigit c = true) :
    integerLiteral? cs = some (negative, ds) := by
  simp only [integerLiteral?, hsign]
  rw [if_pos]
  simpa [hne] using hdigits

/-- Digits alone are a numeral. -/
lemma integerLiteral?_of_digits {ds : List Char} (hne : ds ≠ [])
    (hdigits : ∀ c ∈ ds, Text.isAsciiDigit c = true) :
    integerLiteral? ds = some (false, ds) := by
  have hsign : splitSign ds = (false, ds) := by
    unfold splitSign
    split
    · exact absurd (hdigits '-' List.mem_cons_self) (by decide)
    · exact absurd (hdigits '+' List.mem_cons_self) (by decide)
    · rfl
  exact integerLiteral?_of_splitSign hsign hne hdigits

end Number

/-- A digit of ASCII is in lower case. -/
lemma Path.lowerChar_of_isAsciiDigit {c : Char} (h : Text.isAsciiDigit c = true) :
    Text.lowerChar c = c := by
  simp only [Text.isAsciiDigit, Bool.and_eq_true, decide_eq_true_eq] at h
  exact lowerChar_of_lt (by omega)

/-- A numeral is in lower case. -/
lemma isLowerCase_of_integerLiteral? {s : String} {negative : Bool} {ds : List Char}
    (h : Number.integerLiteral? s.toList = some (negative, ds)) : Text.IsLowerCase s := by
  obtain ⟨hsign, -, hdigits⟩ := Number.integerLiteral?_eq_some h
  intro c hc
  rcases Number.mem_of_splitSign hc with rfl | rfl | hc
  · decide +kernel
  · decide +kernel
  · rw [hsign] at hc
    exact Path.lowerChar_of_isAsciiDigit (hdigits c hc)

/-- A numeral is no word for a truth value. -/
lemma truthWord?_of_integerLiteral? {s : String} {negative : Bool} {ds : List Char}
    (h : Number.integerLiteral? s.toList = some (negative, ds)) :
    truthWord? (Text.lower s) = none := by
  rw [Text.lower_eq_self (isLowerCase_of_integerLiteral? h)]
  have hword (word : String) (hw : Number.integerLiteral? word.toList = none) : s ≠ word := by
    rintro rfl
    rw [hw] at h
    cases h
  have htrue : ¬ (s = "true" ∨ s = "on" ∨ s = "yes") := by
    rintro (hs | hs | hs)
    · exact hword _ (by decide +kernel) hs
    · exact hword _ (by decide +kernel) hs
    · exact hword _ (by decide +kernel) hs
  have hfalse : ¬ (s = "false" ∨ s = "off" ∨ s = "no") := by
    rintro (hs | hs | hs)
    · exact hword _ (by decide +kernel) hs
    · exact hword _ (by decide +kernel) hs
    · exact hword _ (by decide +kernel) hs
  rw [truthWord?, if_neg htrue, if_neg hfalse]

/-! ## Readings -/

namespace Value

/-- How a reading ends: with a number of digits where the value is `Long`, and otherwise with a
result or with a mismatch that describes the value and what was `expected`. -/
structure EndsAs {α : Type} (read : Value → Except Fault α) (expected : String)
    (Long : Value → Nat → Prop) : Prop where
  /-- A value that is too long is a fault. -/
  long : ∀ v n, Long v n → read v = .error (.tooManyDigits n)
  /-- Every other value is read, or is not what was expected. -/
  other : ∀ v, (∀ n, ¬ Long v n) → (∃ a, read v = .ok a) ∨ read v = v.fail expected

/-- Reading truth values. -/
lemma endsAs_toBool : EndsAs toBool "a boolean" fun _ _ => False where
  long _ _ h := h.elim
  other v _ := by
    cases v with
    | scalar o c =>
      cases c with
      | nil => exact .inr rfl
      | text s =>
        simp only [toBool]
        split
        · exact .inl ⟨_, rfl⟩
        · split_ifs
          · exact .inl ⟨_, rfl⟩
          · exact .inl ⟨_, rfl⟩
          · exact .inr rfl
      | _ => exact .inl ⟨_, rfl⟩
    | _ => exact .inr rfl

/-- Reading floating-point numbers. -/
lemma endsAs_toFloat : EndsAs toFloat "a floating point" fun _ _ => False where
  long _ _ h := h.elim
  other v _ := by
    cases v with
    | scalar o c =>
      cases c with
      | nil => exact .inr rfl
      | text s =>
        simp only [toFloat]
        split
        · exact .inl ⟨_, rfl⟩
        · split_ifs
          · split
            · exact .inl ⟨_, rfl⟩
            · exact .inr rfl
          · exact .inr rfl
      | _ => exact .inl ⟨_, rfl⟩
    | _ => exact .inr rfl

/-- Reading texts. -/
lemma endsAs_toText : EndsAs toText "a string" fun _ _ => False where
  long _ _ h := h.elim
  other v _ := by
    cases v with
    | scalar o c =>
      cases c with
      | nil => exact .inr rfl
      | _ => exact .inl ⟨_, rfl⟩
    | _ => exact .inr rfl

/-- Reading arrays. -/
lemma endsAs_toArray : EndsAs toArray "an array" fun _ _ => False where
  long _ _ h := h.elim
  other v _ := by
    cases v with
    | array o items => exact .inl ⟨items, rfl⟩
    | _ => exact .inr rfl

/-- A numeral with too many digits cannot be read. -/
lemma toInteger_of_longNumeral {v : Value} {n : Nat} (h : v.LongNumeral n) :
    v.toInteger = .error (.tooManyDigits n) := by
  obtain ⟨o, s, negative, ds, rfl, hliteral, rfl, hlimit⟩ := h
  simp only [toInteger, truthWord?_of_integerLiteral? hliteral, hliteral, if_pos hlimit]

/-- Reading integers. -/
theorem endsAs_toInteger : EndsAs toInteger "an integer" LongNumeral where
  long _ _ h := toInteger_of_longNumeral h
  other v hv := by
    cases v with
    | scalar o c =>
      cases c with
      | nil => exact .inr rfl
      | boolean b => exact .inl ⟨_, rfl⟩
      | integer i => exact .inl ⟨i, rfl⟩
      | float x =>
        simp only [toInteger]
        split
        · split_ifs
          · exact .inl ⟨_, rfl⟩
          · exact .inr rfl
        · exact .inr rfl
      | text s =>
        simp only [toInteger]
        split
        · exact .inl ⟨_, rfl⟩
        · split
          · rename_i negative ds hliteral
            -- a numeral that is too long is excluded
            have hlimit : ¬ Number.digitLimit < ds.length := fun hlimit =>
              hv ds.length ⟨o, s, negative, ds, rfl, hliteral, rfl, hlimit⟩
            rw [if_neg hlimit]
            split_ifs
            · exact .inl ⟨_, rfl⟩
            · exact .inr rfl
          · exact .inr rfl
    | _ => exact .inr rfl

/-- **An integer that is read fits in 64 bits.** -/
theorem fits_of_toInteger {v : Value} (h : v.WellFormed) {i : Int} (hi : v.toInteger = .ok i) :
    fitsInteger i = true := by
  cases v with
  | scalar o c =>
    cases c with
    | nil => cases hi
    | boolean b =>
      obtain rfl := Except.ok.inj hi
      cases b <;> decide
    | integer j =>
      obtain rfl := Except.ok.inj hi
      exact h
    | float x =>
      simp only [toInteger] at hi
      split at hi
      · split_ifs at hi with hfits
        · obtain rfl := Except.ok.inj hi
          exact hfits
        · cases hi
      · cases hi
    | text s =>
      simp only [toInteger] at hi
      split at hi
      · rename_i b _
        obtain rfl := Except.ok.inj hi
        cases b <;> decide
      · split at hi
        · split_ifs at hi with hlimit hfits
          · obtain rfl := Except.ok.inj hi
            exact hfits
          · cases hi
        · cases hi
  | _ => cases hi

end Value

end LayeredConfig
