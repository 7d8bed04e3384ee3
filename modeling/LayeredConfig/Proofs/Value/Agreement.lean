import Mathlib
import LayeredConfig.Proofs.Number.Integral

set_option autoImplicit false

/-!
# Agreement of the readings of a text

A text can be read as a truth value, as an integer and as a floating-point number. What it is read
as in one way says what it is read as in the next: truth values are one and zero, and an integer
is the floating-point number nearest to it.

## Main results

* `Value.readings_agree` — the readings of a text agree.
-/

namespace LayeredConfig.Value

open Number (exactValue? ofFraction)

/-! ## Numerals -/

/-- A numeral is read as the floating-point number nearest to what its digits write. -/
lemma toFloat_of_integerLiteral? {o : Option String} {s : String} {negative : Bool}
    {ds : List Char} (h : Number.integerLiteral? s.toList = some (negative, ds))
    (hds : Text.ofDigits ds < 2 ^ 64) :
    (scalar o (.text s)).toFloat = .ok (ofFraction negative (Text.ofDigits ds) 1) := by
  have htrim : s = Text.trim s := by
    rw [Text.trim, Number.trimList_eq_self fun c hc =>
      (Number.asciiDigit_of_integerLiteral? h c hc).2, String.ofList_toList]
  simp only [toFloat, truthWord?_of_integerLiteral? h, if_pos htrim,
    Number.readFloat?_of_integerLiteral? h hds]

/-- An integer of 64 bits is read as a finite number. -/
lemma exists_exactValue?_ofInteger {i : Int} (h : fitsInteger i = true) :
    ∃ q, exactValue? (Number.ofInteger i) = some q := by
  obtain ⟨hleast, hgreatest⟩ := fitsInteger_iff.mp h
  exact Number.exists_exactValue?_ofFraction_one _ (by omega)

/-- The two numbers that a numeral and its integer are read as are equal. They need not be the same
one, since a sign before zeros is kept. -/
lemma exists_exactValue?_of_numeral {o : Option String} {s : String} {i : Int}
    (hs : Numeral s.toList i) (hfits : fitsInteger i = true) :
    ∃ x q, (scalar o (.text s)).toFloat = .ok x ∧ exactValue? x = some q ∧
      exactValue? (Number.ofInteger i) = some q := by
  obtain ⟨negative, ds, hliteral, -, rfl⟩ := numeral_iff.mp hs
  obtain ⟨hleast, hgreatest⟩ := fitsInteger_iff.mp hfits
  have hsize : (Number.signedValue negative ds).natAbs = Text.ofDigits ds := by
    rw [Number.signedValue]
    split <;> omega
  have hlt : Text.ofDigits ds < 2 ^ 64 := by omega
  rcases Nat.eq_zero_or_pos (Text.ofDigits ds) with hzero | hpos
  · refine ⟨_, 0, toFloat_of_integerLiteral? hliteral hlt, ?_, ?_⟩
    · rw [hzero, Number.exactValue?_ofFraction_zero]
    · rw [Number.ofInteger, hsize, hzero, Number.exactValue?_ofFraction_zero]
  · have hsign : decide (Number.signedValue negative ds < 0) = negative := by
      rw [Number.signedValue]
      cases negative with
      | false => exact decide_eq_false (by simp)
      | true => exact decide_eq_true (by simp; omega)
    obtain ⟨q, hq⟩ := Number.exists_exactValue?_ofFraction_one negative hlt
    exact ⟨_, q, toFloat_of_integerLiteral? hliteral hlt, hq,
      by rw [Number.ofInteger, hsize, hsign, hq]⟩

/-! ## Truth values -/

/-- The number for a truth value. -/
lemma ofFraction_truth (b : Bool) :
    ofFraction false (if b then 1 else 0) 1 = if b then 1.0 else 0.0 := by
  revert b
  decide +kernel

/-- The number for a truth value, by way of the integer for it. -/
lemma ofInteger_truth (b : Bool) :
    Number.ofInteger (if b then 1 else 0) = if b then 1.0 else 0.0 := by
  rw [← ofFraction_truth]
  cases b <;> rfl

/-- A word for a truth value is read as the number for it. -/
lemma toFloat_of_truthWord? {o : Option String} {s : String} {b : Bool}
    (h : truthWord? (Text.lower s) = some b) :
    (scalar o (.text s)).toFloat = .ok (Number.ofInteger (if b then 1 else 0)) := by
  simp only [toFloat, h]

/-- The digit for a truth value. -/
def truthDigit (b : Bool) : Char :=
  if b then '1' else '0'

/-- The digit for a truth value is a numeral for one or zero. -/
lemma integerLiteral?_truthDigit (b : Bool) :
    Number.integerLiteral? (String.singleton (truthDigit b)).toList =
      some (false, [truthDigit b]) := by
  revert b
  decide +kernel

/-- A text that is read as a truth value is a word or the digit for it. -/
lemma word_or_digit_of_toBool {o : Option String} {s : String} {b : Bool}
    (h : (scalar o (.text s)).toBool = .ok b) :
    truthWord? (Text.lower s) = some b ∨ s = String.singleton (truthDigit b) := by
  simp only [toBool] at h
  split at h
  · obtain rfl := Except.ok.inj h
    exact .inl ‹_›
  · split_ifs at h with hone hzero
    · obtain rfl := Except.ok.inj h
      exact .inr (Text.eq_of_lower_eq_singleton (by decide) hone)
    · obtain rfl := Except.ok.inj h
      exact .inr (Text.eq_of_lower_eq_singleton (by decide) hzero)
    · cases h

/-- A text that is read as a truth value is read as the numbers for it. -/
lemma readings_of_toBool {o : Option String} {s : String} {b : Bool}
    (h : (scalar o (.text s)).toBool = .ok b) :
    (scalar o (.text s)).toInteger = .ok (if b then 1 else 0) ∧
      (scalar o (.text s)).toFloat = .ok (if b then 1.0 else 0.0) := by
  rcases word_or_digit_of_toBool h with hword | rfl
  · exact ⟨toInteger_of_truthWord? hword, ofInteger_truth b ▸ toFloat_of_truthWord? hword⟩
  · have hliteral := integerLiteral?_truthDigit b
    have hvalue : Text.ofDigits [truthDigit b] = if b then 1 else 0 := by cases b <;> rfl
    constructor
    · rw [toInteger_of_truthWord?_eq_none (truthWord?_of_integerLiteral? hliteral)]
      refine ⟨numeral_iff.mpr ⟨false, _, hliteral, show 1 ≤ 4300 by decide, ?_⟩,
        by cases b <;> decide⟩
      rw [Number.signedValue, hvalue]
      cases b <;> rfl
    · rw [toFloat_of_integerLiteral? hliteral (by rw [hvalue]; cases b <;> decide), hvalue,
        ofFraction_truth]

/-- **The readings of a text agree.** If a text is read as a truth value, it is read as one or zero
in the two other ways. If it is read as an integer, it is read as a floating-point number too, which
is finite and equal to the one for this integer.

**Proof sketch.** What is read as a truth value is a word, or the digit one or zero in itself, since
no other character is lower-cased to a digit (`word_or_digit_of_toBool`). What is read as an integer
is a word or a numeral. A numeral is a floating-point literal with the same sign and digits as the
integer (`readFloat?_of_integerLiteral?`); only for zero may the sign be lost, where it does not
count. -/
theorem readings_agree (o : Option String) (s : String) :
    (∀ b, (ofDatum (.text s) o >>= toBool) = .ok b →
      (ofDatum (.text s) o >>= toInteger) = .ok (if b then 1 else 0) ∧
        (ofDatum (.text s) o >>= toFloat) = .ok (if b then 1.0 else 0.0)) ∧
    (∀ i, (ofDatum (.text s) o >>= toInteger) = .ok i → ∃ x y q,
      (ofDatum (.text s) o >>= toFloat) = .ok x ∧ (ofDatum (.integer i) o >>= toFloat) = .ok y ∧
        exactValue? x = some q ∧ exactValue? y = some q) := by
  refine ⟨fun b hb => readings_of_toBool hb, fun i hi => ?_⟩
  have hfits : fitsInteger i = true := fits_of_toInteger (v := scalar o (.text s)) trivial hi
  have hvalue : ofDatum (.integer i) o = .ok (.scalar o (.integer i)) := if_pos hfits
  have hinteger : (ofDatum (.integer i) o >>= toFloat) = .ok (Number.ofInteger i) := by
    rw [hvalue]
    rfl
  cases hword : truthWord? (Text.lower s) with
  | some b =>
    obtain rfl := Except.ok.inj ((toInteger_of_truthWord? (o := o) hword).symm.trans hi)
    obtain ⟨q, hq⟩ := exists_exactValue?_ofInteger hfits
    exact ⟨_, _, q, toFloat_of_truthWord? hword, hinteger, hq, hq⟩
  | none =>
    obtain ⟨hnumeral, -⟩ := (toInteger_of_truthWord?_eq_none hword).mp hi
    obtain ⟨x, q, hx, hxq, hyq⟩ := exists_exactValue?_of_numeral (o := o) hnumeral hfits
    exact ⟨x, _, q, hx, hinteger, hxq, hyq⟩

/-- A digit that is a truth value, and a numeral with a sign and leading zeros. -/
theorem readings_agree_numerals :
    ((ofDatum (.text "1") none >>= toInteger) = .ok 1 ∧
        (ofDatum (.text "1") none >>= toFloat) = .ok 1.0) ∧
      ∃ x y q, (ofDatum (.text "-007") none >>= toFloat) = .ok x ∧
        (ofDatum (.integer (-7)) none >>= toFloat) = .ok y ∧
        exactValue? x = some q ∧ exactValue? y = some q := by
  have htrue : (ofDatum (.text "1") none >>= toBool) = .ok true := by cbv
  have hseven : (ofDatum (.text "-007") none >>= toInteger) = .ok (-7) := by cbv
  exact ⟨(readings_agree none "1").1 true htrue, (readings_agree none "-007").2 (-7) hseven⟩

end LayeredConfig.Value
