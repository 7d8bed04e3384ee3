import Mathlib
import LayeredConfig.Proofs.Number.Packing
import LayeredConfig.Proofs.Path.LeadingZeros
import LayeredConfig.Proofs.Value.Numerals

set_option autoImplicit false

/-!
# Integers as floating-point literals

A text that writes an integer is a floating-point literal as well. Unless it has hundreds of
significant digits, it is read as the number nearest to this integer.

## Main results

* `readFloat?_of_integerLiteral?` — an integer read as a floating-point number.
-/

namespace LayeredConfig.Number

open Text

/-! ## Digits of ASCII -/

/-- A digit of ASCII is one of ten characters. -/
lemma exists_digit_of_isAsciiDigit {c : Char} (h : isAsciiDigit c = true) :
    ∃ d < 10, c = Char.ofNat (0x30 + d) := by
  simp only [isAsciiDigit, Bool.and_eq_true, decide_eq_true_eq] at h
  refine ⟨c.toNat - 0x30, by omega, ?_⟩
  rw [show 0x30 + (c.toNat - 0x30) = c.toNat by omega, Char.ofNat_toNat]

/-- A digit of ASCII is written in ASCII and has no letter case, and it is not blank. -/
lemma asciiDigit_of_isAsciiDigit {c : Char} (h : isAsciiDigit c = true) :
    asciiDigit c = c ∧ asciiLower c = c ∧ isBlank c = false := by
  obtain ⟨d, hd, rfl⟩ := exists_digit_of_isAsciiDigit h
  revert d
  decide +kernel

/-- Leading zeros do not count. -/
lemma ofDigits_dropWhile (ds : List Char) : ofDigits (ds.dropWhile (· = '0')) = ofDigits ds := by
  induction ds with
  | nil => rfl
  | cons c ds ih =>
    by_cases hzero : c = '0'
    · rw [List.dropWhile_cons_of_pos (by simpa using hzero), ih, hzero]
      rfl
    · rw [List.dropWhile_cons_of_neg (by simpa using hzero)]

/-- Without leading zeros, the digits of a number of 64 bits are few. -/
lemma length_dropWhile_le {ds : List Char} (hdigits : ∀ c ∈ ds, isAsciiDigit c = true)
    (h : ofDigits ds < 2 ^ 64) : (ds.dropWhile (· = '0')).length ≤ 20 := by
  cases hds : ds.dropWhile (· = '0') with
  | nil => decide
  | cons c rest =>
    have hhead : c ≠ '0' := by
      have hnot := List.head?_dropWhile_not (· = '0') ds
      simpa [hds] using hnot
    have hmem : ∀ d ∈ c :: rest, isAsciiDigit d = true := fun d hd =>
      hdigits d ((List.dropWhile_sublist _).subset (hds ▸ hd))
    have htext : Nat.toDigits 10 (ofDigits (c :: rest)) = c :: rest := by
      rw [Path.toDigits_ofDigits (List.cons_ne_nil c rest) hmem]
      cases rest with
      | nil => rfl
      | cons d rest => rw [Path.dropZeros, if_neg hhead]
    rw [← htext, Nat.length_toDigits_le_iff (by norm_num) (by norm_num), ← hds, ofDigits_dropWhile]
    omega

/-! ## Literals -/

/-- The characters of a text that writes an integer: each is written in ASCII, and none is blank. -/
lemma asciiDigit_of_integerLiteral? {cs ds : List Char} {negative : Bool}
    (h : integerLiteral? cs = some (negative, ds)) :
    ∀ c ∈ cs, asciiDigit c = c ∧ isBlank c = false := by
  obtain ⟨hsign, -, hdigits⟩ := integerLiteral?_eq_some h
  intro c hc
  rcases mem_of_splitSign hc with rfl | rfl | hc
  · decide +kernel
  · decide +kernel
  · rw [hsign] at hc
    obtain ⟨hascii, -, hblank⟩ := asciiDigit_of_isAsciiDigit (hdigits c hc)
    exact ⟨hascii, hblank⟩

/-- Characters without blanks among them stay when blanks are left out at the ends. -/
lemma trimList_eq_self {cs : List Char} (h : ∀ c ∈ cs, isBlank c = false) : trimList cs = cs := by
  have hdrop {ds : List Char} (hds : ∀ c ∈ ds, isBlank c = false) : ds.dropWhile isBlank = ds := by
    cases ds with
    | nil => rfl
    | cons c ds => rw [List.dropWhile_cons_of_neg (by simp [hds c List.mem_cons_self])]
  rw [trimList, hdrop h, hdrop fun c hc => h c (List.mem_reverse.mp hc), List.reverse_reverse]

/-- Digits alone are a decimal without a fraction and an exponent. -/
lemma readDecimal?_of_digits {ds : List Char} (hne : ds ≠ [])
    (hdigits : ∀ c ∈ ds, isAsciiDigit c = true) : readDecimal? ds = some ⟨ds, [], 0⟩ := by
  have htake : ds.takeWhile isAsciiDigit = ds := List.takeWhile_eq_self_iff.mpr hdigits
  have hdrop : ds.dropWhile isAsciiDigit = [] := List.dropWhile_eq_nil_iff.mpr hdigits
  have hwhole : ds.isEmpty = false := List.isEmpty_eq_false_iff.mpr hne
  simp only [readDecimal?, htake, hdrop, hwhole, Bool.false_and, Bool.false_eq_true, if_false]
  rfl

/-- A decimal without a fraction and an exponent is the number nearest to an integer, if it is not
large. -/
lemma Decimal.toFloat_of_digits {ds : List Char} (hdigits : ∀ c ∈ ds, isAsciiDigit c = true)
    (h : ofDigits ds < 2 ^ 64) (negative : Bool) :
    Decimal.toFloat ⟨ds, [], 0⟩ negative = ofFraction negative (ofDigits ds) 1 := by
  have hlength := length_dropWhile_le hdigits h
  have hsmall : ¬ (400 : Int) < (ds.dropWhile (· = '0')).length := by omega
  have hlarge : ¬ ((ds.dropWhile (· = '0')).length : Int) < -400 := by omega
  simp only [Decimal.toFloat, List.append_nil, ofDigits_dropWhile, List.length_nil, Nat.cast_zero,
    sub_zero, zero_add, hlarge, hsmall, or_false, if_false, le_refl, if_true, Int.toNat_zero,
    Nat.pow_eq, pow_zero, mul_one]
  split_ifs with hzero
  · rw [hzero]
  · rfl

/-- Digits are no word for an infinity or an undefined value. -/
lemma ofList_digits_ne {ds : List Char} (hdigits : ∀ c ∈ ds, isAsciiDigit c = true) {word : String}
    (hword : 'n' ∈ word.toList) : String.ofList ds ≠ word := by
  rintro rfl
  rw [String.toList_ofList] at hword
  exact absurd (hdigits 'n' hword) (by decide)

/-- **An integer of 64 bits is read as the floating-point number nearest to it.** -/
theorem readFloat?_of_integerLiteral? {s : String} {negative : Bool} {ds : List Char}
    (h : integerLiteral? s.toList = some (negative, ds)) (hds : ofDigits ds < 2 ^ 64) :
    readFloat? s = some (ofFraction negative (ofDigits ds) 1) := by
  obtain ⟨hsign, hne, hdigits⟩ := integerLiteral?_eq_some h
  have hascii : s.toList.map asciiDigit = s.toList :=
    (List.map_congr_left fun c hc => (asciiDigit_of_integerLiteral? h c hc).1).trans (List.map_id _)
  have hlower : ds.map asciiLower = ds :=
    (List.map_congr_left fun c hc => (asciiDigit_of_isAsciiDigit (hdigits c hc)).2.1).trans
      (List.map_id _)
  have hinfinity : ¬ (String.ofList ds = "inf" ∨ String.ofList ds = "infinity") :=
    not_or.mpr ⟨ofList_digits_ne hdigits (by decide), ofList_digits_ne hdigits (by decide)⟩
  have hnan : String.ofList ds ≠ "nan" := ofList_digits_ne hdigits (by decide)
  simp only [readFloat?, hascii, hsign, hlower, if_neg hinfinity, if_neg hnan,
    readDecimal?_of_digits hne hdigits, Option.map_some, Decimal.toFloat_of_digits hdigits hds]

end LayeredConfig.Number
