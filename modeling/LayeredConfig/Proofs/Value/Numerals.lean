import Mathlib
import LayeredConfig.Proofs.Path.Printing
import LayeredConfig.Proofs.Path.Segments
import LayeredConfig.Proofs.Value.Reading

set_option autoImplicit false

/-!
# Integers as texts

A text is read as an integer iff it is a word for a truth value or a numeral within the range of 64
bits. Every integer and truth value is written as such a text, so nothing is lost where a value is
handed on as text.

## Main definitions

* `Numeral` — the texts that write integers, and the integers that they write.
* `Value.throughText` — a value is written as text, and the text is read again.

## Main results

* `Value.toInteger_text_iff` — the texts that are read as integers.
* `Value.text_reads_exactly` — what texts are read as integers, and that nothing is lost through
  text.
-/

namespace LayeredConfig

/-- A text writes an integer: an optional sign, and digits that are not too many to be read, which
count by their places. -/
inductive Numeral : List Char → Int → Prop
  /-- Digits alone. -/
  | plain {ds : List Char} : Path.IsPosition ds → Numeral ds (Text.placeValue ds)
  /-- Digits behind a plus sign. -/
  | plus {ds : List Char} : Path.IsPosition ds → Numeral ('+' :: ds) (Text.placeValue ds)
  /-- Digits behind a minus sign. -/
  | minus {ds : List Char} : Path.IsPosition ds → Numeral ('-' :: ds) (-(Text.placeValue ds : Int))

/-- Digits that are not too many, with their sign. -/
lemma Number.signedValue_eq (negative : Bool) (ds : List Char) :
    signedValue negative ds =
      if negative then -(Text.placeValue ds : Int) else Text.placeValue ds := by
  rw [signedValue, Text.ofDigits_eq_placeValue]

/-- The numerals are the literals of integers that are short enough. -/
lemma numeral_iff {cs : List Char} {i : Int} :
    Numeral cs i ↔ ∃ negative ds, Number.integerLiteral? cs = some (negative, ds) ∧
      ds.length ≤ Number.digitLimit ∧ Number.signedValue negative ds = i := by
  constructor
  · rintro (⟨hne, hdigits, hlength⟩ | ⟨hne, hdigits, hlength⟩ | ⟨hne, hdigits, hlength⟩)
    · exact ⟨false, _, Number.integerLiteral?_of_digits hne hdigits, hlength,
        Number.signedValue_eq false _⟩
    · exact ⟨false, _, Number.integerLiteral?_of_splitSign rfl hne hdigits, hlength,
        Number.signedValue_eq false _⟩
    · exact ⟨true, _, Number.integerLiteral?_of_splitSign rfl hne hdigits, hlength,
        Number.signedValue_eq true _⟩
  · rintro ⟨negative, ds, hliteral, hlength, rfl⟩
    obtain ⟨hsign, hne, hdigits⟩ := Number.integerLiteral?_eq_some hliteral
    have hds : Path.IsPosition ds := ⟨hne, hdigits, hlength⟩
    rw [Number.signedValue_eq]
    unfold Number.splitSign at hsign
    split at hsign
    · obtain ⟨rfl, rfl⟩ := Prod.mk.inj hsign
      exact .minus hds
    · obtain ⟨rfl, rfl⟩ := Prod.mk.inj hsign
      exact .plus hds
    · obtain ⟨rfl, rfl⟩ := Prod.mk.inj hsign
      exact .plain hds

/-- The digits of a number of 64 bits are few enough to be read, and it is what they write. -/
lemma isPosition_of_lt {n : Nat} (h : n < 2 ^ 64) :
    Path.IsPosition (Nat.toDigits 10 n) ∧ Text.placeValue (Nat.toDigits 10 n) = n := by
  have hlength : (Nat.toDigits 10 n).length ≤ 20 :=
    (Nat.length_toDigits_le_iff (by norm_num) (by norm_num)).mpr (by omega)
  refine ⟨Path.isPosition_toDigits ?_, ?_⟩
  · rw [Step.Writable, ← String.length_toList, Path.toList_toString]
    exact hlength.trans (by decide)
  · rw [← Text.ofDigits_eq_placeValue, Path.ofDigits_toDigits]

/-- An integer of 64 bits is written as a numeral. -/
lemma numeral_toString {i : Int} (h : i.natAbs < 2 ^ 64) : Numeral (toString i).toList i := by
  cases i with
  | ofNat n =>
    obtain ⟨hdigits, hvalue⟩ := isPosition_of_lt (show n < 2 ^ 64 from h)
    have hs : (toString (Int.ofNat n)).toList = Nat.toDigits 10 n := Path.toList_toString n
    have hn := Numeral.plain hdigits
    rwa [hvalue, ← hs] at hn
  | negSucc n =>
    obtain ⟨hdigits, hvalue⟩ := isPosition_of_lt (show n + 1 < 2 ^ 64 from h)
    have hs : (toString (Int.negSucc n)).toList = '-' :: Nat.toDigits 10 (n + 1) := by
      rw [← Path.toList_toString]
      exact String.toList_append
    have hn := Numeral.minus hdigits
    rwa [hvalue, ← hs] at hn

/-- The words for truth values. -/
lemma truthWord?_eq_some_iff {word : String} {b : Bool} :
    truthWord? word = some b ↔
      word ∈ ["true", "on", "yes"] ∧ b = true ∨ word ∈ ["false", "off", "no"] ∧ b = false := by
  have hexclusive : word ∈ ["true", "on", "yes"] → word ∉ ["false", "off", "no"] := by
    revert word
    decide
  have hunfold : truthWord? word = if word ∈ ["true", "on", "yes"] then some true
      else if word ∈ ["false", "off", "no"] then some false else none := by
    simp only [truthWord?, List.mem_cons, List.not_mem_nil, or_false]
  rw [hunfold]
  split_ifs with htrue hfalse
  · simp [htrue, hexclusive htrue]
  · simp [htrue, hfalse]
  · simp [htrue, hfalse]

namespace Value

/-- A word for a truth value is read as one or zero. -/
lemma toInteger_of_truthWord? {o : Option String} {s : String} {b : Bool}
    (h : truthWord? (Text.lower s) = some b) :
    (scalar o (.text s)).toInteger = .ok (if b then 1 else 0) := by
  simp only [toInteger, h]

/-- Any other text is read as an integer iff it writes one of 64 bits with few enough digits. -/
lemma toInteger_of_truthWord?_eq_none {o : Option String} {s : String} {i : Int}
    (h : truthWord? (Text.lower s) = none) :
    (scalar o (.text s)).toInteger = .ok i ↔ Numeral s.toList i ∧ fitsInteger i = true := by
  rw [numeral_iff]
  simp only [toInteger, h]
  cases hliteral : Number.integerLiteral? s.toList with
  | none => simp [fail]
  | some literal =>
    obtain ⟨negative, ds⟩ := literal
    have hunique : (∃ negative' ds', some (negative, ds) = some (negative', ds') ∧
        ds'.length ≤ Number.digitLimit ∧ Number.signedValue negative' ds' = i) ↔
        ds.length ≤ Number.digitLimit ∧ Number.signedValue negative ds = i := by
      constructor
      · rintro ⟨_, _, ⟨⟩, hread⟩
        exact hread
      · intro hread
        exact ⟨negative, ds, rfl, hread⟩
    rw [hunique]
    dsimp only
    split_ifs with hlimit hfits
    · refine iff_of_false (by simp) ?_
      rintro ⟨⟨hwithin, -⟩, -⟩
      exact absurd hlimit (not_lt.mpr hwithin)
    · constructor
      · rintro ⟨⟩
        exact ⟨⟨not_lt.mp hlimit, rfl⟩, hfits⟩
      · rintro ⟨⟨-, rfl⟩, -⟩
        rfl
    · refine iff_of_false (by simp [fail]) ?_
      rintro ⟨⟨-, rfl⟩, hfits'⟩
      exact hfits hfits'

/-- The texts that are read as integers: words for truth values, and numerals of 64 bits. -/
lemma toInteger_text_iff {o : Option String} {s : String} {i : Int} :
    (scalar o (.text s)).toInteger = .ok i ↔
      (Text.lower s ∈ ["true", "on", "yes"] ∧ i = 1) ∨
      (Text.lower s ∈ ["false", "off", "no"] ∧ i = 0) ∨
      (Numeral s.toList i ∧ -2 ^ 63 ≤ i ∧ i ≤ 2 ^ 63 - 1) := by
  rw [← fitsInteger_iff]
  constructor
  · intro h
    cases hword : truthWord? (Text.lower s) with
    | none => exact .inr (.inr ((toInteger_of_truthWord?_eq_none hword).mp h))
    | some b =>
      rw [toInteger_of_truthWord? hword] at h
      obtain rfl := Except.ok.inj h
      rcases truthWord?_eq_some_iff.mp hword with ⟨hmem, rfl⟩ | ⟨hmem, rfl⟩
      · exact .inl ⟨hmem, rfl⟩
      · exact .inr (.inl ⟨hmem, rfl⟩)
  · rintro (⟨hmem, rfl⟩ | ⟨hmem, rfl⟩ | ⟨hnumeral, hfits⟩)
    · exact toInteger_of_truthWord? (truthWord?_eq_some_iff.mpr (.inl ⟨hmem, rfl⟩))
    · exact toInteger_of_truthWord? (truthWord?_eq_some_iff.mpr (.inr ⟨hmem, rfl⟩))
    · obtain ⟨_, _, hliteral, -, -⟩ := numeral_iff.mp hnumeral
      exact (toInteger_of_truthWord?_eq_none (truthWord?_of_integerLiteral? hliteral)).mpr
        ⟨hnumeral, hfits⟩

/-! ## Through text -/

/-- A value is made of data and written as text; a value is made of the text, and that is read. -/
def throughText {α : Type} (read : Value → Except Fault α) (origin : Option String) (d : Datum) :
    Except Fault α := do
  let v ← ofDatum d origin
  let s ← v.toText
  let w ← ofDatum (.text s) origin
  read w

/-- An integer of 64 bits is read again from the text that it is written as. -/
lemma throughText_integer (o : Option String) {i : Int} (h : fitsInteger i = true) :
    throughText toInteger o (.integer i) = .ok i := by
  have hvalue : ofDatum (.integer i) o = .ok (.scalar o (.integer i)) := if_pos h
  have hread : throughText toInteger o (.integer i) =
      (scalar o (.text (toString i))).toInteger := by
    rw [throughText, hvalue]
    rfl
  obtain ⟨hleast, hgreatest⟩ := fitsInteger_iff.mp h
  rw [hread, toInteger_text_iff]
  exact .inr (.inr ⟨numeral_toString (by omega), hleast, hgreatest⟩)

/-- The text of a truth value is a word for it. -/
lemma truthWord?_display (b : Bool) :
    truthWord? (Text.lower (Scalar.boolean b).display) = some b := by
  revert b
  decide +kernel

/-- **What is read as an integer, and what passes through text.** A text is read as the integer `i`
iff its lower-case form is a word for a truth value and `i` stands for that, or it is a numeral for
`i` and `i` has 64 bits. Integers of 64 bits and truth values that are written as text are read
again as what they were.

**Proof sketch.** No numeral is a word (`truthWord?_of_integerLiteral?`), so that the cases do not
get in each other's way. An integer is written as a numeral (`numeral_toString`), and a truth value
as a word for it (`truthWord?_display`). -/
theorem text_reads_exactly (o : Option String) :
    (∀ s i, (ofDatum (.text s) o >>= toInteger) = .ok i ↔
      (Text.lower s ∈ ["true", "on", "yes"] ∧ i = 1) ∨
      (Text.lower s ∈ ["false", "off", "no"] ∧ i = 0) ∨
      (Numeral s.toList i ∧ -2 ^ 63 ≤ i ∧ i ≤ 2 ^ 63 - 1)) ∧
    (∀ i : Int, -2 ^ 63 ≤ i → i ≤ 2 ^ 63 - 1 → throughText toInteger o (.integer i) = .ok i) ∧
    (∀ b : Bool, throughText toBool o (.boolean b) = .ok b) ∧
    (∀ b : Bool, throughText toInteger o (.boolean b) =
      (ofDatum (.boolean b) o >>= toInteger)) := by
  refine ⟨fun s i => toInteger_text_iff, fun i hleast hgreatest => ?_, fun b => ?_, fun b => ?_⟩
  · exact throughText_integer o (fitsInteger_iff.mpr ⟨hleast, hgreatest⟩)
  · have hread : throughText toBool o (.boolean b) =
        (scalar o (.text (Scalar.boolean b).display)).toBool := rfl
    rw [hread]
    simp only [toBool, truthWord?_display]
  · exact toInteger_of_truthWord? (truthWord?_display b)

/-- The least integer of 64 bits passes through text. -/
theorem text_reads_exactly_least :
    throughText toInteger none (.integer (-9223372036854775808)) =
      .ok (-9223372036854775808) :=
  (text_reads_exactly none).2.1 _ (by decide) (by decide)

end Value

end LayeredConfig
