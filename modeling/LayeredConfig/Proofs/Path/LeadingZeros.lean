import Mathlib
import LayeredConfig.Proofs.Path.Printing

set_option autoImplicit false

/-!
# Leading zeros

An index may be written with leading zeros, and nothing else about the text of a path is left open:
what a text is read as has the text as its written form, without the leading zeros. So two texts are
read as one path iff they differ in nothing but these.

## Main definitions

* `Path.dropZeros` — digits without leading zeros.
* `Path.plain` — a text without the leading zeros of its indexes.

## Main results

* `Path.toDigits_ofDigits` — the digits of the number that digits write.
* `Path.text_of_parse` — the written form of the path that a text is read as.
* `Path.parse_text_inverse` — reading and writing paths undo each other up to leading zeros.
-/

namespace LayeredConfig.Path

/-! ## Digits -/

/-- Digits without leading zeros. One digit is kept. -/
def dropZeros : List Char → List Char
  | [] => []
  | [c] => [c]
  | c :: d :: ds => if c = '0' then dropZeros (d :: ds) else c :: d :: ds

/-- Leading zeros stand in front of the digits that are kept. -/
lemma dropZeros_suffix (ds : List Char) : dropZeros ds <:+ ds := by
  induction ds with
  | nil => exact List.suffix_refl []
  | cons c ds ih =>
    cases ds with
    | nil => exact List.suffix_refl [c]
    | cons d ds =>
      rw [dropZeros]
      split_ifs
      · exact ih.trans (List.suffix_cons c _)
      · exact List.suffix_refl _

/-- A digit of ASCII is the digit of its own value. -/
lemma toDigits_digit {c : Char} (hc : Text.isAsciiDigit c = true) :
    Nat.toDigits 10 (c.toNat - 0x30) = [c] := by
  simp only [Text.isAsciiDigit, Bool.and_eq_true, decide_eq_true_eq] at hc
  have hlt : c.toNat - 0x30 < 10 := by omega
  rw [Nat.toDigits_of_lt_base hlt]
  refine congrArg (fun c => [c]) (Char.toNat_inj.mp ?_)
  rw [Nat.toNat_digitChar_of_lt_ten hlt]
  omega

/-- Digits that are read behind a number other than zero stand behind its digits. -/
lemma toDigits_foldl {ds : List Char} (hd : ∀ c ∈ ds, Text.isAsciiDigit c = true) {n : Nat}
    (hn : 0 < n) :
    Nat.toDigits 10 (ds.foldl (fun n c => 10 * n + (c.toNat - 0x30)) n) =
      Nat.toDigits 10 n ++ ds := by
  induction ds generalizing n with
  | nil => simp
  | cons c ds ih =>
    obtain ⟨hc, hd⟩ := List.forall_mem_cons.mp hd
    have hlt : c.toNat - 0x30 < 10 := by
      simp only [Text.isAsciiDigit, Bool.and_eq_true, decide_eq_true_eq] at hc
      omega
    calc Nat.toDigits 10 (ds.foldl _ (10 * n + (c.toNat - 0x30)))
        = Nat.toDigits 10 (10 * n + (c.toNat - 0x30)) ++ ds := ih hd (by omega)
      _ = Nat.toDigits 10 n ++ Nat.toDigits 10 (c.toNat - 0x30) ++ ds := by
        rw [Nat.toDigits_append_toDigits (by decide) hn hlt]
      _ = Nat.toDigits 10 n ++ c :: ds := by rw [toDigits_digit hc]; simp

/-- The digits of the number that digits write are these digits without leading zeros.

**Proof sketch.** Induction on the digits. A leading zero does not count. Any other digit is a
number of its own, and the digits behind it stay behind it (`toDigits_foldl`). -/
lemma toDigits_ofDigits {ds : List Char} (hne : ds ≠ [])
    (hd : ∀ c ∈ ds, Text.isAsciiDigit c = true) :
    Nat.toDigits 10 (Text.ofDigits ds) = dropZeros ds := by
  induction ds with
  | nil => exact absurd rfl hne
  | cons c ds ih =>
    obtain ⟨hc, hds⟩ := List.forall_mem_cons.mp hd
    cases ds with
    | nil => simpa [Text.ofDigits, dropZeros] using toDigits_digit hc
    | cons d ds =>
      rw [dropZeros]
      split_ifs with hzero
      · obtain rfl := hzero
        exact ih (List.cons_ne_nil d ds) hds
      · have hpos : 0 < c.toNat - 0x30 := by
          have hne : c.toNat ≠ '0'.toNat := fun h => hzero (Char.toNat_inj.mp h)
          simp only [Text.isAsciiDigit, Bool.and_eq_true, decide_eq_true_eq] at hc
          have hcode : '0'.toNat = 0x30 := rfl
          omega
        have h := toDigits_foldl hds hpos
        rw [toDigits_digit hc] at h
        simpa [Text.ofDigits] using h

/-! ## Texts -/

/-- Leaves out the leading zeros of the indexes in a text. A zero is one if it stands behind an
opening bracket, or behind other leading zeros, and another digit follows. -/
def trimZeros : (opened : Bool) → List Char → List Char
  | _, [] => []
  | opened, c :: cs =>
    if opened && c = '0' && cs.head?.any Text.isAsciiDigit then trimZeros true cs
    else c :: trimZeros (c = '[') cs

/-- A text without the leading zeros of its indexes. -/
def plain (text : String) : String :=
  String.ofList (trimZeros false text.toList)

/-- Without an opening bracket there are no leading zeros. -/
lemma trimZeros_append {start : List Char} (h : '[' ∉ start) (cs : List Char) :
    trimZeros false (start ++ cs) = start ++ trimZeros false cs := by
  induction start with
  | nil => rfl
  | cons c start ih =>
    rw [List.mem_cons, not_or] at h
    simp [trimZeros, Ne.symm h.1, ih h.2]

/-- No digit is an opening bracket. -/
lemma bracket_not_mem_digits {ds : List Char} (hd : ∀ c ∈ ds, Text.isAsciiDigit c = true) :
    '[' ∉ ds :=
  fun h => absurd (hd _ h) (by decide)

/-- Digits in brackets lose their leading zeros. -/
lemma trimZeros_digits {ds : List Char} (hne : ds ≠ [])
    (hd : ∀ c ∈ ds, Text.isAsciiDigit c = true) (cs : List Char) :
    trimZeros true (ds ++ ']' :: cs) = dropZeros ds ++ ']' :: trimZeros false cs := by
  induction ds with
  | nil => exact absurd rfl hne
  | cons c ds ih =>
    have hopen : decide (c = '[') = false := by
      rw [decide_eq_false_iff_not]
      rintro rfl
      exact bracket_not_mem_digits hd List.mem_cons_self
    obtain ⟨hc, hds⟩ := List.forall_mem_cons.mp hd
    cases ds with
    | nil =>
      have hlast : Text.isAsciiDigit ']' = false := by decide
      simp [trimZeros, dropZeros, hopen, hlast]
    | cons d ds =>
      rw [List.cons_append, dropZeros, trimZeros]
      have hnext : ((d :: ds ++ ']' :: cs).head?.any Text.isAsciiDigit) = true :=
        hds d List.mem_cons_self
      rw [hnext, Bool.true_and, Bool.and_true]
      by_cases hzero : c = '0'
      · rw [if_pos hzero, if_pos (decide_eq_true hzero)]
        exact ih (List.cons_ne_nil d ds) hds
      · have hrest : '[' ∉ d :: ds ++ [']'] := by
          rw [List.mem_append, not_or]
          exact ⟨bracket_not_mem_digits hds, by decide⟩
        have hkept := trimZeros_append hrest cs
        rw [List.append_assoc] at hkept
        rw [if_neg hzero, if_neg (by simpa using hzero), hopen]
        simpa using hkept

/-! ## What was read -/

/-- The written form of steps that are spelled is the text without leading zeros. -/
lemma Continues.toList_textTail {cs : List Char} {p : Path} (h : Continues cs p) :
    (textTail p).toList = trimZeros false cs := by
  induction h with
  | nil => rfl
  | @key name cs p hn _ ih =>
    have hbracket : '[' ∉ '.' :: name.toList := by
      rw [List.mem_cons, not_or]
      exact ⟨by decide, fun h => absurd (hn.2 _ h) (by decide)⟩
    have htrim := trimZeros_append hbracket cs
    rw [List.cons_append] at htrim
    rw [htrim, textTail]
    simp [ih]
  | @index ds cs p hds _ ih =>
    have htrim := trimZeros_digits hds.1 hds.2.1 cs
    rw [textTail, trimZeros, Bool.false_and, Bool.false_and, if_neg Bool.false_ne_true,
      decide_eq_true rfl, htrim, ← toDigits_ofDigits hds.1 hds.2.1, ← toList_toString, ← ih]
    simp

/-- **The written form of what was read** is the text without the leading zeros of its indexes. -/
theorem text_of_parse {t : String} {p : Path} (h : parse t = .ok p) : text p = plain t := by
  have hs := parse_ok_iff.mp h
  rw [plain, ← String.toList_inj, String.toList_ofList]
  generalize t.toList = cs at hs
  cases hs with
  | @key name cs p hn hc =>
    have hbracket : '[' ∉ name.toList := fun h => absurd (hn.2 _ h) (by decide)
    rw [trimZeros_append hbracket, ← hc.toList_textTail, text, String.toList_append]

/-- The steps that were read have a written form of their own. -/
lemma Continues.writable {cs : List Char} {p : Path} (h : Continues cs p) :
    ∀ a ∈ p, a.Writable := by
  induction h with
  | nil => exact List.forall_mem_nil _
  | key hn _ ih => exact List.forall_mem_cons.mpr ⟨hn, ih⟩
  | @index ds cs p hds _ ih =>
    refine List.forall_mem_cons.mpr ⟨?_, ih⟩
    have hlength : (toString (Text.ofDigits ds)).length = (dropZeros ds).length := by
      rw [← String.length_toList, toList_toString, toDigits_ofDigits hds.1 hds.2.1]
    show (toString (Text.ofDigits ds)).length ≤ Number.digitLimit
    rw [hlength]
    exact Nat.le_trans (dropZeros_suffix ds).length_le hds.2.2

/-- The written form of what was read is read as the same. -/
lemma parse_text_of_parse {t : String} {p : Path} (h : parse t = .ok p) :
    parse (text p) = .ok p := by
  have hs := parse_ok_iff.mp h
  generalize t.toList = cs at hs
  cases hs with
  | key hn hc => exact parse_text (List.forall_mem_cons.mpr ⟨hn, hc.writable⟩)

/-- **Reading and writing paths undo each other up to leading zeros**:

* the written form of a path that begins with a key is read as this path, if all its keys are names
  and all its positions have few enough digits;
* the written form of the path that a text is read as is the text without the leading zeros of its
  indexes;
* two texts that are read are read as one path iff they agree without the leading zeros.

**Proof sketch.** A text that is read spells its path, by a name first and then by names and indexes
(`parse_ok_iff`). Names are written as they are, and the digits of an index without its leading
zeros (`toDigits_ofDigits`). Reading that once more gives the same path (`parse_text`), so the path
depends on nothing else. -/
theorem parse_text_inverse :
    (∀ name (p : Path), (∀ a ∈ .key name :: p, a.Writable) →
        parse (text (.key name :: p)) = .ok (.key name :: p)) ∧
      (∀ t p, parse t = .ok p → text p = plain t) ∧
      ∀ t t' p p', parse t = .ok p → parse t' = .ok p' → (p = p' ↔ plain t = plain t') := by
  refine ⟨fun name p h => parse_text h, fun t p h => text_of_parse h, fun t t' p p' h h' => ?_⟩
  rw [← text_of_parse h, ← text_of_parse h']
  constructor
  · rintro rfl
    rfl
  · intro htext
    have hp := parse_text_of_parse h
    rw [htext, parse_text_of_parse h'] at hp
    exact (Except.ok.inj hp).symm

/-- Two spellings of a path, and what both are written as. -/
theorem parse_text_inverse_zeros :
    parse "a[007].b" = .ok [.key "a", .index 7, .key "b"] ∧
      text [.key "a", .index 7, .key "b"] = "a[7].b" ∧
      parse "a[7].b" = .ok [.key "a", .index 7, .key "b"] ∧
      plain "a[007].b" = plain "a[7].b" := by
  have h : parse "a[007].b" = .ok [.key "a", .index 7, .key "b"] := by cbv
  have htext : text [.key "a", .index 7, .key "b"] = "a[7].b" :=
    (parse_text_inverse.2.1 _ _ h).trans (by decide)
  have h' : parse "a[7].b" = .ok [.key "a", .index 7, .key "b"] :=
    htext ▸ parse_text_inverse.1 "a" [.index 7, .key "b"] (by decide)
  exact ⟨h, htext, h', (parse_text_inverse.2.2 _ _ _ _ h h').mp rfl⟩

end LayeredConfig.Path
