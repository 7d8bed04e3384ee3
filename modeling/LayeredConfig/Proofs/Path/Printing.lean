import Mathlib.Data.List.Basic
import LayeredConfig.Proofs.Path.Grammar

set_option autoImplicit false

/-!
# Reading what was written

The written form of a path is read as the path, provided that its steps have a written form of their
own: names that hold no dot and no bracket, and positions that have few enough digits. Other steps
stand in trees as well, since entries of tables may have any key, but no text leads to them.

## Main definitions

* `Step.Writable` — the steps that have a written form.

## Main results

* `Path.parse_text` — reading the written form of a path.
-/

namespace LayeredConfig

/-- A step has a written form: a name, or a position that can be read. -/
def Step.Writable : Step → Prop
  | .key name => Path.IsName name
  | .index i => (toString i).length ≤ Number.digitLimit

instance : DecidablePred Step.Writable
  | .key name => inferInstanceAs (Decidable (Path.IsName name))
  | .index i => inferInstanceAs (Decidable ((toString i).length ≤ Number.digitLimit))

namespace Path

/-! ## Positions -/

/-- A decimal digit is one of ASCII. -/
lemma isAsciiDigit_of_isDigit {c : Char} (h : c.isDigit = true) : Text.isAsciiDigit c = true := by
  simp only [Char.isDigit, Bool.and_eq_true, decide_eq_true_eq, ge_iff_le,
    UInt32.le_iff_toNat_le] at h
  simpa [Text.isAsciiDigit] using h

/-- The digits of a number, as text. -/
lemma toList_toString (n : Nat) : (toString n).toList = Nat.toDigits 10 n := by
  rw [Nat.toString_eq_ofList_toDigits, String.toList_ofList]

/-- The digits of a number write it. -/
lemma ofDigits_toDigits (n : Nat) : Text.ofDigits (Nat.toDigits 10 n) = n := by
  have h := Nat.ofDigitChars_ten_toDigits (n := n)
  rwa [Nat.ofDigitChars_eq_foldl] at h

/-- A position that can be read is written in such digits. -/
lemma isPosition_toDigits {i : Nat} (h : (Step.index i).Writable) :
    IsPosition (Nat.toDigits 10 i) := by
  refine ⟨Nat.toDigits_ne_nil, fun c hc => ?_, ?_⟩
  · exact isAsciiDigit_of_isDigit (Nat.isDigit_of_mem_toDigits (by decide) (by decide) hc)
  · have hlength : (toString i).length ≤ Number.digitLimit := h
    rwa [← String.length_toList, toList_toString] at hlength

/-! ## Paths -/

/-- The written form of steps that follow spells them. -/
lemma continues_textTail {p : Path} (h : ∀ a ∈ p, a.Writable) :
    Continues (textTail p).toList p := by
  induction p with
  | nil => exact .nil
  | cons a p ih =>
    have hp := ih fun b hb => h b (List.mem_cons_of_mem a hb)
    have ha := h a List.mem_cons_self
    cases a with
    | key name =>
      have hs := Continues.key ha hp
      rw [textTail]
      simpa using hs
    | index i =>
      have hs := Continues.index (isPosition_toDigits ha) hp
      rw [ofDigits_toDigits, ← toList_toString] at hs
      rw [textTail]
      simpa using hs

/-- **The written form of a path is read as the path.** -/
theorem parse_text {name : String} {p : Path} (h : ∀ a ∈ .key name :: p, a.Writable) :
    parse (text (.key name :: p)) = .ok (.key name :: p) := by
  have hn : IsName name := h _ List.mem_cons_self
  have hs := Spells.key hn (continues_textTail fun a ha => h a (List.mem_cons_of_mem _ ha))
  refine Spells.parse_eq ?_
  rw [text]
  simpa using hs

end Path

end LayeredConfig
