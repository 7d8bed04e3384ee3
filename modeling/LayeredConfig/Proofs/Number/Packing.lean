import Mathlib
import LayeredConfig.Proofs.Number.Exact

set_option autoImplicit false

/-!
# Numbers from their bits

A `Float` that is made of 64 bits has these bits, unless they stand for an undefined value. So a
number that is made of a sign and of a magnitude below infinity is finite, and so is the number
nearest to an integer of 64 bits.

## Main results

* `toBits_ofBits` — the bits of a `Float` that is made of them.
* `exists_exactValue?_ofFraction_one` — an integer of 64 bits is rounded to a finite number.
-/

namespace LayeredConfig.Number

open Float.Model

/-- Sixty-four bits are put together again from their parts: sign, exponent and significand. -/
lemma packComponents_unpack (v : BitVec Format.binary64.numBits) :
    UnpackedFloat.packComponents .binary64 (.ofBitVec (UnpackedFloat.unpackSign v))
      (UnpackedFloat.unpackExponent v) (UnpackedFloat.unpackMantissa v) = v := by
  have hsign (s : BitVec 1) : (UnpackedFloat.Sign.ofBitVec s).toBitVec = s := by
    revert s
    decide
  simp only [UnpackedFloat.packComponents, hsign, UnpackedFloat.unpackSign,
    UnpackedFloat.unpackExponent, UnpackedFloat.unpackMantissa, BitVec.extractLsb]
  ext i hi
  grind

/-- A finite number within the range of exponents is packed with its exponent if its significand
has 53 bits, and with the exponent zero if it has fewer. -/
lemma pack_finite {s : UnpackedFloat.Sign} {m : Nat} {e : Int} (hm : 0 < m)
    (he : (e + 1075).toNat < 2047) :
    UnpackedFloat.pack .binary64 (.finite s m e hm) =
      UnpackedFloat.packComponents .binary64 s
        (if m.log2 = 52 then BitVec.ofNat 11 (e + 1075).toNat else 0#11) (BitVec.ofNat 52 m) := by
  have hbias : e + (Format.binary64.exponentBias : Int) +
      (Format.binary64.mantissaBitsWithoutImplicit : Int) = e + 1075 := by
    simp only [Format.exponentBias]
    omega
  have hbits : m.log2 + 1 = Format.binary64.mantissaBits ↔ m.log2 = 52 := by
    simp only [Format.mantissaBits]
    omega
  have hrange : ¬ 2 ^ Format.binary64.exponentBits ≤ (e + 1075).toNat + 1 := by
    simp only
    omega
  simp only [UnpackedFloat.pack, hbias, if_neg hrange, hbits]
  split_ifs <;> rfl

/-- Sixty-four bits that do not stand for an infinity or an undefined value are packed again as they
were unpacked. -/
lemma pack_unpack {v : BitVec Format.binary64.numBits}
    (h : (UnpackedFloat.unpackExponent v).toNat ≠ 2047) :
    UnpackedFloat.pack .binary64 (UnpackedFloat.unpack .binary64 v) = v := by
  have hexponent : (UnpackedFloat.unpackExponent v).toNat < 2 ^ 11 :=
    (UnpackedFloat.unpackExponent v).isLt
  have hmantissa : (UnpackedFloat.unpackMantissa v).toNat < 2 ^ 52 :=
    (UnpackedFloat.unpackMantissa v).isLt
  have hall : UnpackedFloat.unpackExponent v ≠ -1#_ := fun hv => h (by rw [hv]; rfl)
  have hbias : (Format.binary64.exponentBias : Int) +
      (Format.binary64.mantissaBitsWithoutImplicit : Int) = 1075 := by
    simp only [Format.exponentBias]
    omega
  conv_rhs => rw [← packComponents_unpack v]
  simp only [UnpackedFloat.unpack, if_neg hall, hbias]
  by_cases hzero : UnpackedFloat.unpackExponent v = 0#_
  · rw [if_pos hzero]
    by_cases hnone : UnpackedFloat.unpackMantissa v = 0#_
    · rw [dif_pos hnone, hzero, hnone]
      rfl
    · -- a significand of less than 53 bits
      have hpos : (UnpackedFloat.unpackMantissa v).toNat ≠ 0 := fun hv =>
        hnone (BitVec.eq_of_toNat_eq hv)
      have hlog : (UnpackedFloat.unpackMantissa v).toNat.log2 ≠ 52 :=
        ((Nat.log2_lt hpos).mpr hmantissa).ne
      rw [dif_neg hnone, pack_finite _ (by rw [hzero]; simp), if_neg hlog, hzero]
      congr 1
      exact (BitVec.ofNat_toNat _ _).trans (BitVec.setWidth_eq _)
  · have hsum : (1#1 ++ UnpackedFloat.unpackMantissa v).toNat =
        2 ^ 52 + (UnpackedFloat.unpackMantissa v).toNat := by
      rw [BitVec.toNat_append, ← Nat.shiftLeft_add_eq_or_of_lt hmantissa, Nat.shiftLeft_eq]
      rfl
    have hlog : (2 ^ 52 + (UnpackedFloat.unpackMantissa v).toNat).log2 = 52 :=
      (Nat.log2_eq_iff (by omega)).mpr (by omega)
    rw [if_neg hzero, pack_finite _ (by omega)]
    simp only [hsum, if_pos hlog]
    congr 1
    · apply BitVec.eq_of_toNat_eq
      rw [BitVec.toNat_ofNat]
      omega
    · apply BitVec.eq_of_toNat_eq
      rw [BitVec.toNat_ofNat]
      omega

/-- A `Float` that is made of 64 bits has them, if they do not stand for an infinity or an undefined
value. -/
lemma toBits_ofBits {b : UInt64} (h : b.toNat / 2 ^ 52 % 2 ^ 11 ≠ 2047) :
    (Float.ofBits b).toBits = b := by
  have hexponent : (@UnpackedFloat.unpackExponent Format.binary64 b.toBitVec).toNat =
      b.toNat / 2 ^ 52 % 2 ^ 11 := by
    simp [UnpackedFloat.unpackExponent, Nat.shiftRight_eq_div_pow]
  change UInt64.ofBitVec
    (UnpackedFloat.pack .binary64 (UnpackedFloat.unpack .binary64 b.toBitVec)) = b
  rw [pack_unpack (hexponent.trans_ne h)]

/-! ## Finite numbers -/

/-- A number that is made of a sign and of a magnitude below infinity has their bits. -/
lemma ofFloat_ofMagnitude {bits : Nat} (negative : Bool) (h : bits < infinityBits) :
    Binary64.ofFloat (ofMagnitude negative bits) =
      .ofBits (if negative then bits + 2 ^ 63 else bits) := by
  rw [infinityBits, Nat.pow_eq] at h
  have hsize : (if negative then bits + Nat.pow 2 63 else bits) < 2 ^ 64 := by
    rw [Nat.pow_eq]
    split <;> omega
  have hbits : (UInt64.ofNat (if negative then bits + Nat.pow 2 63 else bits)).toNat =
      if negative then bits + Nat.pow 2 63 else bits := UInt64.toNat_ofNat_of_lt' hsize
  have hfield : (UInt64.ofNat (if negative then bits + Nat.pow 2 63 else bits)).toNat / 2 ^ 52 %
      2 ^ 11 ≠ 2047 := by
    rw [hbits, Nat.pow_eq]
    split <;> omega
  rw [Binary64.ofFloat, ofMagnitude, toBits_ofBits hfield, hbits, Nat.pow_eq]

/-- Sixty-four bits that do not stand for an infinity or an undefined value stand for a number. -/
lemma Binary64.exists_value?_ofBits {bits : Nat} (h : bits / 2 ^ 52 % 2 ^ 11 ≠ 2047) :
    ∃ q, (ofBits bits).value? = some q := by
  simp only [ofBits, Nat.pow_eq, if_neg h]
  split
  · exact ⟨_, rfl⟩
  · exact ⟨_, rfl⟩

/-- A number that is made of a sign and of a magnitude below infinity is finite. -/
lemma exists_exactValue?_ofMagnitude {bits : Nat} (negative : Bool) (h : bits < infinityBits) :
    ∃ q, exactValue? (ofMagnitude negative bits) = some q := by
  rw [exactValue?, ofFloat_ofMagnitude negative h]
  rw [infinityBits, Nat.pow_eq] at h
  apply Binary64.exists_value?_ofBits
  split <;> omega

/-- Zero is zero with either sign. -/
lemma exactValue?_ofFraction_zero (negative : Bool) :
    exactValue? (ofFraction negative 0 1) = some 0 := by
  have hbits : magnitudeBits 0 minExponent = 0 := by decide
  have hvalue : exactValue? (ofMagnitude negative 0) = some 0 := by
    rw [exactValue?, ofFloat_ofMagnitude negative (by decide)]
    cases negative <;> simp [Binary64.ofBits, Binary64.value?]
  exact hbits ▸ hvalue

/-- The significand of a rounded positive integer has 53 bits, or is `2 ^ 53`. -/
lemma nearest_one {n : Nat} (hn : n ≠ 0) :
    ∃ s, nearest n 1 = (s, (n.log2 : Int) - 52) ∧ s ≤ 2 ^ 53 := by
  have hunit : unitExponent n 1 = (n.log2 : Int) - 52 := by
    rw [← pow_zero 2, unitExponent_two_pow hn]
    unfold minExponent
    omega
  have hlt : n < 2 ^ (n.log2 + 1) := Nat.lt_log2_self
  have hround {a b : Nat} (h : a < 2 ^ 53 * b) : roundQuotient a b ≤ 2 ^ 53 := by
    have hquotient : a / b < 2 ^ 53 := Nat.div_lt_of_lt_mul (by rwa [mul_comm])
    simp only [roundQuotient]
    split_ifs <;> omega
  simp only [nearest, if_neg hn, hunit, inUnits, one_mul, Nat.pow_eq]
  refine ⟨_, rfl, ?_⟩
  split_ifs with hexponent
  · apply hround
    rw [← pow_add]
    exact hlt.trans_eq (congrArg (2 ^ ·) (by omega))
  · apply hround
    calc n * 2 ^ (-((n.log2 : Int) - 52)).toNat
        < 2 ^ (n.log2 + 1) * 2 ^ (-((n.log2 : Int) - 52)).toNat :=
          Nat.mul_lt_mul_of_pos_right hlt (Nat.two_pow_pos _)
      _ = 2 ^ 53 * 1 := by
          rw [← pow_add, mul_one]
          congr 1
          omega

/-- An integer of 64 bits is rounded to a finite number. -/
lemma exists_exactValue?_ofFraction_one {n : Nat} (negative : Bool) (h : n < 2 ^ 64) :
    ∃ q, exactValue? (ofFraction negative n 1) = some q := by
  rcases eq_or_ne n 0 with rfl | hn
  · exact ⟨0, exactValue?_ofFraction_zero negative⟩
  · obtain ⟨s, hs, hle⟩ := nearest_one hn
    have hlog : n.log2 < 64 := (Nat.log2_lt hn).mpr h
    rw [ofFraction, hs]
    apply exists_exactValue?_ofMagnitude
    rw [magnitudeBits, min_lt_iff, infinityBits]
    refine Or.inr ?_
    unfold minExponent
    simp only [Nat.pow_eq]
    omega

end LayeredConfig.Number
