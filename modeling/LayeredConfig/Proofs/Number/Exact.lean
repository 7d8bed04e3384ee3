import Mathlib
import LayeredConfig.Number.Binary64

set_option autoImplicit false

/-!
# Exact values of floating-point numbers

A finite floating-point number is a rational number. A fraction is rounded to 53 significant bits,
and nothing is lost where a denominator that is a power of two leaves a numerator of no more bits.

## Main definitions

* `exactValue?` — the rational number that a `Float` is, if it is finite.

## Main results

* `Binary64.bounds_of_ofBits` — the size of significand and exponent.
* `nearest_eq_of_lt` — fractions that are not rounded.
* `nearest_complement` — what is rounded when a small number is taken from one.
-/

namespace LayeredConfig.Number

/-! ## Values -/

/-- The rational number that a finite number is. -/
def Binary64.value? : Binary64 → Option ℚ
  | .finite negative m e => some ((if negative then -1 else 1) * m * 2 ^ e)
  | _ => none

/-- The rational number that a `Float` is, if it is finite. -/
def exactValue? (x : Float) : Option ℚ :=
  (Binary64.ofFloat x).value?

/-- The significand of a finite number has 53 bits at most, and its exponent is not below the
least one. -/
lemma Binary64.bounds_of_ofBits {bits m : Nat} {e : Int} {negative : Bool}
    (h : ofBits bits = .finite negative m e) : m < 2 ^ 53 ∧ minExponent ≤ e := by
  have hfraction : bits % 2 ^ 52 < 2 ^ 52 := Nat.mod_lt bits (by norm_num)
  simp only [ofBits, Nat.pow_eq] at h
  split_ifs at h with hall hzero hnormal
  · cases h
    exact ⟨by omega, le_refl _⟩
  · cases h
    refine ⟨by omega, ?_⟩
    unfold minExponent
    omega

/-- A `Float` with a value is a finite number. -/
lemma exists_finite_of_exactValue? {x : Float} {q : ℚ} (h : exactValue? x = some q) :
    ∃ negative m e, Binary64.ofFloat x = .finite negative m e ∧
      q = (if negative then -1 else 1) * m * 2 ^ e ∧ m < 2 ^ 53 ∧ minExponent ≤ e := by
  unfold exactValue? at h
  cases hx : Binary64.ofFloat x with
  | finite negative m e =>
    rw [hx] at h
    exact ⟨negative, m, e, rfl, (Option.some.inj h).symm, Binary64.bounds_of_ofBits hx⟩
  | nan => rw [hx] at h; cases h
  | infinite negative => rw [hx] at h; cases h

/-! ## Rounding -/

/-- A whole quotient is not rounded. -/
lemma roundQuotient_mul_self (c : Nat) {d : Nat} (hd : 0 < d) : roundQuotient (c * d) d = c := by
  simp [roundQuotient, Nat.mul_div_cancel c hd, hd]

/-- The exponent to which a fraction is rounded whose denominator is a power of two. -/
lemma unitExponent_two_pow {num : Nat} (hnum : num ≠ 0) (t : Nat) :
    unitExponent num (2 ^ t) = max ((num.log2 : Int) - t - 52) minExponent := by
  have hself : 2 ^ num.log2 ≤ num := Nat.log2_self_le hnum
  simp only [unitExponent, inUnits, Nat.log2_two_pow, Nat.pow_eq]
  by_cases hguess : (0 : Int) ≤ (num.log2 : Int) - t - 52
  · have hlarge : 2 ^ 52 * (2 ^ t * 2 ^ ((num.log2 : Int) - t - 52).toNat) ≤ num := by
      rw [← pow_add, ← pow_add]
      exact (Nat.pow_le_pow_right two_pos (by omega)).trans hself
    simp only [if_pos hguess, if_neg hlarge.not_gt]
  · have hlarge : 2 ^ 52 * 2 ^ t ≤ num * 2 ^ (-((num.log2 : Int) - t - 52)).toNat :=
      calc 2 ^ 52 * 2 ^ t = 2 ^ num.log2 * 2 ^ (-((num.log2 : Int) - t - 52)).toNat := by
            rw [← pow_add, ← pow_add]
            congr 1
            omega
        _ ≤ num * 2 ^ (-((num.log2 : Int) - t - 52)).toNat := Nat.mul_le_mul_right _ hself
    simp only [if_neg hguess, if_neg hlarge.not_gt]

/-- A fraction below `2 ^ 52` in units of a power of two below one. -/
lemma nearest_two_pow {num t : Nat} (hnum : num ≠ 0) (u : Nat)
    (hu : max ((num.log2 : Int) - t - 52) minExponent = -u) (hpos : 0 < u) :
    nearest num (2 ^ t) = (roundQuotient (num * 2 ^ u) (2 ^ t), -(u : Int)) := by
  have hneg : ¬ (0 : Int) ≤ -(u : Int) := by omega
  simp only [nearest, if_neg hnum, unitExponent_two_pow hnum, hu, inUnits, if_neg hneg,
    Nat.pow_eq, neg_neg, Int.toNat_natCast]

/-- A fraction whose numerator has 53 bits at most is not rounded, if its denominator is a power of
two within the range of exponents. -/
lemma nearest_eq_of_lt {num t : Nat} (hnum : num ≠ 0) (hsmall : num < 2 ^ 53) (hpos : 0 < t)
    (ht : t ≤ 1074) : ∃ j : Nat, nearest num (2 ^ t) = (num * 2 ^ j, -((t + j : Nat) : Int)) := by
  have hlog : num.log2 < 53 := (Nat.log2_lt hnum).mpr hsmall
  obtain ⟨j, hj⟩ : ∃ j : Nat,
      max ((num.log2 : Int) - t - 52) minExponent = -((t + j : Nat) : Int) :=
    ⟨(-max ((num.log2 : Int) - t - 52) minExponent).toNat - t, by unfold minExponent; omega⟩
  refine ⟨j, ?_⟩
  have hscaled : num * 2 ^ (t + j) = num * 2 ^ j * 2 ^ t := by ring
  rw [nearest_two_pow hnum (t + j) hj (by omega), hscaled,
    roundQuotient_mul_self _ (Nat.two_pow_pos t)]

/-- Rounding a quotient that is at least `c` gives at least `c`, and `c` itself iff the rest is at
most one half, and less where `c` is odd. -/
lemma roundQuotient_add_mul {r b : Nat} (c : Nat) (hb : 0 < b) :
    c ≤ roundQuotient (r + c * b) b ∧
      (roundQuotient (r + c * b) b = c ↔ 2 * r < b ∨ 2 * r = b ∧ c % 2 = 0) := by
  have hdiv : (r + c * b) / b = r / b + c := Nat.add_mul_div_right r c hb
  have hmod : (r + c * b) % b = r % b := Nat.add_mul_mod_self_right r c b
  simp only [roundQuotient, hdiv, hmod]
  rcases Nat.lt_or_ge r b with hr | hr
  · rw [Nat.div_eq_of_lt hr, Nat.mod_eq_of_lt hr]
    split_ifs <;> omega
  · have hone : 1 ≤ r / b := (Nat.one_le_div_iff hb).mpr hr
    split_ifs <;> omega

/-- What remains of one when a number below one half is taken away has 53 bits after the point. It
is rounded to one half iff the number is the next one below one half. -/
lemma nearest_complement {m t : Nat} (hpos : 0 < m) (hm : m < 2 ^ 53) (ht : 54 ≤ t) :
    ∃ s, nearest (2 ^ t - m) (2 ^ t) = (s, -((53 : Nat) : Int)) ∧ 2 ^ 52 ≤ s ∧
      (s = 2 ^ 52 ↔ m = 2 ^ 53 - 1 ∧ t = 54) := by
  obtain ⟨j, rfl⟩ := Nat.exists_eq_add_of_le ht
  have hw : 0 < 2 ^ j := Nat.two_pow_pos j
  have hpow : 2 ^ (54 + j) = 2 ^ 54 * 2 ^ j := pow_add 2 54 j
  have hhalf : 2 ^ (53 + j) = 2 ^ 53 * 2 ^ j := pow_add 2 53 j
  have hone : 2 ^ j = 1 ↔ 54 + j = 54 := by
    rw [Nat.pow_eq_one]
    omega
  have hne : 2 ^ (54 + j) - m ≠ 0 := by omega
  have hlog : (2 ^ (54 + j) - m).log2 = 53 + j := by
    rw [Nat.log2_eq_iff hne, hhalf, show 53 + j + 1 = 54 + j by omega]
    omega
  have hunit : max (((2 ^ (54 + j) - m).log2 : Int) - (54 + j : Nat) - 52) minExponent =
      -((53 : Nat) : Int) := by
    rw [hlog]
    unfold minExponent
    omega
  -- above one half, in units of the last bit, stand `2 ^ 52 - m / 2 ^ (j + 1)` of them
  have hsplit : (2 ^ (54 + j) - m) * 2 ^ 53 =
      (2 ^ 52 * 2 ^ (54 + j) - m * 2 ^ 53) + 2 ^ 52 * 2 ^ (54 + j) := by
    rw [hpow]
    omega
  obtain ⟨hle, hiff⟩ := roundQuotient_add_mul (r := 2 ^ 52 * 2 ^ (54 + j) - m * 2 ^ 53) (2 ^ 52)
    (Nat.two_pow_pos (54 + j))
  rw [← hsplit] at hle hiff
  refine ⟨_, nearest_two_pow hne 53 hunit (by norm_num), hle, ?_⟩
  rw [hiff, ← hone, hpow]
  omega

end LayeredConfig.Number
