import Mathlib
import LayeredConfig.Proofs.Number.Exact
import LayeredConfig.Proofs.Value.Reading

set_option autoImplicit false

/-!
# Rounding to integers

A floating-point number is read as the nearest integer, and as the one farther from zero where two
are equally near. The rule that does so compares the distance to the floor with one half, and this
distance is a floating-point number itself: it is exact, unless a small number is below zero. Then
the distance is rounded, and for one number it is rounded to one half from above.

## Main definitions

* `RoundsAway` — an integer is nearest, and farther from zero than any other that is.
* `nextBelowHalf` — the greatest floating-point number below one half.

## Main results

* `roundToInteger?_of_exactValue?` — the rule rounds every finite number but one.
* `Value.float_reads_nearest` — how floating-point numbers are read as integers.
-/

namespace LayeredConfig

namespace Number

/-! ## The nearest integer -/

/-- An integer is nearest to a number, and of those that are equally near it is the farthest from
zero. -/
structure RoundsAway (q : ℚ) (n : ℤ) : Prop where
  /-- No integer is nearer. -/
  nearest : ∀ k : ℤ, |q - n| ≤ |q - k|
  /-- None that is equally near is farther from zero. -/
  away : ∀ k : ℤ, |q - k| = |q - n| → |k| ≤ |n|

namespace RoundsAway

variable {q : ℚ} {n : ℤ}

/-- An integer at less than one half is nearest. -/
lemma of_abs_lt (h : |q - n| < 1 / 2) : RoundsAway q n := by
  have hother (k : ℤ) (hk : k ≠ n) : |q - n| < |q - k| := by
    have hgap : (1 : ℚ) ≤ |(n : ℚ) - k| := by
      exact_mod_cast Int.one_le_abs (sub_ne_zero.mpr hk.symm)
    have htriangle : |(n : ℚ) - k| ≤ |q - n| + |q - k| := by
      rw [abs_sub_comm q n]
      exact abs_sub_le (n : ℚ) q k
    linarith
  refine ⟨fun k => ?_, fun k hk => ?_⟩
  · rcases eq_or_ne k n with rfl | hne
    · exact le_rfl
    · exact (hother k hne).le
  · rcases eq_or_ne k n with rfl | hne
    · exact le_rfl
    · exact absurd hk (hother k hne).ne'

/-- An integer is at least one half away from the middle of two integers, and no more only if it is
one of the two. -/
lemma half_le_abs_sub (k j : ℤ) :
    1 / 2 ≤ |(k : ℚ) + 1 / 2 - j| ∧ (|(k : ℚ) + 1 / 2 - j| = 1 / 2 → j = k ∨ j = k + 1) := by
  rcases le_or_gt j k with hj | hj
  · have hle : (j : ℚ) ≤ k := by exact_mod_cast hj
    rw [abs_of_nonneg (by linarith)]
    refine ⟨by linarith, fun h => .inl ?_⟩
    exact_mod_cast (show (j : ℚ) = k by linarith)
  · have hle : (k : ℚ) + 1 ≤ j := by exact_mod_cast hj
    rw [abs_of_nonpos (by linarith)]
    refine ⟨by linarith, fun h => .inr ?_⟩
    exact_mod_cast (show (j : ℚ) = k + 1 by linarith)

/-- Of the two integers around the middle, the upper one is farther from zero if the lower one is
not negative. -/
lemma succ_of_half {k : ℤ} (hk : 0 ≤ k) : RoundsAway (k + 1 / 2) (k + 1) := by
  have hdist : |(k : ℚ) + 1 / 2 - (k + 1 : ℤ)| = 1 / 2 := by
    push_cast
    rw [show (k : ℚ) + 1 / 2 - (k + 1) = -(1 / 2) by ring, abs_neg]
    norm_num
  refine ⟨fun j => hdist.le.trans (half_le_abs_sub k j).1, fun j hj => ?_⟩
  rcases (half_le_abs_sub k j).2 (hj.trans hdist) with rfl | rfl
  · rw [abs_of_nonneg hk, abs_of_nonneg (by omega)]
    omega
  · exact le_rfl

/-- Of the two integers around the middle, the lower one is farther from zero if it is negative. -/
lemma of_half {k : ℤ} (hk : k < 0) : RoundsAway (k + 1 / 2) k := by
  have hdist : |(k : ℚ) + 1 / 2 - k| = 1 / 2 := by
    rw [show (k : ℚ) + 1 / 2 - k = 1 / 2 by ring]
    norm_num
  refine ⟨fun j => hdist.le.trans (half_le_abs_sub k j).1, fun j hj => ?_⟩
  rcases (half_le_abs_sub k j).2 (hj.trans hdist) with rfl | rfl
  · exact le_rfl
  · rw [abs_of_nonpos (by omega), abs_of_nonpos (by omega)]
    omega

/-- There is only one such integer. -/
lemma unique {n' : ℤ} (h : RoundsAway q n) (h' : RoundsAway q n') : n = n' := by
  have hdist : |q - n| = |q - n'| := le_antisymm (h.nearest n') (h'.nearest n)
  have habs : |n| = |n'| := le_antisymm (h'.away n hdist) (h.away n' hdist.symm)
  rcases abs_eq_abs.mp habs with heq | hopposite
  · exact heq
  · -- two opposite integers are equally near to zero only, to which zero is nearest
    have hq : q = 0 ∨ n' = 0 := by
      subst hopposite
      rcases abs_eq_abs.mp hdist with hd | hd
      · right
        push_cast at hd
        exact_mod_cast (show (n' : ℚ) = 0 by linarith)
      · left
        push_cast at hd
        linarith
    rcases hq with rfl | rfl
    · have hzero := h'.nearest 0
      simp only [zero_sub, abs_neg, Int.cast_zero, sub_zero, abs_zero, abs_nonpos_iff,
        Int.cast_eq_zero] at hzero
      omega
    · simpa using hopposite

/-- An integer is nearest to itself. -/
lemma of_eq (h : q = n) : RoundsAway q n :=
  of_abs_lt (by rw [h, sub_self, abs_zero]; norm_num)

/-- What is nearest to a floor and a fraction depends on how the fraction compares with one half,
and in the middle on the sign of the floor. -/
lemma of_floor {k : ℤ} {r d : ℕ} (hd : 0 < d) (hr : r < d) :
    RoundsAway (k + r / d) (if d < 2 * r ∨ (d = 2 * r ∧ 0 ≤ k) then k + 1 else k) := by
  have hpos : (0 : ℚ) < d := by exact_mod_cast hd
  have hnonneg : (0 : ℚ) ≤ r / d := by positivity
  have hlt : (r : ℚ) / d < 1 := (div_lt_one hpos).mpr (by exact_mod_cast hr)
  rcases lt_trichotomy d (2 * r) with habove | hhalf | hbelow
  · have hfraction : (1 : ℚ) / 2 < r / d := by
      rw [div_lt_div_iff₀ (by norm_num) hpos]
      exact_mod_cast (by omega : 1 * d < r * 2)
    rw [if_pos (.inl habove)]
    apply of_abs_lt
    push_cast
    rw [abs_of_nonpos (by linarith)]
    linarith
  · have hfraction : (r : ℚ) / d = 1 / 2 := by
      rw [div_eq_div_iff hpos.ne' (by norm_num)]
      exact_mod_cast (by omega : r * 2 = 1 * d)
    rw [hfraction]
    rcases lt_or_ge k 0 with hk | hk
    · rw [if_neg (by omega)]
      exact of_half hk
    · rw [if_pos (.inr ⟨hhalf, hk⟩)]
      exact succ_of_half hk
  · have hfraction : (r : ℚ) / d < 1 / 2 := by
      rw [div_lt_div_iff₀ hpos (by norm_num)]
      exact_mod_cast (by omega : r * 2 < 1 * d)
    rw [if_neg (by omega)]
    apply of_abs_lt
    rw [add_sub_cancel_left, abs_of_nonneg hnonneg]
    exact hfraction

end RoundsAway

/-! ## The rule -/

/-- The greatest floating-point number below one half. -/
def nextBelowHalf : ℚ :=
  (2 ^ 53 - 1) / 2 ^ 54

/-- A fraction with a denominator of `2 ^ 54` and an odd numerator is in lowest terms. -/
lemma eq_of_mul_two_pow {m t : Nat} (hm : m < 2 ^ 53)
    (h : m * 2 ^ 54 = (2 ^ 53 - 1) * 2 ^ t) : m = 2 ^ 53 - 1 ∧ t = 54 := by
  have hodd (x : Nat) : 2 * x ≠ 2 ^ 53 - 1 := by
    clear h
    omega
  have hlarge (w : Nat) (hw : 0 < w) : m * 2 ^ 54 ≠ (2 ^ 53 - 1) * (2 ^ 54 * (2 * w)) := by
    clear h
    omega
  rcases lt_trichotomy t 54 with hlt | rfl | hgt
  · -- an odd number would be even
    obtain ⟨j, hj⟩ := Nat.exists_eq_add_of_lt hlt
    have hpow : (2 : Nat) ^ 54 = 2 ^ t * (2 * 2 ^ j) := by
      rw [hj]
      ring
    have heven : 2 ^ t * (2 * (m * 2 ^ j)) = 2 ^ t * (2 ^ 53 - 1) := by
      rw [mul_comm (2 ^ t) (2 ^ 53 - 1), ← h, hpow]
      ring
    exact absurd (Nat.eq_of_mul_eq_mul_left (Nat.two_pow_pos t) heven) (hodd _)
  · exact ⟨Nat.eq_of_mul_eq_mul_right (Nat.two_pow_pos 54) h, rfl⟩
  · -- the numerator would have too many bits
    obtain ⟨j, rfl⟩ := Nat.exists_eq_add_of_lt hgt
    have hpow : (2 : Nat) ^ (54 + j + 1) = 2 ^ 54 * (2 * 2 ^ j) := by ring
    rw [hpow] at h
    exact absurd h (hlarge _ (Nat.two_pow_pos j))

/-- A quotient is the number next to one half in one way only. -/
lemma eq_of_div_eq_nextBelowHalf {m t : Nat} (hm : m < 2 ^ 53)
    (h : (m : ℚ) / 2 ^ t = nextBelowHalf) : m = 2 ^ 53 - 1 ∧ t = 54 := by
  have hcast : ((2 ^ 53 - 1 : Nat) : ℚ) = 2 ^ 53 - 1 := by norm_num
  rw [nextBelowHalf, div_eq_div_iff (by positivity) (by positivity), ← hcast] at h
  exact eq_of_mul_two_pow hm (by exact_mod_cast h)

/-- The number next to one half lies between zero and one. -/
lemma nextBelowHalf_mem : 0 < nextBelowHalf ∧ nextBelowHalf < 1 := by
  unfold nextBelowHalf
  norm_num

/-- Zero is nearest to the number next to minus one half. -/
lemma roundsAway_nextBelowHalf : RoundsAway (-nextBelowHalf) 0 := by
  apply RoundsAway.of_abs_lt
  rw [Int.cast_zero, sub_zero, abs_neg, abs_of_pos nextBelowHalf_mem.1]
  norm_num [nextBelowHalf]

/-- No integer is the number next to one half, or its opposite. -/
lemma intCast_ne_neg_nextBelowHalf (n : ℤ) : (n : ℚ) ≠ -nextBelowHalf := by
  intro h
  obtain ⟨hpos, hlt⟩ := nextBelowHalf_mem
  have hlow : -1 < n := by exact_mod_cast (show (-1 : ℚ) < n by linarith)
  have hhigh : n < 0 := by exact_mod_cast (show (n : ℚ) < 0 by linarith)
  omega

/-- A number with a positive exponent is whole, and read as it is. -/
lemma roundToInteger?_of_exponent {x : Float} {negative : Bool} {m e : Nat}
    (hx : Binary64.ofFloat x = .finite negative m e) :
    ∃ n : ℤ, roundToInteger? x = some n ∧
      (if negative then -1 else 1) * m * 2 ^ (e : ℤ) = (n : ℚ) := by
  have hnonneg : (0 : ℤ) ≤ e := by omega
  refine ⟨_, by simp only [roundToInteger?, hx, if_pos hnonneg, Int.toNat_natCast, Nat.pow_eq]; rfl,
    ?_⟩
  cases negative <;> simp

/-- A number whose fraction is zero is whole, and read as it is. -/
lemma roundToInteger?_of_rest_eq_zero {x : Float} {negative : Bool} {m t : Nat} (ht : 0 < t)
    (hx : Binary64.ofFloat x = .finite negative m (-(t : ℤ))) (hrest : m % 2 ^ t = 0) :
    ∃ n : ℤ, roundToInteger? x = some n ∧
      (if negative then -1 else 1) * m * 2 ^ (-(t : ℤ)) = (n : ℚ) := by
  have hneg : ¬ (0 : ℤ) ≤ -(t : ℤ) := by omega
  obtain ⟨w, rfl⟩ := Nat.dvd_of_mod_eq_zero hrest
  have hw : 2 ^ t * w / 2 ^ t = w := Nat.mul_div_cancel_left w (Nat.two_pow_pos t)
  refine ⟨_, by simp only [roundToInteger?, hx, if_neg hneg, neg_neg, Int.toNat_natCast, Nat.pow_eq,
    if_pos hrest]; rfl, ?_⟩
  rw [hw]
  cases negative <;> simp [zpow_neg] <;> field_simp

/-- The rule for a number with a fraction, once the fraction is rounded. -/
lemma roundToInteger?_of_rest {x : Float} {negative : Bool} {m t : Nat} (ht : 0 < t)
    (hx : Binary64.ofFloat x = .finite negative m (-(t : ℤ))) (hrest : m % 2 ^ t ≠ 0)
    {s u : Nat}
    (hnearest : nearest (if negative then 2 ^ t - m % 2 ^ t else m % 2 ^ t) (2 ^ t) =
      (s, -(u : ℤ))) :
    roundToInteger? x =
      let floor : ℤ := if negative then -((m / 2 ^ t : Nat) : ℤ) - 1 else (m / 2 ^ t : Nat)
      some (if 2 ^ u < 2 * s ∨ (2 ^ u = 2 * s ∧ !negative) then floor + 1 else floor) := by
  have hneg : ¬ (0 : ℤ) ≤ -(t : ℤ) := by omega
  simp only [roundToInteger?, hx, if_neg hneg, neg_neg, Int.toNat_natCast, Nat.pow_eq, if_neg hrest,
    hnearest]

/-- A number is its floor and a fraction. -/
lemma value_eq_floor_add {negative : Bool} {m t : Nat} (hrest : m % 2 ^ t ≠ 0) :
    (if negative then -1 else 1) * (m : ℚ) * 2 ^ (-(t : ℤ)) =
      ((if negative then -((m / 2 ^ t : Nat) : ℤ) - 1 else (m / 2 ^ t : Nat) : ℤ) : ℚ) +
        ((if negative then 2 ^ t - m % 2 ^ t else m % 2 ^ t : Nat) : ℚ) / (2 ^ t : Nat) := by
  have hsplit : (m : ℚ) = 2 ^ t * (m / 2 ^ t : Nat) + (m % 2 ^ t : Nat) := by
    exact_mod_cast (Nat.div_add_mod m (2 ^ t)).symm
  have hle : m % 2 ^ t ≤ 2 ^ t := (Nat.mod_lt m (Nat.two_pow_pos t)).le
  generalize m / 2 ^ t = w, m % 2 ^ t = r at *
  cases negative
  · simp only [Bool.false_eq_true, if_false, hsplit, zpow_neg, zpow_natCast]
    push_cast
    field_simp
  · simp only [if_true, hsplit, zpow_neg, zpow_natCast, Nat.cast_sub hle]
    push_cast
    field_simp
    ring

/-- The value of a negative number. -/
lemma value_negative {m t : Nat} :
    (if true then -1 else 1) * (m : ℚ) * 2 ^ (-(t : ℤ)) = -(m / 2 ^ t) := by
  simp [zpow_neg, div_eq_mul_inv]

/-- A negative number is the opposite of its significand with the same exponent. -/
lemma value_eq_neg_iff {m t : Nat} {q : ℚ} :
    (if true then -1 else 1) * (m : ℚ) * 2 ^ (-(t : ℤ)) = -q ↔ (m : ℚ) / 2 ^ t = q := by
  rw [value_negative, neg_inj]

/-- Where the distance to the floor is not rounded, the rule gives the nearest integer. -/
lemma roundToInteger?_of_exact {x : Float} {negative : Bool} {m t : Nat} (hpos : 0 < t)
    (ht : t ≤ 1074) (hm : m < 2 ^ 53) (hexact : negative = true → t ≤ 53)
    (hx : Binary64.ofFloat x = .finite negative m (-(t : ℤ))) (hrest : m % 2 ^ t ≠ 0) :
    ∃ n, roundToInteger? x = some n ∧
      RoundsAway ((if negative then -1 else 1) * m * 2 ^ (-(t : ℤ))) n := by
  have hmod : m % 2 ^ t < 2 ^ t := Nat.mod_lt m (Nat.two_pow_pos t)
  have hle : m % 2 ^ t ≤ m := Nat.mod_le m (2 ^ t)
  have hne : (if negative then 2 ^ t - m % 2 ^ t else m % 2 ^ t) ≠ 0 := by
    split_ifs <;> omega
  have hlt : (if negative then 2 ^ t - m % 2 ^ t else m % 2 ^ t) < 2 ^ t := by
    split_ifs <;> omega
  have hsmall : (if negative then 2 ^ t - m % 2 ^ t else m % 2 ^ t) < 2 ^ 53 := by
    split_ifs with hnegative
    · have hpow : 2 ^ t ≤ 2 ^ 53 := Nat.pow_le_pow_right (by norm_num) (hexact hnegative)
      omega
    · omega
  have hsign : (!negative) = true ↔
      0 ≤ (if negative then -((m / 2 ^ t : Nat) : ℤ) - 1 else (m / 2 ^ t : Nat)) := by
    generalize m / 2 ^ t = w
    cases negative
    · simp
    · simp only [Bool.not_true, Bool.false_eq_true, if_true, false_iff]
      omega
  obtain ⟨j, hj⟩ := nearest_eq_of_lt hne hsmall hpos ht
  -- both sides of the comparison with one half are scaled by the same power of two
  have habove (r : Nat) : 2 ^ (t + j) < 2 * (r * 2 ^ j) ↔ 2 ^ t < 2 * r := by
    rw [pow_add, ← mul_assoc]
    exact Nat.mul_lt_mul_right (Nat.two_pow_pos j)
  have hhalf (r : Nat) : 2 ^ (t + j) = 2 * (r * 2 ^ j) ↔ 2 ^ t = 2 * r := by
    rw [pow_add, ← mul_assoc]
    exact Nat.mul_left_inj (Nat.two_pow_pos j).ne'
  refine ⟨_, roundToInteger?_of_rest hpos hx hrest hj, ?_⟩
  rw [value_eq_floor_add hrest]
  simp only [habove, hhalf, hsign]
  exact RoundsAway.of_floor (Nat.two_pow_pos t) hlt

/-- Where the distance to the floor is rounded, the rule gives zero, which is nearest, for every
number but the one next to one half. -/
lemma roundToInteger?_of_rounded {x : Float} {m t : Nat} (ht : 54 ≤ t) (hm : m < 2 ^ 53)
    (hx : Binary64.ofFloat x = .finite true m (-(t : ℤ))) (hrest : m % 2 ^ t ≠ 0) :
    RoundsAway (-(m / 2 ^ t : ℚ)) 0 ∧
      roundToInteger? x = some (if m = 2 ^ 53 - 1 ∧ t = 54 then -1 else 0) := by
  have hpow : 2 ^ 54 ≤ 2 ^ t := Nat.pow_le_pow_right (by norm_num) ht
  have hmod : m % 2 ^ t = m := Nat.mod_eq_of_lt (by omega)
  have hdiv : m / 2 ^ t = 0 := Nat.div_eq_of_lt (by omega)
  have hpos : 0 < m := by omega
  constructor
  · apply RoundsAway.of_abs_lt
    rw [Int.cast_zero, sub_zero, abs_neg, abs_of_nonneg (by positivity),
      div_lt_div_iff₀ (by positivity) (by norm_num)]
    exact_mod_cast (by omega : m * 2 < 1 * 2 ^ t)
  · obtain ⟨s, hs, hle, hiff⟩ := nearest_complement hpos hm ht
    rw [roundToInteger?_of_rest (by omega) hx hrest (s := s) (u := 53) (by simpa [hmod] using hs)]
    simp only [hdiv, ← hiff]
    rcases eq_or_ne s (2 ^ 52) with rfl | hne
    · rfl
    · have hgt : 2 ^ 53 < 2 * s := by omega
      rw [if_pos (.inl hgt), if_neg hne]
      rfl

/-- **The rule rounds every finite number but one**: the integer it gives is the nearest, and of two
that are equally near the one farther from zero. The exception is the number next to minus one half,
for which the rule gives minus one.

**Proof sketch.** A number is its floor and a fraction, and the rule compares the fraction with one
half (`RoundsAway.of_floor`). The fraction is exact (`roundToInteger?_of_exact`) unless the number
is negative and its last bit is too small; then it is less than one half in absolute value, and its
distance to minus one is rounded to 53 bits (`nearest_complement`). -/
theorem roundToInteger?_of_exactValue? {x : Float} {q : ℚ} (hx : exactValue? x = some q) :
    ∃ n, roundToInteger? x = some n ∧ (q ≠ -nextBelowHalf → RoundsAway q n) ∧
      (q = -nextBelowHalf → n = -1) := by
  obtain ⟨negative, m, e, hfinite, rfl, hm, he⟩ := exists_finite_of_exactValue? hx
  have hwhole (n : ℤ) (q : ℚ) (hn : roundToInteger? x = some n) (hq : q = n) :
      ∃ n, roundToInteger? x = some n ∧ (q ≠ -nextBelowHalf → RoundsAway q n) ∧
        (q = -nextBelowHalf → n = -1) :=
    ⟨n, hn, fun _ => .of_eq hq, fun h => absurd (hq.symm.trans h) (intCast_ne_neg_nextBelowHalf n)⟩
  rcases le_or_gt 0 e with hnonneg | hneg
  · obtain ⟨e, rfl⟩ := Int.eq_ofNat_of_zero_le hnonneg
    obtain ⟨n, hn, hq⟩ := roundToInteger?_of_exponent hfinite
    exact hwhole n _ hn hq
  · obtain ⟨t, rfl⟩ : ∃ t : Nat, e = -(t : ℤ) := ⟨(-e).toNat, by omega⟩
    have hpos : 0 < t := by omega
    have hbound : t ≤ 1074 := by
      unfold minExponent at he
      omega
    by_cases hrest : m % 2 ^ t = 0
    · obtain ⟨n, hn, hq⟩ := roundToInteger?_of_rest_eq_zero hpos hfinite hrest
      exact hwhole n _ hn hq
    · by_cases hexact : negative = true → t ≤ 53
      · obtain ⟨n, hn, hq⟩ := roundToInteger?_of_exact hpos hbound hm hexact hfinite hrest
        refine ⟨n, hn, fun _ => hq, fun h => ?_⟩
        -- the exception would be negative, and its last bit too small
        cases negative with
        | false =>
          have hvalue : (0 : ℚ) ≤ (if false then -1 else 1) * m * 2 ^ (-(t : ℤ)) := by
            simp only [Bool.false_eq_true, if_false]
            positivity
          linarith [nextBelowHalf_mem.1]
        | true =>
          obtain ⟨-, rfl⟩ := eq_of_div_eq_nextBelowHalf hm (value_eq_neg_iff.mp h)
          exact absurd (hexact rfl) (by norm_num)
      · obtain ⟨rfl, ht⟩ : negative = true ∧ 54 ≤ t := by
          rw [Classical.not_imp] at hexact
          exact ⟨hexact.1, by omega⟩
        obtain ⟨hzero, hn⟩ := roundToInteger?_of_rounded ht hm hfinite hrest
        refine ⟨_, hn, fun h => ?_, fun h => ?_⟩
        · have hne : ¬ (m = 2 ^ 53 - 1 ∧ t = 54) := by
            rintro ⟨rfl, rfl⟩
            exact h (value_eq_neg_iff.mpr (by norm_num [nextBelowHalf]))
          rw [if_neg hne, value_negative]
          exact hzero
        · rw [if_pos (eq_of_div_eq_nextBelowHalf hm (value_eq_neg_iff.mp h))]

end Number

namespace Value

open Number

/-- The integer that a floating-point number is read as is the one that the rule gives, if it fits
in 64 bits. -/
lemma toInteger_float {o : Option String} {x : Float} {n : ℤ} (h : roundToInteger? x = some n) :
    toInteger (.scalar o (.float x)) =
      if fitsInteger n then .ok n else (Value.scalar o (.float x)).fail "an integer" := by
  simp only [toInteger, h]

/-- **Reading a floating-point number as an integer**: for every finite number there is exactly one
integer that is nearest to it and, of two that are equally near, farther from zero. The number is
read as this integer if it fits in 64 bits, and is a mismatch otherwise.

There is one exception, the number next to minus one half: zero is nearest to it, and it is read as
minus one. -/
theorem float_reads_nearest (o : Option String) {x : Float} {q : ℚ} (hx : exactValue? x = some q) :
    ∃ n : ℤ, RoundsAway q n ∧ (∀ k, RoundsAway q k → k = n) ∧
      (q ≠ -nextBelowHalf →
        (-2 ^ 63 ≤ n ∧ n ≤ 2 ^ 63 - 1 → toInteger (.scalar o (.float x)) = .ok n) ∧
        (¬ (-2 ^ 63 ≤ n ∧ n ≤ 2 ^ 63 - 1) → toInteger (.scalar o (.float x)) =
          .error (.mismatch ⟨o, (Value.scalar o (.float x)).describe, "an integer", none⟩))) ∧
      (q = -nextBelowHalf → n = 0 ∧ toInteger (.scalar o (.float x)) = .ok (-1)) := by
  obtain ⟨n, hn, hrounds, hexception⟩ := roundToInteger?_of_exactValue? hx
  rcases eq_or_ne q (-nextBelowHalf) with rfl | hq
  · obtain rfl := hexception rfl
    exact ⟨0, roundsAway_nextBelowHalf, fun k hk => hk.unique roundsAway_nextBelowHalf,
      fun h => absurd rfl h, fun _ => ⟨rfl, toInteger_float hn⟩⟩
  · refine ⟨n, hrounds hq, fun k hk => hk.unique (hrounds hq), fun _ => ⟨fun h => ?_, fun h => ?_⟩,
      fun h => absurd h hq⟩
    · rw [toInteger_float hn, if_pos (fitsInteger_iff.mpr h)]
    · rw [toInteger_float hn, if_neg (fun hfits => h (fitsInteger_iff.mp hfits))]
      rfl

/-- A number in the middle of two integers, and below zero. -/
theorem float_reads_nearest_middle :
    exactValue? (-2.5) = some (-5 / 2) ∧ toInteger (.scalar none (.float (-2.5))) = .ok (-3) := by
  have hx : exactValue? (-2.5) = some (-5 / 2) := by
    have hfloat : Binary64.ofFloat (-2.5) = .finite true 5629499534213120 (-51) := by
      decide +kernel
    rw [exactValue?, hfloat, Binary64.value?]
    norm_num
  have hmiddle : RoundsAway (-5 / 2) (-3) := by
    rw [show (-5 / 2 : ℚ) = (-3 : ℤ) + 1 / 2 by norm_num]
    exact RoundsAway.of_half (by norm_num)
  obtain ⟨n, -, hunique, hread, -⟩ := float_reads_nearest none hx
  obtain rfl := hunique (-3) hmiddle
  exact ⟨hx, (hread (by norm_num [nextBelowHalf])).1 (by norm_num)⟩

/-- The number next to minus one half is read as minus one, although zero is nearest to it. -/
theorem float_reads_beside :
    exactValue? (-0.49999999999999994) = some (-nextBelowHalf) ∧ RoundsAway (-nextBelowHalf) 0 ∧
      toInteger (.scalar none (.float (-0.49999999999999994))) = .ok (-1) := by
  have hfloat : Binary64.ofFloat (-0.49999999999999994) = .finite true (2 ^ 53 - 1) (-54) := by
    decide +kernel
  have hrule : roundToInteger? (-0.49999999999999994) = some (-1) := by decide +kernel
  refine ⟨?_, roundsAway_nextBelowHalf, toInteger_float hrule⟩
  rw [exactValue?, hfloat, Binary64.value?, nextBelowHalf]
  norm_num

end Value

end LayeredConfig
