import Mathlib
import LayeredConfig.Proofs.Path.LetterCase
import LayeredConfig.Proofs.Path.Segments
import LayeredConfig.Proofs.Text.LowerCase
import LayeredConfig.Source.Environ

set_option autoImplicit false

/-!
# Replacing and lower-casing texts

A text with all occurrences of another one replaced, from left to right, is decided by where the
first one is: what stands before it stays, and replacing goes on behind it. Neither this, if runs of
digits are kept apart, nor lower-casing makes runs of digits longer.

## Main definitions

* `Text.Replaced` — a text in which all occurrences of another one are replaced.
* `Text.DigitRunsIn` — the runs of digits of a text stand in another one.

## Main results

* `Text.replaceAll_eq_iff` — replacing finds the first occurrence, and goes on behind it.
* `Text.lower_append_underscore` — an underscore does not change how what precedes it is
  lower-cased.
* `Text.digitRunsIn_lower`, `Text.Replaced.digitRunsIn` — where runs of digits come from.
-/

namespace LayeredConfig.Text

/-! ## Replacing -/

/-- All occurrences of `old`, from left to right, are replaced by `new`. -/
inductive Replaced (old new : List Char) : List Char → List Char → Prop
  /-- There is none. -/
  | done {cs : List Char} : ¬ old <:+: cs → Replaced old new cs cs
  /-- The first one stands behind `before`: none begins earlier. -/
  | next {before after out : List Char} :
      ¬ old <:+: before ++ old.dropLast → Replaced old new after out →
      Replaced old new (before ++ (old ++ after)) (before ++ (new ++ out))

variable {old new : List Char}

/-- A character at which no occurrence begins stays. -/
lemma Replaced.cons {c : Char} {cs out : List Char} (hc : ¬ old <+: c :: cs)
    (h : Replaced old new cs out) : Replaced old new (c :: cs) (c :: out) := by
  cases h with
  | done hnone => exact .done fun h => (List.infix_cons_iff.mp h).elim hc hnone
  | @next before after out hfirst hafter =>
    refine @Replaced.next old new (c :: before) after out (fun h => ?_) hafter
    rcases List.infix_cons_iff.mp h with h | h
    · -- an occurrence would begin at the character itself
      have hshort : c :: (before ++ old.dropLast) <+: c :: (before ++ (old ++ after)) := by
        refine List.cons_prefix_cons.mpr ⟨rfl, (List.prefix_append_right_inj before).mpr ?_⟩
        exact (List.dropLast_prefix old).trans (List.prefix_append _ _)
      exact hc (h.trans hshort)
    · exact hfirst h

/-- Replacing a text that is not empty replaces all its occurrences. -/
lemma replaced_replaceAll (hold : old ≠ []) {fuel : Nat} {cs : List Char}
    (hfuel : cs.length < fuel) : Replaced old new cs (replaceAll old new fuel cs) := by
  induction fuel generalizing cs with
  | zero => exact absurd hfuel (Nat.not_lt_zero _)
  | succ fuel ih =>
    cases cs with
    | nil => exact .done fun h => hold (List.infix_nil.mp h)
    | cons c cs =>
      rw [replaceAll]
      split_ifs with hprefix
      · obtain ⟨after, hafter⟩ := List.isPrefixOf_iff_prefix.mp hprefix
        rw [← hafter, List.drop_left]
        have hlength : 0 < old.length := List.length_pos_of_ne_nil hold
        have hshorter : after.length < fuel := by
          have hsum := congrArg List.length hafter
          simp only [List.length_append, List.length_cons] at hsum hfuel
          omega
        refine @Replaced.next old new [] after _ (fun h => ?_) (ih hshorter)
        have hle := h.length_le
        simp only [List.nil_append, List.length_dropLast] at hle
        omega
      · rw [List.isPrefixOf_iff_prefix] at hprefix
        exact (ih (Nat.lt_of_succ_lt_succ hfuel)).cons hprefix

/-- An occurrence is not followed by the first one, `x` further on. -/
lemma eq_nil_of_first {before x a a' : List Char} (hfirst : ¬ old <:+: before ++ x ++ old.dropLast)
    (h : old ++ a = x ++ (old ++ a')) : x = [] := by
  by_contra hx
  refine hfirst ?_
  have hold : old <+: x ++ (old ++ a') := ⟨a, h⟩
  have hshort : x ++ old.dropLast <+: x ++ (old ++ a') :=
    (List.prefix_append_right_inj x).mpr ((List.dropLast_prefix old).trans (List.prefix_append _ _))
  have hlength : old.length ≤ (x ++ old.dropLast).length := by
    have hpos := List.length_pos_of_ne_nil hx
    simp only [List.length_append, List.length_dropLast]
    omega
  have hbegins := List.prefix_of_prefix_length_le hold hshort hlength
  rw [List.append_assoc]
  exact hbegins.isInfix.trans (List.suffix_append _ _).isInfix

/-- The first occurrence stands at one place. -/
lemma append_inj_of_first {b b' a a' : List Char} (hb : ¬ old <:+: b ++ old.dropLast)
    (hb' : ¬ old <:+: b' ++ old.dropLast) (h : b ++ (old ++ a) = b' ++ (old ++ a')) :
    b = b' ∧ a = a' := by
  rcases List.append_eq_append_iff.mp h with ⟨x, rfl, hx⟩ | ⟨x, rfl, hx⟩
  · obtain rfl := eq_nil_of_first hb' hx
    exact ⟨(List.append_nil b).symm, List.append_cancel_left hx⟩
  · obtain rfl := eq_nil_of_first hb hx
    exact ⟨List.append_nil b', (List.append_cancel_left hx).symm⟩

/-- There is one way to replace all occurrences. -/
lemma Replaced.unique {cs out out' : List Char} (h : Replaced old new cs out)
    (h' : Replaced old new cs out') : out = out' := by
  have hoccurs (before after : List Char) : old <:+: before ++ (old ++ after) :=
    (List.prefix_append _ _).isInfix.trans (List.suffix_append _ _).isInfix
  induction h generalizing out' with
  | done hnone =>
    cases h' with
    | done _ => rfl
    | next _ _ => exact absurd (hoccurs _ _) hnone
  | @next before after out hfirst _ ih =>
    generalize hcs : before ++ (old ++ after) = cs at h'
    cases h' with
    | done hnone => exact absurd (hcs ▸ hoccurs before after) hnone
    | next hfirst' hafter' =>
      obtain ⟨rfl, rfl⟩ := append_inj_of_first hfirst hfirst' hcs
      rw [ih hafter']

/-- **Replacing, occurrence by occurrence.** -/
theorem replaceAll_eq_iff (hold : old ≠ []) {fuel : Nat} {cs out : List Char}
    (hfuel : cs.length < fuel) : replaceAll old new fuel cs = out ↔ Replaced old new cs out := by
  constructor
  · rintro rfl
    exact replaced_replaceAll hold hfuel
  · exact fun h => (replaced_replaceAll hold hfuel).unique h

/-- What replacing leaves was there before, or replaces something. -/
lemma Replaced.mem_or_mem {cs out : List Char} (h : Replaced old new cs out) {c : Char}
    (hc : c ∈ out) : c ∈ cs ∨ c ∈ new := by
  induction h with
  | done _ => exact .inl hc
  | next _ _ ih =>
    simp only [List.mem_append] at hc ⊢
    rcases hc with hc | hc | hc
    · exact .inl (.inl hc)
    · exact .inr hc
    · exact (ih hc).imp_left fun h => .inr (.inr h)

/-! ## Runs of digits -/

/-- The runs of digits of a text stand in another one. -/
def DigitRunsIn (cs ds : List Char) : Prop :=
  ∀ run, run <:+: cs → (∀ c ∈ run, isAsciiDigit c = true) → run <:+: ds

/-- Runs of digits are no longer than those among which they stand. -/
lemma DigitRunsIn.within {cs ds : List Char} (h : DigitRunsIn cs ds) {n : Nat}
    (hds : DigitRunsWithin n ds) : DigitRunsWithin n cs :=
  fun run hrun hdigits => hds run (h run hrun hdigits) hdigits

/-- What stands in a part stands in the whole. -/
lemma digitRunsIn_of_infix {cs ds : List Char} (h : cs <:+: ds) : DigitRunsIn cs ds :=
  fun _ hrun _ => hrun.trans h

/-- Runs of digits that stand among others stand where these do. -/
lemma DigitRunsIn.trans {bs cs ds : List Char} (h : DigitRunsIn bs cs) (h' : DigitRunsIn cs ds) :
    DigitRunsIn bs ds :=
  fun run hrun hdigits => h' run (h run hrun hdigits) hdigits

/-- A run of digits stands before or behind a character that is none. -/
lemma infix_of_append_cons {run xs ys : List Char} {c : Char}
    (hrun : ∀ d ∈ run, isAsciiDigit d = true) (hc : isAsciiDigit c = false)
    (h : run <:+: xs ++ c :: ys) : run <:+: xs ∨ run <:+: ys := by
  have hstart {ds : List Char} (hds : ∀ d ∈ ds, isAsciiDigit d = true) (h : ds <+: c :: ys) :
      ds = [] := by
    rcases List.prefix_cons_iff.mp h with rfl | ⟨t, rfl, -⟩
    · rfl
    · exact absurd (hds c List.mem_cons_self) (by simp [hc])
  rcases List.infix_append_iff.mp h with h | h | ⟨l, r, rfl, hl, hr⟩
  · exact .inl h
  · rcases List.infix_cons_iff.mp h with h | h
    · exact .inl (hstart hrun h ▸ List.nil_infix)
    · exact .inr h
  · obtain rfl := hstart (fun d hd => hrun d (List.mem_append_right l hd)) hr
    rw [List.append_nil]
    exact .inl hl.isInfix

/-- Replacing by a character that is no digit makes no runs of digits. -/
lemma Replaced.digitRunsIn {c : Char} (hc : isAsciiDigit c = false) {cs out : List Char}
    (h : Replaced old [c] cs out) : DigitRunsIn out cs := by
  induction h with
  | done _ => exact digitRunsIn_of_infix List.infix_rfl
  | @next before after out _ _ ih =>
    intro run hrun hdigits
    rcases infix_of_append_cons hdigits hc hrun with hrun | hrun
    · exact hrun.trans (List.prefix_append _ _).isInfix
    · exact (ih run hrun hdigits).trans
        ((List.suffix_append _ _).isInfix.trans (List.suffix_append _ _).isInfix)

/-- A digit is lower-cased to itself. -/
lemma lowerFrom_digit {c : Char} (hc : isAsciiDigit c = true) (before cs : List Char) :
    lowerFrom before (c :: cs) = c :: lowerFrom (c :: before) cs := by
  simp only [isAsciiDigit, Bool.and_eq_true, decide_eq_true_eq] at hc
  have hself : lowerChar c = c := Path.lowerChar_of_lt (by omega)
  obtain ⟨hsigma, hdotted⟩ := ne_of_lowerChar_eq_self hself
  rw [lowerFrom, if_neg hsigma, if_neg hdotted, hself]

/-- A character that is no digit is lower-cased to characters that are none. -/
lemma exists_lowerFrom_of_not_digit {c : Char} (hc : isAsciiDigit c = false)
    (before cs : List Char) :
    ∃ x xs, lowerFrom before (c :: cs) = x :: xs ++ lowerFrom (c :: before) cs ∧
      ∀ d ∈ x :: xs, isAsciiDigit d = false := by
  obtain ⟨xs, hxs, hne, hforms⟩ := exists_lowerFrom_cons before c cs
  obtain ⟨x, xs, rfl⟩ := List.exists_cons_of_ne_nil hne
  refine ⟨x, xs, hxs, fun d hd => ?_⟩
  rcases (hforms d hd).2 with rfl | hd
  · exact hc
  · -- the forms within ASCII are letters
    have hletter := (lowerForms_settled hd).2
    simp only [isAsciiDigit, Bool.and_eq_false_iff, decide_eq_false_iff_not]
    omega

/-- The digits with which a lower-cased text begins are those with which the text begins. -/
lemma prefix_of_lowerFrom {run cs before : List Char} (hrun : ∀ d ∈ run, isAsciiDigit d = true)
    (h : run <+: lowerFrom before cs) : run <+: cs := by
  induction cs generalizing run before with
  | nil => exact h
  | cons c cs ih =>
    cases hc : isAsciiDigit c with
    | true =>
      rw [lowerFrom_digit hc] at h
      rcases List.prefix_cons_iff.mp h with rfl | ⟨t, rfl, ht⟩
      · exact List.nil_prefix
      · exact List.cons_prefix_cons.mpr
          ⟨rfl, ih (fun d hd => hrun d (List.mem_cons_of_mem _ hd)) ht⟩
    | false =>
      obtain ⟨x, xs, hxs, hdigits⟩ := exists_lowerFrom_of_not_digit hc before cs
      rw [hxs, List.cons_append] at h
      rcases List.prefix_cons_iff.mp h with rfl | ⟨t, rfl, -⟩
      · exact List.nil_prefix
      · exact absurd (hrun x List.mem_cons_self) (by simp [hdigits x List.mem_cons_self])

/-- Lower-casing makes no runs of digits, in any context. -/
lemma digitRunsIn_lowerFrom (before cs : List Char) : DigitRunsIn (lowerFrom before cs) cs := by
  induction cs generalizing before with
  | nil => exact digitRunsIn_of_infix List.infix_rfl
  | cons c cs ih =>
    intro run h hrun
    have hbehind (h : run <:+: lowerFrom (c :: before) cs) : run <:+: c :: cs :=
      (ih _ run h hrun).trans (List.suffix_cons c cs).isInfix
    cases hc : isAsciiDigit c with
    | true =>
      rw [lowerFrom_digit hc] at h
      rcases List.infix_cons_iff.mp h with h | h
      · rw [← lowerFrom_digit hc] at h
        exact (prefix_of_lowerFrom hrun h).isInfix
      · exact hbehind h
    | false =>
      obtain ⟨x, xs, hxs, hdigits⟩ := exists_lowerFrom_of_not_digit hc before cs
      have hnone {ds : List Char} (hds : ds ⊆ x :: xs) (hdsrun : ds ⊆ run) : ds = [] := by
        refine List.eq_nil_iff_forall_not_mem.mpr fun d hd => ?_
        exact absurd (hrun d (hdsrun hd)) (by simp [hdigits d (hds hd)])
      rw [hxs] at h
      rcases List.infix_append_iff.mp h with h | h | ⟨l, r, rfl, hl, hr⟩
      · rw [hnone h.subset (List.Subset.refl run)]
        exact List.nil_infix
      · exact hbehind h
      · obtain rfl := hnone hl.subset (List.subset_append_left l r)
        exact hbehind hr.isInfix

/-- Lower-casing makes no runs of digits. -/
lemma digitRunsIn_lower (name : String) : DigitRunsIn (lower name).toList name.toList := by
  rw [lower, String.toList_ofList]
  exact digitRunsIn_lowerFrom [] name.toList

/-! ## Empty texts -/

/-- Nothing but the empty text is lower-cased to the empty text. -/
lemma lower_eq_empty_iff {t : String} : lower t = "" ↔ t = "" := by
  obtain ⟨xs, hxs, hempty, -⟩ := exists_lowerFrom_append [] t.toList []
  rw [List.append_nil, lowerFrom, List.append_nil] at hxs
  rw [lower, hxs, ← String.toList_inj, String.toList_ofList, ← String.toList_inj]
  exact hempty

/-! ## An underscore behind a text -/

/-- Whether a cased character follows: one that is skipped leaves this to those behind it. -/
lemma meetsCased_cons (c : Char) (cs : List Char) :
    meetsCased (c :: cs) =
      if caseIgnorables.contains c = true then meetsCased cs else cased.contains c := by
  unfold meetsCased
  rw [List.dropWhile_cons]
  split_ifs <;> rfl

/-- Whether a cased character follows does not depend on an underscore at the end. -/
lemma meetsCased_append_underscore (cs : List Char) : meetsCased (cs ++ ['_']) = meetsCased cs := by
  induction cs with
  | nil => decide +kernel
  | cons c cs ih => rw [List.cons_append, meetsCased_cons, meetsCased_cons, ih]

/-- An underscore behind characters does not change how they are lower-cased. -/
lemma lowerFrom_append_underscore (before cs : List Char) :
    lowerFrom before (cs ++ ['_']) = lowerFrom before cs ++ ['_'] := by
  induction cs generalizing before with
  | nil =>
    have hself : lowerChar '_' = '_' := by decide +kernel
    exact lowerFrom_eq_self (List.forall_mem_singleton.mpr hself) before
  | cons c cs ih =>
    rw [List.cons_append, lowerFrom, lowerFrom, ih, endsWord, endsWord,
      meetsCased_append_underscore]
    split_ifs <;> rfl

/-- **An underscore behind a text** does not change how the text is lower-cased. -/
lemma lower_append_underscore (s : String) : lower (s ++ "_") = lower s ++ "_" := by
  have hlower : lowerFrom [] (s ++ "_").toList = lowerFrom [] s.toList ++ "_".toList := by
    rw [String.toList_append]
    exact lowerFrom_append_underscore [] s.toList
  rw [lower, lower, hlower, String.ofList_append, String.ofList_toList]

end LayeredConfig.Text
