import Mathlib.Data.List.Basic
import LayeredConfig.Text.Case

set_option autoImplicit false

/-!
# Laws of lower case

Lower-casing a second time changes nothing: every lower-case form is its own. This is a fact about
the table of upper-case characters, checked run by run, and what follows for texts is that any part
of a lower-cased text is in lower case by itself.

Lower-casing two texts that follow each other is not lower-casing each of them, since the form of a
capital sigma depends on what surrounds it. Without it, there is no such context.

## Main definitions

* `lowerForms` — the characters that stand in lower-cased texts without having been there before.
* `IsLowerCase` — every character of the text is its own lower-case form.
* `lowerForm` — the lower-case form of a character other than the capital sigma.

## Main results

* `lowerChar_lowerChar` — lower-case forms are in lower case.
* `lower_eq_self`, `isLowerCase_lower` — lower-casing twice.
* `exists_lowerFrom_append` — the lower-case form of a text in two parts has two parts.
* `lowerFrom_of_not_mem_sigma` — without capital sigmas, each character is lower-cased by itself.
-/

namespace LayeredConfig.Text

/-! ## Characters -/

/-- The lower-case forms of the characters of a run, as code points. -/
def CaseRun.forms (r : CaseRun) : List Nat :=
  ((List.range (r.last - r.first + 1)).filter fun k => k % r.stride = 0).map fun k => r.target + k

/-- The lower-case forms of all upper-case characters, in and out of context. -/
def lowerForms : List Char :=
  ['\u03c2', '\u03c3', 'i', '\u0307'] ++
    caseRuns.toList.flatMap fun r => r.forms.map Char.ofNat

/-- The forms of every run are in lower case, and within ASCII they are letters. -/
lemma forms_settled :
    ∀ r ∈ caseRuns, ∀ n ∈ r.forms, lowerChar (Char.ofNat n) = Char.ofNat n ∧
      ((Char.ofNat n).toNat < 0x80 →
        0x61 ≤ (Char.ofNat n).toNat ∧ (Char.ofNat n).toNat ≤ 0x7A) := by
  decide +kernel

/-- Every lower-case form is in lower case, and within ASCII it is a letter. -/
lemma lowerForms_settled {d : Char} (h : d ∈ lowerForms) :
    lowerChar d = d ∧ (d.toNat < 0x80 → 0x61 ≤ d.toNat ∧ d.toNat ≤ 0x7A) := by
  rcases List.mem_append.mp h with h | h
  · simp only [List.mem_cons, List.not_mem_nil, or_false] at h
    rcases h with rfl | rfl | rfl | rfl <;> decide +kernel
  · obtain ⟨r, hr, hd⟩ := List.mem_flatMap.mp h
    obtain ⟨n, hn, rfl⟩ := List.mem_map.mp hd
    exact forms_settled r (Array.mem_toList_iff.mp hr) n hn

set_option maxRecDepth 8000 in
/-- A round of bisection. -/
lemma findRun_succ (n fuel lo hi : Nat) :
    findRun n (fuel + 1) lo hi =
      if lo < hi then
        match caseRuns[(lo + hi) / 2]? with
        | none => none
        | some run =>
          if n < run.first then findRun n fuel lo ((lo + hi) / 2)
          else if run.last < n then findRun n fuel ((lo + hi) / 2 + 1) hi
          else some run
      else none := rfl

/-- The run that bisection finds is one of the table and spans the code point. -/
lemma findRun_some {n fuel lo hi : Nat} {r : CaseRun} (h : findRun n fuel lo hi = some r) :
    r ∈ caseRuns ∧ r.first ≤ n ∧ n ≤ r.last := by
  induction fuel generalizing lo hi with
  | zero =>
    have hnone : findRun n 0 lo hi = none := rfl
    rw [hnone] at h
    cases h
  | succ fuel ih =>
    rw [findRun_succ] at h
    split_ifs at h with hlt
    cases hrun : caseRuns[(lo + hi) / 2]? with
    | none => simp [hrun] at h
    | some run =>
      simp only [hrun] at h
      split_ifs at h with hfirst hlast
      · exact ih h
      · exact ih h
      · obtain rfl := Option.some.inj h
        exact ⟨Array.mem_of_getElem? hrun, by omega, by omega⟩

/-- The form that a run gives to one of its characters. -/
lemma ofNat_mem_lowerForms {r : CaseRun} (hr : r ∈ caseRuns) {k : Nat}
    (hk : k ≤ r.last - r.first) (hs : k % r.stride = 0) :
    Char.ofNat (r.target + k) ∈ lowerForms := by
  have hforms : r.target + k ∈ r.forms :=
    List.mem_map_of_mem (List.mem_filter.mpr ⟨List.mem_range.mpr (by omega), by simpa using hs⟩)
  exact List.mem_append_right _
    (List.mem_flatMap.mpr ⟨r, Array.mem_toList_iff.mpr hr, List.mem_map_of_mem hforms⟩)

/-- A character that has another lower-case form has one of those. -/
lemma lowerChar_eq_self_or_mem (c : Char) : lowerChar c = c ∨ lowerChar c ∈ lowerForms := by
  simp only [lowerChar]
  split_ifs with hascii hletter hsigma hdotted
  · right
    have hrun : (⟨0x41, 0x5A, 1, 0x61⟩ : CaseRun) ∈ caseRuns :=
      Array.mem_toList_iff.mp List.mem_cons_self
    have h := ofNat_mem_lowerForms hrun (k := c.toNat - 0x41) (by dsimp only; omega)
      (Nat.mod_one _)
    dsimp only at h
    rwa [show 0x61 + (c.toNat - 0x41) = c.toNat + 0x20 by omega] at h
  · exact .inl rfl
  · exact .inr (by simp [lowerForms])
  · exact .inr (by simp [lowerForms])
  · cases hrun : findRun c.toNat 16 0 caseRuns.size with
    | none => exact .inl rfl
    | some r =>
      obtain ⟨hr, hfirst, hlast⟩ := findRun_some hrun
      dsimp only
      split_ifs with hs
      · exact .inr (ofNat_mem_lowerForms hr (by omega) hs)
      · exact .inl rfl

/-- **Lower-case forms are in lower case.** -/
theorem lowerChar_lowerChar (c : Char) : lowerChar (lowerChar c) = lowerChar c := by
  rcases lowerChar_eq_self_or_mem c with h | h
  · rw [h, h]
  · exact (lowerForms_settled h).1

/-! ## Texts -/

/-- Every character of the text is its own lower-case form. -/
def IsLowerCase (s : String) : Prop :=
  ∀ c ∈ s.toList, lowerChar c = c

/-- A capital sigma and a capital dotted i are not in lower case. -/
lemma ne_of_lowerChar_eq_self {c : Char} (h : lowerChar c = c) : c ≠ '\u03a3' ∧ c ≠ '\u0130' := by
  constructor
  · rintro rfl
    exact absurd h (by decide +kernel)
  · rintro rfl
    exact absurd h (by decide +kernel)

/-- Characters that are in lower case stay as they are, in any context. -/
lemma lowerFrom_eq_self {cs : List Char} (h : ∀ c ∈ cs, lowerChar c = c) (before : List Char) :
    lowerFrom before cs = cs := by
  induction cs generalizing before with
  | nil => rfl
  | cons c cs ih =>
    have hc := h c List.mem_cons_self
    obtain ⟨hsigma, hdotted⟩ := ne_of_lowerChar_eq_self hc
    rw [lowerFrom, if_neg hsigma, if_neg hdotted, hc,
      ih fun d hd => h d (List.mem_cons_of_mem c hd)]

/-- A text in lower case stays as it is. -/
theorem lower_eq_self {s : String} (h : IsLowerCase s) : lower s = s := by
  rw [lower, lowerFrom_eq_self h, String.ofList_toList]

/-- The first character of a text is lower-cased to one or two characters: itself or other
lower-case forms. -/
lemma exists_lowerFrom_cons (before : List Char) (c : Char) (rest : List Char) :
    ∃ xs, lowerFrom before (c :: rest) = xs ++ lowerFrom (c :: before) rest ∧ xs ≠ [] ∧
      ∀ d ∈ xs, lowerChar d = d ∧ (d = c ∨ d ∈ lowerForms) := by
  have hform {d : Char} (h : d ∈ lowerForms) : lowerChar d = d ∧ (d = c ∨ d ∈ lowerForms) :=
    ⟨(lowerForms_settled h).1, .inr h⟩
  rw [lowerFrom]
  split_ifs with hsigma hend hdotted
  · refine ⟨['\u03c2'], rfl, by simp, fun d hd => hform ?_⟩
    obtain rfl := List.mem_singleton.mp hd
    simp [lowerForms]
  · refine ⟨['\u03c3'], rfl, by simp, fun d hd => hform ?_⟩
    obtain rfl := List.mem_singleton.mp hd
    simp [lowerForms]
  · refine ⟨['i', '\u0307'], rfl, by simp, fun d hd => hform ?_⟩
    simp only [List.mem_cons, List.not_mem_nil, or_false] at hd
    rcases hd with rfl | rfl <;> simp [lowerForms]
  · refine ⟨[lowerChar c], rfl, by simp, fun d hd => ?_⟩
    obtain rfl := List.mem_singleton.mp hd
    exact ⟨lowerChar_lowerChar c, lowerChar_eq_self_or_mem c⟩

/-- The lower-case form of a text in two parts has two parts, the second of which depends on the
first only by its context. -/
lemma exists_lowerFrom_append (before cs ds : List Char) :
    ∃ xs, lowerFrom before (cs ++ ds) = xs ++ lowerFrom (cs.reverse ++ before) ds ∧
      (xs = [] ↔ cs = []) ∧ ∀ d ∈ xs, lowerChar d = d ∧ (d ∈ cs ∨ d ∈ lowerForms) := by
  induction cs generalizing before with
  | nil => exact ⟨[], rfl, by simp, by simp⟩
  | cons c cs ih =>
    obtain ⟨xs, hxs, hne, hc⟩ := exists_lowerFrom_cons before c (cs ++ ds)
    obtain ⟨ys, hys, -, hcs⟩ := ih (c :: before)
    refine ⟨xs ++ ys, ?_, by simp [hne], fun d hd => ?_⟩
    · rw [List.cons_append, hxs, hys]
      simp
    · rcases List.mem_append.mp hd with hd | hd
      · exact ⟨(hc d hd).1, (hc d hd).2.imp_left fun h => List.mem_cons.mpr (.inl h)⟩
      · exact ⟨(hcs d hd).1, (hcs d hd).2.imp_left (List.mem_cons_of_mem c)⟩

/-- Whatever is lower-cased is in lower case afterwards. -/
theorem isLowerCase_lower (s : String) : IsLowerCase (lower s) := by
  obtain ⟨xs, hxs, -, h⟩ := exists_lowerFrom_append [] s.toList []
  intro c hc
  rw [lower, String.toList_ofList] at hc
  rw [List.append_nil] at hxs
  rw [hxs, lowerFrom, List.append_nil] at hc
  exact (h c hc).1

/-- A text is in lower case iff lower-casing leaves it as it is. -/
theorem isLowerCase_iff {s : String} : IsLowerCase s ↔ lower s = s :=
  ⟨lower_eq_self, fun h => h ▸ isLowerCase_lower s⟩

/-- Characters whose lower-case forms were all there before are in lower case. -/
lemma lowerFrom_eq_self_of_not_mem {cs : List Char} {before : List Char}
    (h : ∀ d ∈ lowerFrom before cs, d ∉ lowerForms) : lowerFrom before cs = cs := by
  induction cs generalizing before with
  | nil => rfl
  | cons c cs ih =>
    rw [lowerFrom] at h ⊢
    split_ifs at h ⊢ with hsigma hend hdotted
    · exact absurd (by simp [lowerForms]) (h _ List.mem_cons_self)
    · exact absurd (by simp [lowerForms]) (h _ List.mem_cons_self)
    · exact absurd (by simp [lowerForms]) (h _ List.mem_cons_self)
    · obtain ⟨hc, hcs⟩ := List.forall_mem_cons.mp h
      rw [ih hcs, (lowerChar_eq_self_or_mem c).resolve_right hc]

/-- A text that is lower-cased to a character of ASCII before the letters is this character. -/
lemma eq_of_lower_eq_singleton {s : String} {c : Char} (hc : c.toNat < 0x61)
    (h : lower s = String.singleton c) : s = String.singleton c := by
  have hletter : c ∉ lowerForms := fun hmem => by
    have hrange := (lowerForms_settled hmem).2 (by omega)
    omega
  have hlist : lowerFrom [] s.toList = [c] := by
    have hchars := congrArg String.toList h
    rwa [lower, String.toList_ofList, String.toList_singleton] at hchars
  have hself : lowerFrom [] s.toList = s.toList :=
    lowerFrom_eq_self_of_not_mem (by simpa [hlist] using hletter)
  rw [hlist] at hself
  exact String.toList_inj.mp (by rw [← hself, String.toList_singleton])

/-! ## Without capital sigmas -/

/-- The lower-case form of a character other than the capital sigma. -/
def lowerForm (c : Char) : List Char :=
  if c = '\u0130' then ['i', '\u0307'] else [lowerChar c]

/-- Without capital sigmas, each character is lower-cased by itself. -/
lemma lowerFrom_of_not_mem_sigma {cs : List Char} (h : '\u03a3' ∉ cs) (before : List Char) :
    lowerFrom before cs = cs.flatMap lowerForm := by
  induction cs generalizing before with
  | nil => rfl
  | cons c cs ih =>
    obtain ⟨hc, hcs⟩ := not_or.mp (List.mem_cons.not.mp h)
    rw [lowerFrom, if_neg (Ne.symm hc), ih hcs, List.flatMap_cons, lowerForm]
    split_ifs <;> rfl

end LayeredConfig.Text
