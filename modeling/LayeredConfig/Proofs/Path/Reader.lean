import Mathlib.Data.List.TakeWhile
import LayeredConfig.Path.Parser

set_option autoImplicit false

/-!
# The reader of paths, stage by stage

A path is read from left to right by two readers that call one another: one stands at the beginning
of a segment, the other one behind a name or an index. What is left to read has one of a few forms,
and for each of them there is an equation here that tells what the readers do with it. Everything
else about reading is proved from these equations, by induction over the forms.

## Main definitions

* `Path.IsName` — the texts that may stand as a name.
* `Path.IsIndex`, `Path.IsPosition` — the digits that may stand in brackets, however many, and
  those that can be read.

## Main results

* `Path.parseSegment_name`, `Path.parseRest_index`, `Path.parseRest_dot` — the forms that are read,
  and with what comes next.
* `Path.reading_induction` — induction along the reader.
-/

namespace LayeredConfig.Path

/-- A name is not empty and holds neither a dot nor a bracket. -/
def IsName (name : String) : Prop :=
  name ≠ "" ∧ ∀ c ∈ name.toList, isNameChar c = true

instance : DecidablePred IsName := fun name =>
  decidable_of_iff (name ≠ "" ∧ name.toList.all isNameChar = true)
    (and_congr_right fun _ => List.all_eq_true)

/-- An index is written in digits of ASCII, however many. -/
def IsIndex (ds : List Char) : Prop :=
  ds ≠ [] ∧ ∀ c ∈ ds, Text.isAsciiDigit c = true

/-- A position is written in digits of ASCII, which have to be few enough to be read. -/
def IsPosition (ds : List Char) : Prop :=
  ds ≠ [] ∧ (∀ c ∈ ds, Text.isAsciiDigit c = true) ∧ ds.length ≤ Number.digitLimit

/-! ## Where names and brackets end -/

/-- A name has a first character. -/
lemma IsName.toList_ne_nil {name : String} (h : IsName name) : name.toList ≠ [] :=
  fun hn => h.1 (String.toList_eq_nil_iff.mp hn)

/-- A name ends where something follows that does not begin with a character of a name. -/
lemma IsName.takeWhile_append {name : String} (hn : IsName name) {cs : List Char}
    (hstop : cs.takeWhile isNameChar = []) :
    (name.toList ++ cs).takeWhile isNameChar = name.toList ∧
      (name.toList ++ cs).dropWhile isNameChar = cs := by
  have hdrop : cs.dropWhile isNameChar = cs := by
    have h := List.takeWhile_append_dropWhile (p := isNameChar) (l := cs)
    rwa [hstop, List.nil_append] at h
  rw [List.takeWhile_append_of_pos hn.2, List.dropWhile_append_of_pos hn.2, hstop, hdrop]
  simp

/-- A text begins with a name that ends there, or with no character of a name. -/
lemma exists_name_or_nameless (cs : List Char) :
    cs.takeWhile isNameChar = [] ∨ ∃ name ds, IsName name ∧ ds.takeWhile isNameChar = [] ∧
      cs = name.toList ++ ds := by
  by_cases h : cs.takeWhile isNameChar = []
  · exact .inl h
  · refine .inr ⟨String.ofList (cs.takeWhile isNameChar), cs.dropWhile isNameChar, ?_, ?_, ?_⟩
    · refine ⟨by simpa using h, fun c hc => ?_⟩
      rw [String.toList_ofList] at hc
      exact List.all_eq_true.mp List.all_takeWhile c hc
    · have hc := List.head?_dropWhile_not isNameChar cs
      cases hdrop : cs.dropWhile isNameChar with
      | nil => rfl
      | cons c rest =>
        rw [hdrop] at hc
        have hc : isNameChar c = false := by simpa using hc
        simp [hc]
    · rw [String.toList_ofList, List.takeWhile_append_dropWhile]

/-- What stands between brackets ends where a bracket is closed. -/
lemma takeWhile_append_bracket {cs : List Char} (h : ']' ∉ cs) (rest : List Char) :
    (cs ++ ']' :: rest).takeWhile (fun c => decide (c ≠ ']')) = cs ∧
      (cs ++ ']' :: rest).dropWhile (fun c => decide (c ≠ ']')) = ']' :: rest := by
  have hne : ∀ c ∈ cs, decide (c ≠ ']') = true := by
    intro c hc
    rw [decide_eq_true_eq]
    rintro rfl
    exact h hc
  rw [List.takeWhile_append_of_pos hne, List.dropWhile_append_of_pos hne]
  simp

/-- An index closes no bracket. -/
lemma IsIndex.closing_not_mem {ds : List Char} (h : IsIndex ds) : ']' ∉ ds :=
  fun hc => absurd (h.2 _ hc) (by decide)

/-- A position is an index. -/
lemma IsPosition.isIndex {ds : List Char} (h : IsPosition ds) : IsIndex ds :=
  ⟨h.1, h.2.1⟩

/-- The checks of what stands between brackets fail iff it is no index. -/
lemma checks_iff {ds : List Char} :
    (ds.isEmpty || !ds.all Text.isAsciiDigit) = true ↔ ¬ IsIndex ds := by
  rw [IsIndex, not_and_or, Bool.or_eq_true, List.isEmpty_iff, Bool.not_eq_true',
    ← Bool.not_eq_true, List.all_eq_true, not_not]

/-! ## One stage of the reader -/

section Stage

variable (text : String) (offset : Nat)

/-- Where no character of a name stands, no segment begins. -/
lemma parseSegment_nameless {cs : List Char} (h : cs.takeWhile isNameChar = []) :
    parseSegment text offset cs = malformed text offset (cs.take 1) .expectedKey := by
  rw [parseSegment]
  simp [h]

/-- A name is read up to its end, and then what follows it. -/
lemma parseSegment_name {name : String} (hn : IsName name) {cs : List Char}
    (hstop : cs.takeWhile isNameChar = []) :
    parseSegment text offset (name.toList ++ cs) =
      (parseRest text (offset + name.toList.length) cs).map (.key name :: ·) := by
  rw [parseSegment]
  simp only [hn.takeWhile_append hstop]
  rw [if_neg (by simpa using hn.1), String.ofList_toList]
  cases parseRest text (offset + name.toList.length) cs <;> rfl

/-- A bracket is at fault if none is closed behind it. -/
lemma parseRest_unbalanced {cs : List Char} (h : ']' ∉ cs) :
    parseRest text offset ('[' :: cs) = malformed text offset ('[' :: cs) .unbalancedBracket := by
  have hdrop : cs.dropWhile (fun c => decide (c ≠ ']')) = [] := by
    rw [List.dropWhile_eq_nil_iff]
    intro c hc
    rw [decide_eq_true_eq]
    rintro rfl
    exact h hc
  rw [parseRest]
  split
  · rfl
  · rename_i hafter
    rw [hdrop] at hafter
    cases hafter

/-- What stands between brackets is checked, and then what follows them is read. -/
lemma parseRest_bracketed {cs : List Char} (h : ']' ∉ cs) (rest : List Char) :
    parseRest text offset ('[' :: (cs ++ ']' :: rest)) =
      if cs.isEmpty || !cs.all Text.isAsciiDigit then
        malformed text offset ('[' :: (cs ++ [']'])) .invalidIndex
      else if Number.digitLimit < cs.length then .error (.tooManyDigits cs.length)
      else (parseRest text (offset + cs.length + 2) rest).map (.index (Text.ofDigits cs) :: ·) := by
  obtain ⟨htake, hdrop⟩ := takeWhile_append_bracket h rest
  rw [parseRest]
  simp only [htake]
  split
  · simp_all
  · rename_i hafter
    obtain ⟨-, rfl⟩ := List.cons.inj (hdrop.symm.trans hafter)
    split_ifs
    · rfl
    · rfl
    · cases parseRest text (offset + cs.length + 2) rest <;> rfl

/-- Brackets are at fault if something other than digits stands between them. -/
lemma parseRest_not_isIndex {cs : List Char} (h : ']' ∉ cs) (hindex : ¬ IsIndex cs)
    (rest : List Char) :
    parseRest text offset ('[' :: (cs ++ ']' :: rest)) =
      malformed text offset ('[' :: (cs ++ [']'])) .invalidIndex := by
  rw [parseRest_bracketed text offset h, if_pos (checks_iff.mpr hindex)]

/-- An index with too many digits is a fault. -/
lemma parseRest_overlong {ds : List Char} (hd : IsIndex ds)
    (hlimit : Number.digitLimit < ds.length) (rest : List Char) :
    parseRest text offset ('[' :: (ds ++ ']' :: rest)) = .error (.tooManyDigits ds.length) := by
  rw [parseRest_bracketed text offset hd.closing_not_mem, if_neg (fun h => checks_iff.mp h hd),
    if_pos hlimit]

/-- A position is read, and then what follows it. -/
lemma parseRest_index {ds : List Char} (hd : IsPosition ds) (rest : List Char) :
    parseRest text offset ('[' :: (ds ++ ']' :: rest)) =
      (parseRest text (offset + ds.length + 2) rest).map (.index (Text.ofDigits ds) :: ·) := by
  rw [parseRest_bracketed text offset hd.isIndex.closing_not_mem,
    if_neg (fun h => checks_iff.mp h hd.isIndex), if_neg (Nat.not_lt.mpr hd.2.2)]

/-- Behind a dot another segment is read. -/
lemma parseRest_dot {cs : List Char} (h : cs ≠ []) :
    parseRest text offset ('.' :: cs) = parseSegment text (offset + 1) cs := by
  obtain ⟨c, rest, rfl⟩ := List.exists_cons_of_ne_nil h
  rw [parseRest]

/-- A dot at the end is at fault. -/
lemma parseRest_last_dot :
    parseRest text offset ['.'] = malformed text offset ['.'] .trailingSeparator := by
  rw [parseRest]

/-- Everything else behind a name or an index is at fault. -/
lemma parseRest_unexpected {c : Char} (hdot : c ≠ '.') (hbracket : c ≠ '[') (rest : List Char) :
    parseRest text offset (c :: rest) = malformed text offset (c :: rest) .unexpectedCharacter := by
  rw [parseRest]
  · exact hbracket
  · exact fun hc _ => hdot hc
  · exact fun _ _ hc _ => hdot hc

end Stage

/-- **Induction along the reader**, from the beginning of a segment and behind a name or an index.
There is a case for each form of what is left, and what is read later may be assumed of it.

**Proof sketch.** Induction on the number of characters that are left: both readers go on with
fewer. -/
theorem reading_induction {S R : List Char → Prop}
    (nameless : ∀ cs, cs.takeWhile isNameChar = [] → S cs)
    (name : ∀ name cs, IsName name → cs.takeWhile isNameChar = [] → R cs → S (name.toList ++ cs))
    (nil : R [])
    (unbalanced : ∀ cs, ']' ∉ cs → R ('[' :: cs))
    (invalid : ∀ cs rest, ']' ∉ cs → ¬ IsIndex cs → R ('[' :: (cs ++ ']' :: rest)))
    (overlong : ∀ ds rest, IsIndex ds → Number.digitLimit < ds.length →
      R ('[' :: (ds ++ ']' :: rest)))
    (index : ∀ ds rest, IsPosition ds → R rest → R ('[' :: (ds ++ ']' :: rest)))
    (last_dot : R ['.'])
    (dot : ∀ cs, cs ≠ [] → S cs → R ('.' :: cs))
    (unexpected : ∀ c rest, c ≠ '.' → c ≠ '[' → R (c :: rest)) :
    (∀ cs, S cs) ∧ ∀ cs, R cs := by
  suffices h : ∀ n, (∀ cs : List Char, cs.length < n → S cs) ∧
      ∀ cs : List Char, cs.length < n → R cs from
    ⟨fun cs => (h _).1 cs (Nat.lt_succ_self _), fun cs => (h _).2 cs (Nat.lt_succ_self _)⟩
  intro n
  induction n with
  | zero => exact ⟨fun _ h => absurd h (Nat.not_lt_zero _), fun _ h => absurd h (Nat.not_lt_zero _)⟩
  | succ n ih =>
    obtain ⟨hseg, hrest⟩ := ih
    refine ⟨fun cs hlt => ?_, ?_⟩
    · rcases exists_name_or_nameless cs with h | ⟨s, ds, hs, hstop, rfl⟩
      · exact nameless cs h
      · have hpos := List.length_pos_iff.mpr hs.toList_ne_nil
        rw [List.length_append] at hlt
        exact name s ds hs hstop (hrest ds (by omega))
    · rintro (_ | ⟨c, cs⟩) hlt
      · exact nil
      rw [List.length_cons] at hlt
      by_cases hbracket : c = '['
      · subst hbracket
        by_cases hclosed : ']' ∈ cs
        · -- what stands before the first closing bracket is an index that is read, or is at fault
          obtain ⟨ds, rest, rfl, hds⟩ := List.eq_append_cons_of_mem hclosed
          by_cases hindex : IsIndex ds
          · by_cases hlimit : Number.digitLimit < ds.length
            · exact overlong ds rest hindex hlimit
            · rw [List.length_append, List.length_cons] at hlt
              exact index ds rest ⟨hindex.1, hindex.2, Nat.not_lt.mp hlimit⟩
                (hrest rest (by omega))
          · exact invalid ds rest hds hindex
        · exact unbalanced cs hclosed
      · by_cases hdot : c = '.'
        · subst hdot
          by_cases hnil : cs = []
          · subst hnil
            exact last_dot
          · exact dot cs hnil (hseg cs (by omega))
        · exact unexpected c cs hdot hbracket

end LayeredConfig.Path
