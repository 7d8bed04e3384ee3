import Mathlib
import LayeredConfig.Proofs.Path.Refusal

set_option autoImplicit false

/-!
# Paths by segments

The grammar of paths as it is written down: a path is one segment or more with dots between them,
and a segment is a name with any number of indexes. A text whose runs of digits are short enough to
be read as integers is a path iff it is put together like this, and its steps are those of the
segments; every other such text is malformed.

## Main definitions

* `Path.Segment` — a name and the digits of the indexes behind it.
* `Path.joined` — segments with dots between them.
* `Text.DigitRunsWithin` — a text has no long runs of digits.

## Main results

* `Path.parse_iff_joined` — reading decides the grammar of segments.
-/

namespace LayeredConfig

namespace Text

/-- No run of digits of ASCII in a text has more than `n` characters. -/
def DigitRunsWithin (n : Nat) (cs : List Char) : Prop :=
  ∀ ds, ds <:+: cs → (∀ c ∈ ds, isAsciiDigit c = true) → ds.length ≤ n

/-- A short text has no long runs of digits. -/
lemma digitRunsWithin_of_length_le {n : Nat} {cs : List Char} (h : cs.length ≤ n) :
    DigitRunsWithin n cs :=
  fun _ hds _ => hds.length_le.trans h

/-- The number that digits stand for by their places, the last one being that of the ones. -/
def placeValue (ds : List Char) : Nat :=
  Nat.ofDigits 10 (ds.reverse.map fun c => c.toNat - '0'.toNat)

/-- Reading digits one after the other gives the number that they stand for by their places. -/
lemma ofDigits_eq_placeValue (ds : List Char) : ofDigits ds = placeValue ds := by
  induction ds using List.reverseRecOn with
  | nil => rfl
  | append_singleton ds c ih =>
    have hread : ofDigits (ds ++ [c]) = 10 * ofDigits ds + (c.toNat - '0'.toNat) := by
      simp only [ofDigits, List.foldl_append, List.foldl_cons, List.foldl_nil]
      rfl
    have hplaces : placeValue (ds ++ [c]) = (c.toNat - '0'.toNat) + 10 * placeValue ds := by
      simp only [placeValue, List.reverse_append, List.reverse_cons, List.reverse_nil,
        List.nil_append, List.cons_append, List.map_cons, Nat.ofDigits_cons]
    rw [hread, hplaces, ih, Nat.add_comm]

end Text

namespace Path

/-! ## Segments -/

/-- A name with indexes behind it, each of which is written in digits of ASCII. -/
structure Segment where
  /-- The name. -/
  name : String
  /-- The digits of the indexes. -/
  indexes : List (List Char)
  /-- The name may stand in a path. -/
  isName : IsName name
  /-- The indexes may stand in brackets. -/
  isIndex : ∀ ds ∈ indexes, IsIndex ds

/-- Digits in brackets, one index after the other. -/
def bracketed (indexes : List (List Char)) : List Char :=
  indexes.flatMap fun ds => '[' :: (ds ++ [']'])

/-- The steps to the positions of indexes. -/
def positions (indexes : List (List Char)) : Path :=
  indexes.map fun ds => .index (Text.placeValue ds)

namespace Segment

/-- The text of a segment: the name, and each index in brackets. -/
def written (s : Segment) : List Char :=
  s.name.toList ++ bracketed s.indexes

/-- The steps of a segment: the name as a key, and each index as a position. -/
def steps (s : Segment) : Path :=
  .key s.name :: positions s.indexes

end Segment

/-- The text of one segment or more: a dot stands before each segment but the first. -/
def joined (first : Segment) (rest : List Segment) : List Char :=
  first.written ++ rest.flatMap fun s => '.' :: s.written

/-! ## Segments are spelled -/

/-- Indexes that can be read spell their positions, before whatever spells further steps. -/
lemma continues_bracketed {indexes : List (List Char)} (hi : ∀ ds ∈ indexes, IsPosition ds)
    {cs : List Char} {p : Path} (h : Continues cs p) :
    Continues (bracketed indexes ++ cs) (positions indexes ++ p) := by
  induction indexes with
  | nil => exact h
  | cons ds indexes ih =>
    obtain ⟨hds, hi⟩ := List.forall_mem_cons.mp hi
    have hs := Continues.index hds (ih hi)
    rw [Text.ofDigits_eq_placeValue] at hs
    simpa [bracketed, positions] using hs

/-- Segments behind dots spell their steps, if their indexes can be read. -/
lemma continues_segments {segments : List Segment}
    (hi : ∀ s ∈ segments, ∀ ds ∈ s.indexes, IsPosition ds) :
    Continues (segments.flatMap fun s => '.' :: s.written) (segments.flatMap Segment.steps) := by
  induction segments with
  | nil => exact .nil
  | cons s segments ih =>
    obtain ⟨hs, hi⟩ := List.forall_mem_cons.mp hi
    have h := Continues.key s.isName (continues_bracketed hs (ih hi))
    simpa [Segment.written, Segment.steps] using h

/-- Segments with dots between them spell their steps, if their indexes can be read. -/
lemma spells_joined {first : Segment} {rest : List Segment}
    (hi : ∀ s ∈ first :: rest, ∀ ds ∈ s.indexes, IsPosition ds) :
    Spells (joined first rest) ((first :: rest).flatMap Segment.steps) := by
  obtain ⟨hfirst, hrest⟩ := List.forall_mem_cons.mp hi
  have h := Spells.key first.isName (continues_bracketed hfirst (continues_segments hrest))
  simpa [joined, Segment.written, Segment.steps] using h

/-! ## What is spelled are segments -/

/-- What spells steps behind a name are indexes and then segments behind dots. -/
lemma exists_segments_of_continues {cs : List Char} {p : Path} (h : Continues cs p) :
    ∃ (indexes : List (List Char)) (segments : List Segment), (∀ ds ∈ indexes, IsIndex ds) ∧
      cs = bracketed indexes ++ segments.flatMap (fun s => '.' :: s.written) ∧
      p = positions indexes ++ segments.flatMap Segment.steps := by
  induction h with
  | nil => exact ⟨[], [], List.forall_mem_nil _, rfl, rfl⟩
  | @key name cs p hn _ ih =>
    -- the indexes found so far belong to this name
    obtain ⟨indexes, segments, hi, rfl, rfl⟩ := ih
    refine ⟨[], ⟨name, indexes, hn, hi⟩ :: segments, List.forall_mem_nil _, ?_, ?_⟩
    · simp [bracketed, Segment.written]
    · simp [positions, Segment.steps]
  | @index ds cs p hds _ ih =>
    obtain ⟨indexes, segments, hi, rfl, rfl⟩ := ih
    refine ⟨ds :: indexes, segments, List.forall_mem_cons.mpr ⟨⟨hds.1, hds.2.1⟩, hi⟩, ?_, ?_⟩
    · simp [bracketed]
    · simp [positions, Text.ofDigits_eq_placeValue]

/-- What spells a path are segments with dots between them. -/
lemma exists_segments_of_spells {cs : List Char} {p : Path} (h : Spells cs p) :
    ∃ first rest, cs = joined first rest ∧ p = (first :: rest).flatMap Segment.steps := by
  cases h with
  | @key name cs p hn hc =>
    obtain ⟨indexes, segments, hi, rfl, rfl⟩ := exists_segments_of_continues hc
    refine ⟨⟨name, indexes, hn, hi⟩, segments, ?_, ?_⟩
    · simp [joined, Segment.written]
    · simp [Segment.steps]

/-! ## Short runs of digits -/

/-- The digits of an index stand in the text of its segments. -/
lemma infix_joined {first s : Segment} {rest : List Segment} (hs : s ∈ first :: rest)
    {ds : List Char} (hds : ds ∈ s.indexes) : ds <:+: joined first rest := by
  have hindex : ds <:+: s.written := by
    have hbracket : ds <:+: '[' :: (ds ++ [']']) := ⟨['['], [']'], rfl⟩
    have hall : '[' :: (ds ++ [']']) <:+: bracketed s.indexes :=
      List.infix_of_mem_flatten (List.mem_map_of_mem hds)
    exact (hbracket.trans hall).trans (List.suffix_append _ _).isInfix
  rcases List.mem_cons.mp hs with rfl | hs
  · exact hindex.trans (List.prefix_append _ _).isInfix
  · have hbehind : '.' :: s.written <:+: rest.flatMap fun s => '.' :: s.written :=
      List.infix_of_mem_flatten (List.mem_map_of_mem hs)
    exact (hindex.trans (List.suffix_cons _ _).isInfix).trans
      (hbehind.trans (List.suffix_append _ _).isInfix)

/-- Without long runs of digits there is no index that cannot be read. -/
lemma not_overlong_of_digitRunsWithin {Begins : List Char → Path → Prop} {cs : List Char}
    (h : Text.DigitRunsWithin Number.digitLimit cs) (n : Nat) : ¬ Overlong Begins cs n := by
  rintro ⟨start, p, ds, rest, -, hds, rfl, hlimit, rfl⟩
  refine absurd (h ds ⟨start ++ ['['], ']' :: rest, by simp⟩ hds.2) (Nat.not_le.mpr hlimit)

/-- **Reading decides the grammar of segments**: a text without long runs of digits is read as a
path iff it is one segment or more with dots between them. Then the steps are, in order, a key for
each name and a position for each index, the one for which its digits stand by their places. Any
other such text is malformed.

**Proof sketch.** What is read is spelled (`parse_ok_iff`), and segments are another way to put what
spells a path (`exists_segments_of_spells`, `spells_joined`); their indexes can be read because they
are runs of digits of the text (`infix_joined`). The only other fault of reading concerns an index
with too many digits (`refused_of_parse`), which the text does not have. -/
theorem parse_iff_joined {text : String}
    (h : Text.DigitRunsWithin Number.digitLimit text.toList) :
    (∀ p, parse text = .ok p ↔ ∃ first rest,
        text.toList = joined first rest ∧ p = (first :: rest).flatMap Segment.steps) ∧
      ((∃ m, parse text = .error (.path m)) ↔ ¬ ∃ first rest, text.toList = joined first rest) := by
  have hspells : ∀ first rest, text.toList = joined first rest →
      parse text = .ok ((first :: rest).flatMap Segment.steps) := fun first rest htext => by
    refine parse_ok_iff.mpr (htext ▸ spells_joined fun s hs ds hds => ?_)
    obtain ⟨hne, hdigits⟩ := s.isIndex ds hds
    exact ⟨hne, hdigits, h ds (htext ▸ infix_joined hs hds) hdigits⟩
  refine ⟨fun p => ⟨fun hp => exists_segments_of_spells (parse_ok_iff.mp hp), ?_⟩, ?_, ?_⟩
  · rintro ⟨first, rest, htext, rfl⟩
    exact hspells first rest htext
  · rintro ⟨m, hm⟩ ⟨first, rest, htext⟩
    rw [hspells first rest htext] at hm
    cases hm
  · intro hnone
    cases hp : parse text with
    | ok p =>
      obtain ⟨first, rest, htext, -⟩ := exists_segments_of_spells (parse_ok_iff.mp hp)
      exact absurd ⟨first, rest, htext⟩ hnone
    | error e =>
      rcases refused_of_parse hp with ⟨m, rfl⟩ | ⟨n, -, hlong⟩
      · exact ⟨m, rfl⟩
      · exact absurd hlong (not_overlong_of_digitRunsWithin h n)

/-- Two segments with an index between them whose digits begin with zeros; and a text in which
something else stands in brackets. -/
theorem parse_iff_joined_zeros :
    Text.DigitRunsWithin Number.digitLimit "a[007].b".toList ∧
      parse "a[007].b" = .ok [.key "a", .index 7, .key "b"] ∧
      ¬ ∃ first rest, "a[+7]".toList = joined first rest := by
  have h : Text.DigitRunsWithin Number.digitLimit "a[007].b".toList :=
    Text.digitRunsWithin_of_length_le (by decide)
  have h' : Text.DigitRunsWithin Number.digitLimit "a[+7]".toList :=
    Text.digitRunsWithin_of_length_le (by decide)
  let first : Segment :=
    ⟨"a", [['0', '0', '7']], by decide,
      List.forall_mem_singleton.mpr ⟨by decide, List.all_eq_true.mp (by decide)⟩⟩
  let second : Segment := ⟨"b", [], by decide, List.forall_mem_nil _⟩
  exact ⟨h, ((parse_iff_joined h).1 _).mpr ⟨first, [second], by decide, by decide⟩,
    (parse_iff_joined h').2.mp ⟨_, by cbv⟩⟩

end Path

end LayeredConfig
