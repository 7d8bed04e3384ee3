import Mathlib.Data.List.Basic
import LayeredConfig.Proofs.Path.Grammar

set_option autoImplicit false

/-!
# Texts that cannot be read as paths

The grammar allows an index any number of digits, but an integer is read from a limited number of
them only. So there are two ways in which a text is refused: it is not in the grammar, or a path and
an index follow one another at its start, and the index has too many digits. The second fault is
found first where a text is at fault in both ways.

## Main definitions

* `Path.Grammatical` — the texts of the grammar, whatever the size of their indexes.
* `Path.Overlong` — an index with too many digits follows what was read so far.

## Main results

* `Path.parse_tooManyDigits_iff` — the texts with an index that cannot be read.
* `Path.parse_malformed_iff` — the other texts that are refused are those outside the grammar.
-/

namespace LayeredConfig.Path

/-- What may follow a name or an index in the grammar. -/
inductive Trails : List Char → Prop
  /-- Nothing follows. -/
  | nil : Trails []
  /-- A dot and a name follow. -/
  | key {name : String} {cs : List Char} :
      IsName name → Trails cs → Trails ('.' :: (name.toList ++ cs))
  /-- Digits in brackets follow. -/
  | index {ds cs : List Char} : IsIndex ds → Trails cs → Trails ('[' :: (ds ++ ']' :: cs))

/-- A text is in the grammar: it is a name and what may follow it. -/
inductive Grammatical : List Char → Prop
  /-- A name and what follows it. -/
  | key {name : String} {cs : List Char} :
      IsName name → Trails cs → Grammatical (name.toList ++ cs)

/-- A text begins with something that spells steps, and an index of `n` digits follows, more than
can be read. -/
def Overlong (Begins : List Char → Path → Prop) (cs : List Char) (n : Nat) : Prop :=
  ∃ start p ds rest, Begins start p ∧ IsIndex ds ∧ ds.length = n ∧ Number.digitLimit < n ∧
    cs = start ++ '[' :: (ds ++ ']' :: rest)

/-! ## The grammar and what can be read -/

/-- What can be read after a name may follow it. -/
lemma Continues.trails {cs : List Char} {p : Path} (h : Continues cs p) : Trails cs := by
  induction h with
  | nil => exact .nil
  | key hn _ ih => exact .key hn ih
  | index hd _ ih => exact .index hd.isIndex ih

/-- What can be read is in the grammar. -/
lemma Spells.grammatical {cs : List Char} {p : Path} (h : Spells cs p) : Grammatical cs := by
  cases h with
  | key hn hc => exact .key hn hc.trails

/-- An index with too many digits stays one behind more of what spells steps. -/
lemma Overlong.append {B C : List Char → Path → Prop} {cs : List Char} {n : Nat}
    (h : Overlong B cs n) (ds : List Char)
    (happend : ∀ start p, B start p → ∃ q, C (ds ++ start) q) : Overlong C (ds ++ cs) n := by
  obtain ⟨start, p, index, rest, hstart, hindex, hlength, hlimit, rfl⟩ := h
  obtain ⟨q, hq⟩ := happend start p hstart
  exact ⟨ds ++ start, q, index, rest, hq, hindex, hlength, hlimit, by simp⟩

/-- What may follow a name can be read, or has an index with too many digits. -/
lemma Trails.continues_or_overlong {cs : List Char} (h : Trails cs) :
    (∃ p, Continues cs p) ∨ ∃ n, Overlong Continues cs n := by
  induction h with
  | nil => exact .inl ⟨[], .nil⟩
  | @key name cs hn _ ih =>
    rcases ih with ⟨p, hp⟩ | ⟨n, hlong⟩
    · exact .inl ⟨_, .key hn hp⟩
    · refine .inr ⟨n, ?_⟩
      have h := hlong.append (C := Continues) ('.' :: name.toList) fun start p hstart =>
        ⟨_, .key hn hstart⟩
      simpa using h
  | @index ds cs hd _ ih =>
    by_cases hlimit : ds.length ≤ Number.digitLimit
    · rcases ih with ⟨p, hp⟩ | ⟨n, hlong⟩
      · exact .inl ⟨_, .index ⟨hd.1, hd.2, hlimit⟩ hp⟩
      · refine .inr ⟨n, ?_⟩
        have h := hlong.append (C := Continues) ('[' :: (ds ++ [']'])) fun start p hstart =>
          ⟨_, by simpa using Continues.index ⟨hd.1, hd.2, hlimit⟩ hstart⟩
        simpa using h
    · exact .inr ⟨ds.length, [], [], ds, cs, .nil, hd, rfl, Nat.not_le.mp hlimit, rfl⟩

/-- A text of the grammar can be read, or has an index with too many digits. -/
lemma Grammatical.spells_or_overlong {cs : List Char} (h : Grammatical cs) :
    (∃ p, Spells cs p) ∨ ∃ n, Overlong Spells cs n := by
  cases h with
  | @key name cs hn ht =>
    rcases ht.continues_or_overlong with ⟨p, hp⟩ | ⟨n, hlong⟩
    · exact .inl ⟨_, .key hn hp⟩
    · exact .inr ⟨n, hlong.append _ fun start p hstart => ⟨_, .key hn hstart⟩⟩

/-! ## Faults of reading -/

/-- A text that goes on with an index of too many digits is at fault. -/
lemma Overlong.parse_eq {text : String} {n : Nat} (h : Overlong Spells text.toList n) :
    parse text = .error (.tooManyDigits n) := by
  obtain ⟨start, p, ds, rest, hstart, hd, rfl, hlimit, htext⟩ := h
  have hstop : EndsBefore p ('[' :: (ds ++ ']' :: rest)) := fun _ _ => by simp [isNameChar]
  rw [hstart.parse_append htext hstop, parseRest_overlong _ _ hd hlimit]
  rfl

/-- A fault of reading: the text is malformed, or an index has too many digits. -/
def Refused (Begins : List Char → Path → Prop) (cs : List Char) (e : Fault) : Prop :=
  (∃ m, e = .path m) ∨ ∃ n, e = .tooManyDigits n ∧ Overlong Begins cs n

/-- A fault of reading stays one behind more of what spells steps. -/
lemma Refused.append {B C : List Char → Path → Prop} {cs : List Char} {e : Fault}
    (h : Refused B cs e) (ds : List Char)
    (happend : ∀ start p, B start p → ∃ q, C (ds ++ start) q) : Refused C (ds ++ cs) e := by
  rcases h with hm | ⟨n, rfl, hlong⟩
  · exact .inl hm
  · exact .inr ⟨n, rfl, hlong.append ds happend⟩

/-- A text that is malformed is refused. -/
lemma refused_of_malformed {B : List Char → Path → Prop} {α : Type} {text : String} {offset : Nat}
    {fragment cs : List Char} {reason : PathError.Reason} {e : Fault}
    (h : (malformed text offset fragment reason : Except Fault α) = .error e) : Refused B cs e :=
  .inl ⟨_, (Except.error.inj h).symm⟩

/-- What is refused, from the beginning of a segment and behind a name or an index. -/
lemma refused_of_error (text : String) (e : Fault) :
    (∀ cs offset, parseSegment text offset cs = .error e → Refused Spells cs e) ∧
      ∀ cs offset, parseRest text offset cs = .error e → Refused Continues cs e := by
  apply reading_induction
  case nameless =>
    intro cs h offset he
    rw [parseSegment_nameless _ _ h] at he
    exact refused_of_malformed he
  case name =>
    intro name cs hn hstop ih offset he
    rw [parseSegment_name _ _ hn hstop, Fault.map_error_iff] at he
    exact (ih _ he).append name.toList fun start p hstart => ⟨_, .key hn hstart⟩
  case nil =>
    intro offset he
    rw [parseRest] at he
    cases he
  case unbalanced =>
    intro cs h offset he
    rw [parseRest_unbalanced _ _ h] at he
    exact refused_of_malformed he
  case invalid =>
    intro cs rest hclosed hindex offset he
    rw [parseRest_not_isIndex _ _ hclosed hindex] at he
    exact refused_of_malformed he
  case overlong =>
    intro ds rest hd hlimit offset he
    rw [parseRest_overlong _ _ hd hlimit] at he
    exact .inr ⟨_, (Except.error.inj he).symm, [], [], ds, rest, .nil, hd, rfl, hlimit, rfl⟩
  case index =>
    intro ds rest hd ih offset he
    rw [parseRest_index _ _ hd, Fault.map_error_iff] at he
    have hall := (ih _ he).append (C := Continues) ('[' :: (ds ++ [']'])) fun start p hstart =>
      ⟨_, by simpa using Continues.index hd hstart⟩
    simpa using hall
  case last_dot =>
    intro offset he
    rw [parseRest_last_dot] at he
    exact refused_of_malformed he
  case dot =>
    intro cs hne ih offset he
    rw [parseRest_dot _ _ hne] at he
    refine (ih _ he).append (C := Continues) ['.'] fun start p hstart => ?_
    cases hstart with
    | key hn hc => exact ⟨_, .key hn hc⟩
  case unexpected =>
    intro c rest hdot hbracket offset he
    rw [parseRest_unexpected _ _ hdot hbracket] at he
    exact refused_of_malformed he

/-- A text that is not read as a path is malformed, or it has an index with too many digits. -/
lemma refused_of_parse {text : String} {e : Fault} (h : parse text = .error e) :
    Refused Spells text.toList e := by
  unfold parse at h
  split_ifs at h
  · exact refused_of_malformed h
  · exact (refused_of_error text e).1 _ _ h

/-- **Indexes that cannot be read**: reading fails for the number of digits of an index iff a path
and this index follow one another at the start of the text. -/
theorem parse_tooManyDigits_iff {text : String} {n : Nat} :
    parse text = .error (.tooManyDigits n) ↔ Overlong Spells text.toList n := by
  constructor
  · intro h
    rcases refused_of_parse h with ⟨m, hm⟩ | ⟨k, hk, hlong⟩
    · cases hm
    · obtain rfl := Fault.tooManyDigits.inj hk
      exact hlong
  · exact Overlong.parse_eq

/-- **Malformed texts**: reading finds a text malformed iff it is not in the grammar, and no index
with too many digits was found before that shows. -/
theorem parse_malformed_iff {text : String} :
    (∃ m, parse text = .error (.path m)) ↔
      ¬ Grammatical text.toList ∧ ∀ n, ¬ Overlong Spells text.toList n := by
  constructor
  · rintro ⟨m, hm⟩
    have hlong (n : Nat) : ¬ Overlong Spells text.toList n := fun h => by
      rw [h.parse_eq] at hm
      cases hm
    refine ⟨fun hg => ?_, hlong⟩
    rcases hg.spells_or_overlong with ⟨p, hp⟩ | ⟨n, hn⟩
    · rw [hp.parse_eq] at hm
      cases hm
    · exact hlong n hn
  · rintro ⟨hg, hlong⟩
    cases h : parse text with
    | ok p => exact absurd (parse_ok_iff.mp h).grammatical hg
    | error e =>
      rcases refused_of_parse h with ⟨m, rfl⟩ | ⟨n, -, hn⟩
      · exact ⟨m, rfl⟩
      · exact absurd hn (hlong n)

end LayeredConfig.Path
