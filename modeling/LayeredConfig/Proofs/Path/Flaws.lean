import Mathlib
import LayeredConfig.Proofs.Path.Refusal

set_option autoImplicit false

/-!
# Where a text stops being a path

A malformed text falls into three parts: what is right so far, the fragment that is at fault, and
the rest. What is right so far is a path, or a path with the dot before another segment, or nothing.
Each of the six reasons has a shape of its own, and the reader reports just the one that the text
has.

## Main definitions

* `Path.Opens` — what may stand before a segment.
* `Path.Flawed` — the shapes of malformed texts, with the reason for each.
* `PathError.Locates` — an error tells where a text is flawed.

## Main results

* `Path.parse_path_error_iff` — the error of a malformed text.
* `Path.parse_error_points_at_flaw` — the fragment stands at its offset, behind a path.
-/

namespace LayeredConfig

namespace Path

/-- What may stand before a segment: nothing, or a path and a dot. -/
inductive Opens : List Char → Prop
  /-- The first segment stands at the start. -/
  | start : Opens []
  /-- Another segment stands behind a dot. -/
  | dot {cs : List Char} {p : Path} : Spells cs p → Opens (cs ++ ['.'])

/-- A text with the parts `before`, `fragment` and `rest` is no path, for a reason that lies in the
fragment. -/
inductive Flawed : List Char → List Char → List Char → PathError.Reason → Prop
  /-- There is no text. -/
  | emptyPath : Flawed [] [] [] .emptyPath
  /-- Where a segment has to begin, there is no character of a name. -/
  | expectedKey {before rest : List Char} {c : Char} :
      Opens before → isNameChar c = false → Flawed before [c] rest .expectedKey
  /-- No bracket is closed behind an open one. -/
  | unbalancedBracket {before rest : List Char} {p : Path} :
      Spells before p → ']' ∉ rest → Flawed before ('[' :: rest) [] .unbalancedBracket
  /-- Something other than digits stands between brackets. -/
  | invalidIndex {before cs rest : List Char} {p : Path} :
      Spells before p → ']' ∉ cs → ¬ IsIndex cs →
      Flawed before ('[' :: (cs ++ [']'])) rest .invalidIndex
  /-- Neither a dot nor an open bracket follows, nor more of a name. -/
  | unexpectedCharacter {before rest : List Char} {c : Char} {p : Path} :
      Spells before p → c ≠ '.' → c ≠ '[' → EndsBefore p (c :: rest) →
      Flawed before (c :: rest) [] .unexpectedCharacter
  /-- Nothing follows a dot. -/
  | trailingSeparator {before : List Char} {p : Path} :
      Spells before p → Flawed before ['.'] [] .trailingSeparator

end Path

/-- The error tells where a text with the characters `cs` is flawed, and why. -/
def PathError.Locates (m : PathError) (cs : List Char) : Prop :=
  ∃ before rest, cs = before ++ (m.fragment.toList ++ rest) ∧ before.length = m.offset ∧
    Path.Flawed before m.fragment.toList rest m.reason

namespace Path

/-! ## What was read so far -/

/-- A name behind what may stand before a segment makes it a path. -/
lemma Opens.append_name {cs : List Char} (h : Opens cs) {name : String} (hn : IsName name) :
    ∃ p, Spells (cs ++ name.toList) p := by
  cases h with
  | start => exact ⟨_, by simpa using Spells.key hn .nil⟩
  | dot hs => exact ⟨_, by simpa using hs.append (Continues.key hn .nil)⟩

/-- An index behind a path makes it a longer path. It does not end in a name, so anything may
follow. -/
lemma Spells.append_index {cs : List Char} {p : Path} (h : Spells cs p) {ds : List Char}
    (hd : IsPosition ds) :
    ∃ q, Spells (cs ++ '[' :: (ds ++ [']'])) q ∧ ∀ rest, EndsBefore q rest := by
  refine ⟨_, h.append (Continues.index hd .nil), fun rest name hname => ?_⟩
  simp at hname

/-! ## Reading up to a flaw -/

/-- A flaw that is reported at its place is located. -/
lemma Flawed.locates {before fragment rest : List Char} {reason : PathError.Reason}
    (h : Flawed before fragment rest reason) {α : Type} {text : String} {m : PathError}
    (hm : (malformed text before.length fragment reason : Except Fault α) = .error (.path m)) :
    m.text = text ∧ m.Locates (before ++ (fragment ++ rest)) := by
  obtain rfl := Fault.path.inj (Except.error.inj hm)
  exact ⟨rfl, before, rest, by simp, rfl, by simpa using h⟩

/-- A flaw that is found is located, from the beginning of a segment and behind a path.

**Proof sketch.** Induction along the reader. What was read before may stand before a segment, or is
a path whose last name has ended. -/
lemma locates_of_error (text : String) (m : PathError) :
    (∀ cs done, Opens done → cs ≠ [] → parseSegment text done.length cs = .error (.path m) →
      m.text = text ∧ m.Locates (done ++ cs)) ∧
    ∀ cs done p, Spells done p → EndsBefore p cs →
      parseRest text done.length cs = .error (.path m) →
      m.text = text ∧ m.Locates (done ++ cs) := by
  apply reading_induction
  case nameless =>
    intro cs h done hdone hne he
    -- there is a first character, and it is none of a name
    obtain ⟨c, rest, rfl⟩ := List.exists_cons_of_ne_nil hne
    have hc : isNameChar c = false := by
      by_contra hc
      simp [hc] at h
    rw [parseSegment_nameless _ _ h] at he
    exact (Flawed.expectedKey hdone hc).locates he
  case name =>
    intro name cs hn hstop ih done hdone _ he
    obtain ⟨p, hp⟩ := hdone.append_name hn
    rw [parseSegment_name _ _ hn hstop, Fault.map_error_iff, ← List.length_append] at he
    rw [← List.append_assoc]
    exact ih _ p hp (fun _ _ => hstop) he
  case nil =>
    intro done p _ _ he
    rw [parseRest] at he
    cases he
  case unbalanced =>
    intro cs h done p hdone _ he
    rw [parseRest_unbalanced _ _ h] at he
    have hflaw := (Flawed.unbalancedBracket hdone h).locates he
    rwa [List.append_nil] at hflaw
  case invalid =>
    intro cs rest hclosed hindex done p hdone _ he
    rw [parseRest_not_isIndex _ _ hclosed hindex] at he
    have hflaw := (Flawed.invalidIndex hdone hclosed hindex : Flawed _ _ rest _).locates he
    simpa using hflaw
  case overlong =>
    intro ds rest hd hlimit done p _ _ he
    rw [parseRest_overlong _ _ hd hlimit] at he
    cases he
  case index =>
    intro ds rest hd ih done p hdone _ he
    -- the path that was read grows by the index, and so does the offset
    obtain ⟨q, hq, hends⟩ := hdone.append_index hd
    have hplace : done.length + ds.length + 2 = (done ++ '[' :: (ds ++ [']'])).length := by
      simp only [List.length_append, List.length_cons, List.length_nil]
      omega
    rw [parseRest_index _ _ hd, Fault.map_error_iff, hplace] at he
    simpa using ih _ q hq (hends rest) he
  case last_dot =>
    intro done p hdone _ he
    rw [parseRest_last_dot] at he
    exact (Flawed.trailingSeparator hdone).locates he
  case dot =>
    intro cs hne ih done p hdone _ he
    have hplace : done.length + 1 = (done ++ ['.']).length := by simp
    rw [parseRest_dot _ _ hne, hplace] at he
    simpa using ih _ (.dot hdone) hne he
  case unexpected =>
    intro c rest hdot hbracket done p hdone hends he
    rw [parseRest_unexpected _ _ hdot hbracket] at he
    have hflaw := (Flawed.unexpectedCharacter hdone hdot hbracket hends).locates he
    rwa [List.append_nil] at hflaw

/-- The error of a malformed text tells where it is flawed. -/
lemma locates_of_parse {text : String} {m : PathError} (h : parse text = .error (.path m)) :
    m.text = text ∧ m.Locates text.toList := by
  unfold parse at h
  split_ifs at h with hempty
  · have hnil : text.toList = [] := by simpa using hempty
    rw [hnil]
    exact Flawed.emptyPath.locates h
  · have hne : text.toList ≠ [] := by simpa using hempty
    exact (locates_of_error text m).1 _ [] .start hne h

/-! ## Every flaw is found -/

/-- Reading gets past a path, to a flaw that is found behind it. -/
lemma Spells.parse_malformed {text : String} {before ds : List Char} {p : Path}
    (h : Spells before p) (htext : text.toList = before ++ ds) (hstop : EndsBefore p ds)
    {offset : Nat} {fragment : List Char} {reason : PathError.Reason}
    (hrest : parseRest text before.length ds = malformed text offset fragment reason) :
    parse text = malformed text offset fragment reason := by
  rw [h.parse_append htext hstop, hrest]
  rfl

/-- A flaw is reported at its place. -/
lemma Flawed.parse_eq {before fragment rest : List Char} {reason : PathError.Reason}
    (h : Flawed before fragment rest reason) {text : String}
    (htext : text.toList = before ++ (fragment ++ rest)) :
    parse text = malformed text before.length fragment reason := by
  cases h with
  | emptyPath =>
    have hempty : text.isEmpty = true := by simpa using htext
    rw [parse, if_pos hempty]
    rfl
  | @expectedKey _ rest c hopens hc =>
    have hnameless : (c :: rest).takeWhile isNameChar = [] := by simp [hc]
    cases hopens with
    | start =>
      have hne : text.toList ≠ [] := by simp [htext]
      rw [parse, if_neg (by simpa using hne), htext]
      exact parseSegment_nameless text 0 hnameless
    | @dot cs p hs =>
      apply hs.parse_malformed (by simpa using htext) (fun _ _ => by simp [isNameChar])
      rw [parseRest_dot _ _ (List.cons_ne_nil c rest), parseSegment_nameless _ _ hnameless,
        List.length_append]
      rfl
  | unbalancedBracket hs hopen =>
    apply hs.parse_malformed (by simpa using htext) (fun _ _ => by simp [isNameChar])
    exact parseRest_unbalanced text _ hopen
  | invalidIndex hs hclosed hindex =>
    apply hs.parse_malformed htext (fun _ _ => by simp [isNameChar])
    rw [List.cons_append, List.append_assoc]
    exact parseRest_not_isIndex text _ hclosed hindex rest
  | unexpectedCharacter hs hdot hbracket hends =>
    apply hs.parse_malformed (by simpa using htext) hends
    exact parseRest_unexpected text _ hdot hbracket _
  | trailingSeparator hs =>
    apply hs.parse_malformed (by simpa using htext) (fun _ _ => by simp [isNameChar])
    exact parseRest_last_dot text _

/-- **The error of a malformed text** names the text, and tells the reason for which it is no path
and the fragment at fault, at its offset.

**Proof sketch.** What the reader reports is a flaw, since it goes through the text from the start
and what lies behind it is a path or may stand before a segment (`locates_of_error`). Conversely the
reader gets past what stands before a flaw (`Spells.parse_append`) and stops there. -/
theorem parse_path_error_iff {text : String} {m : PathError} :
    parse text = .error (.path m) ↔ m.text = text ∧ m.Locates text.toList := by
  constructor
  · exact locates_of_parse
  · rintro ⟨rfl, before, rest, htext, hoffset, hflaw⟩
    rw [hflaw.parse_eq htext, hoffset, malformed, String.ofList_toList]

/-! ## The place of a flaw -/

/-- Only an empty text has a flaw without a fragment. -/
lemma Flawed.eq_nil_of_fragment_eq_nil {before fragment rest : List Char}
    {reason : PathError.Reason} (h : Flawed before fragment rest reason) (hnil : fragment = []) :
    before = [] ∧ rest = [] := by
  cases h with
  | emptyPath => exact ⟨rfl, rfl⟩
  | _ => simp at hnil

/-- What a text spells is read as a path. -/
lemma Spells.exists_parse {cs : List Char} {p : Path} (h : Spells cs p) :
    ∃ q, parse (String.ofList cs) = .ok q :=
  ⟨p, parse_ok_iff.mpr (by rwa [String.toList_ofList])⟩

/-- Before a flaw there is nothing, or a path, or a path and a dot. -/
lemma Flawed.path_before {before fragment rest : List Char} {reason : PathError.Reason}
    (h : Flawed before fragment rest reason) :
    before = [] ∨ (∃ p, parse (String.ofList before) = .ok p) ∨
      ∃ start, before = start ++ ['.'] ∧ ∃ p, parse (String.ofList start) = .ok p := by
  cases h with
  | emptyPath => exact .inl rfl
  | expectedKey hopens _ =>
    cases hopens with
    | start => exact .inl rfl
    | dot hs => exact .inr (.inr ⟨_, rfl, hs.exists_parse⟩)
  | unbalancedBracket hs _ => exact .inr (.inl hs.exists_parse)
  | invalidIndex hs _ _ => exact .inr (.inl hs.exists_parse)
  | unexpectedCharacter hs _ _ _ => exact .inr (.inl hs.exists_parse)
  | trailingSeparator hs => exact .inr (.inl hs.exists_parse)

/-- **Errors point at the fault**: the error of a malformed text names this text, its fragment
stands in the text at its offset and is empty only if the text is, and before it there is nothing,
or a path, or a path and a dot. -/
theorem parse_error_points_at_flaw {text : String} {m : PathError}
    (h : parse text = .error (.path m)) :
    m.text = text ∧
      (text.toList.drop m.offset).take m.fragment.length = m.fragment.toList ∧
      (m.fragment = "" → text = "") ∧
      (text.toList.take m.offset = [] ∨
        (∃ p, parse (String.ofList (text.toList.take m.offset)) = .ok p) ∨
        ∃ start, text.toList.take m.offset = start ++ ['.'] ∧
          ∃ p, parse (String.ofList start) = .ok p) := by
  obtain ⟨htext, before, rest, hsplit, hoffset, hflaw⟩ := parse_path_error_iff.mp h
  have htake : text.toList.take m.offset = before := by
    rw [hsplit, ← hoffset, List.take_left]
  have hdrop : text.toList.drop m.offset = m.fragment.toList ++ rest := by
    rw [hsplit, ← hoffset, List.drop_left]
  refine ⟨htext, ?_, fun hempty => ?_, ?_⟩
  · rw [hdrop, ← String.length_toList, List.take_left]
  · have hfragment : m.fragment.toList = [] := by rw [hempty, String.toList_empty]
    obtain ⟨rfl, rfl⟩ := hflaw.eq_nil_of_fragment_eq_nil hfragment
    apply String.toList_eq_nil_iff.mp
    rw [hsplit, hfragment]
    rfl
  · rw [htake]
    exact hflaw.path_before

/-- A name stands between brackets behind `a.b[0]`: the fragment is `[x]`, six characters from the
start. -/
theorem parse_error_points_at_flaw_index :
    parse "a.b[0][x].c" = .error (.path ⟨"a.b[0][x].c", "[x]", 6, .invalidIndex⟩) ∧
      ("a.b[0][x].c".toList.drop 6).take 3 = "[x]".toList ∧
      ∃ p, parse (String.ofList ("a.b[0][x].c".toList.take 6)) = .ok p := by
  have h : parse "a.b[0][x].c" = .error (.path ⟨"a.b[0][x].c", "[x]", 6, .invalidIndex⟩) := by cbv
  obtain ⟨-, hslice, -, hbefore⟩ := parse_error_points_at_flaw h
  refine ⟨h, hslice, ?_⟩
  rcases hbefore with hnil | hpath | ⟨start, hdot, -⟩
  · exact absurd hnil (by decide)
  · exact hpath
  · have hlast := congrArg List.getLast? hdot
    rw [List.getLast?_concat] at hlast
    exact absurd hlast (by decide)

end Path

end LayeredConfig
