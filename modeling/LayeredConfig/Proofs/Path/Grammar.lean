import LayeredConfig.Proofs.Path.Reader

set_option autoImplicit false

/-!
# The grammar of paths

A text is a path iff it is a name with any number of indexes, followed by more of the same behind
dots. Reading decides this grammar and finds the steps.

## Main definitions

* `Path.Spells`, `Path.Continues` — the grammar: a text and the steps that it spells.
* `Path.EndsBefore` — a path ends where certain characters follow.

## Main results

* `Path.Spells.parse_append` — a path is read, and then what is behind it.
* `Path.parse_ok_iff` — reading succeeds exactly on the texts of the grammar.
* `Path.Spells.isName_of_mem` — the names in a path that was read.
-/

namespace LayeredConfig.Path

/-- What follows a name or an index spells further steps. -/
inductive Continues : List Char → Path → Prop
  /-- Nothing follows. -/
  | nil : Continues [] []
  /-- A dot and a name follow. -/
  | key {name : String} {cs : List Char} {p : Path} :
      IsName name → Continues cs p → Continues ('.' :: (name.toList ++ cs)) (.key name :: p)
  /-- Digits in brackets follow. -/
  | index {ds cs : List Char} {p : Path} :
      IsPosition ds → Continues cs p →
      Continues ('[' :: (ds ++ ']' :: cs)) (.index (Text.ofDigits ds) :: p)

/-- A text spells the steps of a path, the first of which is a name. -/
inductive Spells : List Char → Path → Prop
  /-- A name and what follows it. -/
  | key {name : String} {cs : List Char} {p : Path} :
      IsName name → Continues cs p → Spells (name.toList ++ cs) (.key name :: p)

/-- What is spelled has steps. -/
lemma Spells.ne_nil {cs : List Char} {p : Path} (h : Spells cs p) : p ≠ [] := by
  cases h with
  | key _ _ => exact List.cons_ne_nil _ _

/-! ## Texts in two parts -/

/-- What follows a name spells further steps, if it comes in two parts that do. -/
lemma Continues.append {cs ds : List Char} {p q : Path} (h : Continues cs p)
    (h' : Continues ds q) : Continues (cs ++ ds) (p ++ q) := by
  induction h with
  | nil => exact h'
  | key hn _ ih => simpa using Continues.key hn ih
  | index hi _ ih => simpa using Continues.index hi ih

/-- A text that spells a path goes on to spell further steps with what follows. -/
lemma Spells.append {cs ds : List Char} {p q : Path} (h : Spells cs p) (h' : Continues ds q) :
    Spells (cs ++ ds) (p ++ q) := by
  cases h with
  | key hn hc => simpa using Spells.key hn (hc.append h')

/-! ## Reading what is spelled -/

/-- The characters behind a path do not go on with a name at its end. -/
def EndsBefore (p : Path) (cs : List Char) : Prop :=
  ∀ name, p.getLast? = some (.key name) → cs.takeWhile isNameChar = []

/-- Whether a name goes on does not depend on a step before it. -/
lemma EndsBefore.of_cons {a : Step} {p : Path} {cs : List Char} (h : EndsBefore (a :: p) cs) :
    EndsBefore p cs := by
  intro name hname
  cases p with
  | nil => cases hname
  | cons b p => exact h name (by rwa [List.getLast?_cons_cons])

/-- What spells steps behind a name and something behind it do not begin with a character of a
name, if the name does not go on. -/
lemma Continues.takeWhile_append_eq_nil {cs rest : List Char} {name : String} {p : Path}
    (h : Continues cs p) (hstop : EndsBefore (.key name :: p) rest) :
    (cs ++ rest).takeWhile isNameChar = [] := by
  cases h with
  | nil => exact hstop name rfl
  | key _ _ => simp [isNameChar]
  | index _ _ => simp [isNameChar]

/-- Steps that follow a name are read, and then what is behind them. -/
lemma Continues.parseRest_append {cs rest : List Char} {p : Path} (h : Continues cs p)
    (hstop : EndsBefore p rest) (text : String) (offset : Nat) :
    parseRest text offset (cs ++ rest) =
      (parseRest text (offset + cs.length) rest).map (p ++ ·) := by
  induction h generalizing offset with
  | nil =>
    rw [List.nil_append, List.length_nil, Nat.add_zero]
    cases parseRest text offset rest <;> rfl
  | @key name cs p hn hc ih =>
    have hplace : offset + ('.' :: (name.toList ++ cs)).length =
        offset + 1 + name.toList.length + cs.length := by
      simp only [List.length_cons, List.length_append]
      omega
    have hne := List.append_ne_nil_of_left_ne_nil hn.toList_ne_nil (cs ++ rest)
    rw [List.cons_append, List.append_assoc, parseRest_dot _ _ hne,
      parseSegment_name _ _ hn (hc.takeWhile_append_eq_nil hstop), ih hstop.of_cons, hplace]
    cases parseRest text (offset + 1 + name.toList.length + cs.length) rest <;> rfl
  | @index ds cs p hd hc ih =>
    have hplace : offset + ('[' :: (ds ++ ']' :: cs)).length =
        offset + ds.length + 2 + cs.length := by
      simp only [List.length_cons, List.length_append]
      omega
    rw [List.cons_append, List.append_assoc, List.cons_append, parseRest_index _ _ hd,
      ih hstop.of_cons, hplace]
    cases parseRest text (offset + ds.length + 2 + cs.length) rest <;> rfl

/-- A path is read, and then what is behind it. -/
lemma Spells.parse_append {text : String} {start rest : List Char} {p : Path} (h : Spells start p)
    (htext : text.toList = start ++ rest) (hstop : EndsBefore p rest) :
    parse text = (parseRest text start.length rest).map (p ++ ·) := by
  cases h with
  | @key name cs p hn hc =>
    rw [List.append_assoc] at htext
    have hne : text.toList ≠ [] :=
      htext ▸ List.append_ne_nil_of_left_ne_nil hn.toList_ne_nil _
    rw [parse, if_neg (by simpa using hne), htext,
      parseSegment_name _ _ hn (hc.takeWhile_append_eq_nil hstop),
      hc.parseRest_append hstop.of_cons, List.length_append, Nat.zero_add]
    cases parseRest text (name.toList.length + cs.length) rest <;> rfl

/-- A text that spells a path is read as this path. -/
lemma Spells.parse_eq {text : String} {p : Path} (h : Spells text.toList p) :
    parse text = .ok p := by
  rw [h.parse_append (List.append_nil _).symm fun _ _ => rfl, parseRest]
  exact congrArg Except.ok (List.append_nil p)

/-! ## Spelling what was read -/

/-- What is read is spelled, from the beginning of a segment and behind a name or an index. -/
lemma spells_and_continues (text : String) :
    (∀ cs offset p, parseSegment text offset cs = .ok p → Spells cs p) ∧
      ∀ cs offset p, parseRest text offset cs = .ok p → Continues cs p := by
  apply reading_induction
  case nameless =>
    intro cs h offset p hp
    rw [parseSegment_nameless _ _ h] at hp
    cases hp
  case name =>
    intro name cs hn hstop ih offset p hp
    rw [parseSegment_name _ _ hn hstop] at hp
    obtain ⟨q, hq, rfl⟩ := Fault.map_ok_iff.mp hp
    exact .key hn (ih _ q hq)
  case nil =>
    intro offset p hp
    rw [parseRest] at hp
    obtain rfl := Except.ok.inj hp
    exact .nil
  case unbalanced =>
    intro cs h offset p hp
    rw [parseRest_unbalanced _ _ h] at hp
    cases hp
  case invalid =>
    intro cs rest hclosed hindex offset p hp
    rw [parseRest_not_isIndex _ _ hclosed hindex] at hp
    cases hp
  case overlong =>
    intro ds rest hd hlimit offset p hp
    rw [parseRest_overlong _ _ hd hlimit] at hp
    cases hp
  case index =>
    intro ds rest hd ih offset p hp
    rw [parseRest_index _ _ hd] at hp
    obtain ⟨q, hq, rfl⟩ := Fault.map_ok_iff.mp hp
    exact .index hd (ih _ q hq)
  case last_dot =>
    intro offset p hp
    rw [parseRest_last_dot] at hp
    cases hp
  case dot =>
    intro cs hne ih offset p hp
    rw [parseRest_dot _ _ hne] at hp
    cases ih _ p hp with
    | key hn hc => exact .key hn hc
  case unexpected =>
    intro c rest hdot hbracket offset p hp
    rw [parseRest_unexpected _ _ hdot hbracket] at hp
    cases hp

/-- **Reading decides the grammar**: a text is read as a path iff it spells it. -/
theorem parse_ok_iff {text : String} {p : Path} : parse text = .ok p ↔ Spells text.toList p := by
  constructor
  · intro h
    unfold parse at h
    split_ifs at h
    · cases h
    · exact (spells_and_continues text).1 _ _ _ h
  · exact Spells.parse_eq

/-! ## The names in a path -/

/-- The names among the steps that follow are names, and their characters are those of the text. -/
lemma Continues.isName_of_mem {cs : List Char} {p : Path} (h : Continues cs p) {name : String}
    (hm : .key name ∈ p) : IsName name ∧ ∀ c ∈ name.toList, c ∈ cs := by
  induction h with
  | nil => cases hm
  | @key n cs p hn h ih =>
    rcases List.mem_cons.mp hm with hm | hm
    · obtain rfl := Step.key.inj hm
      exact ⟨hn, fun c hc => by simp [hc]⟩
    · exact ⟨(ih hm).1, fun c hc => by simp [(ih hm).2 c hc]⟩
  | index hd h ih =>
    rcases List.mem_cons.mp hm with hm | hm
    · cases hm
    · exact ⟨(ih hm).1, fun c hc => by simp [(ih hm).2 c hc]⟩

/-- The names among the steps of a path are names, and their characters are those of the text. -/
lemma Spells.isName_of_mem {cs : List Char} {p : Path} (h : Spells cs p) {name : String}
    (hm : .key name ∈ p) : IsName name ∧ ∀ c ∈ name.toList, c ∈ cs := by
  cases h with
  | @key n cs p hn h =>
    rcases List.mem_cons.mp hm with hm | hm
    · obtain rfl := Step.key.inj hm
      exact ⟨hn, fun c hc => List.mem_append_left cs hc⟩
    · have hr := h.isName_of_mem hm
      exact ⟨hr.1, fun c hc => List.mem_append_right n.toList (hr.2 c hc)⟩

end LayeredConfig.Path
