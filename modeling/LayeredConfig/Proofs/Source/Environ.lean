import Mathlib
import LayeredConfig.Environment
import LayeredConfig.Proofs.Path.Reordering
import LayeredConfig.Proofs.Store.Failing
import LayeredConfig.Proofs.Text.Replacing
import LayeredConfig.Snapshot

set_option autoImplicit false

/-!
# Settings from the variables of the process

The names of variables are any texts. Those that spell a key of the grammar set it, and the last
variable that sets a key decides its text; all others are passed over. The store reads the keys once
more, in lower case. They are in lower case already, so it finds nothing to object to, and merging
the variables in never fails.

## Main definitions

* `EnvironSource.Behind`, `EnvironSource.Spells` — what of a name counts, and the key it spells.
* `EnvironSource.Sets`, `EnvironSource.LastSets` — the variables that set a key.

## Main results

* `EnvironSource.keyOf?_eq_some_iff` — the key of a name.
* `EnvironSource.settings_ends` — what a sequence of variables sets.
* `EnvironSource.collect_merges` — collecting never fails, nor does merging what was collected.
-/

namespace LayeredConfig

namespace EnvironSource

/-! ## The keys of names -/

/-- What of a name counts: all of it, in lower case, where there is no prefix, and otherwise what
follows the prefix and an underscore. -/
inductive Behind (s : EnvironSource) (name : String) : List Char → Prop
  /-- There is no prefix. -/
  | whole : s.namePrefix = none ∨ s.namePrefix = some "" → Behind s name (Text.lower name).toList
  /-- The name begins with the prefix, in any letter case. -/
  | behind {p : String} {rest : List Char} :
      s.namePrefix = some p → p ≠ "" →
      (Text.lower name).toList = (Text.lower p).toList ++ '_' :: rest → Behind s name rest

/-- The key that a name spells: what of it counts, with dots for the separator. -/
inductive Spells (s : EnvironSource) (name : String) : String → Prop
  /-- There is no separator. -/
  | plain {key : String} :
      s.separator = none ∨ s.separator = some "" → s.Behind name key.toList → Spells s name key
  /-- Every occurrence of the separator, in any letter case, is replaced. -/
  | parted {sep key : String} {rest : List Char} :
      s.separator = some sep → sep ≠ "" → s.Behind name rest →
      Text.Replaced (Text.lower sep).toList ['.'] rest key.toList → Spells s name key

/-- A variable of this name sets a key: the name spells it, and it is in the grammar of paths. -/
structure Sets (s : EnvironSource) (name key : String) : Prop where
  /-- The name spells the key. -/
  spells : s.Spells name key
  /-- The key is in the grammar. -/
  grammatical : Path.Grammatical key.toList

/-- The last of some variables that sets a key has a text. -/
def LastSets (s : EnvironSource) (vars : List (String × String)) (key text : String) : Prop :=
  ∃ before name after, vars = before ++ (name, text) :: after ∧ s.Sets name key ∧
    ∀ x ∈ after, ¬ s.Sets x.1 key

variable {s : EnvironSource}

/-- An optional text is absent or empty, or it is another text. -/
lemma absent_or_exists (o : Option String) :
    (o = none ∨ o = some "") ∨ ∃ t, o = some t ∧ t ≠ "" := by
  cases o with
  | none => exact .inl (.inl rfl)
  | some t =>
    by_cases ht : t = ""
    · exact .inl (.inr (congrArg some ht))
    · exact .inr ⟨t, rfl, ht⟩

/-- Without a prefix the pattern is empty. -/
lemma pattern_of_absent (h : s.namePrefix = none ∨ s.namePrefix = some "") : s.pattern = "" := by
  rcases h with h | h <;> simp [pattern, h]

/-- The pattern is the prefix in lower case with an underscore. -/
lemma pattern_of_some {p : String} (h : s.namePrefix = some p) (hp : p ≠ "") :
    s.pattern = Text.lower p ++ "_" := by
  simp [pattern, h, hp, Text.lower_append_underscore]

/-- What of a name counts is what follows the pattern of the source. -/
lemma behind_iff {name : String} {rest : List Char} :
    s.Behind name rest ↔ (Text.lower name).toList = s.pattern.toList ++ rest := by
  constructor
  · intro h
    cases h with
    | whole habsent =>
      rw [pattern_of_absent habsent]
      rfl
    | behind hsome hp h =>
      rw [pattern_of_some hsome hp, String.toList_append, List.append_assoc]
      exact h
  · intro h
    rcases absent_or_exists s.namePrefix with habsent | ⟨p, hsome, hp⟩
    · rw [pattern_of_absent habsent] at h
      obtain rfl : (Text.lower name).toList = rest := h
      exact .whole habsent
    · rw [pattern_of_some hsome hp, String.toList_append, List.append_assoc] at h
      exact .behind hsome hp h

/-- Dots for the separator, if there is one. -/
lemma dotted_eq_iff {separator : Option String} {t key : String} :
    dotted (separator.map Text.lower) t = key ↔
      (separator = none ∨ separator = some "") ∧ t = key ∨
        ∃ sep, separator = some sep ∧ sep ≠ "" ∧
          Text.Replaced (Text.lower sep).toList ['.'] t.toList key.toList := by
  have hempty : Text.lower "" = "" := Text.lower_eq_empty_iff.mpr rfl
  rcases absent_or_exists separator with habsent | ⟨sep, rfl, hsep⟩
  · have hdotted : dotted (separator.map Text.lower) t = t := by
      rcases habsent with rfl | rfl <;> simp [dotted, hempty]
    rw [hdotted]
    refine ⟨fun h => .inl ⟨habsent, h⟩, ?_⟩
    rintro (⟨-, h⟩ | ⟨sep, rfl, hsep, -⟩)
    · exact h
    · simp [hsep] at habsent
  · have hlower : Text.lower sep ≠ "" := mt Text.lower_eq_empty_iff.mp hsep
    have hne : (Text.lower sep).toList ≠ [] := mt String.toList_eq_nil_iff.mp hlower
    have hfuel : t.toList.length < t.length + 1 := Nat.lt_succ_of_le String.length_toList.le
    rw [Option.map_some, dotted, if_neg (by simpa using hlower), ← String.toList_inj,
      String.toList_ofList, Text.replaceAll_eq_iff hne hfuel]
    constructor
    · exact fun h => .inr ⟨sep, rfl, hsep, h⟩
    · rintro (⟨habsent, -⟩ | ⟨sep', hsome, -, h⟩)
      · simp [hsep] at habsent
      · obtain rfl := Option.some.inj hsome
        exact h

/-- The key that a name spells is what of it counts, with dots for the separator. -/
lemma spells_iff {name key : String} :
    s.Spells name key ↔
      ∃ rest, s.Behind name rest ∧
        dotted (s.separator.map Text.lower) (String.ofList rest) = key := by
  constructor
  · intro h
    cases h with
    | plain habsent h =>
      exact ⟨_, h, dotted_eq_iff.mpr (.inl ⟨habsent, String.ofList_toList⟩)⟩
    | parted hsome hsep h hreplaced =>
      refine ⟨_, h, dotted_eq_iff.mpr (.inr ⟨_, hsome, hsep, ?_⟩)⟩
      rwa [String.toList_ofList]
  · rintro ⟨rest, h, hkey⟩
    rcases dotted_eq_iff.mp hkey with ⟨habsent, rfl⟩ | ⟨sep, hsome, hsep, hreplaced⟩
    · refine .plain habsent ?_
      rwa [String.toList_ofList]
    · rw [String.toList_ofList] at hreplaced
      exact .parted hsome hsep h hreplaced

/-- **The key of a name** is the one that it spells. -/
theorem keyOf?_eq_some_iff {name key : String} :
    s.keyOf? name = some key ↔ s.Spells name key := by
  rw [spells_iff]
  simp only [behind_iff, keyOf?]
  split_ifs with hprefix
  · obtain ⟨rest, hrest⟩ := List.isPrefixOf_iff_prefix.mp hprefix
    rw [← hrest, List.drop_left, Option.some.injEq]
    constructor
    · exact fun h => ⟨rest, rfl, h⟩
    · rintro ⟨rest', h, hkey⟩
      obtain rfl := List.append_cancel_left h
      exact hkey
  · refine iff_of_false nofun ?_
    rintro ⟨rest, h, -⟩
    exact hprefix (List.isPrefixOf_iff_prefix.mpr ⟨rest, h.symm⟩)

/-- A name spells one key at most. -/
lemma Spells.unique {name key key' : String} (h : s.Spells name key) (h' : s.Spells name key') :
    key = key' :=
  Option.some.inj ((keyOf?_eq_some_iff.mpr h).symm.trans (keyOf?_eq_some_iff.mpr h'))

/-! ## What keys are made of -/

/-- What of a name counts stands in its lower-case form. -/
lemma Behind.infix_lower {name : String} {rest : List Char} (h : s.Behind name rest) :
    rest <:+: (Text.lower name).toList := by
  rw [behind_iff.mp h]
  exact (List.suffix_append _ _).isInfix

/-- What of a name counts is in lower case. -/
lemma Behind.isLowerCase {name : String} {rest : List Char} (h : s.Behind name rest) :
    ∀ c ∈ rest, Text.lowerChar c = c :=
  fun c hc => Text.isLowerCase_lower name c (h.infix_lower.subset hc)

/-- A key is in lower case. -/
lemma Spells.isLowerCase {name key : String} (h : s.Spells name key) : Text.IsLowerCase key := by
  cases h with
  | plain _ h => exact h.isLowerCase
  | parted _ _ h hreplaced =>
    intro c hc
    rcases hreplaced.mem_or_mem hc with hc | hc
    · exact h.isLowerCase c hc
    · obtain rfl := List.mem_singleton.mp hc
      exact Path.lowerChar_separator (by decide)

/-- The runs of digits of a key are those of the name. -/
lemma Spells.digitRunsIn {name key : String} (h : s.Spells name key) :
    Text.DigitRunsIn key.toList name.toList := by
  cases h with
  | plain _ h =>
    exact (Text.digitRunsIn_of_infix h.infix_lower).trans (Text.digitRunsIn_lower name)
  | parted _ _ h hreplaced =>
    exact (hreplaced.digitRunsIn (by decide)).trans
      ((Text.digitRunsIn_of_infix h.infix_lower).trans (Text.digitRunsIn_lower name))

/-- Where no run of digits is too long, a key of the grammar is read as a path. -/
lemma exists_parse_of_grammatical {key : String}
    (hshort : Text.DigitRunsWithin Number.digitLimit key.toList)
    (h : Path.Grammatical key.toList) : ∃ p, Path.parse key = .ok p := by
  rcases h.spells_or_overlong with ⟨p, hp⟩ | ⟨n, hlong⟩
  · exact ⟨p, hp.parse_eq⟩
  · exact absurd hlong (Path.not_overlong_of_digitRunsWithin hshort n)

/-! ## A sequence of variables -/

/-- The setting that a text is. -/
def setting (text : String) : Value :=
  .scalar (some origin) (.text text)

/-- A variable that sets a key does so, and the others follow. -/
lemma settings_cons_of_sets {name text key : String} (h : s.Sets name key)
    (hshort : Text.DigitRunsWithin Number.digitLimit name.toList) (done : Entries String Value)
    (vars : List (String × String)) :
    s.settings done ((name, text) :: vars) = s.settings (done.put key (setting text)) vars := by
  obtain ⟨p, hp⟩ :=
    exists_parse_of_grammatical (h.spells.digitRunsIn.within hshort) h.grammatical
  simp only [settings, keyOf?_eq_some_iff.mpr h.spells, hp]
  rfl

/-- A variable that sets no key is passed over. -/
lemma settings_cons_of_not_sets {name text : String} (h : ∀ key, ¬ s.Sets name key)
    (hshort : Text.DigitRunsWithin Number.digitLimit name.toList) (done : Entries String Value)
    (vars : List (String × String)) :
    s.settings done ((name, text) :: vars) = s.settings done vars := by
  cases hkey : s.keyOf? name with
  | none => simp only [settings, hkey]
  | some key =>
    have hspells := keyOf?_eq_some_iff.mp hkey
    have hbad : ¬ Path.Grammatical key.toList := fun hg => h key ⟨hspells, hg⟩
    obtain ⟨m, hm⟩ := Path.parse_malformed_iff.mpr
      ⟨hbad, Path.not_overlong_of_digitRunsWithin (hspells.digitRunsIn.within hshort)⟩
    simp only [settings, hkey, hm]

/-- The last variable that sets a key is among those behind the first one, or it is the first. -/
lemma lastSets_cons_iff {x : String × String} {vars : List (String × String)} {key text : String} :
    s.LastSets (x :: vars) key text ↔
      s.LastSets vars key text ∨
        x.2 = text ∧ s.Sets x.1 key ∧ ∀ y ∈ vars, ¬ s.Sets y.1 key := by
  constructor
  · rintro ⟨before, name, after, hsplit, hsets, hafter⟩
    cases before with
    | nil =>
      obtain ⟨rfl, rfl⟩ := List.cons.inj hsplit
      exact .inr ⟨rfl, hsets, hafter⟩
    | cons y before =>
      obtain ⟨-, rfl⟩ := List.cons.inj hsplit
      exact .inl ⟨before, name, after, rfl, hsets, hafter⟩
  · rintro (⟨before, name, after, rfl, hsets, hafter⟩ | ⟨rfl, hsets, hvars⟩)
    · exact ⟨x :: before, name, after, rfl, hsets, hafter⟩
    · exact ⟨[], x.1, vars, rfl, hsets, hvars⟩

/-- There is a last variable that sets a key iff some variable sets it. -/
lemma exists_lastSets_iff {vars : List (String × String)} {key : String} :
    (∃ text, s.LastSets vars key text) ↔ ∃ x ∈ vars, s.Sets x.1 key := by
  induction vars with
  | nil =>
    refine iff_of_false ?_ (by simp)
    rintro ⟨text, before, name, after, hsplit, -⟩
    simp at hsplit
  | cons x vars ih =>
    simp only [lastSets_cons_iff, exists_or, ih, List.exists_mem_cons_iff]
    constructor
    · rintro (h | ⟨text, -, hsets, -⟩)
      · exact .inr h
      · exact .inl hsets
    · rintro (hsets | h)
      · by_cases hvars : ∃ y ∈ vars, s.Sets y.1 key
        · exact .inl hvars
        · exact .inr ⟨x.2, rfl, hsets, fun y hy hys => hvars ⟨y, hy, hys⟩⟩
      · exact .inl h

/-- **What a sequence of variables sets**, on top of what is done: no name without long runs of
digits is a fault; and what stands at a key afterwards is the text of the last variable that sets
it, or, where none does, what stood there before. -/
theorem settings_ends {vars : List (String × String)}
    (hshort : ∀ x ∈ vars, Text.DigitRunsWithin Number.digitLimit x.1.toList)
    {done : Entries String Value} (hdone : done.keys.Nodup) :
    ∃ found, s.settings done vars = .ok found ∧ found.keys.Nodup ∧
      ∀ key v, found.get? key = some v ↔
        (∃ text, s.LastSets vars key text ∧ v = setting text) ∨
          done.get? key = some v ∧ ∀ x ∈ vars, ¬ s.Sets x.1 key := by
  induction vars generalizing done with
  | nil =>
    have hnone (key text : String) : ¬ s.LastSets [] key text := fun h => by
      obtain ⟨x, hx, -⟩ := exists_lastSets_iff.mp ⟨text, h⟩
      cases hx
    exact ⟨done, rfl, hdone, fun key v => by simp [hnone]⟩
  | cons x vars ih =>
    obtain ⟨hx, hvars⟩ := List.forall_mem_cons.mp hshort
    simp only [lastSets_cons_iff, List.forall_mem_cons]
    by_cases hsets : ∃ key, s.Sets x.1 key
    · obtain ⟨key₀, hsets⟩ := hsets
      obtain ⟨found, hfound, hnodup, hget⟩ :=
        ih hvars (Entries.nodup_keys_alter hdone key₀ fun _ => setting x.2)
      refine ⟨found, (settings_cons_of_sets hsets hx done vars).trans hfound, hnodup, ?_⟩
      intro key v
      rw [hget]
      by_cases hkey : key = key₀
      · subst hkey
        rw [Entries.get?_alter_self]
        constructor
        · rintro (⟨text, hlast, rfl⟩ | ⟨hv, hlast⟩)
          · exact .inl ⟨text, .inl hlast, rfl⟩
          · exact .inl ⟨x.2, .inr ⟨rfl, hsets, hlast⟩, (Option.some.inj hv).symm⟩
        · rintro (⟨text, hlast | ⟨rfl, -, hlast⟩, rfl⟩ | ⟨-, hnot, -⟩)
          · exact .inl ⟨text, hlast, rfl⟩
          · exact .inr ⟨rfl, hlast⟩
          · exact absurd hsets hnot
      · have hother : ¬ s.Sets x.1 key := fun h => hkey (h.spells.unique hsets.spells)
        rw [Entries.get?_alter_of_ne hkey]
        simp [hother]
    · have hnone : ∀ key, ¬ s.Sets x.1 key := not_exists.mp hsets
      obtain ⟨found, hfound, hnodup, hget⟩ := ih hvars hdone
      refine ⟨found, (settings_cons_of_not_sets hnone hx done vars).trans hfound, hnodup, ?_⟩
      intro key v
      rw [hget]
      simp [hnone]

/-! ## Merging -/

/-- A variable's setting is an entry that can be taken apart: the store reads its key once more, in
lower case, which it is in. -/
lemma Sets.delivers {name key : String} (h : s.Sets name key)
    (hshort : Text.DigitRunsWithin Number.digitLimit name.toList) (v : Value) :
    Entry.Delivers (.text key, .value v) where
  key := by
    obtain ⟨p, hp⟩ :=
      exists_parse_of_grammatical (h.spells.digitRunsIn.within hshort) h.grammatical
    refine ⟨key, p, rfl, ?_⟩
    rw [Path.parseKey, Text.lower_eq_self h.spells.isLowerCase]
    exact hp
  data := (Value.build_ends (o := none) (.value v)).2.mp ⟨v, rfl⟩

/-- **Settings from the variables of the process.** Where no name has a run of digits that is too
long to be read, collecting them succeeds and asks nobody. A key is set iff some variable sets it,
and its value is the text of the last one that does. Merging the source into a store that is open to
changes succeeds, whatever its filter, if the other sources of the store contribute.

**Proof sketch.** The variables are taken one after the other (`settings_ends`). Their keys are read
without a fault, since runs of digits in a key are runs of digits in the name
(`Spells.digitRunsIn`); and once more in the store, since they are in lower case
(`Spells.isLowerCase`). So the source delivers, and it is the last one that is asked. -/
theorem collect_merges {w : World}
    (hshort : ∀ x ∈ s.given.getD w.environ, Text.DigitRunsWithin Number.digitLimit x.1.toList) :
    ∃ found : Entries String Value,
      s.collect w = (.ok (.record (found.map fun e => (e.1, .value e.2))), w) ∧
      found.keys.Nodup ∧
      (∀ key, key ∈ found.keys ↔ ∃ x ∈ s.given.getD w.environ, s.Sets x.1 key) ∧
      (∀ key v, found.get? key = some v ↔
        ∃ text, s.LastSets (s.given.getD w.environ) key text ∧
          v = .scalar (some origin) (.text text)) ∧
      ∀ (st : Store World) (f : Option Filter) (w₀ : World) (leaves : List (Path × Value)),
        st.frozen = false → gather st.sources w₀ = (.ok leaves, w) →
        ∃ st', st.merge ⟨(Adapter.environ s).source, f⟩ w₀ = (.ok st', w) := by
  have hempty : (Entries.keys ([] : Entries String Value)).Nodup := List.nodup_nil
  obtain ⟨found, hfound, hnodup, hget⟩ := settings_ends (s := s) hshort hempty
  have hlast (key : String) (v : Value) : found.get? key = some v ↔
      ∃ text, s.LastSets (s.given.getD w.environ) key text ∧ v = setting text := by
    simp [hget]
  have hkeys (key : String) :
      key ∈ found.keys ↔ ∃ x ∈ s.given.getD w.environ, s.Sets x.1 key := by
    rw [← exists_lastSets_iff, ← not_iff_not, ← Entries.get?_eq_none_iff,
      Option.eq_none_iff_forall_ne_some]
    simp only [ne_eq, hlast, not_exists, not_and]
    exact ⟨fun h text htext => h _ text htext rfl, fun h _ text htext _ => h text htext⟩
  have hcollect : s.collect w = (.ok (.record (found.map fun e => (e.1, .value e.2))), w) := by
    simp only [collect, hfound, Except.map]
  have hdelivers (f : Option Filter) :
      Registered.Delivers ⟨(Adapter.environ s).source, f⟩ w w := by
    refine ⟨_, hcollect, fun e he => ?_⟩
    obtain ⟨_, hmem, rfl⟩ := List.mem_map.mp he
    obtain ⟨⟨key, v⟩, hentry, rfl⟩ := List.mem_map.mp hmem
    obtain ⟨x, hx, hsets⟩ := (hkeys key).mp (List.mem_map_of_mem hentry)
    exact hsets.delivers (hshort x hx) v
  refine ⟨found, hcollect, hnodup, hkeys, hlast, fun st f w₀ leaves hopen hgather => ?_⟩
  exact Store.merge_of_delivers hopen ((gather_ends st.sources w₀).2 w |>.mp ⟨leaves, hgather⟩)
    (hdelivers f)

/-- Two variables that set the same key, and one that sets none. -/
def application : EnvironSource :=
  .make (some "App") (some "__")
    (some [("APP_DB__HOST", "first"), ("APP_[", "none"), ("app_db.host", "second")]) none

/-- The last variable of `application` sets `db.host`. -/
lemma sets_application : application.Sets "app_db.host" "db.host" where
  spells := keyOf?_eq_some_iff.mp (by decide +kernel)
  grammatical :=
    @Path.Grammatical.key "db" _ (by decide) (@Path.Trails.key "host" _ (by decide) .nil)

/-- Of two variables that set the same key the later one counts, and their source can be merged. -/
theorem collect_merges_application :
    (∀ x ∈ application.given.getD World.bare.environ,
      Text.DigitRunsWithin Number.digitLimit x.1.toList) ∧
    ∃ found : Entries String Value,
      application.collect .bare = (.ok (.record (found.map fun e => (e.1, .value e.2))), .bare) ∧
      found.get? "db.host" = some (.scalar (some origin) (.text "second")) ∧
      ∃ st', Store.empty.merge ⟨(Adapter.environ application).source, none⟩ World.bare =
        (.ok st', .bare) := by
  have hshort : ∀ x ∈ application.given.getD World.bare.environ,
      Text.DigitRunsWithin Number.digitLimit x.1.toList := by
    have hlength : ∀ x ∈ application.given.getD World.bare.environ,
        x.1.toList.length ≤ Number.digitLimit := by decide
    exact fun x hx => Text.digitRunsWithin_of_length_le (hlength x hx)
  obtain ⟨found, hcollect, -, -, hget, hmerge⟩ := collect_merges hshort
  refine ⟨hshort, found, hcollect, (hget _ _).mpr ⟨"second", ?_, rfl⟩, hmerge _ _ _ [] rfl rfl⟩
  exact ⟨[("APP_DB__HOST", "first"), ("APP_[", "none")], "app_db.host", [], rfl, sets_application,
    List.forall_mem_nil _⟩

end EnvironSource

end LayeredConfig
