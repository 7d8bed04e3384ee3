import Mathlib
import LayeredConfig.Proofs.Entries.LastWrite
import LayeredConfig.Proofs.Source.Environ
import LayeredConfig.Proofs.Source.GitHub

set_option autoImplicit false

/-!
# Variables of GitHub environments that come in pages

A server that lists the variables of an environment gives as many on a page as are asked for, until
none are left. So the first page that is not full is the last one, also where it is empty, and what
the pages list is all variables in order. A name that is listed again has the last of its values; of
names that are one key, in lower case and with dots for the separator, the one counts that was the
last to be listed for the first time.

## Main definitions

* `GitHubSource.Describes`, `GitHubSource.Lists` — objects and pages as variables that they list.
* `GitHubSource.Serves` — a server gives variables page by page.
* `GitHubSource.Spells` — the key that a name becomes.

## Main results

* `GitHubSource.listFrom_of_serves` — which requests are made, and what they list.
* `GitHubSource.settings_listed` — settings as a map made of a map.
* `GitHubSource.collect_pages` — collecting the variables that a server gives page by page.
-/

namespace LayeredConfig

/-! ## Tables with textual keys -/

/-- Writing an entry with a textual key is writing it where all keys are texts. -/
lemma Datum.putEntry_text {α : Type} (data : α → Datum) (k : String) (x : α)
    (es : Entries String α) :
    putEntry (.text k) (data x) (es.map fun e => (.text e.1, data e.2)) =
      (es.put k x).map fun e => (.text e.1, data e.2) := by
  induction es with
  | nil => rfl
  | cons e es ih =>
    have hsame : (DatumKey.text e.1).same (.text k) = decide (e.1 = k) := by
      simp [DatumKey.same, DatumKey.number?]
    rw [Entries.put] at ih ⊢
    rw [List.map_cons, putEntry, hsame, Entries.alter]
    by_cases he : e.1 = k
    · simp [he]
    · simpa [he] using ih

namespace GitHubSource

/-! ## Pages -/

/-- What stands in a variable: a text, or nothing. -/
def scalarOf : Option String → Scalar
  | some t => .text t
  | none => .nil

/-- An object describes a variable: it has its name, and its value if there is one. Other fields do
not count. -/
def Describes (d : Datum) (x : String × Option String) : Prop :=
  ∃ fields, d = .mapping fields ∧ Datum.getEntry? (.text "name") fields = some (.text x.1) ∧
    (Datum.getEntry? (.text "value") fields).getD .nil = .ofScalar (scalarOf x.2)

/-- An answer lists variables: it is a success, and its items describe them in order. -/
def Lists (o : PageOutcome) (xs : List (String × Option String)) : Prop :=
  ∃ r fields items, o = .ok r ∧ r.status = .ok () ∧ r.data = .ok (.mapping fields) ∧
    Datum.getEntry? (.text "variables") fields = some (.sequence items) ∧
    List.Forall₂ Describes items xs

/-- A server serves variables in pages, from one on: asked for the pages in order, it lists as many
variables as a page holds, one page after the other, up to the first page that is not full. -/
def Serves (path : String) (page : Nat) (web : WebClient) (xs : List (String × Option String)) :
    Prop :=
  ∀ i ≤ xs.length / pageSize,
    Lists (outcomeOf (afterCalls web i) (.page path pageSize (page + i)))
      ((xs.drop (i * pageSize)).take pageSize)

/-- A variable as it is listed. -/
def listed (x : String × Option String) : DatumKey × Datum :=
  (.text x.1, .ofScalar (scalarOf x.2))

/-- An object that describes a variable lists it. -/
lemma variableOf_of_describes {d : Datum} {x : String × Option String} (h : Describes d x) :
    variableOf d = .ok (listed x) := by
  obtain ⟨fields, rfl, hname, hvalue⟩ := h
  simp only [variableOf, hname, hvalue, listed, Datum.toKey?]

/-- Objects that describe variables list them. -/
lemma mapM_variableOf {items : List Datum} {xs : List (String × Option String)}
    (h : List.Forall₂ Describes items xs) : items.mapM variableOf = .ok (xs.map listed) := by
  induction h with
  | nil => rfl
  | cons hx _ ih =>
    rw [List.mapM_cons, variableOf_of_describes hx, ih]
    rfl

/-- What an answer lists is found in it. -/
lemma answered_of_lists {o : PageOutcome} {xs : List (String × Option String)} (h : Lists o xs) :
    answered o = .ok (xs.map listed) := by
  obtain ⟨r, fields, items, rfl, hstatus, hdata, hitems, hxs⟩ := h
  refine answered_ok_iff.mpr ⟨r, _, rfl, hstatus, hdata, ?_⟩
  have hlist : itemsOf (.mapping fields) = .ok items := by
    simp only [itemsOf, hitems, Datum.elements?]
  simpa only [pageVariables, hlist, Fault.ok_bind, Fault.error_bind] using mapM_variableOf hxs

/-- The surroundings after so many pages were asked for in order, from one on: the calls are noted,
and the answers are used up. -/
def asked (path : String) (page count : Nat) (w : World) : World :=
  { w with
    calls := w.calls ++ (List.range' page count).map (Call.page path pageSize)
    web := afterCalls w.web count }

section Listing

variable {path : String} {page : Nat} {web : WebClient} {w : World}
  {xs : List (String × Option String)}

/-- A call that is answered takes the next answer. -/
lemma fetch_of_lists (h : Lists (outcomeOf w.web (.page path pageSize page)) xs) :
    fetch (.page path pageSize page) w =
      (outcomeOf w.web (.page path pageSize page), asked path page 1 w) :=
  fetch_of_not_refused (not_refused_of_answered (answered_of_lists h))

/-- A page and those behind it are asked for in order. -/
lemma asked_asked (path : String) (page count : Nat) (w : World) :
    asked path (page + 1) count (asked path page 1 w) = asked path page (count + 1) w := by
  simp only [asked, afterCalls, List.range'_succ, List.drop_drop, Nat.add_comm 1 count]
  simp

/-- Listing ends with a page that is not full. -/
lemma listFrom_of_short (fuel : Nat) (h : Lists (outcomeOf w.web (.page path pageSize page)) xs)
    (hshort : xs.length < pageSize) :
    listFrom path (fuel + 1) page w = (.ok (xs.map listed), asked path page 1 w) := by
  have hlength : (xs.map listed).length < pageSize := by rwa [List.length_map]
  simp only [listFrom, fetch_of_lists h, answered_of_lists h, if_pos hlength]

/-- Behind a full page, listing goes on with the next one. -/
lemma listFrom_of_full {fuel : Nat} (h : Lists (outcomeOf w.web (.page path pageSize page)) xs)
    (hfull : pageSize ≤ xs.length) {more : List (DatumKey × Datum)} {w' : World}
    (hmore : listFrom path fuel (page + 1) (asked path page 1 w) = (.ok more, w')) :
    listFrom path (fuel + 1) page w = (.ok (xs.map listed ++ more), w') := by
  have hlength : ¬ (xs.map listed).length < pageSize := by rwa [List.length_map, not_lt]
  simp only [listFrom, fetch_of_lists h, answered_of_lists h, if_neg hlength, hmore]

/-- The first page lists as many variables as a page holds. -/
lemma Serves.first (h : Serves path page web xs) :
    Lists (outcomeOf web (.page path pageSize page)) (xs.take pageSize) := by
  simpa [afterCalls] using h 0 (Nat.zero_le _)

/-- A full page is one more than those of the variables behind it. -/
lemma div_pageSize (hfull : pageSize ≤ xs.length) :
    xs.length / pageSize = (xs.drop pageSize).length / pageSize + 1 := by
  rw [List.length_drop, Nat.div_eq_sub_div (by decide) hfull]

/-- Behind a full page, the server serves the other variables. -/
lemma Serves.drop (h : Serves path page web xs) (hfull : pageSize ≤ xs.length) :
    Serves path (page + 1) (afterCalls web 1) (xs.drop pageSize) := by
  intro i hi
  have hnext := h (i + 1) (by rw [div_pageSize hfull]; omega)
  have hweb : afterCalls (afterCalls web 1) i = afterCalls web (i + 1) := by
    simp only [afterCalls, List.drop_drop, Nat.add_comm 1 i]
  rwa [hweb, List.drop_drop, Nat.add_comm pageSize, ← Nat.succ_mul, Nat.add_right_comm page 1 i]

/-- The page after the last one lists nothing. -/
lemma eq_nil_of_lists_lastPage (h : Lists lastPage xs) : xs = [] :=
  List.map_eq_nil_iff.mp (Except.ok.inj ((answered_of_lists h).symm.trans answered_lastPage))

/-- There is an answer for each full page. -/
lemma Serves.div_le_length (h : Serves path page web xs) :
    xs.length / pageSize ≤ web.answers.length := by
  by_contra hlt
  have hlists := h web.answers.length (Nat.le_of_not_le hlt)
  have hnone : (afterCalls web web.answers.length).answers = [] := List.drop_length
  have hlast : Lists lastPage
      ((xs.drop (web.answers.length * pageSize)).take pageSize) := by
    unfold outcomeOf at hlists
    split at hlists
    · obtain ⟨r, -, -, hfault, -⟩ := hlists
      cases hfault
    · rwa [hnone] at hlists
  have hnil := List.take_eq_nil_iff.mp (eq_nil_of_lists_lastPage hlast)
  have hdrop : xs.length ≤ web.answers.length * pageSize :=
    List.drop_eq_nil_iff.mp (hnil.resolve_left (by decide))
  exact hlt (Nat.div_le_of_le_mul (by rwa [Nat.mul_comm]))

/-- **Listing page by page.** Pages are asked for in order, up to the first one that is not full,
and what they list is all variables in order. The bound on the number of pages only has to be large
enough.

**Proof sketch.** Induction on the bound. Where fewer variables are left than a page holds, the page
lists them and is the last one. Otherwise it is full, and the next pages serve what is left
(`Serves.drop`). -/
theorem listFrom_of_serves {fuel : Nat} (h : Serves path page w.web xs)
    (hfuel : xs.length / pageSize < fuel) :
    listFrom path fuel page w =
      (.ok (xs.map listed), asked path page (xs.length / pageSize + 1) w) := by
  induction fuel generalizing page w xs with
  | zero => exact absurd hfuel (Nat.not_lt_zero _)
  | succ fuel ih =>
    have hfirst := h.first
    by_cases hshort : xs.length < pageSize
    · rw [List.take_of_length_le hshort.le] at hfirst
      rw [listFrom_of_short fuel hfirst hshort, Nat.div_eq_of_lt hshort]
    · have hfull : pageSize ≤ xs.length := not_lt.mp hshort
      have hpages := div_pageSize hfull
      have hlength : pageSize ≤ (xs.take pageSize).length := by
        rw [List.length_take, Nat.min_eq_left hfull]
      have hmore : listFrom path fuel (page + 1) (asked path page 1 w) = _ :=
        ih (h.drop hfull) (by omega)
      rw [listFrom_of_full hfirst hlength hmore, ← List.map_append, List.take_append_drop,
        asked_asked, hpages]

end Listing

/-! ## Pages of objects -/

/-- A variable as an object of a page. -/
def objectOf (x : String × Option String) : Datum :=
  .mapping [(.text "name", .text x.1), (.text "value", .ofScalar (scalarOf x.2))]

/-- An object of a page describes its variable. -/
lemma describes_objectOf (x : String × Option String) : Describes (objectOf x) x := by
  refine ⟨_, rfl, ?_, ?_⟩
  · simp [Datum.getEntry?, DatumKey.same, DatumKey.number?]
  · simp [Datum.getEntry?, DatumKey.same, DatumKey.number?]

/-- A page of variables, each of which is an object. -/
def pageOf (xs : List (String × Option String)) : PageOutcome :=
  success (.record [("variables", .sequence (xs.map objectOf))])

/-- A page of objects lists their variables. -/
lemma lists_pageOf (xs : List (String × Option String)) : Lists (pageOf xs) xs := by
  refine ⟨_, _, xs.map objectOf, rfl, rfl, rfl, ?_, ?_⟩
  · simp [Datum.getEntry?, DatumKey.same, DatumKey.number?]
  · exact List.forall₂_map_left_iff.mpr (List.forall₂_same.mpr fun x _ => describes_objectOf x)

/-- A full page, on which two names become one key. -/
def fullPage : List (String × Option String) :=
  ("DB__HOST", some "first") :: List.replicate 97 ("PORT", some "80") ++
    [("db__host", some "second"), ("DB__HOST", none)]

/-! ## Settings -/

/-- The key that a name becomes: the name in lower case, with dots for the separator. -/
inductive Spells (s : GitHubSource) (name : String) : String → Prop
  /-- There is no separator. -/
  | plain : s.separator = none ∨ s.separator = some "" → Spells s name (Text.lower name)
  /-- Every occurrence of the separator, in any letter case, is replaced. -/
  | parted {sep key : String} :
      s.separator = some sep → sep ≠ "" →
      Text.Replaced (Text.lower sep).toList ['.'] (Text.lower name).toList key.toList →
      Spells s name key

/-- The key of a name. -/
def keyOf (s : GitHubSource) (name : String) : String :=
  dotted (s.separator.map Text.lower) (Text.lower name)

/-- The setting that the value of a variable is. -/
def settingOf (s : GitHubSource) (value : Option String) : Value :=
  .scalar (some s.uri) (scalarOf value)

section Settings

variable {s : GitHubSource}

/-- The key of a name is the one that it becomes. -/
lemma keyOf_eq_iff {name key : String} : s.keyOf name = key ↔ s.Spells name key := by
  rw [keyOf, EnvironSource.dotted_eq_iff]
  constructor
  · rintro (⟨habsent, rfl⟩ | ⟨sep, hsome, hsep, hreplaced⟩)
    · exact .plain habsent
    · exact .parted hsome hsep hreplaced
  · intro h
    cases h with
    | plain habsent => exact .inl ⟨habsent, rfl⟩
    | parted hsome hsep hreplaced => exact .inr ⟨_, hsome, hsep, hreplaced⟩

/-- A repeated name keeps its first place and has its last value. -/
lemma foldl_putEntry_listed (xs : List (String × Option String)) :
    (xs.map listed).foldl (fun es e => Datum.putEntry e.1 e.2 es) [] =
      (Entries.ofList xs).map listed := by
  induction xs using List.reverseRecOn with
  | nil => rfl
  | append_singleton xs x ih =>
    rw [List.map_append, List.foldl_append, ih, Entries.ofList_concat]
    exact Datum.putEntry_text (fun v => .ofScalar (scalarOf v)) x.1 x.2 _

/-- Variables whose names differ are written one after the other. -/
lemma settingsFrom_listed (done : Entries String Value) (xs : List (String × Option String)) :
    s.settingsFrom done (xs.map listed) =
      .ok ((xs.map fun x => (s.keyOf x.1, s.settingOf x.2)).foldl
        (fun es e => es.put e.1 e.2) done) := by
  induction xs generalizing done with
  | nil => rfl
  | cons x xs ih =>
    obtain ⟨name, value⟩ := x
    have hvalue : Value.ofDatum (.ofScalar (scalarOf value)) (some s.uri) =
        .ok (s.settingOf value) := by
      cases value <;> rfl
    rw [List.map_cons, listed, settingsFrom, hvalue]
    exact ih _

/-- **The settings of variables** are a map made of a map: first each name has the last of its
values, then each key has that of the last of its names. -/
theorem settings_listed (xs : List (String × Option String)) :
    s.settings (xs.map listed) =
      .ok (Entries.ofList
        ((Entries.ofList xs).map fun x => (s.keyOf x.1, s.settingOf x.2))) := by
  rw [settings, foldl_putEntry_listed, settingsFrom_listed]
  rfl

end Settings

/-! ## Collecting -/

/-- Of some variables, the one of this name counts for a key, and has this value: the name becomes
the key, of all such names it is the last one to be listed for the first time, and the value is the
last one that is listed for it. -/
structure Decides (s : GitHubSource) (xs : List (String × Option String)) (key name : String)
    (value : Option String) : Prop where
  /-- The name becomes the key. -/
  spells : s.Spells name key
  /-- The value is the last one of the name. -/
  last : Entries.LastWrite xs name value
  /-- No other name that becomes the key is listed for the first time behind it. -/
  latest : ∀ other ∈ xs.map Prod.fst, s.Spells other key →
    (xs.map Prod.fst).idxOf other ≤ (xs.map Prod.fst).idxOf name

/-- Of two names on the full pages that become one key, the one counts that is listed for the first
time behind the other one, although that is listed last. -/
lemma decides_fullPage :
    production.Decides (fullPage ++ fullPage) "db.host" "db__host" (some "second") where
  spells := keyOf_eq_iff.mp (by decide +kernel)
  last := by
    refine ⟨fullPage ++ fullPage.take 98, [("DB__HOST", none)], rfl, ?_⟩
    decide
  latest := by
    intro other hother _
    have hnames : other = "DB__HOST" ∨ other = "PORT" ∨ other = "db__host" := by
      simp only [fullPage, List.map_append, List.map_cons, List.map_replicate, List.mem_append,
        List.mem_cons, List.mem_replicate, or_self] at hother
      grind
    rcases hnames with rfl | rfl | rfl
    · decide +kernel
    · decide +kernel
    · exact le_rfl

/-- **Collecting variables page by page.** Where the server serves variables in pages of 100,
collecting them succeeds.

* The pages 1, 2, ... are asked for in order, one more than there are full pages, and nothing else
  happens.
* A key is set iff it is that of a variable, and no key is set twice.
* Its value is the last one of a name, which is the last to be listed for the first time of those
  that become the key.

**Proof sketch.** Listing ends with the first page that is not full, and what it has listed is all
variables (`listFrom_of_serves`). Their settings are a map made of a map (`settings_listed`), so
what stands at a key is known (`Entries.get?_ofList_map_ofList`). -/
theorem collect_pages {s : GitHubSource} {w : World} {xs : List (String × Option String)}
    (h : Serves s.address.path 1 w.web xs) :
    ∃ found : Entries String Value,
      s.collect w = (.ok (.record (found.map fun e => (e.1, .value e.2))),
        { w with
          calls := w.calls ++
            (List.range' 1 (xs.length / pageSize + 1)).map (Call.page s.address.path pageSize)
          web := afterCalls w.web (xs.length / pageSize + 1) }) ∧
      found.keys.Nodup ∧
      (∀ key, key ∈ found.keys ↔ ∃ x ∈ xs, s.Spells x.1 key) ∧
      ∀ key v, found.get? key = some v ↔
        ∃ name value, s.Decides xs key name value ∧ v = .scalar (some s.uri) (scalarOf value) := by
  have hlist : s.list w =
      (.ok (xs.map listed), asked s.address.path 1 (xs.length / pageSize + 1) w) :=
    listFrom_of_serves h (Nat.lt_succ_of_le h.div_le_length)
  refine ⟨Entries.ofList ((Entries.ofList xs).map fun x => (s.keyOf x.1, s.settingOf x.2)), ?_,
    Entries.nodup_keys_ofList _, fun key => ?_, fun key v => ?_⟩
  · rw [collect, hlist]
    dsimp only
    rw [settings_listed]
    rfl
  · simp only [Entries.mem_keys_ofList_map_ofList, keyOf_eq_iff]
  · rw [Entries.get?_ofList_map_ofList]
    constructor
    · rintro ⟨name, value, hlast, hkey, rfl, hlatest⟩
      refine ⟨name, value, ⟨keyOf_eq_iff.mp hkey, hlast, fun other hother hspells => ?_⟩, rfl⟩
      exact hlatest other hother (keyOf_eq_iff.mpr hspells)
    · rintro ⟨name, value, ⟨hspells, hlast, hlatest⟩, rfl⟩
      refine ⟨name, value, hlast, keyOf_eq_iff.mpr hspells, rfl, fun other hother hkey => ?_⟩
      exact hlatest other hother (keyOf_eq_iff.mp hkey)

/-- Two full pages with the same names: a third page is asked for, which is empty. -/
theorem collect_pages_repeated :
    let xs := fullPage ++ fullPage
    let w := answering [pageOf fullPage, pageOf fullPage]
    let call := Call.page "/repos/acme/api/environments/production/variables" 100
    Serves production.address.path 1 w.web xs ∧
      ∃ found : Entries String Value,
        production.collect w = (.ok (.record (found.map fun e => (e.1, .value e.2))),
          { World.bare with calls := [call 1, call 2, call 3] }) ∧
        found.get? "db.host" = some (.scalar (some production.uri) (.text "second")) := by
  intro xs w call
  have hcount : xs.length / pageSize = 2 := by
    decide +kernel
  have hserves : Serves production.address.path 1 w.web xs := by
    intro i hi
    rw [hcount] at hi
    interval_cases i
    · exact lists_pageOf fullPage
    · exact lists_pageOf fullPage
    · exact ⟨_, _, [], rfl, rfl, rfl, rfl, .nil⟩
  obtain ⟨found, hcollect, -, -, hget⟩ := collect_pages hserves
  rw [hcount] at hcollect
  have hpath : production.address.path = "/repos/acme/api/environments/production/variables" := by
    decide +kernel
  rw [hpath] at hcollect
  exact ⟨hserves, found, hcollect, (hget _ _).mpr ⟨_, _, decides_fullPage, rfl⟩⟩

end GitHubSource

end LayeredConfig
