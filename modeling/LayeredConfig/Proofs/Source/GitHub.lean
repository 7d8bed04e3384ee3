import Mathlib
import LayeredConfig.Proofs.Value.Origins
import LayeredConfig.Snapshot
import LayeredConfig.Source.GitHub
import LayeredConfig.Value.Identity

set_option autoImplicit false

/-!
# How variables of GitHub environments are collected

The pages of a server are data of any shape. A page that cannot be had, one that is no JSON and a
variable without a name are faults of the source. Data of another shape than that of a page are not:
the fault is that of the operation that they do not support. Nor are values that have no place in a
configuration, and nor is anything else that a request may fail with.

## Main definitions

* `GitHubSource.Misshapen` — data that do not have the shape of a page.
* `GitHubSource.IsFull` — an answer after which the next page is asked for.
* `GitHubSource.Breaks` — answers at which listing breaks off.
* `GitHubSource.Escapes` — the faults that are not said to be faults of the source.

## Main results

* `GitHubSource.listFrom_other_iff` — when listing fails with a fault that escapes.
* `GitHubSource.collect_ends` — how collecting ends, whatever the server answers.
-/

namespace LayeredConfig

namespace GitHubSource

/-! ## Pages -/

/-- Data that are no variable, with the fault that they make. -/
inductive Unnamed : Datum → Fault → Prop
  /-- The data are no table. -/
  | notTable {d : Datum} : (∀ es, d ≠ .mapping es) → Unnamed d (.misuse .noOperation)
  /-- The name is a collection. -/
  | noKey {es : List (DatumKey × Datum)} {d : Datum} :
      Datum.getEntry? (.text "name") es = some d → d.toKey? = none →
      Unnamed (.mapping es) (.misuse .wrongType)

/-- Data that list no variables, with the fault that they make. -/
inductive Unlisted : Datum → Fault → Prop
  /-- The data are no table. -/
  | notTable {d : Datum} : (∀ es, d ≠ .mapping es) → Unlisted d (.misuse .noOperation)
  /-- The variables are no collection. -/
  | noCollection {es : List (DatumKey × Datum)} {d : Datum} :
      Datum.getEntry? (.text "variables") es = some d → d.elements? = none →
      Unlisted (.mapping es) (.misuse .wrongType)

/-- Data that do not have the shape of a page, with the fault that they make. -/
inductive Misshapen (d : Datum) (e : Fault) : Prop
  /-- The data list no variables. -/
  | unlisted : Unlisted d e → Misshapen d e
  /-- An item is no variable, and those before it are. -/
  | item {x : Datum} {before after : List Datum} :
      itemsOf d = .ok (before ++ x :: after) → (∀ b ∈ before, ∃ v, variableOf b = .ok v) →
      Unnamed x e → Misshapen d e

/-- An item fails with a fault that escapes iff it is no variable. -/
lemma variableOf_other_iff {d : Datum} {e : Fault} :
    variableOf d = .error (.other e) ↔ Unnamed d e := by
  constructor
  · intro h
    unfold variableOf at h
    split at h
    · split at h
      · cases h
      · rename_i hname
        split at h
        · cases h
        · rename_i hkey
          obtain rfl := ListFault.other.inj (Except.error.inj h)
          exact .noKey hname hkey
    · rename_i hmap
      obtain rfl := ListFault.other.inj (Except.error.inj h)
      exact .notTable hmap
  · intro h
    cases h with
    | notTable hmap =>
      cases d with
      | mapping es => exact absurd rfl (hmap es)
      | _ => rfl
    | noKey hname hkey => simp only [variableOf, hname, hkey]

/-- Data fail to list items iff they list no variables. -/
lemma itemsOf_error_iff {d : Datum} {e : ListFault} :
    itemsOf d = .error e ↔ ∃ e', e = .other e' ∧ Unlisted d e' := by
  constructor
  · intro h
    unfold itemsOf at h
    split at h
    · split at h
      · cases h
      · rename_i hlisted
        split at h
        · cases h
        · rename_i hitems
          exact ⟨_, (Except.error.inj h).symm, .noCollection hlisted hitems⟩
    · rename_i hmap
      exact ⟨_, (Except.error.inj h).symm, .notTable hmap⟩
  · rintro ⟨e', rfl, h⟩
    cases h with
    | notTable hmap =>
      cases d with
      | mapping es => exact absurd rfl (hmap es)
      | _ => rfl
    | noCollection hlisted hitems => simp only [itemsOf, hlisted, hitems]

/-- **When a page does not have the shape of a page**: its data are misshapen. -/
theorem pageVariables_other_iff {d : Datum} {e : Fault} :
    pageVariables d = .error (.other e) ↔ Misshapen d e := by
  constructor
  · intro h
    rcases Fault.bind_eq_error_iff.mp h with h | ⟨items, hitems, h⟩
    · obtain ⟨e', he, hunlisted⟩ := itemsOf_error_iff.mp h
      obtain rfl := ListFault.other.inj he
      exact .unlisted hunlisted
    · obtain ⟨before, x, after, rfl, hbefore, hx⟩ :=
        Fault.first_iff.mp (Fault.mapM_error_iff.mp h)
      exact .item hitems hbefore (variableOf_other_iff.mp hx)
  · intro h
    cases h with
    | unlisted h =>
      have hitems := itemsOf_error_iff.mpr ⟨e, rfl, h⟩
      simp only [pageVariables, hitems, Fault.error_bind]
    | @item x before after hitems hbefore hx =>
      have hfirst : Fault.First variableOf (before ++ x :: after) (.other e) :=
        Fault.first_iff.mpr ⟨before, x, after, rfl, hbefore, variableOf_other_iff.mpr hx⟩
      have hmap := Fault.mapM_error_iff.mpr hfirst
      simpa only [pageVariables, hitems, Fault.ok_bind, Fault.error_bind] using hmap

/-! ## Answers -/

/-- An answer after which the next page is asked for: it is a success, and its data list as many
variables as a page holds. -/
def IsFull (o : PageOutcome) : Prop :=
  ∃ r d found, o = .ok r ∧ r.status = .ok () ∧ r.data = .ok d ∧ pageVariables d = .ok found ∧
    pageSize ≤ found.length

/-- An answer with a fault that is not one of the server or of what it writes. -/
inductive Fails : PageOutcome → Fault → Prop
  /-- The call itself has the fault. -/
  | call {e : Fault} : Fails (.error (.other e)) e
  /-- Looking at the status has it. -/
  | status {r : Response} {e : Fault} : r.status = .error (.other e) → Fails (.ok r) e
  /-- Reading the body has it. -/
  | data {r : Response} {e : Fault} :
      r.status = .ok () → r.data = .error (.other e) → Fails (.ok r) e
  /-- The data do not have the shape of a page. -/
  | shape {r : Response} {d : Datum} {e : Fault} :
      r.status = .ok () → r.data = .ok d → Misshapen d e → Fails (.ok r) e

/-- An answer lists variables iff it is a success whose data list them. -/
lemma answered_ok_iff {o : PageOutcome} {found : List (DatumKey × Datum)} :
    answered o = .ok found ↔ ∃ r d, o = .ok r ∧ r.status = .ok () ∧ r.data = .ok d ∧
      pageVariables d = .ok found := by
  unfold answered
  constructor
  · intro h
    obtain ⟨r, ho, h⟩ := Fault.bind_eq_ok_iff.mp h
    obtain ⟨⟨⟩, hstatus, h⟩ := Fault.bind_eq_ok_iff.mp h
    obtain ⟨d, hd, h⟩ := Fault.bind_eq_ok_iff.mp h
    exact ⟨r, d, ho, hstatus, hd, h⟩
  · rintro ⟨r, d, rfl, hstatus, hd, h⟩
    simp only [hstatus, hd, h, Fault.ok_bind]

/-- An answer fails with a fault that escapes iff it is not one of the server or of what it
writes. -/
lemma answered_other_iff {o : PageOutcome} {e : Fault} :
    answered o = .error (.other e) ↔ Fails o e := by
  unfold answered
  constructor
  · intro h
    rcases Fault.bind_eq_error_iff.mp h with ho | ⟨r, ho, h⟩
    · exact ho ▸ .call
    · rw [ho]
      rcases Fault.bind_eq_error_iff.mp h with h | ⟨⟨⟩, hstatus, h⟩
      · exact .status h
      · rcases Fault.bind_eq_error_iff.mp h with h | ⟨d, hd, h⟩
        · exact .data hstatus h
        · exact .shape hstatus hd (pageVariables_other_iff.mp h)
  · intro h
    cases h with
    | call => rfl
    | status h => simp only [h, Fault.ok_bind, Fault.error_bind]
    | data hstatus h => simp only [hstatus, h, Fault.ok_bind, Fault.error_bind]
    | shape hstatus hd h =>
      simp only [hstatus, hd, pageVariables_other_iff.mpr h, Fault.ok_bind]

/-- The page after the last one lists nothing. -/
@[simp] lemma answered_lastPage : answered lastPage = .ok [] :=
  rfl

/-! ## Listing -/

/-- What comes of a call: it is refused, or it takes the next answer. -/
def outcomeOf (web : WebClient) (c : Call) : PageOutcome :=
  match web.refusal c with
  | some e => .error e
  | none => (web.answers.head?.map fun answer => answer c).getD lastPage

/-- The web server after so many calls. -/
def afterCalls (web : WebClient) (count : Nat) : WebClient :=
  { web with answers := web.answers.drop count }

/-- Listing variables from a page on breaks off: its answer fails with a fault that escapes, or it
is a full page and listing breaks off behind it. -/
inductive Breaks (path : String) : WebClient → Nat → Fault → Prop
  /-- The answer fails. -/
  | here {web : WebClient} {page : Nat} {e : Fault} :
      Fails (outcomeOf web (.page path pageSize page)) e → Breaks path web page e
  /-- The answer is a full page, and listing breaks off behind it. -/
  | later {web : WebClient} {page : Nat} {e : Fault} :
      IsFull (outcomeOf web (.page path pageSize page)) →
      Breaks path (afterCalls web 1) (page + 1) e → Breaks path web page e

section Listing

variable {path : String} {fuel page : Nat} {c : Call} {w : World}

/-- A call that is not refused is noted, and takes the next answer. -/
lemma fetch_of_not_refused (h : w.web.refusal c = none) :
    fetch c w = (outcomeOf w.web c, Action.note c { w with web := afterCalls w.web 1 }) := by
  obtain ⟨files, readers, environ, keyspace, ⟨connect, refusal, answers⟩, feeds, streams, calls,
    warnings⟩ := w
  cases answers <;> simp_all [fetch, outcomeOf, afterCalls]

/-- A call has its outcome. -/
lemma fetch_fst (c : Call) (w : World) : (fetch c w).1 = outcomeOf w.web c := by
  cases h : w.web.refusal c with
  | none => rw [fetch_of_not_refused h]
  | some e => simp [fetch, outcomeOf, h]

/-- An answer that lists variables was not refused. -/
lemma not_refused_of_answered {found : List (DatumKey × Datum)}
    (h : answered (outcomeOf w.web c) = .ok found) : w.web.refusal c = none := by
  cases hrefusal : w.web.refusal c with
  | none => rfl
  | some e =>
    rw [outcomeOf, hrefusal] at h
    cases h

/-- The answer lists variables or fails, and behind a full page the others are listed too. -/
lemma listFrom_succ (path : String) (fuel page : Nat) (w : World) :
    ∃ w', w'.web = afterCalls w.web 1 ∧ (listFrom path (fuel + 1) page w).1 =
      answered (outcomeOf w.web (.page path pageSize page)) >>= fun found =>
        if found.length < pageSize then .ok found
        else (listFrom path fuel (page + 1) w').1.map (found ++ ·) := by
  refine ⟨Action.note (.page path pageSize page) { w with web := afterCalls w.web 1 }, rfl, ?_⟩
  rw [listFrom]
  generalize Call.page path pageSize page = c
  cases hanswered : answered (outcomeOf w.web c) with
  | error e =>
    have hfst := fetch_fst c w
    rcases hfetch : fetch c w with ⟨o, w'⟩
    obtain rfl : o = outcomeOf w.web c := by rw [← hfst, hfetch]
    simp only [hanswered, Fault.error_bind]
  | ok found =>
    simp only [fetch_of_not_refused (not_refused_of_answered hanswered), hanswered, Fault.ok_bind]
    split_ifs
    · rfl
    · cases listFrom path fuel (page + 1) (Action.note c { w with web := afterCalls w.web 1 }) with
      | mk listed w' => cases listed <;> rfl

/-- After a full page there is one answer less. -/
lemma length_afterCalls {web : WebClient} {found : List (DatumKey × Datum)}
    (h : answered (outcomeOf web c) = .ok found) (hfull : pageSize ≤ found.length) :
    (afterCalls web 1).answers.length + 1 = web.answers.length := by
  obtain ⟨connect, refusal, answers⟩ := web
  cases answers with
  | nil =>
    -- the page after the last one is not full
    exfalso
    simp only [outcomeOf] at h
    split at h
    · cases h
    · obtain rfl := Except.ok.inj h
      exact absurd hfull (by decide)
  | cons answer answers => rfl

/-- **When listing fails with a fault that escapes**: an answer does, and all answers before it are
full pages.

**Proof sketch.** Induction on the number of answers that are still there. -/
theorem listFrom_other_iff {e : Fault} (hfuel : w.web.answers.length < fuel) :
    (listFrom path fuel page w).1 = .error (.other e) ↔ Breaks path w.web page e := by
  induction fuel generalizing page w with
  -- there are more pages to ask for than answers, so listing never ends for want of them
  | zero => exact absurd hfuel (Nat.not_lt_zero _)
  | succ fuel ih =>
    obtain ⟨w', hweb, hlisted⟩ := listFrom_succ path fuel page w
    have hrest {found : List (DatumKey × Datum)}
        (hfound : answered (outcomeOf w.web (.page path pageSize page)) = .ok found)
        (hfull : pageSize ≤ found.length) :
        (listFrom path fuel (page + 1) w').1 = .error (.other e) ↔
          Breaks path (afterCalls w.web 1) (page + 1) e := by
      have hlength := length_afterCalls hfound hfull
      rw [← hweb]
      exact ih (by rw [hweb]; omega)
    rw [hlisted, Fault.bind_eq_error_iff, answered_other_iff]
    constructor
    · rintro (h | ⟨found, hfound, h⟩)
      · exact .here h
      · split_ifs at h with hshort
        obtain ⟨r, d, ho, hstatus, hd, hvariables⟩ := answered_ok_iff.mp hfound
        have hfull : pageSize ≤ found.length := not_lt.mp hshort
        refine .later ⟨r, d, found, ho, hstatus, hd, hvariables, hfull⟩ ?_
        exact (hrest hfound hfull).mp (Fault.map_error_iff.mp h)
    · intro h
      cases h with
      | here h => exact .inl h
      | later hfull h =>
        obtain ⟨r, d, found, ho, hstatus, hd, hvariables, hlength⟩ := hfull
        have hfound := answered_ok_iff.mpr ⟨r, d, ho, hstatus, hd, hvariables⟩
        refine .inr ⟨found, hfound, ?_⟩
        rw [if_neg (not_lt.mpr hlength)]
        exact Fault.map_error_iff.mpr ((hrest hfound hlength).mpr h)

end Listing

/-! ## Settings -/

/-- The variables that were listed, where a repeated name keeps its first place and has its last
value. -/
def merged (found : List (DatumKey × Datum)) : List (DatumKey × Datum) :=
  found.foldl (fun es e => Datum.putEntry e.1 e.2 es) []

/-- The value of a variable, whose name has to be a text. -/
def valueOf (s : GitHubSource) : DatumKey × Datum → Except Fault Value
  | (.text _, d) => Value.ofDatum d (some s.uri)
  | _ => .error (.misuse .noOperation)

section Settings

variable {s : GitHubSource}

/-- Variables make no settings iff one of them has no value, and the fault is that of the first. -/
lemma settingsFrom_error_iff {done : Entries String Value} {es : List (DatumKey × Datum)}
    {e : Fault} : s.settingsFrom done es = .error e ↔ Fault.First s.valueOf es e := by
  induction es generalizing done with
  | nil => exact iff_of_false nofun nofun
  | cons x es ih =>
    obtain ⟨k, d⟩ := x
    rw [Fault.first_cons_iff]
    cases k with
    | text name =>
      cases hd : Value.ofDatum d (some s.uri) with
      | error e' => simp [settingsFrom, valueOf, hd]
      | ok v => simp [settingsFrom, valueOf, hd, ih]
    | _ => simp [settingsFrom, valueOf]

/-- No key is twice in settings, if none was before. -/
lemma nodup_keys_of_settingsFrom {done out : Entries String Value} {es : List (DatumKey × Datum)}
    (h : s.settingsFrom done es = .ok out) (hdone : (Entries.keys done).Nodup) :
    (Entries.keys out).Nodup := by
  induction es generalizing done with
  | nil =>
    obtain rfl := Except.ok.inj h
    exact hdone
  | cons x es ih =>
    obtain ⟨k, d⟩ := x
    cases k with
    | text name =>
      obtain ⟨v, -, h⟩ := Fault.bind_eq_ok_iff.mp h
      exact ih h (Entries.nodup_keys_alter hdone _ _)
    | _ => cases h

end Settings

/-! ## Collecting -/

/-- The faults of collecting that are not said to be faults of the source. -/
inductive Escapes (s : GitHubSource) (w : World) : Fault → Prop
  /-- An answer has the fault. -/
  | page {e : Fault} : Breaks s.address.path w.web 1 e → Escapes s w e
  /-- A variable has a name that is no text, or data that have no place in a configuration. -/
  | setting {found : List (DatumKey × Datum)} {e : Fault} :
      (s.list w).1 = .ok found → Fault.First s.valueOf (merged found) e → Escapes s w e

section Collecting

variable {s : GitHubSource} {w : World}

/-- Listing all variables fails with a fault that escapes iff it breaks off so. -/
lemma list_other_iff {e : Fault} :
    (s.list w).1 = .error (.other e) ↔ Breaks s.address.path w.web 1 e :=
  listFrom_other_iff (Nat.lt_succ_self _)

/-- What is collected, by what is listed. -/
lemma collect_eq (s : GitHubSource) (w : World) : (s.collect w).1 =
    match (s.list w).1 with
    | .error e => .error (s.blame e)
    | .ok found =>
      (s.settings found).map fun es => .record (es.map fun e => (e.1, .value e.2)) := by
  unfold collect
  cases s.list w with
  | mk listed w' => cases listed <;> rfl

/-- Collecting fails with each fault that escapes. -/
lemma collect_of_escapes {e : Fault} (h : s.Escapes w e) : (s.collect w).1 = .error e := by
  rw [collect_eq]
  cases h with
  | page h =>
    rw [list_other_iff.mpr h]
    rfl
  | setting hlist h =>
    rw [hlist]
    exact Fault.map_error_iff.mpr (settingsFrom_error_iff.mpr h)

/-- **How variables are collected**: whatever the server answers, what is collected is a table of
values, in which each key stands once. A fault is said to be one of the source, or it escapes
(`Escapes`), and each of those that escape is raised.

**Proof sketch.** Either the variables are listed, and then they make settings unless one of them
has no value; or listing fails, with a fault of the source or with one that escapes
(`list_other_iff`). -/
theorem collect_ends (s : GitHubSource) (w : World) :
    (∀ x, (s.collect w).1 = .ok x → ∃ fields, x.IsTableOf fields) ∧
    (∀ e, (s.collect w).1 = .error e →
      (∃ diagnostic, e = .source (some s.name) diagnostic) ∨ s.Escapes w e) ∧
    ∀ e, s.Escapes w e → (s.collect w).1 = .error e := by
  refine ⟨fun x hx => ?_, fun e he => ?_, fun e he => collect_of_escapes he⟩
  · rw [collect_eq] at hx
    cases hlist : (s.list w).1 with
    | error e =>
      rw [hlist] at hx
      cases hx
    | ok found =>
      rw [hlist] at hx
      obtain ⟨fields, hfields, rfl⟩ := Fault.map_ok_iff.mp hx
      exact ⟨fields, rfl, nodup_keys_of_settingsFrom hfields List.nodup_nil⟩
  · rw [collect_eq] at he
    cases hlist : (s.list w).1 with
    | error e' =>
      rw [hlist] at he
      obtain rfl := Except.error.inj he
      cases e' with
      | noPage diagnostic => exact .inl ⟨_, rfl⟩
      | noVariables diagnostic => exact .inl ⟨_, rfl⟩
      | other e => exact .inr (.page (list_other_iff.mp hlist))
    | ok found =>
      rw [hlist] at he
      exact .inr (.setting hlist (settingsFrom_error_iff.mp (Fault.map_error_iff.mp he)))

end Collecting

/-- The variables of an environment, where two underscores stand for a dot. -/
def production : GitHubSource :=
  ⟨"github://acme/api#production", ⟨"acme", "api", "production"⟩, "t", some "__",
    .text "github:acme/api#production"⟩

/-- A response that is a success, with its data. -/
def success (d : Datum) : PageOutcome :=
  .ok ⟨.ok (), .ok d⟩

/-- The surroundings in which there is nothing but a server that answers in order. -/
def answering (outcomes : List PageOutcome) : World :=
  { World.bare with
    web := { World.bare.web with answers := outcomes.map fun outcome _ => outcome } }

/-- Two variables on a page that is not full. -/
theorem collect_ends_names :
    let page := success (.record [("variables", .sequence
      [.record [("name", .text "DB__HOST"), ("value", .text "x")],
        .record [("name", .text "Port"), ("value", .integer 80)]])])
    ∃ fields : List (String × Value),
      (production.collect (answering [page])).1 =
        .ok (.record (fields.map fun e => (e.1, .value e.2))) ∧
      fields.length = 2 ∧
      ¬ ∃ e, production.Escapes (answering [page]) e := by
  intro page
  have hcollect : (production.collect (answering [page])).1 = .ok (.record
      [("db.host", .value (.scalar (some "github://acme/api#production") (.text "x"))),
        ("port", .value (.scalar (some "github://acme/api#production") (.integer 80)))]) :=
    Fault.toOption_eq_some_iff.mp (by decide +kernel)
  obtain ⟨hok, -, hescapes⟩ := collect_ends production (answering [page])
  obtain ⟨fields, hfields, -⟩ := hok _ hcollect
  refine ⟨fields, hfields ▸ hcollect, ?_, ?_⟩
  · simpa [Datum.record, Datum.parts] using (congrArg (fun d => d.parts.length) hfields).symm
  · rintro ⟨e, he⟩
    cases (hescapes e he).symm.trans hcollect

/-- A list in the place of a page is no fault of the source. -/
theorem collect_fails_list :
    (production.collect (answering [success (.sequence [])])).1 =
      .error (.misuse .noOperation) := by
  have hmisshapen : Misshapen (.sequence []) (.misuse .noOperation) := .unlisted (.notTable nofun)
  have hfails : Fails (success (.sequence [])) (.misuse .noOperation) :=
    .shape rfl rfl hmisshapen
  exact collect_of_escapes (.page (.here hfails))

end GitHubSource

end LayeredConfig
