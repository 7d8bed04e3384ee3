import Mathlib
import LayeredConfig.Proofs.Path.Canonical
import LayeredConfig.Proofs.Store.ReadBack

set_option autoImplicit false

/-!
# Tables that are set whole

A table can come into a store in two ways. What a source contributes is taken apart into leaves,
at paths in lower case. What is set as a default or as an override is written whole, with the keys
that it has. Reads lower-case their keys. So a leaf below a table that was contributed is found in
any letter case, and one below a table that was set is found iff all keys on the way to it are in
lower case already.

## Main definitions

* `Value.Named` — tables whose keys are names that differ in more than their letter case.

## Main results

* `Value.Named.get?_map_lower` — reading below a table by keys in lower case.
* `Value.Named.exists_leaves_split` — a leaf below a table is one of the leaves of the table.
* `Store.get_below_table` — reading below tables that were set or contributed.
-/

namespace LayeredConfig

namespace Value

/-- The keys of tables are names without capital sigmas, and those of one table differ in more than
their letter case. What arrays hold does not matter. -/
inductive Named : Value → Prop
  /-- A scalar has no keys. -/
  | scalar (o : Option String) (c : Scalar) : Named (.scalar o c)
  /-- Keys do not lead into an array. -/
  | array (o : Option String) (vs : List Value) : Named (.array o vs)
  /-- The keys of a table are such names, and its values are named. -/
  | table (o : Option String) {es : List (String × Value)} :
      (∀ e ∈ es, Path.IsName e.1 ∧ '\u03a3' ∉ e.1.toList) →
      (es.map fun e => Text.lower e.1).Nodup → (∀ e ∈ es, Named e.2) → Named (.table o es)

/-- What keys lead to, the first of which is a key of the table itself. -/
lemma exists_of_get?_dotted_cons {v x : Value} {name : String} {names : List String}
    (h : v.get? (Path.dotted (name :: names)) = some x) :
    ∃ o es u, v = .table o es ∧ Entries.get? name es = some u ∧
      u.get? (Path.dotted names) = some x := by
  have hcons : v.get? (.key name :: Path.dotted names) = some x := h
  rw [get?_cons] at hcons
  obtain ⟨u, hu, hx⟩ := Option.bind_eq_some_iff.mp hcons
  cases v with
  | table o es => exact ⟨o, es, u, rfl, hu, hx⟩
  | _ => cases hu

/-- Keys that lead to something below named tables are names without capital sigmas. -/
lemma Named.isName_of_get? {v x : Value} (h : v.Named) {names : List String}
    (hx : v.get? (Path.dotted names) = some x) :
    ∀ n ∈ names, Path.IsName n ∧ '\u03a3' ∉ n.toList := by
  induction names generalizing v with
  | nil => simp
  | cons name names ih =>
    obtain ⟨o, es, u, rfl, hu, hux⟩ := exists_of_get?_dotted_cons hx
    have hmem := Entries.mem_of_get?_eq_some hu
    cases h with
    | table _ hnames _ hvalues =>
      exact List.forall_mem_cons.mpr ⟨hnames _ hmem, ih (hvalues _ hmem) hux⟩

/-- A key in lower case leads nowhere in a table that has the key with capitals. -/
lemma get?_lower_eq_none {es : List (String × Value)}
    (hkeys : (es.map fun e => Text.lower e.1).Nodup) {name : String} {u : Value}
    (hu : Entries.get? name es = some u) (hname : Text.lower name ≠ name) :
    Entries.get? (Text.lower name) es = none := by
  cases hw : Entries.get? (Text.lower name) es with
  | none => rfl
  | some w =>
    have hlower : Text.lower (Text.lower name) = Text.lower name :=
      Text.lower_eq_self (Text.isLowerCase_lower name)
    have heq := List.inj_on_of_nodup_map hkeys (Entries.mem_of_get?_eq_some hw)
      (Entries.mem_of_get?_eq_some hu) hlower
    exact absurd (congrArg Prod.fst heq) hname

/-- In tables whose keys differ in more than their letter case, the keys in lower case lead to what
the keys lead to iff they are in lower case anyway, and to nothing otherwise. -/
lemma Named.get?_map_lower {v x : Value} (h : v.Named) {names : List String}
    (hx : v.get? (Path.dotted names) = some x) :
    v.get? (Path.dotted (names.map Text.lower)) =
      if names.map Text.lower = names then some x else none := by
  induction names generalizing v with
  | nil => simpa using hx
  | cons name names ih =>
    obtain ⟨o, es, u, rfl, hu, hux⟩ := exists_of_get?_dotted_cons hx
    have hstep : (Value.table o es).get? (Path.dotted ((name :: names).map Text.lower)) =
        (Entries.get? (Text.lower name) es).bind fun u =>
          u.get? (Path.dotted (names.map Text.lower)) :=
      get?_cons (.key (Text.lower name)) _ _
    cases h with
    | table _ _ hkeys hvalues =>
      rw [hstep]
      by_cases hname : Text.lower name = name
      · rw [hname, hu, Option.bind_some, ih (hvalues _ (Entries.mem_of_get?_eq_some hu)) hux]
        simp [hname]
      · rw [get?_lower_eq_none hkeys hu hname, if_neg]
        · rfl
        · exact fun heq => hname (List.cons.inj heq).1

/-- Something without parts below named tables is one of their leaves, at the keys in lower case,
and all later leaves part from it. -/
lemma Named.exists_leaves_split {v x : Value} (h : v.Named) {names : List String}
    (hx : v.get? (Path.dotted names) = some x) (hparts : x.parts = []) (parent : Path) :
    ∃ before after,
      leaves parent v = before ++ (parent ++ Path.dotted (names.map Text.lower), x) :: after ∧
      ∀ m ∈ after, Path.Parted m.1 (parent ++ Path.dotted (names.map Text.lower)) := by
  induction names generalizing v parent with
  | nil =>
    obtain rfl : v = x := by simpa [Path.dotted] using hx
    exact ⟨[], [], by simp [leaves_of_parts_eq_nil hparts, Path.dotted], by simp⟩
  | cons name names ih =>
    obtain ⟨o, es, u, rfl, hu, hux⟩ := exists_of_get?_dotted_cons hx
    have hmem := Entries.mem_of_get?_eq_some hu
    cases h with
    | table _ _ hkeys hvalues =>
      have hpath : parent ++ Path.dotted ((name :: names).map Text.lower) =
          (parent ++ [.key (Text.lower name)]) ++ Path.dotted (names.map Text.lower) := by
        simp [Path.dotted]
      obtain ⟨before, after, hleaves, hafter⟩ :=
        ih (hvalues _ hmem) hux (parent ++ [.key (Text.lower name)])
      obtain ⟨fs, gs, rfl⟩ := List.append_of_mem hmem
      refine ⟨leavesOfParts parent (fs.map entryPart) ++ before,
        after ++ leavesOfParts parent (gs.map entryPart), ?_, fun m hm => ?_⟩
      · rw [leaves_of_parts_ne_nil (by simp [parts]), hpath]
        simp only [parts, List.map_append, List.map_cons, leavesOfParts, List.flatMap_append,
          List.flatMap_cons, entryPart, hleaves, List.append_assoc, List.cons_append]
      · rw [hpath]
        rcases List.mem_append.mp hm with hm | hm
        · exact hafter m hm
        · obtain ⟨a, ha, hm⟩ := List.mem_flatMap.mp hm
          obtain ⟨g, hg, rfl⟩ := List.mem_map.mp ha
          obtain ⟨rest, hrest⟩ := prefix_of_mem_leaves hm
          have hne : Text.lower g.1 ≠ Text.lower name := by
            simp only [List.map_append, List.map_cons, List.nodup_append, List.nodup_cons] at hkeys
            exact fun heq => hkeys.2.1.1 (heq ▸ List.mem_map_of_mem hg)
          refine Path.firstDiffer_iff.mpr ⟨parent, .key (Text.lower g.1), .key (Text.lower name),
            rest, Path.dotted (names.map Text.lower), ?_, by simp, hne⟩
          rw [← hrest]
          simp [entryPart]

end Value

/-- A payload with a single key has the leaves of the value at this key. -/
lemma contribution_single {key : String} {p : Path} (hkey : Path.parseKey key = .ok p) {d : Datum}
    {v : Value} (hv : Value.ofDatum d none = .ok v) :
    contribution (.record [(key, d)]) = .ok (v.leaves p) := by
  simp [Datum.record, contribution, contributionOfEntries, DatumKey.display, hkey, hv]

variable {ω : Type}

namespace Store

/-- What stands below a value that was written into an empty tree is read by a key behind that of
the value. -/
lemma get_of_written {s : Store ω} {p q : Path} {v : Value} (hp : p ≠ [])
    (hs : s.cache = Value.emptyTable.replay [(p, v)]) {text : String}
    (htext : Path.parseKey text = .ok (p ++ q)) :
    s.get text = match v.get? q with
      | some x => .ok x
      | none => .error (.absent text) := by
  have hcache : s.cache = Value.write v p Value.emptyTable := by
    calc s.cache = Value.emptyTable.set p v := hs
      _ = _ := Value.set_of_ne_nil hp _ v
  have hread := get_of_parseKey (s := s) htext
  rw [hcache, Value.get?_write_append] at hread
  exact hread

/-- **Reading below tables** that are a default, an override, or contributed by a source, where
their keys are names that differ in more than their letter case. Take a text whose lower-case form
is that of the key of the table, followed by the keys to a leaf in lower case. In the store with the
source it reads the leaf. In the other ones it reads the leaf if the keys to it are in lower case
anyway, and nothing otherwise. Every spelling of the keys joined by dots is such a text if the key
of the table has no capital sigma.

**Proof sketch.** The text is read as the path of the table, followed by the keys in lower case
(`Path.parseKey_append_textTail`). The leaf is one of those of the source, and no later one touches
its path (`Value.Named.exists_leaves_split`). In a table that was written whole, the keys in lower
case lead to nothing unless they are the keys of the table (`Value.Named.get?_map_lower`). -/
theorem get_below_table {key : String} {p : Path} (hkey : Path.parseKey key = .ok p) {d : Datum}
    {v : Value} (hv : Value.ofDatum d none = .ok v) (hnamed : v.Named) {names : List String}
    {x : Value} (hx : v.get? (Path.dotted names) = some x) (hparts : x.parts = []) {src : Source ω}
    {w w' : ω} (hsrc : src.collect w = (.ok (.record [(key, d)]), w')) :
    ∃ below above merged : Store ω,
      (empty : Store ω).setDefault key d w = (.ok below, w) ∧
      (empty : Store ω).set key d w = (.ok above, w) ∧
      (empty : Store ω).merge ⟨src, none⟩ w = (.ok merged, w') ∧
      (∀ text, Text.lower text =
          Text.lower key ++ Path.textTail (Path.dotted (names.map Text.lower)) →
        merged.get text = .ok x ∧
        (below.get text =
          if names.map Text.lower = names then .ok x else .error (.absent text)) ∧
        (above.get text =
          if names.map Text.lower = names then .ok x else .error (.absent text))) ∧
      ('\u03a3' ∉ key.toList →
        ∀ text, Text.lower text = Text.lower (key ++ Path.textTail (Path.dotted names)) →
          Text.lower text =
            Text.lower key ++ Path.textTail (Path.dotted (names.map Text.lower))) := by
  have hp := Path.parseKey_ne_nil hkey
  have hnames := hnamed.isName_of_get? hx
  refine ⟨built ⟨[(p, v)], [], []⟩ [], built ⟨[], [], [(p, v)]⟩ [],
    built ⟨[], [⟨src, none⟩], []⟩ (v.leaves p), ?_, ?_, ?_, fun text htext => ?_, ?_⟩
  · exact after_ok_iff.mpr
      (Operation.perform_of_edit rfl (Operation.edit_setDefault hkey hv) (.nil w))
  · exact after_ok_iff.mpr (Operation.perform_of_edit rfl (Operation.edit_set hkey hv) (.nil w))
  · exact merge_empty_unfiltered_ok_iff.mpr ⟨_, _, hsrc, contribution_single hkey hv, rfl⟩
  · have hlower : ∀ n ∈ names.map Text.lower, Path.IsName n := by
      intro n hn
      obtain ⟨m, hm, rfl⟩ := List.mem_map.mp hn
      exact (hnames m hm).1.lower
    have hpath := Path.parseKey_append_textTail hkey hlower htext
    have hread {s : Store ω} (hs : s.cache = Value.emptyTable.replay [(p, v)]) :
        s.get text = if names.map Text.lower = names then .ok x else .error (.absent text) := by
      rw [get_of_written hp hs hpath, hnamed.get?_map_lower hx]
      split_ifs <;> rfl
    have hcontributed : (Value.emptyTable.replay (v.leaves p)).get?
        (p ++ Path.dotted (names.map Text.lower)) = some x := by
      obtain ⟨before, after, hleaves, hafter⟩ := hnamed.exists_leaves_split hx hparts p
      rw [hleaves]
      exact Value.get?_replay_of_parted_after (List.append_ne_nil_of_left_ne_nil hp _) hafter _ _ _
    refine ⟨?_, hread (by simp [built, Layers.writes]), hread (by simp [built, Layers.writes])⟩
    rw [get_of_parseKey hpath, cache_built_single, hcontributed]
  · intro hsigma text htext
    rw [htext, Path.lower_append_textTail_of_not_mem_sigma hsigma fun n hn => (hnames n hn).2]

/-- Keys with capitals, read in another letter case: what a source contributes is found, what was
set is not. -/
theorem get_below_table_capitals :
    let d : Datum := .record [("Port", .record [("Main", .integer 80)])]
    let text := "SERVER.port.MAIN"
    ∃ below above merged : Store Unit,
      empty.setDefault "Server" d () = (.ok below, ()) ∧
      empty.set "Server" d () = (.ok above, ()) ∧
      empty.merge ⟨.fixed (.record [("Server", d)]), none⟩ () = (.ok merged, ()) ∧
      merged.get text = .ok (.scalar none (.integer 80)) ∧
      below.get text = .error (.absent text) ∧ above.get text = .error (.absent text) := by
  intro d text
  have hkey : Path.parseKey "Server" = .ok [.key "server"] := by
    cbv
  have hv : Value.ofDatum d none =
      .ok (.table none [("Port", .table none [("Main", .scalar none (.integer 80))])]) := by
    cbv
  have hnamed : (Value.table none
      [("Port", .table none [("Main", .scalar none (.integer 80))])]).Named := by
    refine .table none (by decide) (by decide) (List.forall_mem_singleton.mpr ?_)
    refine .table none (by decide) (by decide) (List.forall_mem_singleton.mpr ?_)
    exact .scalar none (.integer 80)
  have hx : (Value.table none [("Port", .table none [("Main", .scalar none (.integer 80))])]).get?
      (Path.dotted ["Port", "Main"]) = some (.scalar none (.integer 80)) := by
    cbv
  have hsrc : (Source.fixed (.record [("Server", d)])).collect () =
      (.ok (.record [("Server", d)]), ()) := rfl
  obtain ⟨below, above, merged, hbelow, habove, hmerged, hread, hspelling⟩ :=
    get_below_table hkey hv hnamed hx rfl hsrc
  have htext := hspelling (by decide) text (by decide +kernel)
  have hcapitals : ["Port", "Main"].map Text.lower ≠ ["Port", "Main"] := by
    decide +kernel
  obtain ⟨hm, hb, ha⟩ := hread text htext
  rw [if_neg hcapitals] at hb ha
  exact ⟨below, above, merged, hbelow, habove, hmerged, hm, hb, ha⟩

/-- An override that is a table keeps a key with a capital, and the key does not lead there. -/
theorem get_below_table_absent :
    ∃ s : Store Unit,
      empty.set "a" (.record [("B", .integer 1)]) () = (.ok s, ()) ∧
      s.cache = .table none [("a", .table none [("B", .scalar none (.integer 1))])] ∧
      s.get "a.B" = .error (.absent "a.B") := by
  have hkey : Path.parseKey "a" = .ok [.key "a"] := by
    cbv
  have hv : Value.ofDatum (.record [("B", .integer 1)]) none =
      .ok (.table none [("B", .scalar none (.integer 1))]) := by
    cbv
  refine ⟨_, after_ok_iff.mpr
    (Operation.perform_of_edit rfl (Operation.edit_set hkey hv) (.nil ())), by cbv, ?_⟩
  cbv

end Store

end LayeredConfig
