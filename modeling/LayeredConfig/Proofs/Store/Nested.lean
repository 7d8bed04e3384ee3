import Mathlib
import LayeredConfig.Proofs.Store.ReadBack

set_option autoImplicit false

/-!
# Nested and dotted spellings

A scalar below nested tables stands at the path of their keys, each of them in lower case. The names
joined by dots are a key that is lower-cased as a whole before it is read. A capital sigma becomes
one of two letters, depending on the letters around it, and dots do not end the search for these. So
the dotted key leads to the scalar iff it is lower-cased to the names that were lower-cased one by
one; this may only fail where there is a capital sigma.

## Main definitions

* `Datum.nested`, `Value.nested` — a value below nested tables.

## Main results

* `Store.get_dotted_of_nested` — reading a scalar below nested tables by a dotted key.
-/

namespace LayeredConfig

/-- Data below nested tables with the given keys. -/
def Datum.nested : List String → Datum → Datum
  | [], d => d
  | name :: names, d => .record [(name, nested names d)]

/-- A value below nested tables with the given keys. -/
def Value.nested : List String → Value → Value
  | [], v => v
  | name :: names, v => .table none [(name, nested names v)]

namespace Value

/-- Nested tables of data stand for nested tables of values. -/
lemma build_nested {d : Datum} {v : Value} (h : build none d = .ok v) (names : List String) :
    build none (Datum.nested names d) = .ok (nested names v) := by
  induction names with
  | nil => exact h
  | cons name names ih =>
    simp [Datum.nested, Datum.record, build, buildEntries, DatumKey.display, ih, nested,
      Entries.put, Entries.alter]

/-- A scalar below nested tables is their only leaf. -/
lemma leaves_nested (o : Option String) (c : Scalar) (names : List String) (parent : Path) :
    leaves parent (nested names (.scalar o c)) =
      [(parent ++ Path.dotted (names.map Text.lower), .scalar o c)] := by
  induction names generalizing parent with
  | nil => simp [nested, leaves, Path.dotted]
  | cons name names ih =>
    simp [nested, leaves, leavesOfEntries, ih, Path.child, Path.dotted]

/-- A value at a path of names can be read by this path, and by no other path of as many names. -/
lemma get?_replay_dotted {names names' : List String} (hne : names ≠ [])
    (hlength : names'.length = names.length) (v : Value) :
    (emptyTable.replay [(Path.dotted names, v)]).get? (Path.dotted names') =
      if names' = names then some v else none := by
  have hdotted : Path.dotted names ≠ [] := by simpa [Path.dotted] using hne
  have hreplay : emptyTable.replay [(Path.dotted names, v)] =
      write v (Path.dotted names) emptyTable :=
    set_of_ne_nil hdotted _ _
  rw [hreplay]
  split_ifs with hif
  · rw [hif, get?_write_self]
  · have hparted := Path.parted_dotted hlength.symm fun heq => hif heq.symm
    rcases get?_write_of_parted hparted v emptyTable with hw | ⟨-, -, hpads⟩
    · rw [hw, get?_emptyTable hparted.ne_nil.2]
    · exact absurd hpads (Path.not_pads_dotted _ _)

end Value

/-- What a payload contributes that is a scalar below nested tables. -/
lemma contribution_nested {names : List String} (hne : names ≠ []) (h : ∀ n ∈ names, Path.IsName n)
    {d : Datum} {o : Option String} {c : Scalar} (hd : Value.ofDatum d none = .ok (.scalar o c)) :
    contribution (Datum.nested names d) =
      .ok [(Path.dotted (names.map Text.lower), .scalar o c)] := by
  obtain ⟨name, names, rfl⟩ := List.exists_cons_of_ne_nil hne
  rw [Value.ofDatum_none] at hd
  have hroot := Path.parseKey_of_isName (h name List.mem_cons_self)
  have hleaves := Value.leaves_nested o c names [.key (Text.lower name)]
  simp [Datum.nested, Datum.record, contribution, contributionOfEntries, DatumKey.display, hroot,
    Value.ofDatum_none, Value.build_nested hd, hleaves, Path.dotted]

variable {ω : Type}

namespace Store

/-- **Nested and dotted spellings**: a source that contributes a scalar below nested tables whose
keys are names can be merged into a store without settings. Then the names joined by dots are a key
that reads the scalar, if lower-casing this key as a whole is lower-casing the names one by one, and
nothing otherwise. Both agree if no name holds a capital sigma.

**Proof sketch.** The scalar is the only leaf, at the path of the names in lower case
(`contribution_nested`). The key is read as a path of as many names (`Path.exists_parseKey_dotted`).
If these are the same, the scalar stands there, and nothing otherwise (`Value.get?_replay_dotted`).
-/
theorem get_dotted_of_nested {names : List String} (hne : names ≠ [])
    (hnames : ∀ n ∈ names, Path.IsName n) {d : Datum} {o : Option String} {c : Scalar}
    (hd : Value.ofDatum d none = .ok (.scalar o c)) {src : Source ω} {w w' : ω}
    (h : src.collect w = (.ok (Datum.nested names d), w')) :
    ∃ s, (empty : Store ω).merge ⟨src, none⟩ w = (.ok s, w') ∧
      (s.get (Path.text (Path.dotted names)) =
        if Text.lower (Path.text (Path.dotted names)) =
            Path.text (Path.dotted (names.map Text.lower)) then .ok (.scalar o c)
        else .error (.absent (Path.text (Path.dotted names)))) ∧
      ((∀ n ∈ names, '\u03a3' ∉ n.toList) →
        s.get (Path.text (Path.dotted names)) = .ok (.scalar o c)) := by
  have hleaves := contribution_nested hne hnames hd
  refine ⟨_, merge_empty_unfiltered_ok_iff.mpr ⟨_, _, h, hleaves, rfl⟩, ?_⟩
  obtain ⟨names', hlength, hkey, hsame⟩ := Path.exists_parseKey_dotted hne hnames
  have hmap : names.map Text.lower ≠ [] := by simpa using hne
  rw [get_of_parseKey hkey, cache_built_single,
    Value.get?_replay_dotted hmap (by simpa using hlength)]
  constructor
  · simp only [hsame]
    split_ifs <;> rfl
  · intro hsigma
    rw [if_pos (hsame.mp (Path.lower_text_dotted_of_not_mem_sigma hsigma))]

/-- Names with capitals, none of which is a sigma. -/
theorem get_dotted_of_nested_capitals :
    ∃ s : Store Unit,
      empty.merge ⟨.fixed (.nested ["Server", "Port"] (.integer 80)), none⟩ () = (.ok s, ()) ∧
      s.get "Server.Port" = .ok (.scalar none (.integer 80)) := by
  have hkey : Path.text (Path.dotted ["Server", "Port"]) = "Server.Port" := by cbv
  have hd : Value.ofDatum (.integer 80) none = .ok (.scalar none (.integer 80)) := rfl
  have hsrc : (Source.fixed (.nested ["Server", "Port"] (.integer 80))).collect () =
      (.ok (.nested ["Server", "Port"] (.integer 80)), ()) := rfl
  obtain ⟨s, hmerge, -, hget⟩ := get_dotted_of_nested (by decide) (by decide) hd hsrc
  refine ⟨s, hmerge, ?_⟩
  rw [← hkey]
  exact hget (by decide)

/-- A capital sigma at the end of a name is in the middle of the key: the scalar is there, and the
key does not lead to it. -/
theorem get_dotted_of_nested_sigma :
    ∃ s : Store Unit,
      empty.merge ⟨.fixed (.nested ["aΣ", "b"] (.integer 1)), none⟩ () = (.ok s, ()) ∧
      s.cache.get? [.key "aς", .key "b"] = some (.scalar none (.integer 1)) ∧
      Path.parseKey "aΣ.b" = .ok [.key "aσ", .key "b"] ∧
      s.get "aΣ.b" = .error (.absent "aΣ.b") := by
  have hnames : ["aΣ", "b"].map Text.lower = ["aς", "b"] := by decide +kernel
  have hkey : Path.parseKey "aΣ.b" = .ok [.key "aσ", .key "b"] := by
    have hlower : Text.lower "aΣ.b" = "aσ.b" := by decide +kernel
    rw [Path.parseKey, hlower]
    cbv
  have hd : Value.ofDatum (.integer 1) none = .ok (.scalar none (.integer 1)) := rfl
  have hleaves : contribution (.nested ["aΣ", "b"] (.integer 1)) = _ :=
    contribution_nested (by decide) (by decide) hd
  rw [hnames] at hleaves
  refine ⟨_, merge_fixed hleaves (), by cbv, hkey, ?_⟩
  rw [get_of_parseKey hkey]
  cbv

end Store

end LayeredConfig
