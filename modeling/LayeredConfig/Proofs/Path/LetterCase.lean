import LayeredConfig.Proofs.Path.Leaves
import LayeredConfig.Proofs.Path.Parting
import LayeredConfig.Proofs.Path.Printing
import LayeredConfig.Proofs.Text.LowerCase

set_option autoImplicit false

/-!
# Letter case of paths

Keys of stores are lower-cased before they are read, and so are the keys of tables where leaves are
listed. So every path in a store is in lower case. Lower-casing never adds or removes a dot or a
bracket, and it changes nothing in the written form of a path that is in lower case.

A sequence of names is lower-cased name by name where leaves are listed, and as a whole where it is
written as a key. Both agree iff no name has a capital sigma whose form depends on its neighbours.

## Main definitions

* `Step.IsLowerCase` — the steps whose names are in lower case.
* `Path.dotted` — the path of a sequence of names.

## Main results

* `Path.parseKey_text` — reading the written form of a path as a key.
* `Path.exists_of_parseKey` — a key is read as a path in lower case.
* `Value.isLowerCase_of_mem_leaves` — the paths of leaves are in lower case.
* `Path.exists_parseKey_dotted` — reading a sequence of names as a key.
* `Path.lower_append_textTail_of_not_mem_sigma` — without capital sigmas, a key and the names behind
  it are lower-cased one by one.
-/

namespace LayeredConfig

/-- The names of a step are in lower case. -/
def Step.IsLowerCase : Step → Prop
  | .key name => Text.IsLowerCase name
  | .index _ => True

namespace Path

/-! ## Written forms -/

/-- A character of ASCII before the letters is in lower case. -/
lemma lowerChar_of_lt {c : Char} (h : c.toNat < 0x41) : Text.lowerChar c = c := by
  simp only [Text.lowerChar]
  rw [if_pos (by omega), if_neg (by omega)]

/-- A dot and brackets are in lower case. -/
lemma lowerChar_separator {c : Char} (h : isNameChar c = false) : Text.lowerChar c = c := by
  simp only [isNameChar, Bool.and_eq_false_iff, decide_eq_false_iff_not, not_not] at h
  rcases h with (rfl | rfl) | rfl <;> decide +kernel

/-- The written form of steps whose names are in lower case is in lower case. -/
lemma isLowerCase_textTail {p : Path} (h : ∀ a ∈ p, a.IsLowerCase) :
    Text.IsLowerCase (textTail p) := by
  induction p with
  | nil => simp [textTail, Text.IsLowerCase]
  | cons a p ih =>
    have hp := ih fun b hb => h b (List.mem_cons_of_mem a hb)
    have ha := h a List.mem_cons_self
    intro c hc
    cases a with
    | key name =>
      simp only [textTail, String.toList_append, List.mem_append] at hc
      rcases hc with (hc | hc) | hc
      · obtain rfl := List.mem_singleton.mp hc
        exact lowerChar_separator rfl
      · exact ha c hc
      · exact hp c hc
    | index i =>
      simp only [textTail, String.toList_append, List.mem_append, toList_toString] at hc
      rcases hc with ((hc | hc) | hc) | hc
      · obtain rfl := List.mem_singleton.mp hc
        exact lowerChar_separator rfl
      · have hd := isAsciiDigit_of_isDigit (Nat.isDigit_of_mem_toDigits (by decide) (by decide) hc)
        simp only [Text.isAsciiDigit, Bool.and_eq_true, decide_eq_true_eq] at hd
        exact lowerChar_of_lt (by omega)
      · obtain rfl := List.mem_singleton.mp hc
        exact lowerChar_separator rfl
      · exact hp c hc

/-- The written form of a path is read as a key of a store, if the names in it are in lower case. -/
theorem parseKey_text {name : String} {p : Path} (h : ∀ a ∈ .key name :: p, a.Writable)
    (hl : ∀ a ∈ .key name :: p, a.IsLowerCase) :
    parseKey (text (.key name :: p)) = .ok (.key name :: p) := by
  have htext : Text.IsLowerCase (text (.key name :: p)) := by
    intro c hc
    rw [text, String.toList_append, List.mem_append] at hc
    rcases hc with hc | hc
    · exact hl _ List.mem_cons_self c hc
    · exact isLowerCase_textTail (fun a ha => hl a (List.mem_cons_of_mem _ ha)) c hc
  rw [parseKey, Text.lower_eq_self htext, parse_text h]

/-- A key is read as a path in lower case that begins with a name. -/
lemma exists_of_parseKey {key : String} {p : Path} (h : parseKey key = .ok p) :
    (∃ name rest, p = .key name :: rest ∧ IsName name) ∧ ∀ a ∈ p, a.IsLowerCase := by
  have hs := parse_ok_iff.mp h
  refine ⟨?_, fun a ha => ?_⟩
  · generalize (Text.lower key).toList = cs at hs
    cases hs with
    | key hn _ => exact ⟨_, _, rfl, hn⟩
  · cases a with
    | key name => exact fun c hc => Text.isLowerCase_lower key c ((hs.isName_of_mem ha).2 c hc)
    | index i => trivial

end Path

/-! ## The paths of leaves -/

namespace Value

/-- The steps to the parts of a value are in lower case. -/
lemma isLowerCase_of_mem_parts {v : Value} {a : Step × Value} (h : a ∈ v.parts) :
    a.1.IsLowerCase := by
  cases v with
  | scalar o s => cases h
  | array o vs =>
    obtain ⟨x, -, rfl⟩ := List.mem_map.mp h
    trivial
  | table o es =>
    obtain ⟨e, -, rfl⟩ := List.mem_map.mp h
    exact Text.isLowerCase_lower e.1

/-- The steps to a leaf are in lower case, if those to the value are. -/
lemma isLowerCase_of_mem_leaves {parent : Path} {v : Value} {l : Path × Value}
    (hparent : ∀ a ∈ parent, a.IsLowerCase) (h : l ∈ leaves parent v) :
    ∀ a ∈ l.1, a.IsLowerCase := by
  induction v using parts_induction generalizing parent with
  | step v ih =>
    by_cases hv : v.parts = []
    · rw [leaves_of_parts_eq_nil hv] at h
      obtain rfl := List.mem_singleton.mp h
      exact hparent
    · rw [leaves_of_parts_ne_nil hv] at h
      obtain ⟨a, ha, hl⟩ := List.mem_flatMap.mp h
      refine ih a ha (fun b hb => ?_) hl
      rcases List.mem_append.mp hb with hb | hb
      · exact hparent b hb
      · obtain rfl := List.mem_singleton.mp hb
        exact isLowerCase_of_mem_parts ha

end Value

namespace Path

/-! ## Sequences of names -/

/-- A lower-case form is a character of a name. -/
lemma isNameChar_of_mem_lowerForms {d : Char} (h : d ∈ Text.lowerForms) : isNameChar d = true := by
  have hd := (Text.lowerForms_settled h).2
  by_contra hn
  simp only [isNameChar, Bool.not_eq_true, Bool.and_eq_false_iff, decide_eq_false_iff_not,
    not_not] at hn
  rcases hn with (rfl | rfl) | rfl <;> exact absurd (hd (by decide)) (by decide)

/-- The first name of a text is lower-cased to a name, in any context. -/
lemma exists_lowerFrom_name {name : String} (hn : IsName name) (before ds : List Char) :
    ∃ name' : String, IsName name' ∧
      Text.lowerFrom before (name.toList ++ ds) =
        name'.toList ++ Text.lowerFrom (name.toList.reverse ++ before) ds := by
  obtain ⟨xs, hxs, hne, h⟩ := Text.exists_lowerFrom_append before name.toList ds
  refine ⟨String.ofList xs, ⟨?_, fun c hc => ?_⟩, by rw [String.toList_ofList, hxs]⟩
  · simpa using mt hne.mp hn.toList_ne_nil
  · rw [String.toList_ofList] at hc
    rcases (h c hc).2 with hc | hc
    · exact hn.2 c hc
    · exact isNameChar_of_mem_lowerForms hc

/-- A name is lower-cased to a name. -/
lemma IsName.lower {name : String} (h : IsName name) : IsName (Text.lower name) := by
  obtain ⟨name', hn', hlower⟩ := exists_lowerFrom_name h [] []
  rw [List.append_nil, Text.lowerFrom, List.append_nil] at hlower
  rw [Text.lower, hlower, String.ofList_toList]
  exact hn'

/-- A name is read as a key that is this name, in lower case. -/
lemma parseKey_of_isName {name : String} (h : IsName name) :
    parseKey name = .ok [.key (Text.lower name)] := by
  have hwritable : ∀ a ∈ [Step.key (Text.lower name)], a.Writable := by
    simpa [Step.Writable] using h.lower
  have hp := parse_text hwritable
  rwa [text, textTail, String.append_empty] at hp

/-- The path of a sequence of names. -/
def dotted (names : List String) : Path :=
  names.map Step.key

/-- The written form of names that follow: each of them behind a dot. -/
lemma toList_textTail_dotted_cons (name : String) (names : List String) :
    (textTail (dotted (name :: names))).toList =
      '.' :: (name.toList ++ (textTail (dotted names)).toList) := by
  simp [dotted, textTail]

/-- The written form of a sequence of names: the first one, and the others behind dots. -/
lemma toList_text_dotted_cons (name : String) (names : List String) :
    (text (dotted (name :: names))).toList =
      name.toList ++ (textTail (dotted names)).toList := by
  simp [dotted, text]

/-- Names have a written form. -/
lemma writable_of_mem_dotted {names : List String} (h : ∀ n ∈ names, IsName n) :
    ∀ a ∈ dotted names, a.Writable := by
  intro a ha
  obtain ⟨n, hn, rfl⟩ := List.mem_map.mp ha
  exact h n hn

/-- A sequence of names asks for no item of an array. -/
lemma not_pads_dotted (e : Path) (names : List String) : ¬ Pads e (dotted names) := by
  rintro ⟨q, i, j, rest, -, hp, -⟩
  have hi : Step.index i ∈ dotted names := hp ▸ List.mem_append_right q List.mem_cons_self
  obtain ⟨n, -, hn⟩ := List.mem_map.mp hi
  cases hn

/-- Different sequences of equally many names part. -/
lemma parted_dotted {names names' : List String} (hlength : names.length = names'.length)
    (hne : names ≠ names') : Parted (dotted names) (dotted names') := by
  induction names generalizing names' with
  | nil => exact absurd (List.eq_nil_of_length_eq_zero hlength.symm).symm hne
  | cons n ns ih =>
    obtain ⟨n', ns', rfl⟩ := List.exists_cons_of_length_eq_add_one hlength.symm
    by_cases hn : n = n'
    · subst hn
      exact .inr ⟨rfl, ih (Nat.succ.inj hlength) fun h => hne (h ▸ rfl)⟩
    · exact .inl hn

/-- Different sequences of names have different written forms. -/
lemma dotted_inj {names names' : List String} (hne : names ≠ []) (hne' : names' ≠ [])
    (h : ∀ n ∈ names, IsName n) (h' : ∀ n ∈ names', IsName n) :
    text (dotted names) = text (dotted names') ↔ names = names' := by
  refine ⟨fun ht => ?_, fun hn => hn ▸ rfl⟩
  obtain ⟨n, ns, rfl⟩ := List.exists_cons_of_ne_nil hne
  obtain ⟨n', ns', rfl⟩ := List.exists_cons_of_ne_nil hne'
  have hp := parse_text (writable_of_mem_dotted h)
  have hp' := parse_text (writable_of_mem_dotted h')
  have heq : dotted (n :: ns) = dotted (n' :: ns') :=
    Except.ok.inj (hp.symm.trans ((congrArg parse ht).trans hp'))
  exact List.map_injective_iff.mpr (fun _ _ => Step.key.inj) heq

/-- Names that follow are lower-cased to as many names, in any context. -/
lemma exists_lowerFrom_textTail {names : List String} (h : ∀ n ∈ names, IsName n)
    (before : List Char) :
    ∃ names' : List String, names'.length = names.length ∧ (∀ n ∈ names', IsName n) ∧
      Text.lowerFrom before (textTail (dotted names)).toList =
        (textTail (dotted names')).toList := by
  induction names generalizing before with
  | nil => exact ⟨[], rfl, by simp, rfl⟩
  | cons name names ih =>
    obtain ⟨name', hn', hname⟩ := exists_lowerFrom_name (h name List.mem_cons_self)
      ('.' :: before) (textTail (dotted names)).toList
    obtain ⟨names', hlength, hns', hnames⟩ := ih (fun n hn => h n (List.mem_cons_of_mem name hn))
      (name.toList.reverse ++ '.' :: before)
    refine ⟨name' :: names', by simp [hlength], by simpa using ⟨hn', hns'⟩, ?_⟩
    have hdot : Text.lowerFrom before ('.' :: (name.toList ++ (textTail (dotted names)).toList)) =
        '.' :: Text.lowerFrom ('.' :: before)
          (name.toList ++ (textTail (dotted names)).toList) := by
      rw [Text.lowerFrom, if_neg (by decide), if_neg (by decide), lowerChar_separator rfl]
    rw [toList_textTail_dotted_cons, toList_textTail_dotted_cons, hdot, hname, hnames]

/-- The written form of a sequence of names is lower-cased to that of as many names. -/
lemma exists_lower_text_dotted {names : List String} (hne : names ≠ [])
    (h : ∀ n ∈ names, IsName n) :
    ∃ names' : List String, names'.length = names.length ∧ (∀ n ∈ names', IsName n) ∧
      Text.lower (text (dotted names)) = text (dotted names') := by
  obtain ⟨name, names, rfl⟩ := List.exists_cons_of_ne_nil hne
  obtain ⟨name', hn', hname⟩ := exists_lowerFrom_name (h name List.mem_cons_self) []
    (textTail (dotted names)).toList
  obtain ⟨names', hlength, hns', hnames⟩ := exists_lowerFrom_textTail
    (fun n hn => h n (List.mem_cons_of_mem name hn)) (name.toList.reverse ++ [])
  refine ⟨name' :: names', by simp [hlength], by simpa using ⟨hn', hns'⟩, ?_⟩
  apply String.toList_inj.mp
  rw [Text.lower, String.toList_ofList, toList_text_dotted_cons, hname, hnames,
    toList_text_dotted_cons]

/-- The key that a sequence of names is written as is read as as many names. These are the names in
lower case iff the key is lower-cased to what they are written as. -/
theorem exists_parseKey_dotted {names : List String} (hne : names ≠ [])
    (h : ∀ n ∈ names, IsName n) :
    ∃ names' : List String, names'.length = names.length ∧
      parseKey (text (dotted names)) = .ok (dotted names') ∧
      (Text.lower (text (dotted names)) = text (dotted (names.map Text.lower)) ↔
        names' = names.map Text.lower) := by
  obtain ⟨names', hlength, hns', hlower⟩ := exists_lower_text_dotted hne h
  have hne' : names' ≠ [] := by
    rintro rfl
    exact hne (List.eq_nil_of_length_eq_zero hlength.symm)
  refine ⟨names', hlength, ?_, ?_⟩
  · obtain ⟨n, ns, rfl⟩ := List.exists_cons_of_ne_nil hne'
    rw [parseKey, hlower]
    exact parse_text (writable_of_mem_dotted hns')
  · rw [hlower]
    refine dotted_inj hne' (by simpa using hne) hns' fun n hn => ?_
    obtain ⟨m, hm, rfl⟩ := List.mem_map.mp hn
    exact (h m hm).lower

/-- Without a capital sigma, a name is lower-cased character by character. -/
lemma toList_lower_of_not_mem_sigma {name : String} (h : '\u03a3' ∉ name.toList) :
    (Text.lower name).toList = name.toList.flatMap Text.lowerForm := by
  rw [Text.lower, String.toList_ofList, Text.lowerFrom_of_not_mem_sigma h]

/-- Without capital sigmas, names that follow are lower-cased name by name. -/
lemma flatMap_lowerForm_textTail {names : List String} (h : ∀ n ∈ names, '\u03a3' ∉ n.toList) :
    '\u03a3' ∉ (textTail (dotted names)).toList ∧
      (textTail (dotted names)).toList.flatMap Text.lowerForm =
        (textTail (dotted (names.map Text.lower))).toList := by
  induction names with
  | nil => exact ⟨List.not_mem_nil, rfl⟩
  | cons name names ih =>
    have hname := h name List.mem_cons_self
    obtain ⟨hmem, hmap⟩ := ih fun n hn => h n (List.mem_cons_of_mem name hn)
    have hdot : Text.lowerForm '.' = ['.'] := by
      rw [Text.lowerForm, if_neg (by decide), lowerChar_separator rfl]
    rw [List.map_cons, toList_textTail_dotted_cons, toList_textTail_dotted_cons]
    refine ⟨by simp [hname, hmem], ?_⟩
    rw [List.flatMap_cons, List.flatMap_append, hdot, hmap, toList_lower_of_not_mem_sigma hname]
    rfl

/-- Without capital sigmas, a key and the names behind it are lower-cased one by one. -/
theorem lower_append_textTail_of_not_mem_sigma {key : String} {names : List String}
    (hkey : '\u03a3' ∉ key.toList) (h : ∀ n ∈ names, '\u03a3' ∉ n.toList) :
    Text.lower (key ++ textTail (dotted names)) =
      Text.lower key ++ textTail (dotted (names.map Text.lower)) := by
  obtain ⟨hmem, hmap⟩ := flatMap_lowerForm_textTail h
  have hall : '\u03a3' ∉ (key ++ textTail (dotted names)).toList := by
    rw [String.toList_append]
    simp [hkey, hmem]
  apply String.toList_inj.mp
  rw [toList_lower_of_not_mem_sigma hall, String.toList_append, String.toList_append,
    List.flatMap_append, hmap, toList_lower_of_not_mem_sigma hkey]

/-- Without capital sigmas, the written form of a sequence of names is lower-cased name by name. -/
theorem lower_text_dotted_of_not_mem_sigma {names : List String}
    (h : ∀ n ∈ names, '\u03a3' ∉ n.toList) :
    Text.lower (text (dotted names)) = text (dotted (names.map Text.lower)) := by
  cases names with
  | nil => rfl
  | cons name names =>
    exact lower_append_textTail_of_not_mem_sigma (h name List.mem_cons_self)
      fun n hn => h n (List.mem_cons_of_mem name hn)

/-- A key is read as a path, and with names in lower case behind it as the path that goes on with
these, in any spelling that has the same lower-case form. -/
lemma parseKey_append_textTail {key text : String} {p : Path} {names : List String}
    (hp : parseKey key = .ok p) (h : ∀ n ∈ names, IsName n)
    (htext : Text.lower text = Text.lower key ++ textTail (dotted names)) :
    parseKey text = .ok (p ++ dotted names) := by
  refine parse_ok_iff.mpr ?_
  rw [htext, String.toList_append]
  exact (parse_ok_iff.mp hp).append (continues_textTail (writable_of_mem_dotted h))

end Path

end LayeredConfig
