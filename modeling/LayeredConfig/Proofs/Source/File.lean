import Mathlib
import LayeredConfig.Proofs.Value.Origins
import LayeredConfig.Snapshot
import LayeredConfig.Source.File
import LayeredConfig.Value.Identity

set_option autoImplicit false

/-!
# How files are collected

A file gives a table of values that all have its path for their origin, or it is a fault of the
source. A few faults escape, though, and are not said to be faults of the source: that a path cannot
be looked at, that it ends in no name to which an extension could be added, that the reader of the
format cannot make the data that a text writes, and that the data hold an integer that cannot be
written.

## Main definitions

* `FileSource.Reads` — what a reader makes of the file.
* `FileSource.Absent` — there is no file.
* `FileSource.Escapes` — the faults that are not said to be faults of the source.

## Main results

* `FileSource.collectWith_ends` — how collecting ends, whatever the readers are.
-/

namespace LayeredConfig

namespace FileSource

/-- What a reader makes of the text in the file at a path, which is the one that is located. -/
def Reads (read : FileReader) (s : FileSource) (w : World) (path : Location)
    (x : Except ReadFault Datum) : Prop :=
  ∃ f octets cs, s.locate w = .ok (some (path, f)) ∧ w.files.read path = .ok octets ∧
    Text.decodeUtf8 octets = .ok cs ∧ read f (String.ofList (Text.foldNewlines cs)) = x

/-- A reader makes one thing of one file. -/
lemma Reads.unique {read : FileReader} {s : FileSource} {w : World} {path path' : Location}
    {x x' : Except ReadFault Datum} (h : s.Reads read w path x) (h' : s.Reads read w path' x') :
    path = path' ∧ x = x' := by
  obtain ⟨f, octets, cs, hlocate, hoctets, hdecode, rfl⟩ := h
  obtain ⟨f', octets', cs', hlocate', hoctets', hdecode', rfl⟩ := h'
  obtain ⟨rfl, rfl⟩ : path = path' ∧ f = f' := by simpa using hlocate.symm.trans hlocate'
  obtain rfl : octets = octets' := by simpa using hoctets.symm.trans hoctets'
  obtain rfl : cs = cs' := by simpa using hdecode.symm.trans hdecode'
  exact ⟨rfl, rfl⟩

/-- There is no file at the path, nor at the path with an extension. -/
def Absent (s : FileSource) (w : World) : Prop :=
  w.files.isFile s.path = .ok false ∧ ∀ c ∈ s.candidates, w.files.isFile c.1 = .ok false

/-- The faults of collecting that are not said to be faults of the source. -/
inductive Escapes (read : FileReader) (s : FileSource) (w : World) : Fault → Prop
  /-- The path cannot be looked at. -/
  | unseen {e : Fault} : w.files.isFile s.path = .error e → Escapes read s w e
  /-- There is no file at a path, and it has no name to which an extension could be added. -/
  | nameless : w.files.isFile s.path = .ok false → s.path.name = "" →
      Escapes read s w
        (.invalid ("PosixPath(" ++ Text.quoted s.path.text ++ ") has an empty name"))
  /-- There is no file at a path, nor at the path with some of the extensions, and with the next of
  them it cannot be looked at. -/
  | unseenCandidate {before after : List (Location × FileFormat)} {c : Location × FileFormat}
      {e : Fault} : w.files.isFile s.path = .ok false → s.path.name ≠ "" →
      s.candidates = before ++ c :: after → (∀ b ∈ before, w.files.isFile b.1 = .ok false) →
      w.files.isFile c.1 = .error e → Escapes read s w e
  /-- The reader cannot make the data that the text writes. -/
  | content {path : Location} {e : Fault} :
      s.Reads read w path (.error (.content e)) → Escapes read s w e
  /-- A key is an integer that cannot be written. -/
  | longKey {path : Location} {es : List (DatumKey × Datum)} :
      s.Reads read w path (.ok (.mapping es)) → (Datum.mapping es).HasLongKey →
      Escapes read s w .unwritableInteger
  /-- The first of the simplified data that has no place in a configuration is an integer that
  cannot be written. -/
  | longInteger {path : Location} {es : List (DatumKey × Datum)} {d : Datum} {i : Int} :
      s.Reads read w path (.ok (.mapping es)) → (Datum.mapping es).simplify = .ok d →
      d.StopsAt (.integer i) → Number.TooLong i → Escapes read s w .unwritableInteger

/-- A fault is said to be one of a source. -/
def IsOwn (e : Fault) : Prop :=
  ∃ name diagnostic, e = .source (some name) diagnostic

/-- A table that can be simplified becomes a table. -/
lemma record_of_simplify {es : List (DatumKey × Datum)} {d : Datum}
    (h : (Datum.mapping es).simplify = .ok d) : ∃ out, d = .record out := by
  obtain ⟨out, -, h⟩ := Fault.bind_eq_ok_iff.mp h
  exact ⟨out, (Except.ok.inj h).symm⟩

/-- Simplified data that cannot be built are a fault of the source, if the fault concerns their
type. -/
lemma settings_of_build_error {es : List (DatumKey × Datum)} {d : Datum} {e : Fault}
    {origin : String} (hsimple : (Datum.mapping es).simplify = .ok d)
    (hbuild : Value.build (some origin) d = .error e) (s : FileSource) :
    s.settings origin (.mapping es) =
      if e.isTypeFault then s.failure (e.message ++ " in " ++ origin) else .error e := by
  obtain ⟨out, rfl⟩ := record_of_simplify hsimple
  have hofDatum : Value.ofDatum (.record out) (some origin) = .error e := hbuild
  simp only [settings, hsimple, hofDatum, Fault.ok_bind]

/-- Simplified data that can be built are a table of values. -/
lemma settings_of_build {es : List (DatumKey × Datum)} {d : Datum} {v : Value} {origin : String}
    (hsimple : (Datum.mapping es).simplify = .ok d) (hbuild : Value.build (some origin) d = .ok v)
    (s : FileSource) : ∃ fields x, v = .table (some origin) fields ∧
      s.settings origin (.mapping es) = .ok x ∧ x.IsTableOf fields := by
  obtain ⟨out, rfl⟩ := record_of_simplify hsimple
  obtain ⟨fields, hfields, h⟩ := Fault.bind_eq_ok_iff.mp hbuild
  obtain rfl := Except.ok.inj h
  have hofDatum : Value.ofDatum (.record out) (some origin) = .ok (.table (some origin) fields) :=
    hbuild
  refine ⟨fields, _, rfl, ?_, rfl, Value.nodup_keys_of_buildEntries hfields List.nodup_nil⟩
  simp only [settings, hsimple, hofDatum, Fault.ok_bind, Fault.pure_eq_ok]

/-- A key that cannot be written is the fault of the settings. -/
lemma settings_of_longKey {es : List (DatumKey × Datum)} (h : (Datum.mapping es).HasLongKey)
    (s : FileSource) (origin : String) :
    s.settings origin (.mapping es) = .error .unwritableInteger := by
  simp only [settings, Datum.simplify_error_iff.mpr ⟨rfl, h⟩, Fault.error_bind]

/-- An integer that cannot be written is the fault of the settings, where building stops at it. -/
lemma settings_of_longInteger {es : List (DatumKey × Datum)} {d : Datum} {i : Int}
    (hsimple : (Datum.mapping es).simplify = .ok d) (hstops : d.StopsAt (.integer i))
    (hlong : Number.TooLong i) (s : FileSource) (origin : String) :
    s.settings origin (.mapping es) = .error .unwritableInteger :=
  settings_of_build_error hsimple ((Value.build_unwritable_iff
    (Datum.not_hasLongKey_of_simplify hsimple)).mpr ⟨i, hstops, hlong⟩) s

/-- The settings of data that were read: a table of values with one origin, a fault of the source,
or an integer that cannot be written. -/
lemma settings_ends (s : FileSource) (origin : String) (d : Datum) :
    (∃ fields, (∃ x, s.settings origin d = .ok x ∧ x.IsTableOf fields) ∧
      (d.Native → ∀ e ∈ fields, e.2.AllFrom (some origin))) ∨
    (∃ e, s.settings origin d = .error e ∧ IsOwn e) ∨
    s.settings origin d = .error .unwritableInteger ∧ ∃ es, d = .mapping es ∧
      (d.HasLongKey ∨
        ∃ d' i, d.simplify = .ok d' ∧ d'.StopsAt (.integer i) ∧ Number.TooLong i) := by
  cases d with
  | nil => exact .inl ⟨[], ⟨_, rfl, rfl, List.nodup_nil⟩, fun _ => List.forall_mem_nil _⟩
  | mapping es =>
    cases hsimple : (Datum.mapping es).simplify with
    | error e =>
      obtain ⟨-, hlong⟩ := Datum.simplify_error_iff.mp hsimple
      exact .inr (.inr ⟨settings_of_longKey hlong s origin, es, rfl, .inl hlong⟩)
    | ok d' =>
      have hkeys := Datum.not_hasLongKey_of_simplify hsimple
      cases hbuild : Value.build (some origin) d' with
      | error e =>
        have hsettings := settings_of_build_error hsimple hbuild s
        rcases Value.fault_of_build hkeys hbuild with htype | rfl
        · rw [if_pos htype] at hsettings
          exact .inr (.inl ⟨_, hsettings, _, _, rfl⟩)
        · obtain ⟨i, hstops, hlong⟩ := (Value.build_unwritable_iff hkeys).mp hbuild
          exact .inr (.inr ⟨hsettings, es, rfl, .inr ⟨d', i, rfl, hstops, hlong⟩⟩)
      | ok v =>
        obtain ⟨fields, x, rfl, hsettings, htable⟩ := settings_of_build hsimple hbuild s
        refine .inl ⟨fields, ⟨x, hsettings, htable⟩, fun hnative => ?_⟩
        cases Value.allFrom_of_build (hnative.simplify hsimple) hbuild with
        | table hall => exact hall
  | _ => exact .inr (.inl ⟨_, rfl, _, _, rfl⟩)

/-- What is collected, by what a reader makes of the file. -/
def outcome (s : FileSource) (path : Location) : Except ReadFault Datum → Except Fault Datum
  | .error (.malformed diagnostic) =>
    .error (.source (some (.text path.text)) (diagnostic ++ " in " ++ path.text))
  | .error (.content e) => .error e
  | .ok d => s.settings path.text d

/-! ## Looking for the file -/

section Locating

variable {isFile : Location → Except Fault Bool} {s : FileSource} {w : World}

/-- The first file is looked for up to it, or up to a path that cannot be looked at. -/
lemma firstFile_append {before : List (Location × FileFormat)}
    (hbefore : ∀ b ∈ before, isFile b.1 = .ok false) (cs : List (Location × FileFormat)) :
    firstFile isFile (before ++ cs) = firstFile isFile cs := by
  induction before with
  | nil => rfl
  | cons b before ih =>
    obtain ⟨hb, hbefore⟩ := List.forall_mem_cons.mp hbefore
    rw [List.cons_append, firstFile, hb]
    exact ih hbefore

/-- There is a file at none of the paths, or one is the first that has one or cannot be looked
at. -/
lemma firstFile_cases (isFile : Location → Except Fault Bool) (cs : List (Location × FileFormat)) :
    (∀ c ∈ cs, isFile c.1 = .ok false) ∨
      ∃ before c after, cs = before ++ c :: after ∧ (∀ b ∈ before, isFile b.1 = .ok false) ∧
        (isFile c.1 = .ok true ∨ ∃ e, isFile c.1 = .error e) := by
  induction cs with
  | nil => exact .inl (List.forall_mem_nil _)
  | cons c cs ih =>
    rcases hc : isFile c.1 with e | (_ | _)
    · exact .inr ⟨[], c, cs, rfl, List.forall_mem_nil _, .inr ⟨e, hc⟩⟩
    · rcases ih with hcs | ⟨before, c', after, rfl, hbefore, hc'⟩
      · exact .inl (List.forall_mem_cons.mpr ⟨hc, hcs⟩)
      · exact .inr ⟨c :: before, c', after, rfl, List.forall_mem_cons.mpr ⟨hc, hbefore⟩, hc'⟩
    · exact .inr ⟨[], c, cs, rfl, List.forall_mem_nil _, .inl hc⟩

/-- Where the path itself names no file, it is tried with extensions. -/
lemma locate_of_not_isFile (hfile : w.files.isFile s.path = .ok false) (hname : s.path.name ≠ "") :
    s.locate w = firstFile w.files.isFile s.candidates := by
  simp [locate, hfile, hname]

/-- The file at the path itself is located, if its format is known. -/
lemma locate_of_isFile (hfile : w.files.isFile s.path = .ok true) {f : FileFormat}
    (hformat : s.format.or (FileFormat.ofLocation? s.path) = some f) :
    s.locate w = .ok (some (s.path, f)) := by
  cases hgiven : s.format with
  | none =>
    rw [hgiven, Option.none_or] at hformat
    simp [locate, hfile, hgiven, hformat]
  | some g =>
    rw [hgiven, Option.some_or] at hformat
    obtain rfl := Option.some.inj hformat
    simp [locate, hfile, hgiven]

end Locating

section Collecting

variable {read : FileReader} {s : FileSource} {w : World}

/-- What a reader makes of the file is collected. -/
lemma collectWith_of_reads {path : Location} {x : Except ReadFault Datum}
    (h : s.Reads read w path x) : (s.collectWith read w).1 = s.outcome path x := by
  obtain ⟨f, octets, cs, hlocate, hoctets, hdecode, rfl⟩ := h
  simp only [collectWith, hlocate, hoctets, contents, hdecode, Fault.ok_bind]
  rfl

/-- Nothing is collected where the file cannot be located. -/
lemma collectWith_of_locate_error (read : FileReader) {e : Fault} (h : s.locate w = .error e) :
    (s.collectWith read w).1 = .error e := by
  simp only [collectWith, h, Fault.error_bind]

/-- Collecting fails with each fault that escapes. -/
lemma collectWith_of_escapes {e : Fault} (h : s.Escapes read w e) :
    (s.collectWith read w).1 = .error e := by
  cases h with
  | unseen hfile =>
    refine collectWith_of_locate_error read ?_
    simp only [locate, hfile, Fault.error_bind]
  | nameless hfile hname =>
    refine collectWith_of_locate_error read ?_
    simp [locate, hfile, hname]
  | unseenCandidate hfile hname hcandidates hbefore hc =>
    refine collectWith_of_locate_error read ?_
    rw [locate_of_not_isFile hfile hname, hcandidates, firstFile_append hbefore, firstFile, hc]
    rfl
  | content h =>
    rw [collectWith_of_reads h]
    rfl
  | longKey h hlong =>
    rw [collectWith_of_reads h]
    exact settings_of_longKey hlong s _
  | longInteger h hsimple hstops hlong =>
    rw [collectWith_of_reads h]
    exact settings_of_longInteger hsimple hstops hlong s _

/-- A file that is missing is a fault of the source, if it is required. -/
lemma collectWith_of_absent (read : FileReader) (habsent : s.Absent w) (hname : s.path.name ≠ "") :
    (s.collectWith read w).1 =
      if s.required then s.failure ("configuration file " ++ s.path.text ++ " not found")
      else .ok (.mapping []) := by
  obtain ⟨hfile, hcandidates⟩ := habsent
  have hlocate : s.locate w = .ok none := by
    rw [locate_of_not_isFile hfile hname, ← List.append_nil s.candidates,
      firstFile_append hcandidates]
    rfl
  simp only [collectWith, hlocate, Fault.ok_bind]

/-- A file that is located cannot be read, holds no text, or a reader makes something of it. -/
lemma reads_of_locate (read : FileReader) {path : Location} {f : FileFormat}
    (hlocate : s.locate w = .ok (some (path, f))) :
    (∃ diagnostic, (s.collectWith read w).1 = s.failure diagnostic) ∨
      ∃ path x, s.Reads read w path x := by
  cases hoctets : w.files.read path with
  | error diagnostic =>
    refine .inl ⟨"could not read " ++ path.text ++ ": " ++ diagnostic, ?_⟩
    simp only [collectWith, hlocate, hoctets, Fault.ok_bind]
  | ok octets =>
    cases hdecode : Text.decodeUtf8 octets with
    | error e =>
      refine .inl ⟨"could not read " ++ path.text ++ ": " ++ e.message, ?_⟩
      simp only [collectWith, hlocate, hoctets, contents, hdecode, Fault.ok_bind]
    | ok cs => exact .inr ⟨path, _, f, octets, cs, hlocate, hoctets, hdecode, rfl⟩

/-- Looking for the file fails with a fault that escapes, or there is no file at a path with a name,
or it has no known format, or it cannot be read as a text, or a reader makes something of it. -/
lemma collecting_cases (read : FileReader) (s : FileSource) (w : World) :
    (∃ e, s.Escapes read w e) ∨ (s.Absent w ∧ s.path.name ≠ "") ∨
    (∃ diagnostic, (s.collectWith read w).1 = s.failure diagnostic) ∨
    ∃ path x, s.Reads read w path x := by
  rcases hfile : w.files.isFile s.path with e | (_ | _)
  · exact .inl ⟨e, .unseen hfile⟩
  · by_cases hname : s.path.name = ""
    · exact .inl ⟨_, .nameless hfile hname⟩
    · rcases firstFile_cases w.files.isFile s.candidates with habsent |
        ⟨before, c, after, hcandidates, hbefore, hc | ⟨e, hc⟩⟩
      · exact .inr (.inl ⟨⟨hfile, habsent⟩, hname⟩)
      · have hlocate : s.locate w = .ok (some (c.1, c.2)) := by
          rw [locate_of_not_isFile hfile hname, hcandidates, firstFile_append hbefore, firstFile,
            hc]
          rfl
        exact .inr (.inr (reads_of_locate read hlocate))
      · exact .inl ⟨e, .unseenCandidate hfile hname hcandidates hbefore hc⟩
  · cases hformat : s.format.or (FileFormat.ofLocation? s.path) with
    | none =>
      obtain ⟨hnone, hunknown⟩ := Option.or_eq_none_iff.mp hformat
      refine .inr (.inr (.inl ⟨"unsupported file format: " ++ s.path.text, ?_⟩))
      simp [collectWith, locate, hfile, hnone, hunknown, failure]
    | some f => exact .inr (.inr (reads_of_locate read (locate_of_isFile hfile hformat)))

/-- Collecting ends with a table of values, with a fault of the source or with one that escapes. -/
lemma table_or_fault (read : FileReader) (s : FileSource) (w : World) :
    (∃ x fields, (s.collectWith read w).1 = .ok x ∧ x.IsTableOf fields ∧
      ∀ e ∈ fields, ∃ path d, s.Reads read w path (.ok d) ∧
        (d.Native → e.2.AllFrom (some path.text))) ∨
    ∃ e, (s.collectWith read w).1 = .error e ∧ (IsOwn e ∨ s.Escapes read w e) := by
  rcases collecting_cases read s w with ⟨e, hescapes⟩ | ⟨habsent, hname⟩ | ⟨diagnostic, h⟩ |
    ⟨path, x, hreads⟩
  · exact .inr ⟨e, collectWith_of_escapes hescapes, .inr hescapes⟩
  · have h := collectWith_of_absent read habsent hname
    split_ifs at h
    · exact .inr ⟨_, h, .inl ⟨_, _, rfl⟩⟩
    · exact .inl ⟨_, [], h, ⟨rfl, List.nodup_nil⟩, List.forall_mem_nil _⟩
  · exact .inr ⟨_, h, .inl ⟨_, _, rfl⟩⟩
  · have h := collectWith_of_reads hreads
    cases x with
    | error e =>
      cases e with
      | malformed diagnostic => exact .inr ⟨_, h, .inl ⟨_, _, rfl⟩⟩
      | content e => exact .inr ⟨e, h, .inr (.content hreads)⟩
    | ok d =>
      rcases settings_ends s path.text d with ⟨fields, ⟨x, hx, hfields⟩, horigin⟩ | ⟨e, he, hown⟩ |
        ⟨hlong, es, rfl, hkey | ⟨d', i, hsimple, hstops, hi⟩⟩
      · exact .inl ⟨x, fields, h.trans hx, hfields, fun e he =>
          ⟨path, d, hreads, fun hnative => horigin hnative e he⟩⟩
      · exact .inr ⟨e, h.trans he, .inl hown⟩
      · exact .inr ⟨_, h.trans hlong, .inr (.longKey hreads hkey)⟩
      · exact .inr ⟨_, h.trans hlong, .inr (.longInteger hreads hsimple hstops hi)⟩

/-- **How files are collected**: for all readers of the formats and all file systems, in which
looking at a path may fail too, the surroundings are left as they are. What is collected is a table
of values, in which every key stands once, and if the data in the file are native, every node of the
values has the path of the file for its origin. A fault is said to be one of a source, or it escapes
(`Escapes`), and each of those that escape is raised. Where there is no file at a path with a name,
and none is required, the table is empty.

**Proof sketch.** A path cannot be looked at, there is no file, its text cannot be had, or a reader
makes something of it (`collecting_cases`). The data that a reader returns are settings, a fault of
the source, or hold an integer that cannot be written (`settings_ends`). -/
theorem collectWith_ends (read : FileReader) (s : FileSource) (w : World) :
    (s.collectWith read w).2 = w ∧
    (∀ x, (s.collectWith read w).1 = .ok x → ∃ fields, x.IsTableOf fields ∧
      ∀ e ∈ fields, ∃ path d, s.Reads read w path (.ok d) ∧
        (d.Native → e.2.AllFrom (some path.text))) ∧
    (∀ e, (s.collectWith read w).1 = .error e → IsOwn e ∨ s.Escapes read w e) ∧
    (∀ e, s.Escapes read w e → (s.collectWith read w).1 = .error e) ∧
    (s.Absent w → s.path.name ≠ "" → s.required = false →
      (s.collectWith read w).1 = .ok (.mapping [])) := by
  have hends := table_or_fault read s w
  refine ⟨rfl, fun x hx => ?_, fun e he => ?_, fun e he => collectWith_of_escapes he,
    fun habsent hname hrequired => ?_⟩
  · rcases hends with ⟨x', fields, h, hfields⟩ | ⟨e, h, -⟩
    · obtain rfl := Except.ok.inj (h.symm.trans hx)
      exact ⟨fields, hfields⟩
    · cases h.symm.trans hx
  · rcases hends with ⟨x', fields, h, -⟩ | ⟨e', h, hends⟩
    · cases h.symm.trans he
    · obtain rfl := Except.error.inj (h.symm.trans he)
      exact hends
  · rw [collectWith_of_absent read habsent hname, hrequired]
    rfl

end Collecting

/-- A file in the working directory, and nothing else. -/
def onlyFile (name text : String) : Snapshot :=
  ⟨[([name], .file (text.toList.map Char.toNat))], []⟩

/-- The surroundings in which there is nothing but a file in the working directory. -/
def withFile (name text : String) : World :=
  (onlyFile name text).world

/-- A file in the working directory as a source. -/
def named (name : String) : FileSource :=
  ⟨⟨"", [name]⟩, none, true, .text ("file:" ++ name), "/" ++ name⟩

/-- What is in the working directory of these surroundings. -/
lemma find_onlyFile (name text part : String) (hpart : '\x00' ∉ part.toList)
    (hdots : part ≠ "..") : (onlyFile name text).find ⟨"", [part]⟩ =
      if name = part then some (.file (text.toList.map Char.toNat)) else none := by
  have hroot : (onlyFile name text).nodeAt [] = some .directory := by
    simp [Snapshot.nodeAt, onlyFile]
  have hcwd : (onlyFile name text).cwd = [] := rfl
  have hnode : (onlyFile name text).nodeAt [part] =
      if name = part then some (.file (text.toList.map Char.toNat)) else none := by
    by_cases hname : name = part
    · simp [Snapshot.nodeAt, onlyFile, hname]
    · have hpart' : ¬ part = name := fun h => hname h.symm
      simp [Snapshot.nodeAt, onlyFile, hname, hpart']
  simp [Snapshot.find, Snapshot.hasNull, Snapshot.walk, hpart, hdots, hroot, hcwd, hnode]

/-- Where there is a file in these surroundings. -/
lemma isFile_withFile (name text part : String) (hpart : '\x00' ∉ part.toList)
    (hdots : part ≠ "..") :
    (withFile name text).files.isFile ⟨"", [part]⟩ = .ok (decide (name = part)) := by
  have hfile : (withFile name text).files.isFile ⟨"", [part]⟩ =
      .ok ((onlyFile name text).holdsFile ⟨"", [part]⟩) := rfl
  rw [hfile, Snapshot.holdsFile, find_onlyFile name text part hpart hdots]
  split_ifs with hname <;> simp [hname]

/-- The octets of the file in these surroundings. -/
lemma read_withFile (name text : String) (hname : '\x00' ∉ name.toList) (hdots : name ≠ "..") :
    (withFile name text).files.read ⟨"", [name]⟩ = .ok (text.toList.map Char.toNat) := by
  have hread : (withFile name text).files.read ⟨"", [name]⟩ =
      (onlyFile name text).read ⟨"", [name]⟩ := rfl
  rw [hread, Snapshot.read, find_onlyFile name text name hname hdots, if_pos rfl]

/-- The message of a fault of data that a text writes but that cannot be had. -/
def invalidContent? : Except ReadFault Datum → Option String
  | .error (.content (.invalid diagnostic)) => some diagnostic
  | _ => none

/-- What such a message is read from. -/
lemma eq_of_invalidContent? {x : Except ReadFault Datum} {diagnostic : String}
    (h : invalidContent? x = some diagnostic) : x = .error (.content (.invalid diagnostic)) := by
  unfold invalidContent? at h
  split at h
  · rw [Option.some.inj h]
  · cases h

/-- A table in JSON, found by its name without the extension. -/
theorem collectWith_ends_json :
    let s := named "c"
    let w := withFile "c.json" "\x7b\"A\": [1, \"x\"]\x7d"
    ∃ fields : List (String × Value),
      (s.collect w).1 = .ok (.record (fields.map fun e => (e.1, .value e.2))) ∧
      fields ≠ [] ∧ ∀ e ∈ fields, e.2.AllFrom (some "c.json") := by
  intro s w
  let d : Datum := .record [("A", .sequence [.integer 1, .text "x"])]
  have hlocate (text : String) : s.locate (withFile "c.json" text) =
      .ok (some (⟨"", ["c.json"]⟩, .json)) := by
    have hfile := isFile_withFile "c.json" text "c.json" (by decide) (by decide)
    have hstem := isFile_withFile "c.json" text "c" (by decide) (by decide)
    have hyaml := isFile_withFile "c.json" text "c.yaml" (by decide) (by decide)
    have hyml := isFile_withFile "c.json" text "c.yml" (by decide) (by decide)
    have hcandidates : s.candidates = [(⟨"", ["c.yaml"]⟩, .yaml), (⟨"", ["c.yml"]⟩, .yaml),
        (⟨"", ["c.json"]⟩, .json), (⟨"", ["c.toml"]⟩, .toml)] := by decide +kernel
    have hpath : s.path = ⟨"", ["c"]⟩ := rfl
    have hname : Location.name ⟨"", ["c"]⟩ = "c" := rfl
    simp [locate, firstFile, hpath, hname, hcandidates, hstem, hyaml, hyml, hfile]
  have hread : FileFormat.read .json
      (String.ofList (Text.foldNewlines "\x7b\"A\": [1, \"x\"]\x7d".toList)) = .ok d :=
    Fault.toOption_eq_some_iff.mp (by decide +kernel)
  have hdecode : Text.decodeUtf8 ("\x7b\"A\": [1, \"x\"]\x7d".toList.map Char.toNat) =
      .ok "\x7b\"A\": [1, \"x\"]\x7d".toList := rfl
  have hreads : s.Reads FileFormat.read w ⟨"", ["c.json"]⟩ (.ok d) :=
    ⟨.json, _, _, hlocate _, read_withFile _ _ (by decide) (by decide), hdecode, hread⟩
  have hcollect : (s.collect w).1 = s.settings "c.json" d := collectWith_of_reads hreads
  have hsettings : s.settings "c.json" d = .ok (.record [("A", .value (.array (some "c.json")
      [.scalar (some "c.json") (.integer 1), .scalar (some "c.json") (.text "x")]))]) := rfl
  have hnative : d.Native := by
    refine .intro (by simp [d, Datum.record]) fun x hx => ?_
    obtain rfl := List.mem_singleton.mp hx
    refine .intro (by simp) fun x hx => ?_
    rcases List.mem_pair.mp hx with rfl | rfl <;>
      exact .intro (by simp) (List.forall_mem_nil _)
  obtain ⟨-, hok, -⟩ := collectWith_ends FileFormat.read s w
  obtain ⟨fields, ⟨hfields, -⟩, hfrom⟩ := hok _ (hcollect.trans hsettings)
  refine ⟨fields, ?_, ?_, fun e he => ?_⟩
  · rw [← hfields]
    exact hcollect.trans hsettings
  · rintro rfl
    cases hfields
  · obtain ⟨path, d', hreads', hfrom⟩ := hfrom e he
    obtain ⟨rfl, hd⟩ := hreads.unique hreads'
    obtain rfl := Except.ok.inj hd
    exact hfrom hnative

/-- A date that does not exist is no fault of the source. -/
theorem collect_fails_impossible_date :
    ((named "x.yaml").collect (withFile "x.yaml" "d: 2024-13-01")).1 =
      .error (.invalid "month must be in 1..12") := by
  have hlocate (text : String) : (named "x.yaml").locate (withFile "x.yaml" text) =
      .ok (some (⟨"", ["x.yaml"]⟩, .yaml)) := by
    have hfile := isFile_withFile "x.yaml" text "x.yaml" (by decide) (by decide)
    have hformat : FileFormat.ofLocation? ⟨"", ["x.yaml"]⟩ = some .yaml := by decide +kernel
    exact locate_of_isFile hfile hformat
  have hread : FileFormat.read .yaml (String.ofList (Text.foldNewlines "d: 2024-13-01".toList)) =
      .error (.content (.invalid "month must be in 1..12")) :=
    eq_of_invalidContent? (by decide +kernel)
  have hdecode : Text.decodeUtf8 ("d: 2024-13-01".toList.map Char.toNat) =
      .ok "d: 2024-13-01".toList := rfl
  have hreads : (named "x.yaml").Reads FileFormat.read (withFile "x.yaml" "d: 2024-13-01")
      ⟨"", ["x.yaml"]⟩ (.error (.content (.invalid "month must be in 1..12"))) :=
    ⟨.yaml, _, _, hlocate _, read_withFile _ _ (by decide) (by decide), hdecode, hread⟩
  exact collectWith_of_reads hreads

end FileSource

end LayeredConfig
