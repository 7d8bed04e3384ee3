import Mathlib
import LayeredConfig.Proofs.Store.FixedPoint
import LayeredConfig.Proofs.Value.Replacing

set_option autoImplicit false

/-!
# What a filter keeps out

A filter drops leaves by the written form of their paths. The scalars that it drops do not show
anywhere: two stores whose sources answer alike, up to such scalars, have the same merged tree, and
every operation does the same to both.

## Main definitions

* `Datum.AlikePayload` — payloads that differ at most in scalars at hidden paths.
* `Registered.Alike` — sources that differ at most in scalars that the filter drops.
* `Store.Alike` — stores that differ at most in such sources.

## Main results

* `Datum.exists_alikePayload_set` — every scalar at a hidden path can be replaced by any other.
* `Registered.Alike.contribute_eq` — such sources contribute the same.
* `Operation.Alike.perform` — an operation does the same to such stores.
* `Store.Alike.run` — such stores stay so in every run.
* `Store.merge_unseen` — what the filter of a merged source drops is never seen.
-/

namespace LayeredConfig

/-! ## Payloads -/

/-- Two entries of payloads differ at most in scalars at hidden paths. The key of an entry is a path
in its written form. -/
def Datum.AlikeRoot (hidden : Path → Prop) (e e' : DatumKey × Datum) : Prop :=
  e = e' ∨ e.1 = e'.1 ∧ ∃ key root, e.1.display = .ok key ∧ Path.parseKey key = .ok root ∧
    Datum.Alike hidden root e.2 e'.2

/-- Two payloads differ at most in scalars at hidden paths. -/
inductive Datum.AlikePayload (hidden : Path → Prop) : Datum → Datum → Prop
  /-- Equal payloads. -/
  | same (d : Datum) : AlikePayload hidden d d
  /-- Tables whose entries differ at most in scalars at hidden paths. -/
  | mapping {es es' : List (DatumKey × Datum)} :
      List.Forall₂ (Datum.AlikeRoot hidden) es es' →
      AlikePayload hidden (.mapping es) (.mapping es')

section Payloads

variable {hidden : Path → Prop}

/-- Leaves agree that stand at the same paths and differ at hidden ones only. -/
abbrev AgreeLeaves (hidden : Path → Prop) :=
  Fault.Agree (List.Forall₂ (Value.AlikeLeaf hidden))

/-- The leaves of entries that differ at most in scalars at hidden paths. -/
lemma agreeLeaves_contributionOfEntries {es es' : List (DatumKey × Datum)}
    (h : List.Forall₂ (Datum.AlikeRoot hidden) es es') :
    AgreeLeaves hidden (contributionOfEntries es) (contributionOfEntries es') := by
  induction h with
  | nil => exact .ok .nil
  | @cons e e' es es' he _ ih =>
    obtain ⟨k, d⟩ := e
    obtain ⟨k', d'⟩ := e'
    rcases he with heq | ⟨hk, key, root, hkey, hroot, hd⟩
    · -- the same leaves come before those of the other entries
      obtain ⟨rfl, rfl⟩ := Prod.mk.inj heq
      refine .bind_left fun key _ => .bind_left fun root _ => .bind_left fun v _ => ?_
      exact ih.bind fun _ _ hls =>
        .ok (List.rel_append (List.forall₂_same.mpr fun _ _ => .inl rfl) hls)
    · obtain rfl : k = k' := hk
      refine .bind_left fun key' hkey' => .bind_left fun root' hroot' => ?_
      obtain rfl := Except.ok.inj (hkey.symm.trans hkey')
      obtain rfl := Except.ok.inj (hroot.symm.trans hroot')
      have hbuild := hd.build
      rw [← Value.ofDatum_none, ← Value.ofDatum_none] at hbuild
      exact hbuild.bind fun _ _ hv => ih.bind fun _ _ hls => .ok (List.rel_append hv.leaves hls)

/-- The leaves of payloads that differ at most in scalars at hidden paths. -/
lemma Datum.AlikePayload.agreeLeaves {d d' : Datum} (h : d.AlikePayload hidden d') :
    AgreeLeaves hidden (contribution d) (contribution d') := by
  cases h with
  | same d => exact .refl (fun _ => List.forall₂_same.mpr fun _ _ => .inl rfl) _
  | mapping hes => exact agreeLeaves_contributionOfEntries hes

/-- Replacing a leaf of the entries of a payload. -/
lemma exists_alikeRoots_set {es : List (DatumKey × Datum)} {leaves : List (Path × Value)}
    (h : contributionOfEntries es = .ok leaves) {i : Nat} {q : Path} {o : Option String}
    {c c' : Scalar} (hi : leaves[i]? = some (q, .scalar o c)) (hq : hidden q)
    (hc' : (Value.scalar none c').WellFormed) :
    ∃ es' o', List.Forall₂ (Datum.AlikeRoot hidden) es es' ∧
      contributionOfEntries es' = .ok (leaves.set i (q, .scalar o' c')) := by
  induction es generalizing i leaves with
  | nil =>
    obtain rfl := Except.ok.inj h
    cases hi
  | cons e es ih =>
    obtain ⟨k, d⟩ := e
    obtain ⟨key, hkey, h⟩ := Fault.bind_eq_ok_iff.mp h
    obtain ⟨root, hroot, h⟩ := Fault.bind_eq_ok_iff.mp h
    obtain ⟨v, hv, h⟩ := Fault.bind_eq_ok_iff.mp h
    obtain ⟨more, hmore, h⟩ := Fault.bind_eq_ok_iff.mp h
    obtain rfl := Except.ok.inj h
    have hunfold {d : Datum} {v : Value} {es : List (DatumKey × Datum)}
        {more : List (Path × Value)} (hv : Value.ofDatum d none = .ok v)
        (hmore : contributionOfEntries es = .ok more) :
        contributionOfEntries ((k, d) :: es) = .ok (v.leaves root ++ more) := by
      simp only [contributionOfEntries, hkey, hroot, hv, hmore, Fault.ok_bind, Fault.pure_eq_ok]
    rw [List.getElem?_append] at hi
    split_ifs at hi with hlt
    · rw [Value.ofDatum_none] at hv
      obtain ⟨d', v', o', halike, hd', hv'⟩ := Datum.exists_alike_set hq hc' d root i v hv hi
      rw [← Value.ofDatum_none] at hd'
      refine ⟨(k, d') :: es, o', .cons (.inr ⟨rfl, key, root, hkey, hroot, halike⟩)
        (List.forall₂_same.mpr fun _ _ => .inl rfl), ?_⟩
      rw [hunfold hd' hmore, hv', List.set_append_left _ _ hlt]
    · obtain ⟨es', o', halike, hes'⟩ := ih hmore hi
      refine ⟨(k, d) :: es', o', .cons (.inl rfl) halike, ?_⟩
      rw [hunfold hv hes', List.set_append_right _ _ (Nat.not_lt.mp hlt)]

/-- **Every scalar at a hidden path can be replaced**: for each leaf of a payload that is a scalar
at a hidden path, and each scalar, there is a payload that differs at most in scalars at hidden
paths, and whose leaves are the same but for the other scalar in the place of the first. -/
theorem Datum.exists_alikePayload_set {d : Datum} {leaves : List (Path × Value)}
    (h : contribution d = .ok leaves) {i : Nat} {q : Path} {o : Option String}
    {c c' : Scalar} (hi : leaves[i]? = some (q, .scalar o c)) (hq : hidden q)
    (hc' : (Value.scalar none c').WellFormed) :
    ∃ d' o', d.AlikePayload hidden d' ∧
      contribution d' = .ok (leaves.set i (q, .scalar o' c')) := by
  cases d with
  | mapping es =>
    obtain ⟨es', o', halike, hes'⟩ := exists_alikeRoots_set h hi hq hc'
    exact ⟨.mapping es', o', .mapping halike, hes'⟩
  | _ => cases h

end Payloads

variable {ω : Type}

/-! ## Sources -/

/-- The filter of a source drops what stands at a path. -/
def Registered.Drops (r : Registered ω) (p : Path) : Prop :=
  Filter.admits r.filter p.text = false

/-- Two sources that are registered with one filter and differ at most in the scalars that it
drops: in all surroundings they fail in the same way, or answer payloads that differ in no more. -/
structure Registered.Alike (r r' : Registered ω) : Prop where
  /-- They have the same identity. -/
  id : r.source.id = r'.source.id
  /-- They have the same name. -/
  name : r.source.name = r'.source.name
  /-- They have the same filter. -/
  filter : r.filter = r'.filter
  /-- They answer alike. -/
  answer : ∀ w, Fault.Agree (Datum.AlikePayload r.Drops) (r.source.collect w).1
    (r'.source.collect w).1
  /-- They leave the same surroundings. -/
  surroundings : ∀ w, (r.source.collect w).2 = (r'.source.collect w).2

/-- A source is like itself. -/
lemma Registered.Alike.refl (r : Registered ω) : r.Alike r :=
  ⟨rfl, rfl, rfl, fun _ => .refl .same _, fun _ => rfl⟩

/-- What a filter leaves of leaves that differ only where it drops them. -/
lemma Registered.filter_eq {r : Registered ω} {ls ms : List (Path × Value)}
    (h : List.Forall₂ (Value.AlikeLeaf r.Drops) ls ms) :
    (ls.filter fun l => Filter.admits r.filter l.1.text) =
      ms.filter fun l => Filter.admits r.filter l.1.text := by
  induction h with
  | nil => rfl
  | @cons l m ls ms hlm _ ih =>
    rcases hlm with rfl | ⟨hpath, hdrops⟩
    · rw [List.filter_cons, List.filter_cons, ih]
    · have hl : Filter.admits r.filter l.1.text = false := hdrops
      have hm : Filter.admits r.filter m.1.text = false := hpath ▸ hl
      simp only [List.filter_cons, hl, hm, Bool.false_eq_true, ↓reduceIte, ih]

/-- **What the filter drops is not contributed**: sources that differ in no more contribute the
same leaves, or fail in the same way.

**Proof sketch.** What the sources answer has leaves at the same paths, and where they differ the
filter drops both. Nothing else of an answer is looked at but what the faults say, and these agree
too (`Datum.AlikePayload.agreeLeaves`). -/
theorem Registered.Alike.contribute_eq {r r' : Registered ω} (h : r.Alike r') :
    r.contribute = r'.contribute := by
  funext w
  have hanswer := h.answer w
  have hsurroundings := h.surroundings w
  unfold Registered.contribute
  rcases hc : r.source.collect w with ⟨x, w₁⟩
  rcases hc' : r'.source.collect w with ⟨x', w₂⟩
  rw [hc, hc'] at hanswer hsurroundings
  obtain rfl : w₁ = w₂ := hsurroundings
  cases hanswer with
  | error e => simp only [h.name]
  | @ok payload payload' hpayload =>
    have hleaves := hpayload.agreeLeaves
    dsimp only
    generalize contribution payload = y at hleaves
    generalize contribution payload' = y' at hleaves
    cases hleaves with
    | error e => simp only [h.name]
    | ok hls =>
      have hkept := filter_eq hls
      rw [h.filter] at hkept
      simp only [h.filter, hkept]

/-- Sources that differ pairwise at most in scalars that their filters drop. -/
abbrev AlikeSources (rs rs' : List (Registered ω)) : Prop :=
  List.Forall₂ Registered.Alike rs rs'

/-- Sources are like themselves. -/
lemma alikeSources_refl (rs : List (Registered ω)) : AlikeSources rs rs :=
  List.forall₂_same.mpr fun r _ => .refl r

/-- Such sources contribute the same, asked one after the other. -/
lemma gather_eq_of_alike {rs rs' : List (Registered ω)} (h : AlikeSources rs rs') :
    gather rs = gather rs' := by
  induction h with
  | nil => rfl
  | cons hr _ ih =>
    funext w
    simp only [gather, hr.contribute_eq, ih]

/-- Such sources stay so when those of an identity are removed. -/
lemma alikeSources_removed {rs rs' : List (Registered ω)} (h : AlikeSources rs rs')
    (id : String) : AlikeSources (rs.filter fun r => !r.source.id.isText id)
      (rs'.filter fun r => !r.source.id.isText id) := by
  induction h with
  | nil => exact .nil
  | @cons r r' rs rs' hr _ ih =>
    simp only [List.filter_cons, hr.id]
    split
    · exact .cons hr ih
    · exact ih

/-! ## Operations -/

/-- Two operations are the same, or merge sources that differ at most in scalars that the filter
drops. -/
inductive Operation.Alike : Operation ω → Operation ω → Prop
  /-- The same operation. -/
  | same (op : Operation ω) : Alike op op
  /-- Merging sources. -/
  | merge {r r' : Registered ω} : r.Alike r' → Alike (.merge r) (.merge r')

namespace Store

/-- Two stores that differ at most in scalars that the filters of their sources drop. -/
structure Alike (s s' : Store ω) : Prop where
  /-- They have the same defaults. -/
  defaults : s.defaults = s'.defaults
  /-- Their sources differ pairwise in no more. -/
  sources : AlikeSources s.sources s'.sources
  /-- They have the same overrides. -/
  overrides : s.overrides = s'.overrides
  /-- They have the same merged tree. -/
  cache : s.cache = s'.cache
  /-- Either both are frozen, or none is. -/
  frozen : s.frozen = s'.frozen

/-- A store is like itself. -/
lemma Alike.refl (s : Store ω) : s.Alike s :=
  ⟨rfl, alikeSources_refl s.sources, rfl, rfl, rfl⟩

/-- Layers that differ in sources only, and leaves that do not differ, make stores that are
alike. -/
lemma alike_built {l l' : Layers ω} (hd : l.defaults = l'.defaults)
    (hs : AlikeSources l.sources l'.sources) (ho : l.overrides = l'.overrides)
    (leaves : List (Path × Value)) : (built l leaves).Alike (built l' leaves) where
  defaults := hd
  sources := hs
  overrides := ho
  cache := by simp only [built, Layers.writes, hd, ho]
  frozen := rfl

/-- Two outcomes of a step that works in place are alike: the same fault or none, stores that are
alike, and the same surroundings. -/
structure AlikeOutcome (x x' : Except Fault Unit × Store ω × ω) : Prop where
  /-- The same fault, or none. -/
  result : x.1 = x'.1
  /-- Stores that are alike. -/
  store : x.2.1.Alike x'.2.1
  /-- The same surroundings. -/
  surroundings : x.2.2 = x'.2.2

end Store

namespace Operation

/-- Operations that are alike amend sources that are alike to such. -/
lemma Alike.amendSources {op op' : Operation ω} (h : op.Alike op') {rs rs' : List (Registered ω)}
    (hrs : AlikeSources rs rs') : AlikeSources (op.amendSources rs) (op'.amendSources rs') := by
  cases h with
  | same op =>
    cases op with
    | merge r => exact List.rel_append hrs (alikeSources_refl [r])
    | removeSource id => exact alikeSources_removed hrs id
    | _ => exact hrs
  | merge hr => exact List.rel_append hrs (.cons hr .nil)

/-- Operations that are alike have the same edit of layers, but for the source that is merged. -/
lemma Alike.edit {op op' : Operation ω} (h : op.Alike op') :
    Fault.Agree (fun f f' => f = op.amend ∧ f' = op'.amend) op.edit op'.edit := by
  cases h with
  | same op =>
    cases hf : op.edit with
    | error e => exact .error e
    | ok f => exact .ok ⟨edit_eq_amend hf, edit_eq_amend hf⟩
  | merge hr => exact .ok ⟨rfl, rfl⟩

/-- Operations that are alike amend defaults and overrides in the same way. -/
lemma Alike.amends_eq {op op' : Operation ω} (h : op.Alike op') :
    op.default? = op'.default? ∧ op.override? = op'.override? := by
  cases h with
  | same op => exact ⟨rfl, rfl⟩
  | merge hr => exact ⟨rfl, rfl⟩

/-- **Operations do the same to stores that are alike**: they fail in the same way or not at all,
leave stores that are alike, and leave the same surroundings.

**Proof sketch.** The edit of the layers is the same (`Alike.edit`), up to the sources. These
contribute the same leaves (`gather_eq_of_alike`), so the same tree is built. -/
theorem Alike.perform {op op' : Operation ω} (h : op.Alike op') {s s' : Store ω} (hs : s.Alike s')
    (w : ω) : Store.AlikeOutcome (op.perform (s, w)) (op'.perform (s', w)) := by
  rw [perform_eq_revise, perform_eq_revise, Store.revise_eq, Store.revise_eq, ← hs.frozen]
  split_ifs
  · exact ⟨rfl, hs, rfl⟩
  · have hedit := h.edit
    generalize op.edit = x at hedit
    generalize op'.edit = x' at hedit
    cases hedit with
    | error e => exact ⟨rfl, hs, rfl⟩
    | ok hf =>
      obtain ⟨rfl, rfl⟩ := hf
      have hsources := h.amendSources hs.sources
      obtain ⟨hdefault, hoverride⟩ := h.amends_eq
      have hgather : gather (op.amend s.toLayers).sources w =
          gather (op'.amend s'.toLayers).sources w :=
        congrFun (gather_eq_of_alike hsources) w
      dsimp only
      rw [hgather]
      rcases gather (op'.amend s'.toLayers).sources w with ⟨e | leaves, w'⟩
      · exact ⟨rfl, hs, rfl⟩
      · refine ⟨rfl, Store.alike_built ?_ hsources ?_ leaves, rfl⟩
        · simp only [amend, hdefault, hs.defaults]
        · simp only [amend, hoverride, hs.overrides]

/-- Two runs are alike: their operations are so, each in the same surroundings. -/
abbrev AlikeRuns (ops ops' : List (Operation ω × ω)) : Prop :=
  List.Forall₂ (fun o o' => o.1.Alike o'.1 ∧ o.2 = o'.2) ops ops'

end Operation

namespace Store

/-- **Stores that are alike stay so in every run.** -/
theorem Alike.run {s s' : Store ω} (hs : s.Alike s') {ops ops' : List (Operation ω × ω)}
    (hops : Operation.AlikeRuns ops ops') : (s.run ops).Alike (s'.run ops') := by
  induction hops generalizing s s' with
  | nil => exact hs
  | @cons o o' ops ops' ho _ ih =>
    obtain ⟨op, w⟩ := o
    obtain ⟨op', w'⟩ := o'
    obtain ⟨hop, rfl⟩ := ho
    exact ih (hop.perform hs w).store

/-- **What the filter drops is never seen**: let two sources be registered with one filter, and
differ at most in scalars at paths that the filter drops. Merging the one or the other into a store
has the same outcome. After that, in any run, every operation has the same outcome too, and every
read the same answer; further merges may bring in such sources again.

**Proof sketch.** The stores are alike after the first step (`Operation.Alike.perform`) and stay so
(`Alike.run`); stores that are alike have the same merged tree, and reads look at nothing else. -/
theorem merge_unseen (s : Store ω) {r r' : Registered ω} (h : r.Alike r') (w : ω) :
    AlikeOutcome ((Operation.merge r).perform (s, w)) ((Operation.merge r').perform (s, w)) ∧
    ∀ ops ops' : List (Operation ω × ω), Operation.AlikeRuns ops ops' →
      let t := s.run ((.merge r, w) :: ops)
      let t' := s.run ((.merge r', w) :: ops')
      (∀ op op' : Operation ω, op.Alike op' → ∀ w',
        AlikeOutcome (op.perform (t, w')) (op'.perform (t', w'))) ∧
      (∀ key, t.get key = t'.get key) ∧ t.toDatum = t'.toDatum := by
  have hmerge := Operation.Alike.merge h
  refine ⟨hmerge.perform (.refl s) w, fun ops ops' hops => ?_⟩
  have hruns : Operation.AlikeRuns ((.merge r, w) :: ops) ((.merge r', w) :: ops') :=
    .cons ⟨hmerge, rfl⟩ hops
  have hstores := (Alike.refl s).run hruns
  refine ⟨fun op op' hop w' => hop.perform hstores w', fun key => ?_, ?_⟩
  · simp only [get, hstores.cache]
  · rw [toDatum, toDatum, hstores.cache]

/-- The filter keeps what stands below one key. A scalar below another key is a number in one payload
and a text in the other, and also in the next merge. -/
theorem merge_unseen_below_key :
    let payload (d : Datum) : Datum := .record [("a", .record [("B", d)]), ("c.d", .integer 2)]
    let filter := (Filter.ofPattern "^c").toOption
    let r (d : Datum) : Registered Unit := ⟨.fixed (payload d), filter⟩
    Filter.admits filter "a.b" = false ∧
      (empty.run [(.merge (r (.integer 1)), ()), (.refresh, ())]).get "a.b" =
        (empty.run [(.merge (r (.text "x")), ()), (.refresh, ())]).get "a.b" := by
  intro payload filter r
  have hdrops : Filter.admits filter "a.b" = false := by cbv
  have hpath : (Path.child [.key "a"] (Text.lower "B")).text = "a.b" := by cbv
  have hscalars : Datum.Alike (r (.integer 1)).Drops [.key "a"] (.record [("B", .integer 1)])
      (.record [("B", .text "x")]) := by
    refine .mapping (.cons rfl (.scalar ?_ ⟨none, _, rfl⟩ ⟨none, _, rfl⟩) .nil)
    rw [Registered.Drops, hpath]
    exact hdrops
  have hpayloads : (payload (.integer 1)).AlikePayload (r (.integer 1)).Drops
      (payload (.text "x")) := by
    have hkey : Path.parseKey "a" = .ok [.key "a"] := by cbv
    exact .mapping (.cons (.inr ⟨rfl, "a", _, rfl, hkey, hscalars⟩) (.cons (.inl rfl) .nil))
  have halike : (r (.integer 1)).Alike (r (.text "x")) :=
    ⟨rfl, rfl, rfl, fun _ => .ok hpayloads, fun _ => rfl⟩
  have h := merge_unseen (empty : Store Unit) halike ()
  exact ⟨hdrops, (h.2 [(.refresh, ())] _ (.cons ⟨.same _, rfl⟩ .nil)).2.1 "a.b"⟩

end Store

end LayeredConfig
