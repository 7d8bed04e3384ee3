import Mathlib
import LayeredConfig.Proofs.Path.Writing
import LayeredConfig.Proofs.Store.Reachable

set_option autoImplicit false

/-!
# Precedence

What stands at a path of the merged tree is decided by the last write that touches the path: that
leads to it, through it or up to it. A write that parts from the path leads elsewhere and decides
nothing, but on its way it may fill up an array with absent values.

Since the writes of a store are its defaults, what its sources contribute, and its overrides, in
this order, overrides take precedence over sources, later sources over earlier ones, and these over
defaults.

## Main definitions

* `LastTouching` — the last write of a sequence that touches a path.
* `Value.AbsentOrPadded` — nothing stands at a path, but for an absent value that fills a gap.

## Main results

* `Value.get?_replay_of_parted` — writes that part from a path.
* `Value.get?_replay_of_lastTouching`, `Value.absentOrPadded_replay` — the last write that touches
  a path.
* `Store.last_touching_write_wins` — reading from a store whose tree was built anew.
-/

namespace LayeredConfig

/-- The write `l` of a sequence is the last one that touches `p`; `after` are those that follow. -/
structure LastTouching (writes : List (Path × Value)) (p : Path) (l : Path × Value)
    (after : List (Path × Value)) : Prop where
  /-- The write belongs to the sequence. -/
  split : ∃ before, writes = before ++ l :: after
  /-- The write does not part from the path. -/
  touches : ¬ Path.Parted l.1 p
  /-- Those that follow do. -/
  parted : ∀ m ∈ after, Path.Parted m.1 p

namespace Value

/-- Nothing stands at `p`, but for an absent value with which one of the writes filled up an array
on its way to a later item. -/
def AbsentOrPadded (tree : Value) (writes : List (Path × Value)) (p : Path) : Prop :=
  tree.get? p = none ∨ tree.get? p = some nil ∧ ∃ l ∈ writes, Path.Pads l.1 p

/-- Writes that part from `p` keep what stands at `p`. Where nothing did, there may be an absent
value afterwards that fills a gap.

**Proof sketch.** Induction on the writes. The first one keeps what stands at `p`, or fills a gap
(`get?_write_of_parted`). In the latter case the others find an absent value at `p`, which they
keep. -/
lemma get?_replay_of_parted {writes : List (Path × Value)} {p : Path}
    (h : ∀ l ∈ writes, Path.Parted l.1 p) (tree : Value) :
    (tree.replay writes).get? p = tree.get? p ∨
      tree.get? p = none ∧ (tree.replay writes).get? p = some nil ∧
        ∃ l ∈ writes, Path.Pads l.1 p := by
  induction writes generalizing tree with
  | nil => exact .inl rfl
  | cons l ls ih =>
    have hl : Path.Parted l.1 p := h l List.mem_cons_self
    have hls := ih (fun m hm => h m (List.mem_cons_of_mem l hm)) (tree.set l.1 l.2)
    rw [replay_cons]
    rw [set_of_ne_nil hl.ne_nil.1] at hls ⊢
    rcases get?_write_of_parted hl l.2 tree with hw | ⟨ht, hw, hp⟩
    · rw [hw] at hls
      rcases hls with hls | ⟨ht, hn, m, hm, hp⟩
      · exact .inl hls
      · exact .inr ⟨ht, hn, m, List.mem_cons_of_mem l hm, hp⟩
    · rw [hw] at hls
      rcases hls with hls | ⟨ht', -⟩
      · exact .inr ⟨ht, hls, l, List.mem_cons_self, hp⟩
      · cases ht'

/-- If no write touches a path, nothing stands there but padding. -/
lemma absentOrPadded_replay_of_parted {writes : List (Path × Value)} {p : Path} {tree : Value}
    (ht : tree.get? p = none) (h : ∀ l ∈ writes, Path.Parted l.1 p) :
    (tree.replay writes).AbsentOrPadded writes p := by
  rcases get?_replay_of_parted h tree with h | ⟨-, h⟩
  · exact .inl (h.trans ht)
  · exact .inr h

/-- The tree right after the last write that touches a path, and the writes that follow. -/
lemma replay_of_lastTouching {writes after : List (Path × Value)} {p e : Path} {v : Value}
    (h : LastTouching writes p (e, v) after) (he : e ≠ []) (tree : Value) :
    ∃ t : Value, tree.replay writes = (write v e t).replay after := by
  obtain ⟨before, rfl⟩ := h.split
  refine ⟨tree.replay before, ?_⟩
  rw [replay_append, replay_cons, set_of_ne_nil he]

/-- If the last write that touches a path leads to it or to a place above it, the path holds what
the value that was written has there. -/
lemma get?_replay_of_lastTouching {writes after : List (Path × Value)} {e rest : Path}
    {v x : Value} (h : LastTouching writes (e ++ rest) (e, v) after) (he : e ≠ [])
    (hx : v.get? rest = some x) (tree : Value) :
    (tree.replay writes).get? (e ++ rest) = some x := by
  obtain ⟨t, ht⟩ := replay_of_lastTouching h he tree
  have hw : (write v e t).get? (e ++ rest) = some x := by
    rw [get?_write_append, hx]
  rw [ht]
  rcases get?_replay_of_parted h.parted (write v e t) with h | ⟨hn, -⟩
  · exact h.trans hw
  · rw [hw] at hn
    cases hn

/-- What was written at a path stands there, if all later writes part from the path. -/
lemma get?_replay_of_parted_after {e : Path} (he : e ≠ []) {after : List (Path × Value)}
    (hafter : ∀ m ∈ after, Path.Parted m.1 e) (before : List (Path × Value)) (v tree : Value) :
    (tree.replay (before ++ (e, v) :: after)).get? e = some v := by
  have hlast : LastTouching (before ++ (e, v) :: after) (e ++ []) (e, v) after := by
    rw [List.append_nil]
    exact ⟨⟨before, rfl⟩, Path.not_parted_iff.mpr (.inl List.prefix_rfl), hafter⟩
  have hget := get?_replay_of_lastTouching hlast he (get?_root v) tree
  rwa [List.append_nil] at hget

/-- If the last write that touches a path leaves nothing there, nothing stands there but padding. -/
lemma absentOrPadded_replay {writes after : List (Path × Value)} {p e : Path} {v : Value}
    (h : LastTouching writes p (e, v) after) (he : e ≠ [])
    (hn : Path.Clashing e p ∨ ∃ rest, p = e ++ rest ∧ v.get? rest = none) (tree : Value) :
    (tree.replay writes).AbsentOrPadded after p := by
  obtain ⟨t, ht⟩ := replay_of_lastTouching h he tree
  rw [ht]
  refine absentOrPadded_replay_of_parted ?_ h.parted
  rcases hn with hc | ⟨rest, rfl, hv⟩
  · exact get?_write_of_clashing hc v t
  · rw [get?_write_append, hv]

end Value

variable {ω : Type}

namespace Store

/-- The writes of a store whose layers are addressed stand at paths that have steps. -/
lemma ne_nil_of_mem_writes {s : Store ω} (hs : s.Addressed) {w w' : ω}
    {leaves : List (Path × Value)} (hc : Contributed s.sources w leaves w') :
    ∀ l ∈ s.writes leaves, l.1 ≠ [] := by
  intro l hl
  rcases List.mem_append.mp hl with hl | hl
  · rcases List.mem_append.mp hl with hl | hl
    · exact hs.1 l hl
    · exact hc.ne_nil l hl
  · exact hs.2 l hl

/-- **The last touching write wins**: in a store that can be reached, after an operation that
succeeds, let `W` be the writes of all defaults, of what the sources contributed to the operation,
and of all overrides. Where the last of them that touches a path leads to it or above it, with a
value that holds something at the remaining steps, the path holds just that, with its origin. Where
no write touches the path, or the last one that does leaves nothing there, since it clashes with the
path or its value holds nothing at the remaining steps, nothing stands there but padding.

**Proof sketch.** The tree comes of replaying `W` in an empty table (`Operation.perform_ok_iff`),
where nothing stands at `p`. Every write stands at a path that has steps, for the layers of a
reachable store are addressed (`Reachable.addressed`). So the laws for replaying apply. -/
theorem last_touching_write_wins {s s' : Store ω} (hs : s.Reachable) {op : Operation ω}
    {w w' : ω} (h : op.perform (s, w) = (.ok (), (s', w'))) :
    ∃ leaves W, Contributed s'.sources w leaves w' ∧
      W = s'.defaults ++ leaves ++ s'.overrides ∧
      ∀ p : Path, p ≠ [] →
        (∀ e v rest x after, LastTouching W p (e, v) after → p = e ++ rest →
          v.get? rest = some x → s'.cache.get? p = some x) ∧
        ((∀ l ∈ W, Path.Parted l.1 p) → s'.cache.AbsentOrPadded W p) ∧
        (∀ e v after, LastTouching W p (e, v) after →
          (Path.Clashing e p ∨ ∃ rest, p = e ++ rest ∧ v.get? rest = none) →
          s'.cache.AbsentOrPadded after p) := by
  have hs' : s'.Addressed := (hs.of_perform h).addressed
  obtain ⟨-, f, leaves, -, hc, rfl⟩ := Operation.perform_ok_iff.mp h
  have hW := ne_nil_of_mem_writes hs' hc
  have hne {p e : Path} {v : Value} {after : List (Path × Value)}
      (hl : LastTouching ((f s.toLayers).writes leaves) p (e, v) after) : e ≠ [] := by
    obtain ⟨before, hb⟩ := hl.split
    exact hW (e, v) (by rw [built, hb]; simp)
  refine ⟨leaves, _, hc, rfl, fun p hp => ⟨?_, ?_, ?_⟩⟩
  · rintro e v rest x after hl rfl hx
    exact Value.get?_replay_of_lastTouching hl (hne hl) hx _
  · intro hl
    exact Value.absentOrPadded_replay_of_parted (Value.get?_emptyTable hp) hl
  · intro e v after hl hn
    exact Value.absentOrPadded_replay hl (hne hl) hn _

/-- A default at `a` holds `b = 1` and `c = 3`, and an override `a.b = 2` is set: it parts from
`a.c`, where the default decides. -/
theorem last_touching_write_wins_default :
    ∃ s s' : Store Unit, s.Reachable ∧
      (Operation.set "a.b" (.integer 2)).perform (s, ()) = (.ok (), (s', ())) ∧
      s'.cache.get? [.key "a", .key "c"] = some (.scalar none (.integer 3)) := by
  let table : Value :=
    .table none [("b", .scalar none (.integer 1)), ("c", .scalar none (.integer 3))]
  have ha : Path.parseKey "a" = .ok [.key "a"] := by cbv
  have hab : Path.parseKey "a.b" = .ok [.key "a", .key "b"] := by cbv
  let base : Layers Unit := ⟨[([.key "a"], table)], [], []⟩
  have hd : (Operation.setDefault "a" (.value table)).perform (empty, ()) =
      (.ok (), (built base [], ())) :=
    Operation.perform_of_edit rfl (Operation.edit_setDefault ha rfl) (.nil ())
  have ho : (Operation.set "a.b" (.integer 2)).perform (built base [], ()) = _ :=
    Operation.perform_of_edit rfl (Operation.edit_set hab rfl) (.nil ())
  have hs := Reachable.empty.of_perform hd
  refine ⟨_, _, hs, ho, ?_⟩
  obtain ⟨leaves, W, hc, hW, hp⟩ := last_touching_write_wins hs ho
  cases hc
  subst hW
  refine (hp [.key "a", .key "c"] (by simp)).1 [.key "a"] table [.key "c"] _
    [([.key "a", .key "b"], .scalar none (.integer 2))] ⟨⟨[], rfl⟩, by decide, by decide⟩ rfl rfl

end Store

end LayeredConfig
