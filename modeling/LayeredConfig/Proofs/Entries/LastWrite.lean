import Mathlib
import LayeredConfig.Proofs.Path.Canonical
import LayeredConfig.Proofs.Value.Equality

set_option autoImplicit false

/-!
# Maps that writes leave

A map to which entries are written one after the other has the value of the last write at each key,
and its keys stand in the order of their first writes. If the keys are then replaced by others, and
several become one, it is the entry that stands last among them whose value is left: the one whose
key was the last to be written for the first time, with the value that was written there last.

## Main definitions

* `Entries.LastWrite` — the last write at a key.

## Main results

* `Entries.get?_ofList_eq_some_iff` — what stands at a key.
* `Entries.idxOf_keys_ofList_le_iff` — in which order the keys stand.
* `Entries.get?_ofList_map_ofList` — what stands at a key when keys have been replaced.
-/

namespace LayeredConfig.Entries

variable {κ ι α β : Type} [DecidableEq κ]

/-- The last of some writes at a key has this value: no write behind it is at the key. -/
def LastWrite (writes : List (κ × α)) (k : κ) (v : α) : Prop :=
  ∃ before after, writes = before ++ (k, v) :: after ∧ k ∉ after.map Prod.fst

variable {writes : List (κ × α)} {k : κ} {v : α}

/-! ## Values -/

/-- One more write is the last one at its own key, and changes nothing at others. -/
lemma lastWrite_concat_iff {e : κ × α} :
    LastWrite (writes ++ [e]) k v ↔ if e.1 = k then e.2 = v else LastWrite writes k v := by
  constructor
  · rintro ⟨before, after, hsplit, hafter⟩
    rcases List.eq_nil_or_concat' after with rfl | ⟨after, x, rfl⟩
    · obtain ⟨-, hlast⟩ := List.append_inj' hsplit rfl
      obtain rfl := List.singleton_inj.mp hlast
      simp
    · rw [← List.cons_append, ← List.append_assoc] at hsplit
      obtain ⟨rfl, hlast⟩ := List.append_inj' hsplit rfl
      obtain rfl := List.singleton_inj.mp hlast
      rw [List.map_append, List.mem_append, not_or] at hafter
      rw [if_neg fun he => hafter.2 (by simp [he])]
      exact ⟨before, after, rfl, hafter.1⟩
  · split_ifs with he
    · rintro rfl
      exact ⟨writes, [], by rw [← he], List.not_mem_nil⟩
    · rintro ⟨before, after, rfl, hafter⟩
      refine ⟨before, after ++ [e], by rw [List.append_assoc, List.cons_append], ?_⟩
      rw [List.map_append, List.mem_append, not_or]
      exact ⟨hafter, fun h => he (List.mem_singleton.mp h).symm⟩

/-- **What stands at a key** is what the last write there wrote. -/
theorem get?_ofList_eq_some_iff : get? k (ofList writes) = some v ↔ LastWrite writes k v := by
  induction writes using List.reverseRecOn with
  | nil =>
    refine iff_of_false nofun ?_
    rintro ⟨before, after, hsplit, -⟩
    simp at hsplit
  | append_singleton writes e ih =>
    rw [ofList_concat, put, lastWrite_concat_iff, ← ih]
    split_ifs with he
    · rw [← he, get?_alter_self, Option.some.injEq]
    · rw [get?_alter_of_ne (Ne.symm he)]

/-! ## Keys -/

/-- One more write leaves the keys as they are, or adds a new one at the end. -/
lemma keys_ofList_concat (writes : List (κ × α)) (e : κ × α) :
    (ofList (writes ++ [e])).keys =
      if e.1 ∈ (ofList writes).keys then (ofList writes).keys
      else (ofList writes).keys ++ [e.1] := by
  rw [ofList_concat, put, keys_alter]

/-- No key stands twice in the map that writes leave. -/
lemma nodup_keys_ofList (writes : List (κ × α)) : (ofList writes).keys.Nodup := by
  induction writes using List.reverseRecOn with
  | nil => exact List.nodup_nil
  | append_singleton writes e ih => exact ofList_concat writes e ▸ nodup_keys_alter ih e.1 _

/-- The keys of the map that writes leave are those at which something was written. -/
lemma mem_keys_ofList_iff : k ∈ (ofList writes).keys ↔ k ∈ writes.map Prod.fst := by
  induction writes using List.reverseRecOn with
  | nil => rfl
  | append_singleton writes e ih =>
    rw [keys_ofList_concat, List.map_append, List.mem_append, ← ih]
    split_ifs with he
    · refine ⟨.inl, fun h => h.elim id fun h => ?_⟩
      exact List.mem_singleton.mp h ▸ he
    · exact List.mem_append

/-- A key stands before another one in a list with one more key at the end, which was not there. -/
lemma idxOf_concat_le_iff {ks : List κ} {a b c : κ} (hc : c ∉ ks) (ha : a ∈ ks ++ [c])
    (hb : b ∈ ks ++ [c]) :
    (ks ++ [c]).idxOf a ≤ (ks ++ [c]).idxOf b ↔
      b = c ∨ a ∈ ks ∧ b ∈ ks ∧ ks.idxOf a ≤ ks.idxOf b := by
  have hmem {x : κ} (hx : x ∈ ks ++ [c]) : x ∈ ks ∨ x = c := by simpa using hx
  have hlt {x : κ} (hx : x ∈ ks) : ks.idxOf x < ks.length := List.idxOf_lt_length_iff.mpr hx
  rcases hmem ha with ha' | ha' <;> rcases hmem hb with hb' | hb'
  · have hbc : b ≠ c := fun h => hc (h ▸ hb')
    simp [List.idxOf_append_of_mem, ha', hb', hbc]
  · have hle := (hlt ha').le
    simpa [List.idxOf_append_of_mem, List.idxOf_append_of_notMem, ha', hb', hc] using hle
  · have hbc : b ≠ c := fun h => hc (h ▸ hb')
    have hnot := (hlt hb').not_ge
    simpa [List.idxOf_append_of_mem, List.idxOf_append_of_notMem, ha', hb', hc, hbc] using hnot
  · simp [ha', hb']

/-- **In which order keys stand**: in that of their first writes. -/
theorem idxOf_keys_ofList_le_iff {a b : κ} (ha : a ∈ writes.map Prod.fst)
    (hb : b ∈ writes.map Prod.fst) :
    (ofList writes).keys.idxOf a ≤ (ofList writes).keys.idxOf b ↔
      (writes.map Prod.fst).idxOf a ≤ (writes.map Prod.fst).idxOf b := by
  induction writes using List.reverseRecOn with
  | nil => cases ha
  | append_singleton writes e ih =>
    rw [List.map_append, List.map_singleton] at ha hb ⊢
    rw [keys_ofList_concat]
    by_cases he : e.1 ∈ writes.map Prod.fst
    · have hmem {x : κ} (hx : x ∈ writes.map Prod.fst ++ [e.1]) : x ∈ writes.map Prod.fst := by
        rcases List.mem_append.mp hx with hx | hx
        · exact hx
        · exact List.mem_singleton.mp hx ▸ he
      rw [if_pos (mem_keys_ofList_iff.mpr he), ih (hmem ha) (hmem hb),
        List.idxOf_append_of_mem (hmem ha), List.idxOf_append_of_mem (hmem hb)]
    · have hnew : e.1 ∉ (ofList writes).keys := mt mem_keys_ofList_iff.mp he
      have hmem {x : κ} (hx : x ∈ writes.map Prod.fst ++ [e.1]) :
          x ∈ (ofList writes).keys ++ [e.1] := by
        rwa [List.mem_append, mem_keys_ofList_iff, ← List.mem_append]
      rw [if_neg hnew, idxOf_concat_le_iff hnew (hmem ha) (hmem hb),
        idxOf_concat_le_iff he ha hb, mem_keys_ofList_iff, mem_keys_ofList_iff]
      refine or_congr_right (and_congr_right fun ha' => and_congr_right fun hb' => ?_)
      exact ih ha' hb'

/-! ## Other keys -/

/-- Where no key stands twice, those that do not stand behind a key are those that stand before it,
and the key itself. -/
lemma idxOf_le_iff_of_split {ks ls : List κ} (h : (ks ++ k :: ls).Nodup) {l : κ}
    (hl : l ∈ ks ++ k :: ls) :
    (ks ++ k :: ls).idxOf l ≤ (ks ++ k :: ls).idxOf k ↔ l ∉ ls := by
  obtain ⟨-, hrest, hdisjoint⟩ := List.nodup_append.mp h
  have hk : k ∉ ks := fun hk => hdisjoint k hk k List.mem_cons_self rfl
  have hkls : k ∉ ls := (List.nodup_cons.mp hrest).1
  rw [List.idxOf_append_of_notMem hk, List.idxOf_cons_self]
  rcases List.mem_append.mp hl with hl | hl
  · have hlt : ks.idxOf l < ks.length := List.idxOf_lt_length_iff.mpr hl
    have hnot : l ∉ ls := fun h => hdisjoint l hl l (List.mem_cons_of_mem k h) rfl
    rw [List.idxOf_append_of_mem hl]
    exact iff_of_true hlt.le hnot
  · have hlks : l ∉ ks := fun h => hdisjoint l h l hl rfl
    rw [List.idxOf_append_of_notMem hlks]
    rcases List.mem_cons.mp hl with rfl | hl
    · exact iff_of_true (by rw [List.idxOf_cons_self]) hkls
    · have hne : k ≠ l := fun h => hkls (h ▸ hl)
      rw [List.idxOf_cons_ne ls hne]
      exact iff_of_false (by omega) (not_not_intro hl)

variable {f : κ → ι} {g : α → β} {i : ι} {w : β}

/-- Where keys have been replaced, the last write at a key comes of the last entry that has it. -/
lemma lastWrite_map_iff {es : Entries κ α} (hes : es.keys.Nodup) :
    LastWrite (es.map fun e => (f e.1, g e.2)) i w ↔
      ∃ k v, (k, v) ∈ es ∧ f k = i ∧ g v = w ∧
        ∀ l ∈ es.keys, f l = i → es.keys.idxOf l ≤ es.keys.idxOf k := by
  constructor
  · rintro ⟨before, after, hsplit, hafter⟩
    obtain ⟨before, rest, rfl, rfl, hrest⟩ := List.map_eq_append_iff.mp hsplit
    obtain ⟨⟨k, v⟩, after, rfl, he, rfl⟩ := List.map_eq_cons_iff.mp hrest
    obtain ⟨rfl, rfl⟩ := Prod.mk.inj he
    refine ⟨k, v, by simp, rfl, rfl, fun l hl hli => ?_⟩
    simp only [keys, List.map_append, List.map_cons] at hes hl ⊢
    refine (idxOf_le_iff_of_split hes hl).mpr fun hlafter => hafter ?_
    obtain ⟨e, he, rfl⟩ := List.mem_map.mp hlafter
    rw [List.map_map]
    exact List.mem_map.mpr ⟨e, he, hli⟩
  · rintro ⟨k, v, hmem, rfl, rfl, hlast⟩
    obtain ⟨before, after, rfl⟩ := List.append_of_mem hmem
    refine ⟨_, _, List.map_append, fun hi => ?_⟩
    rw [List.map_map] at hi
    obtain ⟨e, he, hei⟩ := List.mem_map.mp hi
    simp only [keys, List.map_append, List.map_cons] at hes hlast
    have hl : e.1 ∈ before.map Prod.fst ++ k :: after.map Prod.fst :=
      List.mem_append_right _ (List.mem_cons_of_mem k (List.mem_map_of_mem he))
    exact (idxOf_le_iff_of_split hes hl).mp (hlast e.1 hl hei) (List.mem_map_of_mem he)

/-- The keys that have replaced others are those that the keys of writes become. -/
lemma mem_keys_ofList_map_ofList [DecidableEq ι] :
    i ∈ (ofList ((ofList writes).map fun e => (f e.1, g e.2))).keys ↔
      ∃ e ∈ writes, f e.1 = i := by
  have hkeys : ((ofList writes).map fun e => (f e.1, g e.2)).map Prod.fst =
      (ofList writes).keys.map f := by
    simp [keys]
  rw [mem_keys_ofList_iff, hkeys]
  simp only [List.mem_map, mem_keys_ofList_iff, exists_exists_and_eq_and]

/-- **What stands at a key when keys have been replaced**: of those that became this key, the one
that was the last to be written for the first time counts, with the value that was written there
last. -/
theorem get?_ofList_map_ofList [DecidableEq ι] :
    get? i (ofList ((ofList writes).map fun e => (f e.1, g e.2))) = some w ↔
      ∃ k v, LastWrite writes k v ∧ f k = i ∧ g v = w ∧
        ∀ l ∈ writes.map Prod.fst, f l = i →
          (writes.map Prod.fst).idxOf l ≤ (writes.map Prod.fst).idxOf k := by
  have hnodup := nodup_keys_ofList writes
  rw [get?_ofList_eq_some_iff, lastWrite_map_iff hnodup]
  refine exists_congr fun k => exists_congr fun v => ?_
  rw [← get?_eq_some_iff hnodup, get?_ofList_eq_some_iff]
  refine and_congr_right fun hkv => and_congr_right fun _ => and_congr_right fun _ => ?_
  have hk : k ∈ writes.map Prod.fst := by
    obtain ⟨before, after, rfl, -⟩ := hkv
    simp
  refine forall_congr' fun l => ?_
  rw [mem_keys_ofList_iff]
  exact forall_congr' fun hl => by rw [idxOf_keys_ofList_le_iff hl hk]

end LayeredConfig.Entries
