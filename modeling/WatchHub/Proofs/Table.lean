import Mathlib.Tactic.Lemma
import WatchHub.Table

/-!
# Tables by their keys

Which keys a table has after an operation, and in which order; two tables with the same keys and the same
values at them are the same.
-/

namespace WatchHub

namespace Table

variable {K V : Type}

lemma keys_mapValues (t : Table K V) (f : K → V → V) : (t.mapValues f).keys = t.keys := by
  simp [keys, mapValues, Function.comp_def]

variable [DecidableEq K]

lemma keys_putRow (k : K) (v : V) (rows : List (K × V)) :
    (putRow k v rows).map Prod.fst =
      if k ∈ rows.map Prod.fst then rows.map Prod.fst else rows.map Prod.fst ++ [k] := by
  induction rows with
  | nil => rfl
  | cons row rows ih =>
    obtain ⟨k', v'⟩ := row
    unfold putRow
    by_cases heq : k' = k
    · subst heq
      simp
    · have hne : ¬ k = k' := fun h => heq h.symm
      simp only [heq, if_false, List.map_cons, ih, List.mem_cons, hne, false_or]
      split <;> rfl

/-- A row of a table into which one was put is this one, or was there before. -/
lemma mem_putRow {k : K} {v : V} {row : K × V} {rows : List (K × V)}
    (h : row ∈ putRow k v rows) : row = (k, v) ∨ row ∈ rows := by
  induction rows with
  | nil => exact .inl (List.mem_singleton.1 h)
  | cons other rows ih =>
    unfold putRow at h
    split at h
    · exact (List.mem_cons.1 h).imp id (List.mem_cons_of_mem other)
    · rcases List.mem_cons.1 h with rfl | h
      · exact .inr (List.mem_cons_self ..)
      · exact (ih h).imp id (List.mem_cons_of_mem other)

/-- A key that is new comes last. -/
lemma keys_put (t : Table K V) (k : K) (v : V) :
    (t.put k v).keys = if k ∈ t.keys then t.keys else t.keys ++ [k] :=
  keys_putRow k v t.rows

lemma mem_keys_of_get? {t : Table K V} {k : K} {v : V} (h : t.get? k = some v) : k ∈ t.keys :=
  List.mem_map.2 ⟨_, get?_eq_some_iff.1 h, rfl⟩

/-- The keys of the rows that a test picks out, by what is found at each key. -/
lemma keys_filter (t : Table K V) (p : V → Bool) :
    (t.rows.filter fun row => p row.2).map Prod.fst =
      t.keys.filter fun k => (t.get? k).any p := by
  have hrows : ∀ row ∈ t.rows, p row.2 = (t.get? row.1).any p := by
    intro row hrow
    rw [get?_eq_some_iff.2 hrow, Option.any_some]
  rw [keys, List.filter_map, List.filter_congr hrows]
  rfl

lemma keys_modify (t : Table K V) (k : K) (f : V → V) : (t.modify k f).keys = t.keys := by
  unfold modify
  split
  · rw [keys_put, if_pos (mem_keys_of_get? ‹_›)]
  · rfl

lemma find?_eq_none {k : K} {rows : List (K × V)} (h : k ∉ rows.map Prod.fst) :
    find? k rows = none := by
  induction rows with
  | nil => rfl
  | cons row rows ih =>
    rw [List.map_cons, List.mem_cons, not_or] at h
    rw [find?, if_neg (Ne.symm h.1), ih h.2]

/-- A table is known by its keys and the values at them. -/
lemma ext_get? {t t' : Table K V} (hkeys : t.keys = t'.keys) (hget : ∀ k, t.get? k = t'.get? k) :
    t = t' := by
  obtain ⟨rows, hrows⟩ := t
  obtain ⟨rows', hrows'⟩ := t'
  congr
  change ∀ k, find? k rows = find? k rows' at hget
  change rows.map Prod.fst = rows'.map Prod.fst at hkeys
  induction rows generalizing rows' with
  | nil => exact (List.map_eq_nil_iff.1 hkeys.symm).symm
  | cons row rows ih =>
    obtain ⟨row', rows', rfl⟩ : ∃ row' rows₁, rows' = row' :: rows₁ :=
      List.exists_cons_of_ne_nil fun h => by simp [h] at hkeys
    obtain ⟨k, v⟩ := row
    obtain ⟨k', v'⟩ := row'
    obtain ⟨rfl, htail⟩ := List.cons.inj hkeys
    obtain ⟨hk, hrows⟩ := List.nodup_cons.1 hrows
    obtain ⟨hk', hrows'⟩ := List.nodup_cons.1 hrows'
    have hv : v = v' := by simpa [find?] using hget k
    rw [hv, ih hrows rows' hrows' (fun k₀ => ?_) htail]
    -- the key of the first row is in neither rest
    by_cases heq : k = k₀
    · rw [← heq, find?_eq_none hk, find?_eq_none hk']
    · simpa [find?, heq] using hget k₀

/-- What is there already can be put there again. -/
lemma put_self {t : Table K V} {k : K} {v : V} (h : t.get? k = some v) : t.put k v = t := by
  refine ext_get? (by rw [keys_put, if_pos (mem_keys_of_get? h)]) fun k' => ?_
  by_cases heq : k = k'
  · rw [← heq, get?_put_self, h]
  · exact get?_put_ne t heq v

end Table

end WatchHub
