/-!
# Tables

A finite table with at most one value for each key, in the order in which the keys arrived. A table
is seen through `get?`; every operation is told by what it does to that view.
-/

namespace WatchHub

namespace Table

variable {K V : Type} [DecidableEq K]

/-- The value at a key in a list of rows. -/
def find? (k : K) : List (K × V) → Option V
  | [] => none
  | (k', v) :: rows => if k' = k then some v else find? k rows

/-- The rows with the value at a key replaced, or added at the end. -/
def putRow (k : K) (v : V) : List (K × V) → List (K × V)
  | [] => [(k, v)]
  | (k', v') :: rows => if k' = k then (k, v) :: rows else (k', v') :: putRow k v rows

/-- Putting a row in brings no key but its own. -/
theorem mem_keys_putRow {k k' : K} {v : V} {rows : List (K × V)}
    (h : k' ∈ (putRow k v rows).map Prod.fst) : k' = k ∨ k' ∈ rows.map Prod.fst := by
  induction rows with
  | nil => exact .inl (by simpa [putRow] using h)
  | cons row rows ih =>
    by_cases heq : row.1 = k
    · simp only [putRow, heq, if_true, List.map_cons, List.mem_cons] at h ⊢
      exact h.elim .inl fun h => .inr (.inr h)
    · simp only [putRow, heq, if_false, List.map_cons, List.mem_cons] at h ⊢
      rcases h with h | h
      · exact .inr (.inl h)
      · exact (ih h).elim .inl fun h => .inr (.inr h)

/-- Putting a row in leaves the keys distinct. -/
theorem nodup_putRow (k : K) (v : V) {rows : List (K × V)} (h : (rows.map Prod.fst).Nodup) :
    ((putRow k v rows).map Prod.fst).Nodup := by
  induction rows with
  | nil => simp [putRow]
  | cons row rows ih =>
    obtain ⟨hrow, hrows⟩ := List.nodup_cons.1 h
    by_cases heq : row.1 = k
    · subst heq
      simp only [putRow, if_true, List.map_cons]
      exact List.nodup_cons.2 ⟨hrow, hrows⟩
    · simp only [putRow, heq, if_false, List.map_cons, List.nodup_cons]
      refine ⟨fun hmem => ?_, ih hrows⟩
      exact (mem_keys_putRow hmem).elim heq hrow

theorem find?_putRow_self (k : K) (v : V) (rows : List (K × V)) :
    find? k (putRow k v rows) = some v := by
  induction rows with
  | nil => simp [putRow, find?]
  | cons row rows ih =>
    obtain ⟨k', v'⟩ := row
    by_cases h : k' = k <;> simp [putRow, find?, h, ih]

theorem find?_putRow_ne {k k' : K} (h : k ≠ k') (v : V) (rows : List (K × V)) :
    find? k' (putRow k v rows) = find? k' rows := by
  induction rows with
  | nil => simp [putRow, find?, h]
  | cons row rows ih =>
    obtain ⟨k₀, v₀⟩ := row
    by_cases h₀ : k₀ = k
    · simp [putRow, find?, h₀, h]
    · simp [putRow, find?, h₀, ih]

theorem find?_filter_ne (k k' : K) (rows : List (K × V)) :
    find? k' (rows.filter fun row => row.1 ≠ k) = if k = k' then none else find? k' rows := by
  induction rows with
  | nil => simp [find?]
  | cons row rows ih =>
    obtain ⟨k₀, v₀⟩ := row
    by_cases h₀ : k₀ = k <;> by_cases h : k = k' <;> simp_all [find?]

theorem find?_map (f : K → V → V) (k : K) (rows : List (K × V)) :
    find? k (rows.map fun row => (row.1, f row.1 row.2)) = (find? k rows).map (f k) := by
  induction rows with
  | nil => rfl
  | cons row rows ih =>
    obtain ⟨k', v⟩ := row
    by_cases h : k' = k
    · subst h
      simp [find?]
    · simp [find?, h, ih]

/-- With distinct keys, a value is found exactly if its row is there. -/
theorem find?_eq_some_iff {k : K} {v : V} {rows : List (K × V)} (h : (rows.map Prod.fst).Nodup) :
    find? k rows = some v ↔ (k, v) ∈ rows := by
  induction rows with
  | nil => simp [find?]
  | cons row rows ih =>
    obtain ⟨k', v'⟩ := row
    obtain ⟨hrow, hrows⟩ := List.nodup_cons.1 h
    by_cases heq : k' = k
    · subst heq
      have hnot : (k', v) ∉ rows := fun hmem => hrow (List.mem_map.2 ⟨_, hmem, rfl⟩)
      simp [find?, hnot, eq_comm]
    · have hne : k ≠ k' := fun h => heq h.symm
      simp [find?, heq, hne, ih hrows]

end Table

/-- A finite table, in the order in which its keys arrived. -/
structure Table (K V : Type) where
  rows : List (K × V)
  distinct : (rows.map Prod.fst).Nodup
deriving Repr

namespace Table

variable {K V : Type}

/-- The table without rows. -/
def empty : Table K V := ⟨[], List.nodup_nil⟩

instance : Inhabited (Table K V) := ⟨empty⟩

/-- The keys in the order of their arrival. -/
def keys (t : Table K V) : List K :=
  t.rows.map Prod.fst

/-- Changes every value, which may look at its key. -/
def mapValues (t : Table K V) (f : K → V → V) : Table K V where
  rows := t.rows.map fun row => (row.1, f row.1 row.2)
  distinct := by simpa [Function.comp_def] using t.distinct

variable [DecidableEq K]

/-- The value at a key. -/
def get? (t : Table K V) (k : K) : Option V :=
  find? k t.rows

/-- Sets the value at a key. -/
def put (t : Table K V) (k : K) (v : V) : Table K V :=
  ⟨putRow k v t.rows, nodup_putRow k v t.distinct⟩

/-- Removes a key. -/
def erase (t : Table K V) (k : K) : Table K V where
  rows := t.rows.filter fun row => row.1 ≠ k
  distinct := t.distinct.sublist (List.filter_sublist.map Prod.fst)

/-- Changes the value at a key, if there is one. -/
def modify (t : Table K V) (k : K) (f : V → V) : Table K V :=
  match t.get? k with
  | some v => t.put k (f v)
  | none => t

@[simp]
theorem get?_empty (k : K) : (empty : Table K V).get? k = none := rfl

/-- A value is at its key exactly if its row is there. -/
theorem get?_eq_some_iff {t : Table K V} {k : K} {v : V} : t.get? k = some v ↔ (k, v) ∈ t.rows :=
  find?_eq_some_iff t.distinct

/-- The value that was set is there. -/
@[simp]
theorem get?_put_self (t : Table K V) (k : K) (v : V) : (t.put k v).get? k = some v :=
  find?_putRow_self k v t.rows

/-- Other keys keep their values. -/
theorem get?_put_ne (t : Table K V) {k k' : K} (h : k ≠ k') (v : V) :
    (t.put k v).get? k' = t.get? k' :=
  find?_putRow_ne h v t.rows

/-- What is found after a value was set is this value, or it was found before. -/
theorem get?_put_eq_some {t : Table K V} {k k' : K} {v v' : V}
    (h : (t.put k v).get? k' = some v') : (k = k' ∧ v = v') ∨ (k ≠ k' ∧ t.get? k' = some v') := by
  by_cases heq : k = k'
  · subst heq
    rw [get?_put_self] at h
    exact .inl ⟨rfl, Option.some.inj h⟩
  · rw [get?_put_ne t heq] at h
    exact .inr ⟨heq, h⟩

/-- A removed key has no value, the other keys keep theirs. -/
theorem get?_erase (t : Table K V) (k k' : K) :
    (t.erase k).get? k' = if k = k' then none else t.get? k' :=
  find?_filter_ne k k' t.rows

/-- What is found after a key was removed was found before, under another key. -/
theorem get?_erase_eq_some {t : Table K V} {k k' : K} {v : V} (h : (t.erase k).get? k' = some v) :
    k ≠ k' ∧ t.get? k' = some v := by
  rw [get?_erase] at h
  split at h
  · cases h
  · exact ⟨‹_›, h⟩

/-- Every value is changed under its own key. -/
@[simp]
theorem get?_mapValues (t : Table K V) (f : K → V → V) (k : K) :
    (t.mapValues f).get? k = (t.get? k).map (f k) :=
  find?_map f k t.rows

/-- Only the value at the key is changed. -/
theorem get?_modify (t : Table K V) (k k' : K) (f : V → V) :
    (t.modify k f).get? k' = if k = k' then (t.get? k').map f else t.get? k' := by
  unfold modify
  split
  · rename_i v hv
    by_cases h : k = k'
    · subst h
      simp [hv]
    · simp [h, get?_put_ne t h]
  · rename_i hv
    by_cases h : k = k'
    · subst h
      simp [hv]
    · simp [h]

end Table

end WatchHub
