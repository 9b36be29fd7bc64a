import Mathlib.Data.List.Induction
import Mathlib.Data.List.Nodup
import WatchHub.Proofs.Log.History

/-!
# The index of a log

The index of a log holds the positions of the entries that are retained and nothing else
(`KeyLog.Indexed`). A log that was only ever appended to is indexed: it is the log of its history
(`KeyLog.given_eq_retaining`), of which everything is known. So a version is found exactly if its entry is
retained, and then its position lies between the head and the end of the log
(`KeyLog.indexed_of_appends`).
-/

namespace WatchHub.KeyLog

variable {P : Type} {capacity : Nat} {epoch : UInt64} {events : List (Event P)} {l : KeyLog P}
  {v : Version} {pos : Nat}

/-- A new log to which events were added one after the other. -/
def given (capacity : Nat) (epoch : UInt64) (events : List (Event P)) : KeyLog P :=
  events.foldl (append capacity) (.new epoch)

/-- The log that was given a history is the log of this history. -/
theorem given_eq_retaining (hroom : 1 ≤ capacity) :
    given capacity epoch events = retaining capacity epoch events := by
  induction events using List.reverseRecOn with
  | nil => exact new_eq_retaining capacity epoch
  | append_singleton events event ih =>
    rw [given, List.foldl_append]
    show (given capacity epoch events).append capacity event = _
    rw [ih, append_retaining hroom]

/-- The parts of a log agree: the retained entries are numbered without a gap up to the last number, and
the index has the position of each of them, one for each, and no other. -/
structure Indexed (l : KeyLog P) : Prop where
  versions : l.entries.map Entry.version =
    (List.range' (l.head + 1) l.entries.length).map (Version.mk l.epoch)
  counted : l.head + l.entries.length = l.lastSeq
  mem_index : ∀ {v pos}, (v, pos) ∈ l.index ↔
    ∃ i e, l.entries[i]? = some e ∧ e.version = v ∧ pos = l.head + i
  distinct : (l.index.map Prod.fst).Nodup
  length_index : l.index.length = l.entries.length

/-- The entry that comes so many places after the head. -/
lemma getElem?_entries_ofHistory (epoch : UInt64) (events : List (Event P)) (head i : Nat) :
    (ofHistory epoch events head).entries[i]? =
      events[head + i]?.map fun event => ⟨event, ⟨epoch, head + i + 1⟩⟩ := by
  rw [ofHistory, List.getElem?_drop, getElem?_numbered]

/-- The index of a history marks the positions of the events that were not let go. -/
lemma mem_index_ofHistory {head : Nat} :
    (v, pos) ∈ (ofHistory epoch events head).index ↔
      v = ⟨epoch, pos + 1⟩ ∧ head ≤ pos ∧ pos < events.length := by
  rw [ofHistory, marks, List.mem_map]
  constructor
  · rintro ⟨pos', hpos, heq⟩
    obtain ⟨rfl, rfl⟩ := Prod.mk.inj heq
    have := List.mem_range'_1.1 (List.mem_reverse.1 hpos)
    exact ⟨rfl, by omega, by omega⟩
  · rintro ⟨rfl, hhead, hlt⟩
    refine ⟨pos, List.mem_reverse.2 (List.mem_range'_1.2 ?_), rfl⟩
    omega

lemma indexed_ofHistory {head : Nat} (h : head ≤ events.length) :
    (ofHistory epoch events head).Indexed where
  versions := by
    rw [length_entries_ofHistory]
    show ((numbered epoch events).drop head).map Entry.version = _
    rw [List.map_drop, map_version_numbered, ← List.map_drop, List.drop_range', Nat.mul_one,
      Nat.add_comm 1 head]
    rfl
  counted := by
    rw [length_entries_ofHistory]
    exact Nat.add_sub_cancel' h
  mem_index := by
    intro v pos
    rw [mem_index_ofHistory]
    simp only [getElem?_entries_ofHistory, Option.map_eq_some_iff]
    constructor
    · rintro ⟨rfl, hhead, hlt⟩
      have hpos : head + (pos - head) = pos := Nat.add_sub_cancel' hhead
      refine ⟨pos - head, _, ⟨events[pos], ?_, rfl⟩, ?_, hpos.symm⟩
      · rw [hpos, List.getElem?_eq_getElem hlt]
      · rw [hpos]
    · rintro ⟨i, e, ⟨event, hevent, rfl⟩, rfl, rfl⟩
      exact ⟨rfl, Nat.le_add_right head i, (List.getElem?_eq_some_iff.1 hevent).1⟩
  distinct := by
    have hinjective : Function.Injective fun pos => (⟨epoch, pos + 1⟩ : Version) := by
      intro pos pos' heq
      exact Nat.succ.inj (Version.mk.inj heq).2
    rw [ofHistory, marks, List.map_map]
    exact (List.nodup_reverse.2 (List.nodup_range' ..)).map hinjective
  length_index := by
    rw [length_entries_ofHistory]
    simp [ofHistory, marks]

lemma indexed_retaining (room : Nat) (epoch : UInt64) (events : List (Event P)) :
    (retaining room epoch events).Indexed :=
  indexed_ofHistory (Nat.sub_le ..)

/-- A version has the position that the index has for it. -/
lemma Indexed.position?_eq_some_iff (hl : l.Indexed) :
    l.position? v = some pos ↔ (v, pos) ∈ l.index := by
  unfold position?
  constructor
  · intro h
    obtain ⟨before, after, hindex, -⟩ := List.lookup_eq_some_iff.1 h
    rw [hindex]
    exact List.mem_append_right before (List.mem_cons_self ..)
  · intro h
    obtain ⟨before, after, hindex⟩ := List.append_of_mem h
    refine List.lookup_eq_some_iff.2 ⟨before, after, hindex, fun p hp => ?_⟩
    have hdistinct := hl.distinct
    rw [hindex, List.map_append, List.map_cons] at hdistinct
    -- The version is marked once, so none of the marks before is its own.
    have hne : p.1 ≠ v := (List.nodup_append.1 hdistinct).2.2 p.1 (List.mem_map_of_mem hp) v
      (List.mem_cons_self ..)
    exact bne_iff_ne.2 hne.symm

/-- The position of a version lies between the head and the end, and its entry is there. -/
lemma Indexed.after?_of_position? (hl : l.Indexed) (h : l.position? v = some pos) :
    l.head ≤ pos ∧ pos < l.lastSeq ∧
      (∃ e, l.entries[pos - l.head]? = some e ∧ e.version = v) ∧
      l.after? v = some (l.entries.drop (pos - l.head + 1)) := by
  obtain ⟨i, e, he, hv, rfl⟩ := hl.mem_index.1 (hl.position?_eq_some_iff.1 h)
  have hlt : i < l.entries.length := (List.getElem?_eq_some_iff.1 he).1
  have hcounted := hl.counted
  refine ⟨Nat.le_add_right .., by omega, ⟨e, ?_, hv⟩, ?_⟩
  · rw [Nat.add_sub_cancel_left]
    exact he
  · rw [after?, h, Option.map_some]

/-- What is not retained is not found. -/
lemma Indexed.position?_eq_none (hl : l.Indexed) (h : v ∉ l.entries.map Entry.version) :
    l.position? v = none := by
  refine Option.eq_none_iff_forall_ne_some.2 fun pos hpos => h ?_
  obtain ⟨i, e, he, rfl, -⟩ := hl.mem_index.1 (hl.position?_eq_some_iff.1 hpos)
  exact List.mem_map_of_mem (List.mem_of_getElem? he)

/-- One more event lets the oldest entry go if there is no room for it, and no entry otherwise. -/
lemma retaining_concat (hroom : 1 ≤ capacity) (epoch : UInt64) (events : List (Event P))
    (event : Event P) :
    let l := retaining capacity epoch events
    ∃ gone,
      (gone = 0 ∧ l.entries.length < capacity ∨ gone = 1 ∧ l.entries.length = capacity) ∧
      (retaining capacity epoch (events ++ [event])).head = l.head + gone ∧
      (retaining capacity epoch (events ++ [event])).entries =
        l.entries.drop gone ++ [⟨event, l.nextVersion⟩] := by
  intro l
  have hlength : l.entries.length = Nat.min events.length capacity :=
    length_entries_retaining capacity epoch events
  have hentries : ∀ gone, events.length + 1 - capacity = events.length - capacity + gone →
      (retaining capacity epoch (events ++ [event])).entries =
        l.entries.drop gone ++ [⟨event, l.nextVersion⟩] := by
    intro gone hgone
    show (numbered epoch (events ++ [event])).drop ((events ++ [event]).length - capacity) =
      ((numbered epoch events).drop (events.length - capacity)).drop gone ++ _
    rw [numbered_append, List.length_append, List.length_singleton, hgone, List.drop_drop,
      List.drop_append_of_le_length]
    · rfl
    · rw [length_numbered]
      omega
  have hhead : (retaining capacity epoch (events ++ [event])).head =
      events.length + 1 - capacity := by
    simp [retaining, ofHistory]
  rw [hhead, hlength]
  show ∃ gone, _ ∧ _ = events.length - capacity + gone ∧ _
  rcases Nat.lt_or_ge events.length capacity with hlt | hfull
  · have hgone : events.length + 1 - capacity = events.length - capacity + 0 := by omega
    exact ⟨0, .inl ⟨rfl, Nat.lt_of_le_of_lt (Nat.min_le_left ..) hlt⟩, hgone, hentries 0 hgone⟩
  · have hgone : events.length + 1 - capacity = events.length - capacity + 1 := by omega
    exact ⟨1, .inr ⟨rfl, Nat.min_eq_right hfull⟩, hgone, hentries 1 hgone⟩

/-- A log that was given events one after the other is indexed, has no more entries than there is room
for, and has numbered the events. A version that is found is retained, at a position between the head and
the end, and what comes after it are the entries behind this position; a version that is not retained is
neither found nor left in the index. One more event lets an entry go only if there is no room for it, and
then only the oldest one. -/
theorem indexed_of_appends (hroom : 1 ≤ capacity) (epoch : UInt64) (events : List (Event P)) :
    let l := given capacity epoch events
    l.Indexed ∧ l.entries.length ≤ capacity ∧ l.lastSeq = events.length ∧
    (∀ v pos, l.position? v = some pos →
      l.head ≤ pos ∧ pos < l.lastSeq ∧
      (∃ e, l.entries[pos - l.head]? = some e ∧ e.version = v) ∧
      l.after? v = some (l.entries.drop (pos - l.head + 1))) ∧
    (∀ v, v ∉ l.entries.map Entry.version →
      l.position? v = none ∧ l.after? v = none ∧ ∀ pos, (v, pos) ∉ l.index) ∧
    ∀ event, ∃ gone,
      (gone = 0 ∧ l.entries.length < capacity ∨ gone = 1 ∧ l.entries.length = capacity) ∧
      (given capacity epoch (events ++ [event])).head = l.head + gone ∧
      (given capacity epoch (events ++ [event])).entries =
        l.entries.drop gone ++ [⟨event, l.nextVersion⟩] := by
  intro l
  have hl : l = retaining capacity epoch events := given_eq_retaining hroom
  have hindexed : l.Indexed := by
    rw [hl]
    exact indexed_retaining capacity epoch events
  refine ⟨hindexed, ?_, ?_, fun v pos => hindexed.after?_of_position?, fun v h => ?_,
    fun event => ?_⟩
  · rw [hl, length_entries_retaining]
    exact Nat.min_le_right ..
  · rw [hl]
    rfl
  · have hnone := hindexed.position?_eq_none h
    refine ⟨hnone, by rw [after?, hnone, Option.map_none], fun pos hmem => ?_⟩
    cases hnone.symm.trans (hindexed.position?_eq_some_iff.2 hmem)
  · rw [hl, given_eq_retaining hroom]
    exact retaining_concat hroom epoch events event

theorem indexed_of_overflow :
    1 ≤ 2 ∧ ∃ l : KeyLog Nat, l = given 2 7 [.added 1, .added 2, .added 3] ∧ l.Indexed ∧
      l.index = [(⟨7, 3⟩, 2), (⟨7, 2⟩, 1)] ∧ l.head = 1 ∧ l.after? ⟨7, 1⟩ = none ∧
      l.after? ⟨7, 2⟩ = some (l.entries.drop 1) := by
  have hindexed := indexed_of_appends (by decide : 1 ≤ 2) 7
    [.added 1, .added 2, (.added 3 : Event Nat)]
  obtain ⟨h, -, -, hfound, hlost, -⟩ := hindexed
  exact ⟨by decide, _, rfl, h, by decide, by decide, (hlost ⟨7, 1⟩ (by decide)).2.1,
    (hfound ⟨7, 2⟩ 1 (by decide)).2.2.2⟩

end WatchHub.KeyLog
