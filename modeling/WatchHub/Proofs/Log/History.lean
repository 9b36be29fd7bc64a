import Mathlib.Tactic.Lemma
import WatchHub.Log.KeyLog

/-!
# The log of a history

A log that began under some epoch and was only ever appended to is determined by the events it was
given and by how many of them it has let go. `KeyLog.ofHistory` writes that log down in closed form:
its entries, its head and the position of every version it retains. Each operation of a log has one
lemma that says what it does to the closed form; `KeyLog.append_retaining` puts them together and
`KeyLog.after?_retaining` reads the index.
-/

namespace WatchHub

variable {P : Type}

/-- The entries of all events that a log was ever given, numbered from one. -/
def numbered (epoch : UInt64) (events : List (Event P)) : List (Entry P) :=
  events.mapIdx fun i event => ⟨event, ⟨epoch, i + 1⟩⟩

@[simp]
lemma length_numbered (epoch : UInt64) (events : List (Event P)) :
    (numbered epoch events).length = events.length := by
  simp [numbered]

lemma numbered_append (epoch : UInt64) (events : List (Event P)) (event : Event P) :
    numbered epoch (events ++ [event]) =
      numbered epoch events ++ [⟨event, ⟨epoch, events.length + 1⟩⟩] := by
  simp [numbered, List.mapIdx_append]

/-- The entry of a version is found at its sequence number. -/
lemma getElem?_numbered (epoch : UInt64) (events : List (Event P)) (i : Nat) :
    (numbered epoch events)[i]? = events[i]?.map fun event => ⟨event, ⟨epoch, i + 1⟩⟩ := by
  simp [numbered]

lemma map_version_numbered (epoch : UInt64) (events : List (Event P)) :
    (numbered epoch events).map Entry.version =
      (List.range' 1 events.length).map (Version.mk epoch) := by
  apply List.ext_getElem?
  intro i
  rw [List.getElem?_map, getElem?_numbered, Option.map_map, List.getElem?_map]
  by_cases h : i < events.length
  · simp [h, Nat.add_comm]
  · simp [h]

/-- Every numbered entry is an event of the history under its place. -/
lemma mem_numbered {epoch : UInt64} {events : List (Event P)} {e : Entry P} :
    e ∈ numbered epoch events ↔
      e.version.epoch = epoch ∧ 0 < e.version.seq ∧ events[e.version.seq - 1]? = some e.event := by
  rw [List.mem_iff_getElem?]
  constructor
  · rintro ⟨i, hi⟩
    rw [getElem?_numbered, Option.map_eq_some_iff] at hi
    obtain ⟨event, hevent, rfl⟩ := hi
    exact ⟨rfl, Nat.succ_pos i, hevent⟩
  · rintro ⟨rfl, hpos, hevent⟩
    refine ⟨e.version.seq - 1, ?_⟩
    rw [getElem?_numbered, hevent, Nat.sub_add_cancel hpos]
    rfl

/-- The entries after a number are those with a greater one. -/
lemma mem_drop_numbered {epoch : UInt64} {events : List (Event P)} {e : Entry P} {seq : Nat} :
    e ∈ (numbered epoch events).drop seq ↔ e ∈ numbered epoch events ∧ seq < e.version.seq := by
  constructor
  · intro he
    refine ⟨List.mem_of_mem_drop he, ?_⟩
    obtain ⟨i, hi⟩ := List.mem_iff_getElem?.1 he
    rw [List.getElem?_drop, getElem?_numbered, Option.map_eq_some_iff] at hi
    obtain ⟨event, -, rfl⟩ := hi
    change seq < seq + i + 1
    omega
  · rintro ⟨he, hlt⟩
    obtain ⟨hepoch, hpos, hevent⟩ := mem_numbered.1 he
    refine List.mem_iff_getElem?.2 ⟨e.version.seq - 1 - seq, ?_⟩
    rw [List.getElem?_drop, getElem?_numbered, show seq + (e.version.seq - 1 - seq) =
      e.version.seq - 1 by omega, hevent, Option.map_some, ← hepoch,
      show e.version.seq - 1 + 1 = e.version.seq by omega]

/-- A history splits at every version in it. -/
lemma numbered_split (epoch : UInt64) {events : List (Event P)} {seq : Nat} (hpos : 1 ≤ seq)
    (hle : seq ≤ events.length) :
    ∃ older last, numbered epoch events = older ++ last :: (numbered epoch events).drop seq ∧
      last.version = ⟨epoch, seq⟩ := by
  have hlt : seq - 1 < (numbered epoch events).length := by
    rw [length_numbered]
    omega
  refine ⟨(numbered epoch events).take (seq - 1), (numbered epoch events)[seq - 1], ?_, ?_⟩
  · have hdrop := List.drop_eq_getElem_cons hlt
    rw [show seq - 1 + 1 = seq by omega] at hdrop
    rw [← hdrop, List.take_append_drop]
  · have hget := List.getElem?_eq_getElem hlt
    rw [getElem?_numbered] at hget
    obtain ⟨event, -, heq⟩ := Option.map_eq_some_iff.1 hget
    rw [← heq, show seq - 1 + 1 = seq by omega]

namespace KeyLog

/-- The places of the versions at some positions. -/
def marks (epoch : UInt64) (positions : List Nat) : List (Version × Nat) :=
  positions.map fun pos => (⟨epoch, pos + 1⟩, pos)

/-- The log of a history of which the first `head` events were let go. -/
def ofHistory (epoch : UInt64) (events : List (Event P)) (head : Nat) : KeyLog P where
  epoch := epoch
  lastSeq := events.length
  head := head
  entries := (numbered epoch events).drop head
  index := marks epoch (List.range' head (events.length - head)).reverse

/-- The log of a history that retains as many of the last events as there is room for. -/
def retaining (room : Nat) (epoch : UInt64) (events : List (Event P)) : KeyLog P :=
  ofHistory epoch events (events.length - room)

lemma new_eq_retaining (room : Nat) (epoch : UInt64) :
    (KeyLog.new epoch : KeyLog P) = retaining room epoch [] := by
  simp [KeyLog.new, retaining, ofHistory, marks, numbered]

@[simp]
lemma length_entries_ofHistory (epoch : UInt64) (events : List (Event P)) (head : Nat) :
    (ofHistory epoch events head).entries.length = events.length - head := by
  simp [ofHistory]

/-- Only the mark at a position goes with its version. -/
lemma filter_marks (epoch : UInt64) (head : Nat) (positions : List Nat) :
    (marks epoch positions).filter (fun p => p.1 ≠ ⟨epoch, head + 1⟩) =
      marks epoch (positions.filter fun pos => pos ≠ head) := by
  simp [marks, List.filter_map, Function.comp_def]

/-- Letting the oldest entry go moves the head by one. -/
lemma dropOldest_ofHistory {epoch : UInt64} {events : List (Event P)} {head : Nat}
    (h : head < events.length) :
    (ofHistory epoch events head).dropOldest = ofHistory epoch events (head + 1) := by
  have hentries : (numbered epoch events).drop head =
      ⟨events[head], ⟨epoch, head + 1⟩⟩ :: (numbered epoch events).drop (head + 1) := by
    rw [List.drop_eq_getElem_cons (by simpa using h)]
    simp [numbered]
  have hrange : List.range' head (events.length - head) =
      head :: List.range' (head + 1) (events.length - (head + 1)) := by
    obtain ⟨k, hk⟩ : ∃ k, events.length - head = k + 1 := ⟨events.length - head - 1, by omega⟩
    rw [hk, List.range'_succ, show events.length - (head + 1) = k by omega]
  -- No position after the head is the head, so no other mark goes.
  have hkeep : (List.range' (head + 1) (events.length - (head + 1))).filter (fun pos => pos ≠ head) =
      List.range' (head + 1) (events.length - (head + 1)) := by
    apply List.filter_eq_self.2
    intro pos hpos
    have := List.mem_range'_1.1 hpos
    exact decide_eq_true (by omega)
  simp only [dropOldest, ofHistory, hentries, hrange, filter_marks, KeyLog.mk.injEq, true_and]
  rw [List.filter_reverse, List.filter_cons_of_neg (by simp), hkeep]

/-- Room is made by moving the head, and only as far as needed. -/
lemma makeRoom_ofHistory {room fuel : Nat} (hroom : 0 < room) {epoch : UInt64}
    {events : List (Event P)} {head : Nat} (hfuel : events.length + 1 ≤ head + room + fuel) :
    (ofHistory epoch events head).makeRoom room fuel =
      ofHistory epoch events (Nat.max head (events.length + 1 - room)) := by
  -- With each unit of fuel one entry may go, so the fuel lasts for all that are too many.
  induction fuel generalizing head with
  | zero =>
    rw [makeRoom, show Nat.max head (events.length + 1 - room) = head from
      Nat.max_eq_left (by omega)]
  | succ fuel ih =>
    rw [makeRoom, length_entries_ofHistory]
    by_cases hfull : room ≤ events.length - head
    · rw [if_pos hfull, dropOldest_ofHistory (by omega), ih (by omega)]
      congr 1
      simp only [Nat.max_def]
      split <;> split <;> omega
    · rw [if_neg hfull, show Nat.max head (events.length + 1 - room) = head from
        Nat.max_eq_left (by omega)]

/-- A new event extends the history. -/
lemma push_ofHistory {epoch : UInt64} {events : List (Event P)} {head : Nat}
    (h : head ≤ events.length) (event : Event P) :
    (ofHistory epoch events head).push event = ofHistory epoch (events ++ [event]) head := by
  have hentries : (numbered epoch (events ++ [event])).drop head =
      (numbered epoch events).drop head ++ [⟨event, ⟨epoch, events.length + 1⟩⟩] := by
    rw [numbered_append, List.drop_append_of_le_length (by simpa using h)]
  have hpos : head + (events.length - head) = events.length := Nat.add_sub_cancel' h
  have hrange : List.range' head (events.length + 1 - head) =
      List.range' head (events.length - head) ++ [events.length] := by
    rw [Nat.sub_add_comm h, List.range'_1_concat, hpos]
  simp [push, nextVersion, ofHistory, hentries, hrange, hpos, marks]

@[simp]
lemma epoch_dropOldest (l : KeyLog P) : l.dropOldest.epoch = l.epoch := by
  unfold dropOldest
  split <;> rfl

@[simp]
lemma epoch_makeRoom (capacity fuel : Nat) (l : KeyLog P) :
    (l.makeRoom capacity fuel).epoch = l.epoch := by
  induction fuel generalizing l with
  | zero => rfl
  | succ fuel ih =>
    rw [makeRoom]
    split
    · rw [ih, epoch_dropOldest]
    · rfl

/-- Appending leaves the epoch as it is. -/
@[simp]
lemma epoch_append (capacity : Nat) (l : KeyLog P) (event : Event P) :
    (l.append capacity event).epoch = l.epoch :=
  epoch_makeRoom capacity l.entries.length l

/-- The version that the next event of a history gets. -/
lemma nextVersion_retaining (room : Nat) (epoch : UInt64) (events : List (Event P)) :
    (retaining room epoch events).nextVersion = ⟨epoch, events.length + 1⟩ := rfl

/-- An appended event extends the history, of which the last events are retained as before. -/
theorem append_retaining {room : Nat} (hroom : 0 < room) (epoch : UInt64)
    (events : List (Event P)) (event : Event P) :
    (retaining room epoch events).append room event = retaining room epoch (events ++ [event]) := by
  have hhead : Nat.max (events.length - room) (events.length + 1 - room) =
      events.length + 1 - room := Nat.max_eq_right (by omega)
  rw [append, retaining, length_entries_ofHistory, makeRoom_ofHistory hroom (by omega), hhead,
    push_ofHistory (by omega), retaining, List.length_append, List.length_singleton]

/-- A version has a place exactly if it is marked. -/
lemma lookup_marks (epoch : UInt64) (positions : List Nat) (v : Version) :
    (marks epoch positions).lookup v =
      if v.epoch = epoch ∧ 0 < v.seq ∧ v.seq - 1 ∈ positions then some (v.seq - 1) else none := by
  obtain ⟨e, seq⟩ := v
  induction positions with
  | nil => simp [marks]
  | cons pos positions ih =>
    rw [marks, List.map_cons, List.lookup_cons]
    by_cases heq : e = epoch ∧ seq = pos + 1
    · obtain ⟨rfl, rfl⟩ := heq
      simp
    · have hne : ((⟨e, seq⟩ : Version) == ⟨epoch, pos + 1⟩) = false := by
        simpa using heq
      have hmem : (e = epoch ∧ 0 < seq ∧ seq - 1 ∈ pos :: positions) ↔
          (e = epoch ∧ 0 < seq ∧ seq - 1 ∈ positions) := by
        simp only [List.mem_cons]
        constructor
        · rintro ⟨he, hpos, hat | hin⟩
          · exact absurd ⟨he, by omega⟩ heq
          · exact ⟨he, hpos, hin⟩
        · rintro ⟨he, hpos, hin⟩
          exact ⟨he, hpos, .inr hin⟩
      simp only [hne, hmem]
      exact ih

/-- The versions that a log of a history retains. -/
def Retains (room : Nat) (epoch : UInt64) (count : Nat) (v : Version) : Prop :=
  v.epoch = epoch ∧ 1 ≤ v.seq ∧ v.seq ≤ count ∧ count - v.seq < room

instance (room : Nat) (epoch : UInt64) (count : Nat) (v : Version) :
    Decidable (Retains room epoch count v) :=
  inferInstanceAs (Decidable (_ ∧ _))

/-- What comes after a version is what was appended after it; other versions are not found. -/
theorem after?_retaining (room : Nat) (epoch : UInt64) (events : List (Event P)) (v : Version) :
    (retaining room epoch events).after? v =
      if Retains room epoch events.length v then some ((numbered epoch events).drop v.seq)
      else none := by
  have hmarked : (v.epoch = epoch ∧ 0 < v.seq ∧ v.seq - 1 ∈
        (List.range' (events.length - room)
          (events.length - (events.length - room))).reverse) ↔
      Retains room epoch events.length v := by
    rw [List.mem_reverse, List.mem_range'_1, Retains]
    refine and_congr_right fun _ => ?_
    omega
  rw [after?, position?, retaining, ofHistory]
  simp only [lookup_marks, hmarked]
  split
  · rename_i h
    rw [Option.map_some, List.drop_drop]
    congr 2
    unfold Retains at h
    omega
  · rfl

lemma length_entries_retaining (room : Nat) (epoch : UInt64) (events : List (Event P)) :
    (retaining room epoch events).entries.length = Nat.min events.length room := by
  rw [retaining, length_entries_ofHistory]
  change _ = min events.length room
  omega

end KeyLog

end WatchHub
