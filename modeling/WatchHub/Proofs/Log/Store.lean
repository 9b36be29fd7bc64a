import WatchHub.Log.EventLog
import WatchHub.Proofs.Log.History

/-!
# The store of the event log

What the operations of the event log do to the log of one key and to the places in the store. A sound
store leads every key to a place of its own, and only to places that exist; `EventLog.Sound` is kept
by every operation. Places are never given up, so a log that was found stays readable after a clear.
-/

namespace WatchHub

variable {P : Type}

namespace EventLog

/-- Every key leads to an existing place, and no two keys lead to the same one. -/
structure Sound (l : EventLog P) : Prop where
  placed : ∀ {key id}, l.find? key = some id → id < l.store.length
  apart : ∀ {key key' id}, l.find? key = some id → l.find? key' = some id → key = key'

lemma locate_of_some {l : EventLog P} {key : Key} {id : LogId} (h : l.find? key = some id)
    (epoch : UInt64) : l.locate key epoch = (id, l) := by
  simp [locate, h]

lemma locate_of_none {l : EventLog P} {key : Key} (h : l.find? key = none) (epoch : UInt64) :
    l.locate key epoch = (l.store.length,
      { l with store := l.store ++ [.new epoch], current := l.current.put key l.store.length }) := by
  simp [locate, h]

@[simp]
lemma capacity_locate (l : EventLog P) (key : Key) (epoch : UInt64) :
    (l.locate key epoch).2.capacity = l.capacity := by
  unfold locate
  split <;> rfl

/-- Locating leads its key to the place it tells, and no other key anywhere else. -/
lemma find?_locate (l : EventLog P) (key key' : Key) (epoch : UInt64) :
    (l.locate key epoch).2.find? key' =
      if key = key' then some (l.locate key epoch).1 else l.find? key' := by
  cases h : l.find? key with
  | some id =>
    rw [locate_of_some h]
    split
    · rename_i heq
      rw [← heq, h]
    · rfl
  | none =>
    rw [locate_of_none h]
    by_cases heq : key = key'
    · subst heq
      simp [find?]
    · simp [find?, heq, Table.get?_put_ne _ heq]

/-- The logs that were opened before stay at their places. -/
lemma logAt_locate {l : EventLog P} {id : LogId} (h : id < l.store.length) (key : Key)
    (epoch : UInt64) : (l.locate key epoch).2.logAt id = l.logAt id := by
  cases hk : l.find? key with
  | some _ => rw [locate_of_some hk]
  | none =>
    rw [locate_of_none hk]
    simp [logAt, List.getElem?_append_left h]

/-- A log that is opened begins empty. -/
lemma logAt_locate_new {l : EventLog P} {key : Key} (h : l.find? key = none) (epoch : UInt64) :
    (l.locate key epoch).2.logAt l.store.length = .new epoch := by
  rw [locate_of_none h]
  simp [logAt]

lemma length_store_locate (l : EventLog P) (key : Key) (epoch : UInt64) :
    (l.locate key epoch).2.store.length =
      if (l.find? key).isSome then l.store.length else l.store.length + 1 := by
  cases h : l.find? key with
  | some _ => simp [locate_of_some h]
  | none => simp [locate_of_none h]

lemma length_store_le_locate (l : EventLog P) (key : Key) (epoch : UInt64) :
    l.store.length ≤ (l.locate key epoch).2.store.length := by
  rw [length_store_locate]
  split <;> omega

lemma locate_lt {l : EventLog P} (hl : l.Sound) (key : Key) (epoch : UInt64) :
    (l.locate key epoch).1 < (l.locate key epoch).2.store.length := by
  cases h : l.find? key with
  | some id =>
    rw [locate_of_some h]
    exact hl.placed h
  | none =>
    rw [locate_of_none h]
    simp

/-- A place that other keys lead to is not the one that is located. -/
lemma locate_ne {l : EventLog P} (hl : l.Sound) {key key' : Key} (hne : key ≠ key') {id : LogId}
    (h' : l.find? key' = some id) (epoch : UInt64) : (l.locate key epoch).1 ≠ id := by
  cases h : l.find? key with
  | some id' =>
    rw [locate_of_some h]
    rintro rfl
    exact hne (hl.apart h h')
  | none =>
    rw [locate_of_none h]
    exact Nat.ne_of_gt (hl.placed h')

@[simp]
lemma fst_record (l : EventLog P) (id : LogId) (event : Event P) :
    (l.record id event).1 = (l.logAt id).nextVersion := rfl

@[simp]
lemma capacity_record (l : EventLog P) (id : LogId) (event : Event P) :
    (l.record id event).2.capacity = l.capacity := rfl

@[simp]
lemma length_store_record (l : EventLog P) (id : LogId) (event : Event P) :
    (l.record id event).2.store.length = l.store.length := by
  simp [record]

lemma logAt_record_self {l : EventLog P} {id : LogId} (h : id < l.store.length) (event : Event P) :
    (l.record id event).2.logAt id = (l.logAt id).append l.capacity event := by
  simp [record, logAt, h]

lemma logAt_record_ne (l : EventLog P) {id id' : LogId} (h : id ≠ id') (event : Event P) :
    (l.record id event).2.logAt id' = l.logAt id' := by
  simp [record, logAt, h]

/-- A log keeps its epoch for ever. -/
lemma epoch_logAt_record (l : EventLog P) (id id' : LogId) (event : Event P) :
    ((l.record id event).2.logAt id').epoch = (l.logAt id').epoch := by
  by_cases h : id = id'
  · subst h
    by_cases hlt : id < l.store.length
    · rw [logAt_record_self hlt, KeyLog.epoch_append]
    · simp [record, logAt, List.set_eq_of_length_le (Nat.le_of_not_lt hlt)]
  · rw [logAt_record_ne l h]

lemma Sound.new (capacity : Nat) : (EventLog.new capacity : EventLog P).Sound where
  placed h := nomatch h
  apart h := nomatch h

lemma Sound.locate {l : EventLog P} (hl : l.Sound) (key : Key) (epoch : UInt64) :
    (l.locate key epoch).2.Sound where
  placed := by
    intro key' id h
    rw [find?_locate] at h
    split at h
    · cases h
      exact locate_lt hl key epoch
    · exact Nat.lt_of_lt_of_le (hl.placed h) (length_store_le_locate l key epoch)
  apart := by
    intro k₁ k₂ id h₁ h₂
    rw [find?_locate] at h₁ h₂
    split at h₁ <;> split at h₂
    · rename_i e₁ e₂
      exact e₁.symm.trans e₂
    · rename_i _ e₂
      cases h₁
      exact absurd rfl (locate_ne hl e₂ h₂ epoch)
    · rename_i e₁ _
      cases h₂
      exact absurd rfl (locate_ne hl e₁ h₁ epoch)
    · exact hl.apart h₁ h₂

lemma Sound.record {l : EventLog P} (hl : l.Sound) (id : LogId) (event : Event P) :
    (l.record id event).2.Sound where
  placed h := by
    rw [length_store_record]
    exact hl.placed h
  apart h h' := hl.apart h h'

lemma Sound.clear (l : EventLog P) : l.clear.Sound where
  placed h := nomatch h
  apart h := nomatch h

lemma Sound.append {l : EventLog P} (hl : l.Sound) (key : Key) (epoch : UInt64) (event : Event P) :
    (l.append key epoch event).2.Sound :=
  (hl.locate key epoch).record _ event

/-- The log to which an event is added: the one the key has, or a new one. -/
lemma logAt_locate_self (l : EventLog P) (key : Key) (epoch : UInt64) :
    (l.locate key epoch).2.logAt (l.locate key epoch).1 = (l.get? key).getD (.new epoch) := by
  cases h : l.find? key with
  | some id => simp [locate_of_some h, get?, h]
  | none =>
    have hid : (l.locate key epoch).1 = l.store.length := by rw [locate_of_none h]
    rw [hid, logAt_locate_new h]
    simp [get?, h]

/-- An appended event gets the next version of the log of its key. -/
lemma fst_append (l : EventLog P) (key : Key) (epoch : UInt64) (event : Event P) :
    (l.append key epoch event).1 = ((l.get? key).getD (.new epoch)).nextVersion := by
  rw [← logAt_locate_self]
  rfl

/-- An appended event goes to the log of its key, which is opened if there is none. -/
lemma get?_append_self {l : EventLog P} (hl : l.Sound) (key : Key) (epoch : UInt64)
    (event : Event P) :
    (l.append key epoch event).2.get? key =
      some (((l.get? key).getD (.new epoch)).append l.capacity event) := by
  have hfind : (l.append key epoch event).2.find? key = some (l.locate key epoch).1 := by
    change (l.locate key epoch).2.find? key = _
    rw [find?_locate, if_pos rfl]
  rw [get?, hfind, Option.map_some]
  change some (((l.locate key epoch).2.record (l.locate key epoch).1 event).2.logAt _) = _
  rw [logAt_record_self (locate_lt hl key epoch), logAt_locate_self, capacity_locate]

/-- An appended event leaves the logs of other keys as they are. -/
lemma get?_append_ne {l : EventLog P} (hl : l.Sound) {key key' : Key} (hne : key ≠ key')
    (epoch : UInt64) (event : Event P) :
    (l.append key epoch event).2.get? key' = l.get? key' := by
  have hfind : (l.append key epoch event).2.find? key' = l.find? key' := by
    change (l.locate key epoch).2.find? key' = _
    rw [find?_locate, if_neg hne]
  rw [get?, hfind, get?]
  cases h : l.find? key' with
  | none => rfl
  | some id =>
    rw [Option.map_some, Option.map_some]
    change some (((l.locate key epoch).2.record (l.locate key epoch).1 event).2.logAt id) = _
    rw [logAt_record_ne _ (locate_ne hl hne h epoch), logAt_locate (hl.placed h)]

end EventLog

end WatchHub
