import Mathlib.Tactic.Lemma
import WatchHub.Queue

/-!
# The slots of a queue

Every slot of a queue holds an event, is granted to the waiting offer, or is free. `Queue.Balanced`
says that these make up the capacity and that an offer waits only while no slot is free; every
operation of a queue keeps it.
-/

namespace WatchHub

namespace Queue

variable {α : Type}

/-- The slots of a queue add up to its capacity, and none is free while an offer waits for one. -/
structure Balanced (room : Nat) (q : Queue α) : Prop where
  capacity_eq : q.capacity = room
  slots : q.items.length + q.granted + q.free = q.capacity
  queued : q.waiter = .queued → q.receiving = true → q.free = 0

lemma Balanced.length_le {room : Nat} {q : Queue α} (hq : q.Balanced room) :
    q.items.length ≤ room := by
  have := hq.slots
  have := hq.capacity_eq
  omega

/-- A queue without a free slot has every slot occupied or reserved for the waiting offer. -/
lemma Balanced.full {room : Nat} {q : Queue α} (hq : q.Balanced room) (h : q.free = 0) :
    q.items.length + q.granted = room := by
  have := hq.slots
  have := hq.capacity_eq
  omega

lemma granted_of_ne {q : Queue α} (h : q.waiter ≠ .granted) : q.granted = 0 := by
  simp [granted, h]

lemma granted_of_eq {q : Queue α} (h : q.waiter = .granted) : q.granted = 1 := by
  simp [granted, h]

lemma Balanced.new (room : Nat) : (Queue.new room : Queue α).Balanced (Nat.max room 1) where
  capacity_eq := rfl
  slots := by simp [Queue.new, granted]
  queued h := nomatch h

/-- A pushed event was accepted into a free slot, found the queue full, or the consumer gone. -/
lemma push_cases (q : Queue α) (a : α) :
    (q.receiving = true ∧ 0 < q.free ∧
        q.push a = (.accepted, { q with items := q.items ++ [a], free := q.free - 1 })) ∨
      (q.receiving = true ∧ q.free = 0 ∧ q.push a = (.full, q)) ∨
      (q.receiving = false ∧ q.push a = (.gone, q)) := by
  unfold push
  cases hr : q.receiving with
  | false => exact .inr (.inr ⟨rfl, rfl⟩)
  | true =>
    cases hf : q.free with
    | zero => exact .inr (.inl ⟨rfl, rfl, rfl⟩)
    | succ free => exact .inl ⟨rfl, Nat.succ_pos free, rfl⟩

@[simp]
lemma receiving_push (q : Queue α) (a : α) : (q.push a).2.receiving = q.receiving := by
  rcases q.push_cases a with ⟨-, -, h⟩ | ⟨-, -, h⟩ | ⟨-, h⟩ <;> rw [h]

@[simp]
lemma waiter_push (q : Queue α) (a : α) : (q.push a).2.waiter = q.waiter := by
  rcases q.push_cases a with ⟨-, -, h⟩ | ⟨-, -, h⟩ | ⟨-, h⟩ <;> rw [h]

lemma Balanced.push {room : Nat} {q : Queue α} (hq : q.Balanced room) (a : α) :
    (q.push a).2.Balanced room := by
  rcases push_cases q a with ⟨hr, hf, h⟩ | ⟨-, -, h⟩ | ⟨-, h⟩ <;> rw [h]
  · refine ⟨hq.capacity_eq, ?_, fun hw hr => ?_⟩
    · have := hq.slots
      simp only [granted, List.length_append, List.length_singleton] at this ⊢
      omega
    · have := hq.queued hw hr
      change q.free - 1 = 0
      omega
  · exact hq
  · exact hq

lemma Balanced.lineUp {room : Nat} {q : Queue α} (hq : q.Balanced room) (hw : q.waiter = .none)
    (hf : q.free = 0) : q.lineUp.Balanced room where
  capacity_eq := hq.capacity_eq
  slots := by
    have := hq.slots
    rw [granted_of_ne (by simp [hw])] at this
    rw [granted_of_ne (by simp [Queue.lineUp])]
    exact this
  queued _ _ := hf

/-- A freed slot goes to the offer that waits, and to nobody else while there is one. -/
lemma freeSlot_cases (q : Queue α) :
    (q.waiter = .queued ∧ q.freeSlot = { q with waiter := .granted }) ∨
      (q.waiter ≠ .queued ∧ q.freeSlot = { q with free := q.free + 1 }) := by
  unfold freeSlot
  cases h : q.waiter with
  | queued => exact .inl ⟨rfl, rfl⟩
  | none => exact .inr ⟨nofun, rfl⟩
  | granted => exact .inr ⟨nofun, rfl⟩

/-- The consumer takes the oldest event, and the slot of it is freed. -/
lemma receive?_eq_some {q q' : Queue α} {a : α} (h : q.receive? = some (a, q')) :
    ∃ items, q.items = a :: items ∧ q' = ({ q with items := items } : Queue α).freeSlot := by
  unfold receive? at h
  split at h
  · cases h
  · rename_i a' items hitems
    obtain ⟨rfl, rfl⟩ := Prod.mk.inj (Option.some.inj h)
    exact ⟨items, hitems, rfl⟩

@[simp]
lemma items_freeSlot (q : Queue α) : q.freeSlot.items = q.items := by
  unfold freeSlot
  split <;> rfl

@[simp]
lemma receiving_freeSlot (q : Queue α) : q.freeSlot.receiving = q.receiving := by
  unfold freeSlot
  split <;> rfl

lemma waiter_freeSlot_eq_none {q : Queue α} : q.freeSlot.waiter = .none ↔ q.waiter = .none := by
  rcases freeSlot_cases q with ⟨hw, h⟩ | ⟨hw, h⟩ <;> rw [h]
  · simp [hw]

lemma Balanced.receive {room : Nat} {q q' : Queue α} {a : α} (hq : q.Balanced room)
    (h : q.receive? = some (a, q')) : q'.Balanced room := by
  obtain ⟨items, hitems, rfl⟩ := receive?_eq_some h
  have hslots := hq.slots
  rw [hitems, List.length_cons] at hslots
  rcases freeSlot_cases { q with items := items } with ⟨hw, hfree⟩ | ⟨hw, hfree⟩ <;> rw [hfree]
  · refine ⟨hq.capacity_eq, ?_, fun hw' => nomatch hw'⟩
    rw [granted_of_ne (by simp [show q.waiter = .queued from hw])] at hslots
    rw [granted_of_eq rfl]
    exact (by omega : items.length + 1 + q.free = q.capacity)
  · refine ⟨hq.capacity_eq, ?_, fun hw' => absurd hw' hw⟩
    simp only [granted] at hslots ⊢
    omega

lemma Balanced.fill {room : Nat} {q : Queue α} (hq : q.Balanced room) (hw : q.waiter = .granted)
    (a : α) : (q.fill a).Balanced room where
  capacity_eq := hq.capacity_eq
  slots := by
    have := hq.slots
    rw [granted_of_eq hw] at this
    rw [granted_of_ne (by simp [Queue.fill])]
    simpa [Queue.fill] using this
  queued h := nomatch h

lemma Balanced.withdraw {room : Nat} {q : Queue α} (hq : q.Balanced room) :
    q.withdraw.Balanced room where
  capacity_eq := hq.capacity_eq
  slots := by
    have := hq.slots
    rw [granted_of_ne (by simp [Queue.withdraw])]
    change q.items.length + 0 + (q.free + q.granted) = q.capacity
    omega
  queued h := nomatch h

lemma Balanced.hangUp {room : Nat} {q : Queue α} (hq : q.Balanced room) :
    q.hangUp.Balanced room where
  capacity_eq := hq.capacity_eq
  slots := by
    have := hq.slots
    change 0 + q.granted + (q.free + q.items.length) = q.capacity
    omega
  queued _ h := nomatch h

end Queue

end WatchHub
