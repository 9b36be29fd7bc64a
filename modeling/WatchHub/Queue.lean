import WatchHub.Text.Numeral

/-!
# Queues

A bounded queue between the hub and one consumer, seen as a counter of slots. A slot is free, holds a
waiting event, or has been granted to the one offer that may wait for room. A slot that the consumer
frees goes to a waiting offer before any event that arrives later.
-/

namespace WatchHub

namespace Room

/-- The most slots that a queue can have. -/
def limit : Nat := 2305843009213693951

/-- What is said when a queue is to have more slots than it can. -/
def breakdown? (slots : Nat) : Option String :=
  if slots ≤ limit then none
  else
    some ("a semaphore may not have more than MAX_PERMITS permits (" ++ Numeral.decimal limit
      ++ ")")

end Room

/-- The place of the offer that waits for room, if there is one. -/
inductive Waiter where
  | none
  | queued
  | granted
deriving DecidableEq, Inhabited, Repr

/-- A bounded queue with its slots. -/
structure Queue (α : Type) where
  capacity : Nat
  items : List α
  /-- The slots that neither hold an event nor are granted. -/
  free : Nat
  waiter : Waiter
  /-- Whether the consumer still holds its end. -/
  receiving : Bool
deriving DecidableEq, Inhabited, Repr

/-- What became of an event that may not wait. -/
inductive Push where
  | accepted
  | full
  | gone
deriving DecidableEq, Inhabited, Repr

namespace Queue

variable {α : Type}

/-- An empty queue with at least one slot. -/
def new (capacity : Nat) : Queue α :=
  ⟨Nat.max capacity 1, [], Nat.max capacity 1, .none, true⟩

/-- How many slots are granted to the waiting offer. -/
def granted (q : Queue α) : Nat :=
  if q.waiter = .granted then 1 else 0

/-- Adds an event if there is a free slot. -/
def push (q : Queue α) (a : α) : Push × Queue α :=
  if q.receiving then
    match q.free with
    | 0 => (.full, q)
    | free + 1 => (.accepted, { q with items := q.items ++ [a], free := free })
  else (.gone, q)

/-- Lets an offer wait for the next slot. -/
def lineUp (q : Queue α) : Queue α :=
  { q with waiter := .queued }

/-- Hands back a slot: to the waiting offer, or to whoever comes next. -/
def freeSlot (q : Queue α) : Queue α :=
  match q.waiter with
  | .queued => { q with waiter := .granted }
  | _ => { q with free := q.free + 1 }

/-- Takes the oldest event and hands back its slot. -/
def receive? (q : Queue α) : Option (α × Queue α) :=
  match q.items with
  | [] => none
  | a :: items => some (a, { q with items := items }.freeSlot)

/-- Puts the event of the waiting offer into the slot that was granted to it. -/
def fill (q : Queue α) (a : α) : Queue α :=
  { q with items := q.items ++ [a], waiter := .none }

/-- Ends a wait; a slot that was granted becomes free. -/
def withdraw (q : Queue α) : Queue α :=
  { q with free := q.free + q.granted, waiter := .none }

/-- The consumer lets go of its end; what was waiting is lost. -/
def hangUp (q : Queue α) : Queue α :=
  { q with items := [], free := q.free + q.items.length, receiving := false }

end Queue

end WatchHub
