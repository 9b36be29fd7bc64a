import WatchHub.Event
import WatchHub.Failure
import WatchHub.Log.EventLog
import WatchHub.Queue

/-!
# Subscriptions

One consumer of one key: its queue, whether the key still fans events out to it, and its population,
the task that first offers it the present state or the history after a checkpoint.
-/

namespace WatchHub

/-- The identity of one subscription within its hub. The number has 64 bits, and a hub is taken never
to draw so many. -/
structure Handle where
  number : Nat
deriving DecidableEq, Inhabited, Repr

namespace Handle

/-- The name in the journal. -/
def text (h : Handle) : String :=
  "sub-" ++ Numeral.decimal h.number

/-- The handle as a description. -/
def describe (h : Handle) : String :=
  "SubscriptionHandle(" ++ Numeral.decimal h.number ++ ")"

end Handle

/-- What became of one offered item. -/
inductive Offer where
  | delivered
  | timedOut
  | closed
deriving DecidableEq, Inhabited, Repr

namespace Population

/-- What a population has still to offer. -/
inductive Rest (P : Type) where
  /-- Items of a snapshot. -/
  | items (items : List P)
  /-- Logged events after a checkpoint. -/
  | history (after : Version) (deliveries : List (Delivery P))
  /-- Nothing: the population failed and has only its error to offer. -/
  | nothing
deriving DecidableEq, Inhabited, Repr

/-- How a population ended. -/
inductive Ending where
  | complete
  | closed
  | failed
  | crashed
deriving DecidableEq, Inhabited, Repr

/-- Where a population stands between two of its steps. -/
inductive Stage (P : Type) where
  | spawned (checkpoint : Option Version)
  /-- The observer has been asked for its items. -/
  | listing
  /-- About to look for the log of the key. -/
  | seeking (after : Version)
  /-- About to read the log that was found. -/
  | reading (after : Version) (log : LogId)
  | between (rest : Rest P)
  /-- About to look for the log to which an item is to be added, or to open it. -/
  | locating (event : Event P) (rest : List P)
  /-- About to add an item to the log that was found. -/
  | recording (log : LogId) (event : Event P) (rest : List P)
  | offering (delivery : Delivery P) (rest : Rest P)
  /-- The queue was full: the offer waits for a slot and keeps the queue alive. -/
  | waiting (delivery : Delivery P) (rest : Rest P)
  | finished (ending : Ending)
deriving DecidableEq, Inhabited, Repr

end Population

/-- The task that fills the queue of a new subscription. -/
structure Population (P : Type) where
  stage : Population.Stage P
  /-- How many items there are to offer. -/
  total : Nat
  /-- How many items found no room in time. -/
  skipped : Nat
deriving DecidableEq, Inhabited, Repr

namespace Population

variable {P : Type}

/-- A population that has not yet run. -/
def new (checkpoint : Option Version) : Population P :=
  ⟨.spawned checkpoint, 0, 0⟩

/-- Whether an offer in progress keeps the queue from ending. -/
def isWaiting (p : Population P) : Bool :=
  match p.stage with
  | .waiting .. => true
  | _ => false

/-- Whether there is nothing left to do. -/
def isFinished (p : Population P) : Bool :=
  match p.stage with
  | .finished _ => true
  | _ => false

end Population

/-- One consumer of one key. -/
structure Subscription (P : Type) where
  queue : Queue (Delivery P)
  /-- Whether live events are fanned out to it. -/
  member : Bool
  /-- Whether it was closed by the hub. -/
  closed : Bool
  /-- How many live events found the queue full. A counter of 64 bits, taken as never exhausted. -/
  dropped : Nat
  population : Population P
deriving DecidableEq, Inhabited, Repr

/-- What a consumer finds when it asks for the next event. -/
inductive Receipt (P : Type) where
  | event (delivery : Delivery P)
  | nothing
  | ended
deriving DecidableEq, Inhabited, Repr

/-- What became of a live event at one member. -/
inductive Reception where
  | accepted
  | overflowed (dropped : Nat)
  | gone
deriving DecidableEq, Inhabited, Repr

namespace Subscription

variable {P : Type}

/-- An open subscription with an empty queue, to be populated. -/
def new (capacity : Nat) (checkpoint : Option Version) : Subscription P :=
  ⟨.new capacity, true, false, 0, .new checkpoint⟩

/-- Whether more events may still come: from the fan-out or from an offer in progress. -/
def hasSender (s : Subscription P) : Bool :=
  s.member || s.population.isWaiting

/-- Leaves the fan-out for good. -/
def close (s : Subscription P) : Subscription P :=
  { s with member := false, closed := true }

/-- The consumer is gone although nobody closed the subscription. -/
def isAbandoned (s : Subscription P) : Bool :=
  s.member && !s.queue.receiving

/-- Takes the next event for the consumer. -/
def receive (s : Subscription P) : Receipt P × Subscription P :=
  match s.queue.receive? with
  | some (d, queue) => (.event d, { s with queue := queue })
  | none => (if s.hasSender then .nothing else .ended, s)

/-- Hands a live event to a member, which may not make the hub wait. -/
def live (s : Subscription P) (d : Delivery P) : Reception × Subscription P :=
  match s.queue.push d with
  | (.accepted, queue) => (.accepted, { s with queue := queue })
  | (.full, _) => (.overflowed (s.dropped + 1), { s with dropped := s.dropped + 1 })
  | (.gone, _) => (.gone, s)

/-- The subscription as its consumer describes it. -/
def describe (key : Key) (handle : Handle) (s : Subscription P) : String :=
  Quoted.record "Subscription"
    [("key", key.describe), ("handle", handle.describe),
      ("queued", Numeral.decimal s.queue.items.length)]

end Subscription

end WatchHub
