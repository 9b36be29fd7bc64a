import WatchHub.Event

/-!
# The log of one key

The most recent events of one key with their versions, oldest first. The log keeps the number of
events it has let go and, for each version it retains, the position of its event among all events
ever logged; so a checkpoint is found without a search through the entries.
-/

namespace WatchHub

/-- One logged event. -/
structure Entry (P : Type) where
  event : Event P
  version : Version
deriving DecidableEq, Inhabited, Repr

namespace Entry

/-- The entry as consumers receive it. -/
def delivery {P : Type} (e : Entry P) : Delivery P :=
  Delivery.versioned e.event e.version

end Entry

/-- The recent events of one key. -/
structure KeyLog (P : Type) where
  epoch : UInt64
  /-- The sequence number of the last event; zero in a new log. A counter of 64 bits, taken as never
  exhausted. -/
  lastSeq : Nat
  /-- How many entries were let go: the position of the oldest one that is retained. -/
  head : Nat
  entries : List (Entry P)
  /-- The position of each retained version. -/
  index : List (Version × Nat)
deriving Inhabited, Repr

namespace KeyLog

variable {P : Type}

/-- A log without events. -/
def new (epoch : UInt64) : KeyLog P :=
  ⟨epoch, 0, 0, [], []⟩

/-- Lets the oldest entry go and forgets its position. -/
def dropOldest (l : KeyLog P) : KeyLog P :=
  match l.entries with
  | [] => l
  | oldest :: rest =>
    { l with
      entries := rest
      index := l.index.filter fun p => p.1 ≠ oldest.version
      head := l.head + 1 }

/-- Lets the oldest entries go until there is room below the capacity; the fuel bounds how many. -/
def makeRoom (capacity : Nat) : Nat → KeyLog P → KeyLog P
  | 0, l => l
  | fuel + 1, l => if capacity ≤ l.entries.length then makeRoom capacity fuel l.dropOldest else l

/-- The version that the next event gets. -/
def nextVersion (l : KeyLog P) : Version :=
  ⟨l.epoch, l.lastSeq + 1⟩

/-- Adds an event under the next version. -/
def push (l : KeyLog P) (event : Event P) : KeyLog P :=
  let version := l.nextVersion
  { l with
    lastSeq := l.lastSeq + 1
    index := (version, l.head + l.entries.length) :: l.index
    entries := l.entries ++ [⟨event, version⟩] }

/-- Adds an event, first making room for it. -/
def append (capacity : Nat) (l : KeyLog P) (event : Event P) : KeyLog P :=
  (l.makeRoom capacity l.entries.length).push event

/-- The position of a version that is retained. -/
def position? (l : KeyLog P) (v : Version) : Option Nat :=
  l.index.lookup v

/-- The entries after a version, if it is retained. -/
def after? (l : KeyLog P) (v : Version) : Option (List (Entry P)) :=
  (l.position? v).map fun pos => l.entries.drop (pos - l.head + 1)

/-- The version of the newest entry. -/
def latest? (l : KeyLog P) : Option Version :=
  l.entries.getLast?.map Entry.version

end KeyLog

end WatchHub
