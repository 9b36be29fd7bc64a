import WatchHub.Hub.Step

/-!
# Scripted observers

Observers that answer by a plan. Either of their two calls may have a gate, which lets one call pass
for each permit, first come first served. An observer has one stream; until an ingest takes it, the
events that were sent wait in it.
-/

namespace WatchHub

/-- The number of a hub in a rehearsal. -/
abbrev HubId := Nat

/-- A task that runs beside the rehearsed commands. -/
inductive Task where
  | ingest (hub : HubId) (key : Key)
  | population (hub : HubId) (key : Key) (handle : Handle)
  | guard (number : Nat)
deriving DecidableEq, Inhabited, Repr

/-- How an observer answers one of its calls: as planned, or never. -/
inductive Plan (α : Type) where
  | answer (answer : Answer α)
  | silent
deriving DecidableEq, Inhabited, Repr

/-- How many items a plan for a list holds. -/
def Plan.size {P : Type} : Plan (List P) → Nat
  | .answer (.ok items) => items.length
  | _ => 0

/-- The gate of one call of an observer. -/
structure Gate where
  gated : Bool
  /-- How many calls may pass without waiting. -/
  permits : Nat
  /-- The tasks that wait, the first to pass in front. -/
  line : List Task
deriving DecidableEq, Inhabited, Repr

namespace Gate

/-- A gate without permits, or none at all. -/
def new (gated : Bool) : Gate :=
  ⟨gated, 0, []⟩

/-- Whether a task passes at once; otherwise it waits in line. -/
def enter (g : Gate) (task : Task) : Bool × Gate :=
  if !g.gated then (true, g)
  else
    match g.permits with
    | 0 => (false, { g with line := g.line ++ [task] })
    | permits + 1 => (true, { g with permits := permits })

/-- Lets the first task in line pass, or else the next one to come. -/
def release (g : Gate) : Option Task × Gate :=
  match g.line with
  | [] => (none, { g with permits := g.permits + 1 })
  | task :: line => (some task, { g with line := line })

/-- A task leaves the line. -/
def leave (g : Gate) (task : Task) : Gate :=
  { g with line := g.line.filter (· ≠ task) }

end Gate

/-- The stream of an observer: still its own, with what was sent so far, taken by an ingest, or given
up by the ingest that had taken it. -/
inductive Feed (P : Type) where
  | held (backlog : List (Event P)) (ended : Bool)
  | taken (hub : HubId) (key : Key)
  | dropped
deriving DecidableEq, Inhabited, Repr

/-- What still waits in the stream of an observer. -/
def Feed.backlog {P : Type} : Feed P → List (Event P)
  | .held backlog _ => backlog
  | _ => []

/-- Whether the stream is no longer the observer's own. -/
def Feed.isGiven {P : Type} : Feed P → Bool
  | .held .. => false
  | _ => true

/-- Subscriptions that an observer ends while it lists. -/
structure Eviction where
  hub : HubId
  key : Key
  handles : List Handle
deriving DecidableEq, Inhabited, Repr

/-- How an observer is to behave. -/
structure Script (P : Type) where
  name : String
  watch : Plan Unit
  list : Plan (List P)
  watchGated : Bool
  listGated : Bool
deriving DecidableEq, Inhabited, Repr

/-- The two calls of an observer. -/
inductive Ask where
  | watch
  | list
deriving DecidableEq, Inhabited, Repr

/-- A scripted observer. -/
structure Source (P : Type) where
  name : String
  watch : Plan Unit
  list : Plan (List P)
  watchGate : Gate
  listGate : Gate
  watchCalls : Nat
  listCalls : Nat
  feed : Feed P
  eviction : Option Eviction
deriving DecidableEq, Inhabited, Repr

namespace Source

variable {P : Type}

/-- An observer that was never called. -/
def new (s : Script P) : Source P :=
  ⟨s.name, s.watch, s.list, .new s.watchGated, .new s.listGated, 0, 0, .held [] false, none⟩

/-- How many events a stream holds at most. -/
def streamRoom : Nat := 4096

/-- The gate of a call. -/
def gate (s : Source P) : Ask → Gate
  | .watch => s.watchGate
  | .list => s.listGate

/-- The observer with the gate of a call changed. -/
def setGate (s : Source P) (ask : Ask) (gate : Gate) : Source P :=
  match ask with
  | .watch => { s with watchGate := gate }
  | .list => { s with listGate := gate }

/-- Counts a call and brings it to its gate. -/
def call (s : Source P) (ask : Ask) (task : Task) : Bool × Source P :=
  let s := match ask with
    | .watch => { s with watchCalls := s.watchCalls + 1 }
    | .list => { s with listCalls := s.listCalls + 1 }
  let (passes, gate) := (s.gate ask).enter task
  (passes, s.setGate ask gate)

/-- What the observer answers to a request for its stream, which it can give away only once. -/
def watchAnswer (s : Source P) : Plan Unit :=
  match s.watch with
  | .answer (.ok _) =>
    if s.feed.isGiven then .answer (.failed (.setup s.name "watched twice")) else s.watch
  | plan => plan

end Source

end WatchHub
