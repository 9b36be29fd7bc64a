import WatchHub.Hub.Audience
import WatchHub.Hub.Populating

/-!
# Registrations

One observer bound to one key, with the audience of the key and the ingest, the task that takes the
observer's events one by one, adds each to the log and then fans it out. An ingest asks its observer
for a stream once and never again.

A worker runs an ingest in turns, and a turn ends where the ingest has to wait. Whoever aborts an
ingest only asks for its end: one that waits takes no further step, but is there until a worker drops
it; one in the middle of a turn goes on until the turn ends.
-/

namespace WatchHub

namespace Ingest

/-- How an ingest ended. -/
inductive Ending where
  | setupFailed
  | streamEnded
  | cancelled
  | crashed
  | aborted
deriving DecidableEq, Inhabited, Repr

/-- Where an ingest stands between two of its steps; `last` tells that it ends after the event. -/
inductive Stage (P : Type) where
  | spawned
  /-- The observer has been asked for its stream. -/
  | watching
  | streaming
  /-- About to look for the log of the key, or to open it. -/
  | locating (event : Event P) (last : Bool)
  /-- About to add the event to the log that was found. -/
  | recording (log : LogId) (event : Event P) (last : Bool)
  /-- About to fan the logged event out. -/
  | emitting (delivery : Delivery P) (last : Bool)
  /-- Was aborted while it waited, and is yet to be dropped. -/
  | felled
  | finished (ending : Ending)
deriving DecidableEq, Inhabited, Repr

/-- The steps of an ingest. -/
inductive Move where
  /-- Runs for the first time. -/
  | start
  /-- The observer answers with its stream. -/
  | answer (stream : Answer Unit)
  /-- Stops, as the hub is stopped. -/
  | stop
  /-- Takes the next event from the stream. -/
  | take
  /-- Finds the stream at its end. -/
  | finish
  /-- Looks for the log of the key and opens it under the drawn epoch if there is none. -/
  | locate (epoch : UInt64)
  /-- Adds the event to the log that was found. -/
  | record
  /-- Fans the event out. -/
  | emit
  /-- A worker takes it up for a turn. -/
  | wake
  /-- Comes to a place where it has to wait, which ends the turn. -/
  | rest
  /-- Is dropped, as it was aborted while it waited. -/
  | drop
deriving DecidableEq, Inhabited, Repr

end Ingest

/-- The task that takes the events of one observer. -/
structure Ingest (P : Type) where
  stage : Ingest.Stage P
  /-- What the observer has sent and the ingest has not taken yet. -/
  inbox : List (Event P)
  /-- Whether the observer has ended its stream. -/
  ended : Bool
  /-- Whether a worker is in the middle of a turn of it. -/
  inTurn : Bool
  /-- Whether it was told to end. -/
  aborted : Bool
deriving DecidableEq, Inhabited, Repr

namespace Ingest

variable {P : Type}

/-- An ingest that has not yet run. -/
def new : Ingest P :=
  ⟨.spawned, [], false, false, false⟩

/-- Whether the ingest has come to its end. -/
def isFinished (i : Ingest P) : Bool :=
  match i.stage with
  | .finished _ => true
  | _ => false

/-- Whether the ingest takes no further step but its own end. -/
def isOver (i : Ingest P) : Bool :=
  match i.stage with
  | .finished _ => true
  | .felled => true
  | _ => false

/-- Whether the ingest has come to its end or was told to. -/
def isDismissed (i : Ingest P) : Bool :=
  i.isFinished || i.aborted

/-- Whether the ingest broke down together with its observer. -/
def isCrashed (i : Ingest P) : Bool :=
  i.stage matches .finished .crashed

end Ingest

/-- What the hub knows of an observer. -/
structure ObserverRef where
  id : Nat
  name : String
deriving DecidableEq, Inhabited, Repr

/-- One observer bound to one key. -/
structure Registration (P : Type) where
  observer : ObserverRef
  /-- Whether the key still leads to it; a shutdown unbinds every key. -/
  bound : Bool
  ingest : Ingest P
  audience : Audience P
deriving Repr

/-- The logs and a registration after a step, and what happened. -/
structure Ingested (P : Type) where
  log : EventLog P
  registration : Registration P
  facts : List (Fact P)
deriving Repr

namespace Registration

variable {P : Type}

/-- A fresh binding, whose ingest is about to run. -/
def new (key : Key) (observer : ObserverRef) : Registration P :=
  ⟨observer, true, .new, .new key⟩

/-- The key that is bound. -/
def key (r : Registration P) : Key :=
  r.audience.key

/-- The registration with its ingest gone on to another stage. -/
def moveTo (r : Registration P) (stage : Ingest.Stage P) : Registration P :=
  { r with ingest := { r.ingest with stage := stage, inTurn := true } }

/-- The registration when a turn of its ingest begins or ends. -/
def setTurn (r : Registration P) (inTurn : Bool) : Registration P :=
  { r with ingest := { r.ingest with inTurn := inTurn } }

/-- The registration when its observer has answered: an error is an event too, the last one. -/
def watched (r : Registration P) : Answer Unit → Registration P × List (Fact P)
  | .ok _ => (r.moveTo .streaming, [.running r.key r.observer.name])
  | .failed failure =>
    (r.moveTo (.locating (.error failure.message) true),
      [.setupFailed r.key r.observer.name failure])
  | .crashed => (r.moveTo (.finished .crashed), [])

/-- One step of the ingest, if it can be made. -/
def step (stopped : Bool) (log : EventLog P) (r : Registration P) (move : Ingest.Move) :
    Option (Ingested P) :=
  let keep (r : Registration P × List (Fact P)) : Option (Ingested P) := some ⟨log, r.1, r.2⟩
  match r.ingest.stage, move with
  | .spawned, .start =>
    if stopped then keep (r.moveTo (.finished .cancelled), [])
    else keep (r.moveTo .watching, [.watched r.key])
  | .watching, .answer stream => keep (r.watched stream)
  | .watching, .stop => if stopped then keep (r.moveTo (.finished .cancelled), []) else none
  | .streaming, .stop =>
    if stopped then keep (r.moveTo (.finished .cancelled), [.cancelled r.key]) else none
  | .streaming, .take =>
    match r.ingest.inbox with
    | [] => none
    | event :: inbox =>
      keep ({ r with ingest := { r.ingest with inbox := inbox } }.moveTo (.locating event false),
        [.taken r.key event])
  | .streaming, .finish =>
    if r.ingest.inbox.isEmpty && r.ingest.ended then
      keep (r.moveTo (.finished .streamEnded), [.streamEnded r.key])
    else none
  | .locating event last, .locate epoch =>
    let facts := Fact.ofLocate log r.key epoch
    let (id, log) := log.locate r.key epoch
    some ⟨log, r.moveTo (.recording id event last), facts⟩
  | .recording id event last, .record =>
    let (version, log) := log.record id event
    some ⟨log, r.moveTo (.emitting (.versioned event version) last),
      [.logged r.key .ingest id event version]⟩
  | .emitting d last, .emit =>
    let (audience, facts) := r.audience.emit d
    keep ({ r with audience := audience }.moveTo
      (if last then .finished .setupFailed else .streaming), facts)
  | .felled, .drop => keep (r.moveTo (.finished .aborted), [])
  | .felled, _ | .finished _, _ => none
  | _, .wake => if r.ingest.inTurn then none else keep (r.setTurn true, [])
  | _, .rest =>
    if !r.ingest.inTurn then none
    else if r.ingest.aborted then keep (r.moveTo (.finished .aborted), [])
    else keep (r.setTurn false, [])
  | _, _ => none

/-- One step of the population of a subscription, if it can be made. -/
def populate (log : EventLog P) (r : Registration P) (handle : Handle)
    (move : Population.Move P) : Option (Ingested P) := do
  let s ← r.audience.get? handle
  let p ← s.populate r.key handle log move
  pure ⟨p.log, { r with audience := r.audience.put handle p.subscription }, p.facts⟩

/-- The observer sends an event; it is lost if nobody takes it any more. -/
def send (r : Registration P) (event : Event P) : Registration P :=
  if r.ingest.isFinished || r.ingest.ended then r
  else { r with ingest := { r.ingest with inbox := r.ingest.inbox ++ [event] } }

/-- The observer ends its stream. -/
def endStream (r : Registration P) : Registration P :=
  { r with ingest := { r.ingest with ended := true } }

/-- Tells the ingest to end. While it waits it takes no further step; in the middle of a turn it goes
on until the turn ends. -/
def abort (r : Registration P) : Registration P :=
  if r.ingest.isFinished then r
  else
    let stage := if r.ingest.inTurn then r.ingest.stage else .felled
    { r with ingest := { r.ingest with stage := stage, aborted := true } }

end Registration

end WatchHub
