import WatchHub.Rehearsal.Source

/-!
# Rehearsals

Hubs with scripted observers on a clock of their own. A rehearsal is driven by commands; between
them the tasks of the hubs run one at a time, in the order in which they became ready, and the clock
moves only when all are idle. Whatever happens to a hub is one of its steps.
-/

namespace WatchHub

/-- Where a task stands with the observer it asked. -/
inductive Turn where
  /-- Waits at the gate. -/
  | queued
  /-- Has passed the gate. -/
  | admitted
  /-- Will never be answered. -/
  | unanswered
deriving DecidableEq, Inhabited, Repr

/-- The observer that was last bound to a place. -/
structure Seat where
  source : Nat
  /-- Whether events can be sent from here. -/
  sends : Bool
deriving DecidableEq, Inhabited, Repr

/-- A subscription under the name that a command gave it. -/
structure Ticket where
  hub : HubId
  key : Key
  handle : Handle
  /-- Whether the consumer still holds its end. -/
  held : Bool
  /-- Whether the consumer has taken the subscription apart. -/
  raw : Bool
deriving DecidableEq, Inhabited, Repr

/-- A task that guards a hub until a signal arrives. -/
structure Watchman where
  hub : HubId
  /-- Its call of the hub, once it has run. -/
  call : Option CallId
  /-- A signal that has arrived and not been noticed yet. -/
  signal : Option String
  reply : Option Reply
  /-- Whether its end was reported. -/
  reported : Bool
deriving DecidableEq, Inhabited, Repr

/-- The state of a rehearsal. -/
structure Rehearsal (P : Type) where
  hubs : List (Hub P)
  /-- The hubs whose owner has let go of them. -/
  gone : List HubId
  sources : List (Source P)
  seats : Table (HubId × Key) Seat
  tickets : Table String Ticket
  /-- The guards in the order in which they were set. -/
  watchmen : List Watchman
  /-- The tasks that can run, the next one in front. -/
  ready : List Task
  /-- The tasks that have used up their allowance, the last one in front. -/
  deferred : List Task
  /-- The tasks that have come to a log, the first to use it in front. -/
  lines : Table (HubId × LogId) (List Task)
  turns : Table Task Turn
  /-- When the tasks that wait for a limited time give up. -/
  deadlines : Table Task Nat
  /-- The time in milliseconds. -/
  now : Nat
  /-- The epochs of the logs in the order of their opening. -/
  epochs : Nat → UInt64
  /-- How many epochs were drawn. -/
  drawn : Nat
  /-- What has happened since the facts were last looked at. -/
  facts : List (Fact P)
  /-- Why nothing can go on, if something has broken down. -/
  breakdown : Option String

namespace Rehearsal

variable {P : Type}

/-- A rehearsal without hubs. -/
def new (epochs : Nat → UInt64) : Rehearsal P where
  hubs := []
  gone := []
  sources := []
  seats := .empty
  tickets := .empty
  watchmen := []
  ready := []
  deferred := []
  lines := .empty
  turns := .empty
  deadlines := .empty
  now := 0
  epochs := epochs
  drawn := 0
  facts := []
  breakdown := none

/-- A hub that its owner has not let go of. -/
def hub? (s : Rehearsal P) (d : HubId) : Option (Hub P) :=
  if s.gone.contains d then none else s.hubs[d]?

/-- The hubs that their owners have not let go of. -/
def liveHubs (s : Rehearsal P) : List (HubId × Hub P) :=
  (s.hubs.zipIdx.filter fun p => !s.gone.contains p.2).map Prod.swap

/-- The epoch of the next log that is opened. -/
def epoch (s : Rehearsal P) : UInt64 :=
  s.epochs s.drawn

/-- One step of a hub, with what happened noted; none if the hub cannot make it. -/
def act (s : Rehearsal P) (d : HubId) (action : Action P) : Option (Rehearsal P × List (Fact P)) := do
  let h ← s.hubs[d]?
  let (h', facts) ← h.step action
  pure ({ s with
    hubs := s.hubs.set d h'
    drawn := s.drawn + (h'.log.store.length - h.log.store.length)
    facts := s.facts ++ facts }, facts)

/-- One step of a hub, if it can make it. -/
def act? (s : Rehearsal P) (d : HubId) (action : Action P) : Option (Rehearsal P) :=
  (s.act d action).map Prod.fst

/-- One step of a hub; nothing happens if it cannot make it. -/
def actD (s : Rehearsal P) (d : HubId) (action : Action P) : Rehearsal P :=
  (s.act? d action).getD s

/-- The reply among the facts of a step. -/
def replyIn (facts : List (Fact P)) : Option Reply :=
  facts.findSome? fun fact =>
    match fact with
    | .returned _ reply => some reply
    | _ => none

/-- Runs a call through the places where it may have to wait, as long as it need not. -/
def resumeAll (s : Rehearsal P) (d : HubId) (call : CallId) :
    Nat → Rehearsal P × Option Reply
  | 0 => (s, none)
  | fuel + 1 =>
    match s.act d (.resume call) with
    | none => (s, none)
    | some (s, facts) =>
      match replyIn facts with
      | some reply => (s, some reply)
      | none => s.resumeAll d call fuel

/-- How many counted steps a task may make in one turn. -/
def allowance : Nat := 128

/-- How many steps a call of a hub takes at most: one for each key and a few more. -/
def callSteps (h : Hub P) : Nat :=
  2 * h.registrations.rows.length + 8

/-- Makes a call and runs it as far as it goes without waiting. -/
def call (s : Rehearsal P) (d : HubId) (request : Request) :
    CallId × Rehearsal P × Option Reply :=
  match s.hubs[d]? with
  | none => (0, s, none)
  | some h =>
    match s.act d (.start request) with
    | none => (h.made, s, none)
    | some (s, facts) =>
      match replyIn facts with
      | some reply => (h.made, s, some reply)
      | none => (h.made, s.resumeAll d h.made (callSteps h))

/-- A scripted observer with something changed. -/
def modifySource (s : Rehearsal P) (id : Nat) (f : Source P → Source P) : Rehearsal P :=
  { s with sources := s.sources.modify id f }

/-- The observer bound to a place. -/
def sourceAt? (s : Rehearsal P) (d : HubId) (key : Key) : Option (Seat × Source P) := do
  let seat ← s.seats.get? (d, key)
  let source ← s.sources[seat.source]?
  pure (seat, source)

/-- The subscription behind a name. -/
def subscription? (s : Rehearsal P) (t : Ticket) : Option (Subscription P) := do
  let h ← s.hubs[t.hub]?
  h.subscription? t.key t.handle

end Rehearsal

end WatchHub
