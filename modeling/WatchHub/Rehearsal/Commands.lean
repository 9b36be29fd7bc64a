import WatchHub.Rehearsal.Clock

/-!
# The commands of a rehearsal

What the owners of hubs, the consumers and the observers can be made to do. A command runs without
interruption by the tasks, except where it waits for an event or for a shutdown.
-/

namespace WatchHub

namespace Rehearsal

variable {P : Type}

/-! ## Hubs -/

/-- Opens another hub. -/
def openHub (s : Rehearsal P) (config : HubConfig) : HubId × Rehearsal P :=
  (s.hubs.length, { s with hubs := s.hubs ++ [.new config] })

/-- The owner lets go of a hub. -/
def dropHub (s : Rehearsal P) (d : HubId) : Rehearsal P :=
  { s with gone := s.gone ++ [d] }.sweep

/-- The failure that a reply tells of. -/
def failureOf : Option Reply → Option WatchFailure
  | some (.refused failure) => some failure
  | _ => none

/-- Binds an observer of a given number to a key; it takes its seat if the hub accepts it. -/
def bind (s : Rehearsal P) (d : HubId) (key : Key) (seat : Seat) (name : String) :
    Option WatchFailure × Rehearsal P :=
  let (_, s, reply?) := s.call d (.register key ⟨seat.source, name⟩)
  match failureOf reply? with
  | some failure => (some failure, s)
  | none => (none, { s with seats := s.seats.put (d, key) seat })

/-- Binds a new observer to a key. -/
def register (s : Rehearsal P) (d : HubId) (key : Key) (script : Script P) :
    Option WatchFailure × Rehearsal P :=
  { s with sources := s.sources ++ [Source.new script] }.bind d key ⟨s.sources.length, true⟩ script.name

/-- Binds the observer of another place to a key; none if there is no observer at that place. -/
def share (s : Rehearsal P) (d : HubId) (key : Key) (place : HubId × Key) :
    Option (Option WatchFailure × Rehearsal P) :=
  (s.sourceAt? place.1 place.2).map fun (seat, source) =>
    s.bind d key ⟨seat.source, false⟩ source.name

/-- Adds events to the log of a key, without fan-out, and tells their versions. -/
def append (s : Rehearsal P) (d : HubId) (key : Key) :
    List (Event P) → List Version × Rehearsal P
  | [] => ([], s)
  | e :: es =>
    match (s.actD d (.locate key s.epoch e)).act d (.record 0) with
    | none => ([], s)
    | some (s, facts) =>
      let version? := facts.findSome? fun fact =>
        match fact with
        | .logged _ _ _ _ version => some version
        | _ => none
      let (versions, s) := s.append d key es
      (version?.toList ++ versions, s)

/-- Clears the logs of a hub. -/
def clear (s : Rehearsal P) (d : HubId) : Rehearsal P :=
  s.actD d .clear

/-- Whether nothing keeps a waiting shutdown from going on. -/
def canFinish (s : Rehearsal P) (d : HubId) (call : CallId) : Bool :=
  match s.hubs[d]? with
  | some h =>
    match h.calls.get? call with
    | some (.awaiting left _) => left.all h.hasFinished
    | _ => true
  | none => true

/-- Ends the grace of a shutdown, which then goes on to its end. -/
def expire (s : Rehearsal P) (d : HubId) (h : Hub P) (call : CallId) : Option Reply × Rehearsal P :=
  ((s.actD d (.expire call allowance)).resumeAll d call (callSteps h)).swap

/-- Shuts a hub down without any grace: it looks at the ingests in one turn, and no task runs. -/
def shutdownNow (s : Rehearsal P) (d : HubId) (h : Hub P) : Option Reply × Rehearsal P :=
  ((s.actD d (.start .shutdown)).actD d (.resume h.made)).expire d h h.made

/-- Shuts a hub down; the tasks run only while the shutdown has grace to wait for them. -/
def shutdown (s : Rehearsal P) (d : HubId) : Option Reply × Rehearsal P :=
  match s.hubs[d]? with
  | none => (none, s)
  | some h =>
    let grace := h.config.grace.timerMillis
    if grace = 0 then s.shutdownNow d h
    else
      match s.call d .shutdown with
      | (_, s, some reply) => (some reply, s)
      | (call, s, none) =>
        let s := s.waitUntil (s.now + grace) (canFinish · d call)
        match s.resumeAll d call (callSteps h) with
        | (s, some reply) => (some reply, s)
        | (s, none) => s.expire d h call

/-- Sets a guard on a hub. -/
def guard (s : Rehearsal P) (d : HubId) : Rehearsal P :=
  { s with watchmen := s.watchmen ++ [⟨d, none, none, none, false⟩] }

/-- A signal arrives: once all tasks are idle every guard gets it, and they run to their end. -/
def signal (s : Rehearsal P) (name : String) : Rehearsal P :=
  let s := s.runIdle
  let watchmen := s.watchmen.map fun w => { w with signal := some name }
  { s with watchmen := watchmen }.runIdle

/-- What has become of the guards whose end was not reported before. -/
def reports (s : Rehearsal P) : List (Option Reply) × Rehearsal P :=
  ((s.watchmen.filter fun w => !w.reported).map Watchman.reply,
    { s with watchmen := s.watchmen.map fun w => { w with reported := w.reply.isSome } })

/-! ## Consumers -/

/-- The subscription that is still held under a name. -/
def held? (s : Rehearsal P) (name : String) : Option Ticket :=
  match s.tickets.get? name with
  | some t => if t.held then some t else none
  | none => none

/-- A consumer lets go of its subscription without a word to the hub. -/
def hangUp (s : Rehearsal P) (name : String) : Rehearsal P :=
  match s.held? name with
  | some t =>
    { s.actD t.hub (.hangUp t.key t.handle) with
      tickets := s.tickets.put name { t with held := false } }
  | none => s

/-- Breaks down with a call that has broken down. -/
def checkCall (s : Rehearsal P) (d : HubId) (call : CallId) : Rehearsal P :=
  match s.hubs[d]? >>= fun h => h.calls.get? call with
  | some (.broken message) => { s with breakdown := s.breakdown <|> some message }
  | _ => s

/-- Opens a subscription under a name; whatever had the name before is let go. -/
def subscribe (s : Rehearsal P) (d : HubId) (key : Key) (name : String)
    (checkpoint : Option Version) : Except WatchFailure Handle × Rehearsal P :=
  match s.call d (.subscribe key checkpoint) with
  | (_, s, some (.subscribed handle)) =>
    let s := s.hangUp name
    (.ok handle, { s with tickets := s.tickets.put name ⟨d, key, handle, true, false⟩ })
  | (call, s, reply?) => (.error ((failureOf reply?).getD .stopped), s.checkCall d call)

/-- Opens a subscription from a checkpoint in its text form. -/
def subscribeText (s : Rehearsal P) (d : HubId) (key : Key) (name text : String) :
    Except WatchFailure Handle × Rehearsal P :=
  match Hub.readCheckpoint key text with
  | .ok checkpoint => s.subscribe d key name checkpoint
  | .error failure => (.error failure, s)

/-- Ends a subscription at a hub and a key. -/
def unsubscribe (s : Rehearsal P) (d : HubId) (key : Key) (handle : Handle) : Rehearsal P :=
  (s.call d (.unsubscribe key handle)).2.1

/-- The consumer takes its next event, if there is one. -/
def receive (s : Rehearsal P) (t : Ticket) : Receipt P × Rehearsal P :=
  match s.subscription? t with
  | some sub => (sub.receive.1, s.actD t.hub (.receive t.key t.handle))
  | none => (.ended, s)

/-- The consumer takes at most a number of events. -/
def receiveMany (s : Rehearsal P) (t : Ticket) : Nat → List (Delivery P) × Rehearsal P
  | 0 => ([], s)
  | n + 1 =>
    match s.receive t with
    | (.event d, s) =>
      let (ds, s) := s.receiveMany t n
      (d :: ds, s)
    | (_, s) => ([], s)

/-- How many events wait for the consumer. -/
def queued (s : Rehearsal P) (t : Ticket) : Nat :=
  match s.subscription? t with
  | some sub => sub.queue.items.length
  | none => 0

/-- Whether the consumer has something to receive, be it the end. -/
def hasReceipt (s : Rehearsal P) (t : Ticket) : Bool :=
  match s.subscription? t with
  | some sub =>
    match sub.receive.1 with
    | .nothing => false
    | _ => true
  | none => true

/-- The consumer waits at most so long for its next event; without patience no task runs. -/
def next (s : Rehearsal P) (t : Ticket) (wait : Nat) : Receipt P × Rehearsal P :=
  if s.hasReceipt t || wait = 0 then s.receive t
  else (s.waitUntil (s.now + wait) (hasReceipt · t)).receive t

/-- The consumer takes its subscription apart and keeps the queue. -/
def takeApart (s : Rehearsal P) (name : String) : Rehearsal P :=
  { s with tickets := s.tickets.modify name fun t => { t with raw := true } }

/-- How many live events a subscription has missed, as long as its hub is held. -/
def dropped? (s : Rehearsal P) (t : Ticket) : Option Nat :=
  s.hub? t.hub >>= fun h => h.dropped? t.key t.handle

/-! ## Observers -/

/-- Sends one event from a seat, and tells whether it could be sent: while the stream has room and
somebody receives it. An ingest that was aborted receives until its stream is given up. -/
def sendOne (s : Rehearsal P) (seat : Seat) (source : Source P) (e : Event P) :
    Bool × Rehearsal P :=
  match source.feed with
  | .held backlog false =>
    if backlog.length < Source.streamRoom then
      (true, s.modifySource seat.source fun source =>
        { source with feed := .held (backlog ++ [e]) false })
    else (false, s)
  | .held _ true => (false, s)
  | .taken d key =>
    match s.hubs[d]? >>= fun h => h.registration? key with
    | some r =>
      if r.ingest.ended || Source.streamRoom ≤ r.ingest.inbox.length
          || r.ingest.isFinished then (false, s)
      else (true, s.actD d (.send key e))
    | none => (false, s)
  | .dropped => (false, s)

/-- An observer sends events, and tells how many it could send. -/
def send (s : Rehearsal P) (seat : Seat) : List (Event P) → Nat × Rehearsal P
  | [] => (0, s)
  | e :: es =>
    match s.sources[seat.source]? with
    | some source =>
      if seat.sends then
        let (sent, s) := s.sendOne seat source e
        let (n, s) := s.send seat es
        ((if sent then n + 1 else n), s)
      else (0, s)
    | none => (0, s)

/-- An observer ends its stream. -/
def close (s : Rehearsal P) (seat : Seat) (source : Source P) : Rehearsal P :=
  if seat.sends then
    match source.feed with
    | .held backlog _ =>
      s.modifySource seat.source fun source => { source with feed := .held backlog true }
    | .taken d key => s.actD d (.endStream key)
    | .dropped => s
  else s

/-- Changes what an observer answers when it is asked for its items. -/
def setList (s : Rehearsal P) (seat : Seat) (plan : Plan (List P)) : Rehearsal P :=
  s.modifySource seat.source fun source => { source with list := plan }

/-- Makes an observer end subscriptions when it next lists. -/
def setEviction (s : Rehearsal P) (seat : Seat) (eviction : Eviction) : Rehearsal P :=
  s.modifySource seat.source fun source => { source with eviction := some eviction }

/-- What has happened since the last look, and the rehearsal with it forgotten. -/
def takeFacts (s : Rehearsal P) : List (Fact P) × Rehearsal P :=
  (s.facts, { s with facts := [] })

end Rehearsal

end WatchHub
