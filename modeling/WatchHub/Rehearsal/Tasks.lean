import WatchHub.Rehearsal.State

/-!
# The tasks of a rehearsal

The next step of each task: of the ingest of a key, of the population of a subscription, and of a
guard. There is none while the task has to wait for something else than its turn.
-/

namespace WatchHub

namespace Rehearsal

variable {P : Type}

/-- Brings a task to the gate of a call of an observer. -/
def ask (s : Rehearsal P) (id : Nat) (ask : Ask) (task : Task) : Rehearsal P :=
  match s.sources[id]? with
  | none => s
  | some source =>
    let (passes, source) := source.call ask task
    { s with
      sources := s.sources.set id source
      turns := s.turns.put task (if passes then .admitted else .queued) }

/-- Lets one call pass a gate. -/
def release (s : Rehearsal P) (id : Nat) (ask : Ask) : Rehearsal P :=
  match s.sources[id]? with
  | none => s
  | some source =>
    let (task?, gate) := (source.gate ask).release
    let s := { s with sources := s.sources.set id (source.setGate ask gate) }
    match task? with
    | some task => { s with turns := s.turns.put task .admitted }
    | none => s

/-- The wait of a task for an observer is over. -/
def answered (s : Rehearsal P) (task : Task) : Rehearsal P :=
  { s with turns := s.turns.erase task }

/-- Ends the wait of a task for an observer; an unused permit goes to the next in line. -/
def cancelAsk (s : Rehearsal P) (id : Nat) (ask : Ask) (task : Task) : Rehearsal P :=
  let turn? := s.turns.get? task
  let s := s.answered task
  match turn?, s.sources[id]? with
  | some .admitted, some source => if (source.gate ask).gated then s.release id ask else s
  | some .queued, some source =>
    { s with sources := s.sources.set id (source.setGate ask ((source.gate ask).leave task)) }
  | _, _ => s

/-- The observer will not answer a task. -/
def ignore (s : Rehearsal P) (task : Task) : Rehearsal P :=
  { s with turns := s.turns.put task .unanswered }

/-- Sends events on a stream that an ingest has taken. -/
def sendAll (s : Rehearsal P) (d : HubId) (key : Key) (events : List (Event P)) : Rehearsal P :=
  events.foldl (fun s e => s.actD d (.send key e)) s

/-- The observer gives its stream away, with everything that was sent before. -/
def handOver (s : Rehearsal P) (id : Nat) (d : HubId) (key : Key) : Rehearsal P :=
  match s.sources[id]? with
  | some source =>
    match source.feed with
    | .held backlog ended =>
      let s := (s.modifySource id fun source => { source with feed := .taken d key }).sendAll
        d key backlog
      if ended then s.actD d (.endStream key) else s
    | _ => s
  | none => s

/-- The observer answers an ingest that has passed the gate. -/
def answerWatch (s : Rehearsal P) (id : Nat) (d : HubId) (key : Key) : Option (Rehearsal P) := do
  let task := Task.ingest d key
  let source ← s.sources[id]?
  match source.watchAnswer with
  | .silent => pure (s.ignore task)
  | .answer answer =>
    let s ← (s.answered task).act? d (.ingest key (.answer answer))
    match answer with
    | .ok _ => pure (s.handOver id d key)
    | _ => pure s

/-- The observer first ends the subscriptions that it was told to end. -/
def evict (s : Rehearsal P) (id : Nat) : Rehearsal P :=
  match s.sources[id]? with
  | some source =>
    match source.eviction with
    | some e =>
      let s := s.modifySource id fun source => { source with eviction := none }
      e.handles.foldl (fun s h => (s.call e.hub (.unsubscribe e.key h)).2.1) s
    | none => s
  | none => s

/-- The observer answers a population that has passed the gate. -/
def answerList (s : Rehearsal P) (id : Nat) (d : HubId) (key : Key) (handle : Handle) :
    Option (Rehearsal P) := do
  let task := Task.population d key handle
  let source ← s.sources[id]?
  let s := s.evict id
  match source.list with
  | .silent => pure (s.ignore task)
  | .answer answer => (s.answered task).act? d (.populate key handle (.answer answer))

/-- The next step of an ingest; none while it has to wait. -/
def moveIngest (s : Rehearsal P) (d : HubId) (key : Key) : Option (Rehearsal P) := do
  let task := Task.ingest d key
  let h ← s.hubs[d]?
  let r ← h.registration? key
  let go (move : Ingest.Move) := s.act? d (.ingest key move)
  match r.ingest.stage with
  | .spawned =>
    let s ← go .start
    if h.stopped then pure s else pure (s.ask r.observer.id .watch task)
  | .watching =>
    if h.stopped then (s.cancelAsk r.observer.id .watch task).act? d (.ingest key .stop)
    else
      match s.turns.get? task with
      | some .admitted => s.answerWatch r.observer.id d key
      | _ => none
  | .streaming =>
    if h.stopped then go .stop
    else if !r.ingest.inbox.isEmpty then go .take
    else go .finish
  | .locating .. => go (.locate s.epoch)
  | .recording .. => go .record
  | .emitting .. => go .emit
  | .felled => go .drop
  | .finished _ => none

/-- Whether the wait of a task is over. -/
def isDue (s : Rehearsal P) (task : Task) : Bool :=
  match s.deadlines.get? task with
  | some t => t ≤ s.now
  | none => false

/-- Notes when a population gives up, once its offer has to wait. -/
def noteDeadline (s : Rehearsal P) (d : HubId) (key : Key) (handle : Handle) : Rehearsal P :=
  let task := Task.population d key handle
  match s.hubs[d]? with
  | some h =>
    match h.subscription? key handle with
    | some sub =>
      if sub.population.isWaiting then
        { s with deadlines := s.deadlines.put task (s.now + h.config.deliveryTimeout.timerMillis) }
      else { s with deadlines := s.deadlines.erase task }
    | none => s
  | none => s

/-- The next step of a population; none while it has to wait. -/
def movePopulation (s : Rehearsal P) (d : HubId) (key : Key) (handle : Handle) :
    Option (Rehearsal P) := do
  let task := Task.population d key handle
  let h ← s.hubs[d]?
  let r ← h.registration? key
  let sub ← r.audience.get? handle
  let go (move : Population.Move P) := s.act? d (.populate key handle move)
  match sub.population.stage with
  | .spawned checkpoint =>
    let s ← go .start
    if checkpoint.isSome || sub.closed then pure s else pure (s.ask r.observer.id .list task)
  | .listing =>
    if sub.closed then
      (s.cancelAsk r.observer.id .list task).act? d (.populate key handle .quit)
    else
      match s.turns.get? task with
      | some .admitted => s.answerList r.observer.id d key handle
      | _ => none
  | .seeking _ => go .seek
  | .reading .. => go .read
  | .between _ => go .next
  | .locating .. => go (.locate s.epoch)
  | .recording .. => go .record
  | .offering .. =>
    let s ← go .offer
    pure (s.noteDeadline d key handle)
  | .waiting .. =>
    let s' ←
      if !sub.accepts then go .giveUp
      else if sub.queue.waiter = .granted then go .fill
      else if s.isDue task then go .timeOut
      else none
    pure { s' with deadlines := s'.deadlines.erase task }
  | .finished _ => none

/-- Notes when a guard's shutdown runs out of grace, from the moment it waits. -/
def noteGrace (s : Rehearsal P) (number : Nat) (d : HubId) (call : CallId) : Rehearsal P :=
  let task := Task.guard number
  match s.hubs[d]? with
  | some h =>
    match h.calls.get? call, s.deadlines.get? task with
    | some (.awaiting ..), none =>
      { s with deadlines := s.deadlines.put task (s.now + h.config.grace.timerMillis) }
    | some (.awaiting ..), some _ => s
    | _, _ => { s with deadlines := s.deadlines.erase task }
  | none => s

/-- A guard with something changed. -/
def modifyWatchman (s : Rehearsal P) (number : Nat) (f : Watchman → Watchman) : Rehearsal P :=
  { s with watchmen := s.watchmen.modify number f }

/-- The next step of a guard; none while it has to wait. -/
def moveGuard (s : Rehearsal P) (number : Nat) : Option (Rehearsal P) := do
  let w ← s.watchmen[number]?
  match w.call with
  | none =>
    let h ← s.hubs[w.hub]?
    let s ← s.act? w.hub (.start .guard)
    pure (s.modifyWatchman number fun w => { w with call := some h.made })
  | some call =>
    let (s, facts) ←
      if s.isDue (.guard number) then s.act w.hub (.expire call allowance)
      else
        match s.act w.hub (.resume call) with
        | some step => some step
        | none => w.signal >>= fun name => s.act w.hub (.signal call name)
    let s := match replyIn facts with
      | some reply => s.modifyWatchman number fun w => { w with reply := some reply }
      | none => s
    pure (s.noteGrace number w.hub call)

/-- The next step of a task; none while it has to wait. -/
def move (s : Rehearsal P) : Task → Option (Rehearsal P)
  | .ingest d key => s.moveIngest d key
  | .population d key handle => s.movePopulation d key handle
  | .guard number => s.moveGuard number

/-- All tasks of a hub. -/
def tasksOf (d : HubId) (h : Hub P) : List Task :=
  h.registrations.rows.flatMap fun row =>
    .ingest d row.1 :: row.2.audience.rows.rows.map fun sub => .population d row.1 sub.1

/-- All tasks of all hubs, and the guards. -/
def tasks (s : Rehearsal P) : List Task :=
  (s.hubs.zipIdx.flatMap fun p => tasksOf p.2 p.1) ++
    (List.range s.watchmen.length).map .guard

end Rehearsal

end WatchHub
