import WatchHub.Rehearsal.Tasks

/-!
# Turns

Running the tasks, one at a time and in the order in which they became ready, until none can go on.
A task that has its turn goes on until it has to wait, or until it has used up its allowance of
counted steps; then it is put off until nobody else is ready. A log is used by one task at a time,
first come first served. A task comes to a log also when its allowance is used up, and then keeps
the others from it until its next turn.
-/

namespace WatchHub

namespace Rehearsal

variable {P : Type}

/-! ## What a step takes -/

/-- The stage of an ingest. -/
def ingestStage? (s : Rehearsal P) (d : HubId) (key : Key) : Option (Ingest.Stage P) := do
  let h ← s.hubs[d]?
  let r ← h.registration? key
  pure r.ingest.stage

/-- The log that the next step of a task uses, which no other task may use meanwhile. -/
def needs? (s : Rehearsal P) : Task → Option (HubId × LogId)
  | .ingest d key =>
    match s.ingestStage? d key with
    | some (.recording id _ _) => some (d, id)
    | _ => none
  | .population d key handle =>
    match s.hubs[d]? >>= fun h => h.subscription? key handle with
    | some sub =>
      match sub.population.stage with
      | .recording id _ _ | .reading _ id => some (d, id)
      | _ => none
    | none => none
  | .guard _ => none

/-- How many counted steps it takes to look for the log of a key, and to open one if there is none. -/
def searchPrice (s : Rehearsal P) (d : HubId) (key : Key) : Nat :=
  match s.hubs[d]? >>= fun h => h.log.find? key with
  | some _ => 1
  | none => 2

/-- How many counted steps the next step of an ingest takes. -/
def ingestPrice (s : Rehearsal P) (d : HubId) (key : Key) : Nat :=
  match s.ingestStage? d key with
  | some (.locating ..) => s.searchPrice d key
  | some .streaming | some (.recording ..) | some (.emitting ..) => 1
  | _ => 0

/-- How many counted steps the next step of a population takes. An offer to a subscription that has
been left is not made at all. -/
def populationPrice (s : Rehearsal P) (d : HubId) (key : Key) (handle : Handle) : Nat :=
  match s.hubs[d]? >>= fun h => h.subscription? key handle with
  | some sub =>
    match sub.population.stage with
    | .locating .. => s.searchPrice d key
    | .seeking _ | .reading .. | .recording .. | .waiting .. => 1
    | .offering .. => if sub.closed || !sub.member then 0 else 1
    | _ => 0
  | none => 0

/-- How many counted steps the next step of a task takes. -/
def price (s : Rehearsal P) : Task → Nat
  | .ingest d key => s.ingestPrice d key
  | .population d key handle => s.populationPrice d key handle
  | .guard _ => 0

/-- Whether a task waits for room in its queue. An offer that has to wait was not counted. -/
def waitsForRoom (s : Rehearsal P) : Task → Bool
  | .population d key handle =>
    match s.hubs[d]? >>= fun h => h.subscription? key handle with
    | some sub => sub.population.isWaiting
    | none => false
  | _ => false

/-! ## Logs in use -/

/-- The tasks that have come to a log and not used it yet, the one whose turn it is in front. -/
def line (s : Rehearsal P) (log : HubId × LogId) : List Task :=
  ((s.lines.get? log).getD []).filter fun task => s.needs? task = some log

/-- A task comes to the log that it needs, if it needs one. -/
def comeToLog (s : Rehearsal P) (task : Task) : Rehearsal P :=
  match s.needs? task with
  | some log =>
    if (s.line log).contains task then s
    else { s with lines := s.lines.put log (s.line log ++ [task]) }
  | none => s

/-- Whether the log that a task needs, if it needs one, is not kept by another. -/
def mayUseLog (s : Rehearsal P) (task : Task) : Bool :=
  match s.needs? task with
  | some log => (s.line log).head?.all (· = task)
  | none => true

/-- A task becomes ready. -/
def wake (s : Rehearsal P) (task : Task) : Rehearsal P :=
  if s.ready.contains task then s else { s with ready := s.ready ++ [task] }

/-- A log has been used, and the next in its line becomes ready. -/
def passLog (s : Rehearsal P) (log : HubId × LogId) : Rehearsal P :=
  match s.line log with
  | [] => { s with lines := s.lines.erase log }
  | task :: rest => { s with lines := s.lines.put log (task :: rest) }.wake task

/-! ## Turns -/

/-- Queues the tasks that have become ready. -/
def refresh (s : Rehearsal P) : Rehearsal P :=
  { s with ready :=
    s.ready ++ s.tasks.filter fun task =>
      !s.ready.contains task && !s.deferred.contains task && s.mayUseLog task
        && (s.move task).isSome }

/-- Whether every guard of a hub has ended. -/
def isUnguarded (s : Rehearsal P) (d : HubId) : Bool :=
  s.watchmen.all fun w => w.hub ≠ d || w.reply.isSome

/-- A hub that nobody holds any more: its ingests stop, and with each of them its audience goes. -/
def dissolve (h : Hub P) : Hub P :=
  { h with
    stopped := true
    registrations := h.registrations.mapValues fun _ r =>
      if r.ingest.isFinished then
        { r with audience := { r.audience with
          rows := r.audience.rows.mapValues fun _ sub => { sub with member := false } } }
      else r }

/-- Dissolves the hubs that nobody holds any more. -/
def sweep (s : Rehearsal P) : Rehearsal P :=
  s.gone.foldl
    (fun s d => if s.isUnguarded d then { s with hubs := s.hubs.modify d dissolve } else s) s

/-- The streams of ingests that have come to their end are given up, also of those that were aborted
and are yet to be dropped. -/
def reap (s : Rehearsal P) : Rehearsal P :=
  { s with sources := s.sources.map fun source =>
    match source.feed with
    | .taken d key =>
      if (s.hubs[d]? >>= fun h => h.registration? key).any fun r => r.ingest.isOver then
        { source with feed := .dropped }
      else source
    | _ => source }

/-- The sum of a size over a list. -/
def total {α : Type} (size : α → Nat) (xs : List α) : Nat :=
  xs.foldl (fun n x => n + size x) 0

/-- A bound for the number of steps that the tasks can make before all are idle. -/
def work (s : Rehearsal P) : Nat :=
  let registrations := s.hubs.flatMap fun h => h.registrations.rows.map Prod.snd
  let subscriptions := registrations.flatMap fun r => r.audience.rows.rows.map Prod.snd
  let events := total (fun r => r.ingest.inbox.length + 1) registrations
    + total (fun source => source.feed.backlog.length) s.sources
  let populations := subscriptions.length
  let items := total (fun source => source.list.size) s.sources
    + total (fun sub => sub.population.total) subscriptions
  let entries := total (fun log => log.entries.length) (s.hubs.flatMap fun h => h.log.store)
  let calls := total callSteps s.hubs * (s.watchmen.length + 1)
  8 * (events + 1) + 8 * (populations + 1) * (items * (populations + 1) + entries + events + 2)
    + calls

/-- Puts a task off until nobody else is ready. -/
def defer (s : Rehearsal P) (task : Task) : Rehearsal P :=
  { s with deferred := task :: s.deferred.filter (· ≠ task) }

/-- Those that were put off become ready, the last of them first. -/
def wakeDeferred (s : Rehearsal P) : Rehearsal P :=
  s.deferred.foldl wake { s with deferred := [] }

/-- Gives a task its turn, with so many counted steps left; the fuel bounds the number of its steps. -/
def runTask (s : Rehearsal P) (task : Task) : (fuel left : Nat) → Rehearsal P
  | 0, _ => s
  | fuel + 1, left =>
    let s := s.comeToLog task
    let price := s.price task
    if left = 0 && 0 < price then s.defer task
    else if !s.mayUseLog task then s
    else
      match s.move task with
      | none => s
      | some after =>
        let after := match s.needs? task with
          | some log => after.passLog log
          | none => after
        after.runTask task fuel (if after.waitsForRoom task then left else left - price)

/-- The turn of a task ends. -/
def endTurn (s : Rehearsal P) : Task → Rehearsal P
  | .ingest d key => s.actD d (.ingest key .rest)
  | _ => s

/-- After how many turns those that were put off become ready, whoever else is ready. -/
def round : Nat := 61

/-- Runs the tasks until all are idle, with so many turns left in the round; the fuel bounds how many
turns they take. -/
def runReady (s : Rehearsal P) : (fuel left : Nat) → Rehearsal P
  | 0, _ => s
  | fuel + 1, left =>
    match left, s.ready with
    | 0, _ => s.wakeDeferred.runReady fuel round
    | _, [] => if s.deferred.isEmpty then s else s.wakeDeferred.runReady fuel round
    | left + 1, task :: ready =>
      let s := ({ s with ready := ready }.runTask task s.work allowance).endTurn task
      s.sweep.refresh.runReady fuel left

/-- Runs the tasks until all are idle. Every turn that is put off has made a step, and so has every
turn after it. -/
def runIdle (s : Rehearsal P) : Rehearsal P :=
  let s := s.reap.sweep.refresh
  s.runReady (4 * s.work) round

end Rehearsal

end WatchHub
