import WatchHub.Hub.Fact

/-!
# Populating a subscription

The steps of a population, each of them without interruption. A snapshot adds every item to the log
before it offers it; a replay offers what the log retains after the checkpoint; either may have to
offer an error without a version instead. The subscription may be closed between any two steps.
-/

namespace WatchHub

/-- What an observer answers; an observer may also break down and answer nothing any more. -/
inductive Answer (α : Type) where
  | ok (value : α)
  | failed (failure : ObserverFailure)
  | crashed
deriving DecidableEq, Inhabited, Repr

namespace Population

/-- The steps of a population. -/
inductive Move (P : Type) where
  /-- Runs for the first time. -/
  | start
  /-- The observer answers with its items. -/
  | answer (items : Answer (List P))
  /-- Stops waiting for the observer, as the subscription is closed. -/
  | quit
  /-- Looks for the log of the key. -/
  | seek
  /-- Reads the log after the checkpoint. -/
  | read
  /-- Turns to the next item, or ends. -/
  | next
  /-- Looks for the log of the key and opens it under the drawn epoch if there is none. -/
  | locate (epoch : UInt64)
  /-- Adds the item to the log that was found. -/
  | record
  /-- Offers the item to the queue. -/
  | offer
  /-- Uses the slot that was granted. -/
  | fill
  /-- Has waited for the whole time. -/
  | timeOut
  /-- Stops waiting for a slot, as the subscription is closed or its consumer gone. -/
  | giveUp
deriving DecidableEq, Inhabited, Repr

end Population

/-- The logs and a subscription after a step, and what happened. -/
structure Populated (P : Type) where
  log : EventLog P
  subscription : Subscription P
  facts : List (Fact P)
deriving Repr

namespace Subscription

variable {P : Type}

/-- The subscription with its population at another stage. -/
def moveTo (s : Subscription P) (stage : Population.Stage P) : Subscription P :=
  { s with population := { s.population with stage := stage } }

/-- The subscription with a number of items to offer. -/
def promise (s : Subscription P) (total : Nat) (rest : Population.Rest P) : Subscription P :=
  { s with population := { s.population with stage := .between rest, total := total } }

/-- The subscription with its only offer an error that is in no log. -/
def complain (s : Subscription P) (reason : String) : Subscription P :=
  s.moveTo (.offering (.unversioned reason) .nothing)

/-- Where the population goes once an offer has come to its end. -/
def settle (s : Subscription P) (offer : Offer) (rest : Population.Rest P) : Subscription P :=
  match rest, offer with
  | .nothing, _ => s.moveTo (.finished .failed)
  | _, .closed => s.moveTo (.finished .closed)
  | _, .delivered => s.moveTo (.between rest)
  | _, .timedOut =>
    { s with population :=
      { s.population with stage := .between rest, skipped := s.population.skipped + 1 } }

/-- The subscription when its observer has answered. -/
def listed (key : Key) (handle : Handle) (s : Subscription P) :
    Answer (List P) → Subscription P × List (Fact P)
  | .ok items => (s.promise items.length (.items items), [])
  | .failed failure => (s.complain failure.message, [.snapshotFailed key handle failure])
  | .crashed => (s.moveTo (.finished .crashed), [])

/-- The subscription when the log has been read, or there was none. -/
def readBack (key : Key) (handle : Handle) (s : Subscription P) (after : Version) :
    Except WatchFailure (List (Entry P)) → Subscription P × List (Fact P)
  | .ok entries =>
    (s.promise entries.length (.history after (entries.map Entry.delivery)),
      [.historyRead key handle after entries])
  | .error failure => (s.complain failure.detail, [.replayRefused key handle failure])

/-- The subscription when the population turns to its next item. -/
def advance (key : Key) (handle : Handle) (s : Subscription P) :
    Population.Rest P → Subscription P × List (Fact P)
  | .items [] =>
    (s.moveTo (.finished .complete),
      [.snapshotDelivered key handle s.population.total s.population.skipped])
  | .items (item :: rest) =>
    if s.closed then (s.moveTo (.finished .closed), [])
    else (s.moveTo (.locating (.added item) rest), [])
  | .history after [] =>
    (s.moveTo (.finished .complete),
      [.replayDelivered key handle after s.population.total s.population.skipped])
  | .history after (d :: rest) => (s.moveTo (.offering d (.history after rest)), [])
  | .nothing => (s.moveTo (.finished .failed), [])

/-- The subscription when an offer came to its end, and what became of the offer. -/
def conclude (key : Key) (handle : Handle) (s : Subscription P) (d : Delivery P) (offer : Offer)
    (rest : Population.Rest P) : Subscription P × List (Fact P) :=
  (s.settle offer rest, [.offered key handle d offer])

/-- The subscription when an item is offered: whether it is closed is looked at first. -/
def offer (key : Key) (handle : Handle) (s : Subscription P) (d : Delivery P)
    (rest : Population.Rest P) : Subscription P × List (Fact P) :=
  if s.closed || !s.member then s.conclude key handle d .closed rest
  else
    match s.queue.push d with
    | (.accepted, queue) => { s with queue := queue }.conclude key handle d .delivered rest
    | (.gone, _) => s.conclude key handle d .closed rest
    | (.full, _) => ({ s with queue := s.queue.lineUp }.moveTo (.waiting d rest), [])

/-- Whether a waiting offer can still succeed. -/
def accepts (s : Subscription P) : Bool :=
  !s.closed && s.queue.receiving

/-- One step of the population, if it can be made. -/
def populate (key : Key) (handle : Handle) (log : EventLog P) (s : Subscription P)
    (move : Population.Move P) : Option (Populated P) :=
  let keep (r : Subscription P × List (Fact P)) : Option (Populated P) := some ⟨log, r.1, r.2⟩
  match s.population.stage, move with
  | .spawned none, .start =>
    if s.closed then keep (s.moveTo (.finished .closed), [])
    else keep (s.moveTo .listing, [.listed key handle])
  | .spawned (some after), .start => keep (s.moveTo (.seeking after), [])
  | .listing, .answer items => keep (s.listed key handle items)
  | .listing, .quit => if s.closed then keep (s.moveTo (.finished .closed), []) else none
  | .seeking after, .seek =>
    match log.find? key with
    | some id => keep (s.moveTo (.reading after id), [])
    | none => keep (s.readBack key handle after (.error (.noSuchResource key)))
  | .reading after id, .read =>
    keep (s.readBack key handle after (EventLog.replayOf key (log.logAt id) after))
  | .between rest, .next => keep (s.advance key handle rest)
  | .locating event rest, .locate epoch =>
    let facts := Fact.ofLocate log key epoch
    let (id, log) := log.locate key epoch
    some ⟨log, s.moveTo (.recording id event rest), facts⟩
  | .recording id event rest, .record =>
    let (version, log) := log.record id event
    some ⟨log, s.moveTo (.offering (.versioned event version) (.items rest)),
      [.logged key (.population handle) id event version]⟩
  | .offering d rest, .offer => keep (s.offer key handle d rest)
  | .waiting d rest, .fill =>
    if s.accepts && s.queue.waiter = .granted then
      keep ({ s with queue := s.queue.fill d }.conclude key handle d .delivered rest)
    else none
  | .waiting d rest, .timeOut =>
    if s.accepts && s.queue.waiter = .queued then
      keep ({ s with queue := s.queue.withdraw }.conclude key handle d .timedOut rest)
    else none
  | .waiting d rest, .giveUp =>
    if s.accepts then none
    else keep ({ s with queue := s.queue.withdraw }.conclude key handle d .closed rest)
  | _, _ => none

end Subscription

end WatchHub
