import WatchHub.Hub.Calls

/-!
# Steps of a hub

Everything that can happen to a hub in one uninterrupted step: a step of a call, of an ingest or of a
population, what consumers and observers do, and what the owner does to the logs directly. A run is
any sequence of such steps.
-/

namespace WatchHub

/-- One step of a hub. -/
inductive Action (P : Type) where
  | start (request : Request)
  | resume (call : CallId)
  /-- The grace of a shutdown ends, which can look at so many ingests in its last turn. -/
  | expire (call : CallId) (looks : Nat)
  | signal (call : CallId) (name : String)
  | ingest (key : Key) (move : Ingest.Move)
  | populate (key : Key) (handle : Handle) (move : Population.Move P)
  /-- The consumer asks for its next event. -/
  | receive (key : Key) (handle : Handle)
  /-- The consumer lets go of its queue. -/
  | hangUp (key : Key) (handle : Handle)
  /-- The observer sends an event on its stream. -/
  | send (key : Key) (event : Event P)
  /-- The observer ends its stream. -/
  | endStream (key : Key)
  /-- The owner begins to add an event to the log of a key, without fan-out: it looks for the log and
  opens it under the drawn epoch if there is none. -/
  | locate (key : Key) (epoch : UInt64) (event : Event P)
  /-- The owner adds the event at a place among those that it has begun to add. -/
  | record (place : Nat)
  /-- The owner clears the logs. -/
  | clear
deriving DecidableEq, Inhabited, Repr

namespace Hub

variable {P : Type}

/-- A step that changes one registration and perhaps the logs. -/
def within (h : Hub P) (key : Key) (f : Registration P → Option (Ingested P)) :
    Option (Outcome P) := do
  let r ← h.registration? key
  let out ← f r
  pure ({ h with log := out.log }.putRegistration key out.registration, out.facts)

/-- The consumer of a subscription asks for its next event. -/
def receive (h : Hub P) (key : Key) (handle : Handle) (r : Registration P) :
    Option (Ingested P) := do
  let s ← r.audience.get? handle
  let (receipt, s) := s.receive
  let facts := match receipt with
    | .event d => [Fact.received key handle d]
    | _ => []
  pure ⟨h.log, { r with audience := r.audience.put handle s }, facts⟩

/-- The consumer of a subscription lets go of its queue. -/
def hangUp (h : Hub P) (handle : Handle) (r : Registration P) : Option (Ingested P) := do
  let s ← r.audience.get? handle
  pure ⟨h.log, { r with audience := r.audience.put handle { s with queue := s.queue.hangUp } }, []⟩

/-- The owner looks for the log of a key, to which it adds an event. -/
def locate (h : Hub P) (key : Key) (epoch : UInt64) (event : Event P) : Outcome P :=
  let (id, log) := h.log.locate key epoch
  ({ h with log := log, appending := h.appending ++ [⟨key, id, event⟩] },
    Fact.ofLocate h.log key epoch)

/-- The owner adds an event to the log that was found for it. -/
def record (h : Hub P) (place : Nat) : Option (Outcome P) := do
  let a ← h.appending[place]?
  let (version, log) := h.log.record a.log a.event
  pure ({ h with log := log, appending := h.appending.eraseIdx place },
    [.logged a.key .owner a.log a.event version])

/-- One step, if it can be made, and what happened. -/
def step (h : Hub P) : Action P → Option (Outcome P)
  | .start request => some (h.start request)
  | .resume call => h.resume call
  | .expire call looks => h.expire call looks
  | .signal call name => h.signal call name
  | .ingest key move => h.within key fun r => r.step h.stopped h.log move
  | .populate key handle move => h.within key fun r => r.populate h.log handle move
  | .receive key handle => h.within key (h.receive key handle)
  | .hangUp key handle => h.within key (h.hangUp handle)
  | .send key event => h.within key fun r => some ⟨h.log, r.send event, []⟩
  | .endStream key => h.within key fun r => some ⟨h.log, r.endStream, []⟩
  | .locate key epoch event => some (h.locate key epoch event)
  | .record place => h.record place
  | .clear => some ({ h with log := h.log.clear }, [])

/-- A run: the steps one after the other, as far as they can be made, and all that happened. -/
def run (h : Hub P) : List (Action P) → Option (Outcome P)
  | [] => some (h, [])
  | action :: actions => do
    let (h, facts) ← h.step action
    let (h, more) ← h.run actions
    pure (h, facts ++ more)

end Hub

end WatchHub
