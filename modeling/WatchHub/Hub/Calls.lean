import WatchHub.Hub.State

/-!
# Calls

How the calls of a hub run. `start` is the part before a call first has to wait, `resume` one part
after that, `expire` the end of a shutdown's grace and `signal` the arrival of a signal at a guard.
The stop mark is set before any key is unbound, and a subscriber looks at it once more when it joins
its audience; so whoever joins is closed by the shutdown.
-/

namespace WatchHub

namespace Hub

variable {P : Type}

/-- A hub after a step, and what happened. -/
abbrev Outcome (P : Type) := Hub P × List (Fact P)

/-- Reads a checkpoint: an empty text is none, and a text that is no version is lost history. -/
def readCheckpoint (key : Key) (text : String) : Except WatchFailure (Option Version) :=
  if text = "" then .ok none
  else
    match Version.parse? text with
    | some v => .ok (some v)
    | none => .error (.versionNotFound key text)

/-- The hub with a call at another place. -/
def putCall (h : Hub P) (id : CallId) (call : Call) : Hub P :=
  { h with calls := h.calls.put id call }

/-- Ends a call with its reply. -/
def reply (h : Hub P) (id : CallId) (reply : Reply) (facts : List (Fact P)) : Outcome P :=
  ({ h with calls := h.calls.erase id }, facts ++ [.returned id reply])

/-- Sets the stop mark. -/
def requestShutdown (h : Hub P) (id : CallId) : Outcome P :=
  ({ h with stopped := true }.putCall id .draining, [.shutdownRequested])

/-- Runs a call to the first place where it has to wait. -/
def start (h : Hub P) (request : Request) : Outcome P :=
  let id := h.made
  let h := { h with made := h.made + 1 }
  match request with
  | .register key observer => (h.putCall id (.registering key observer), [])
  | .subscribe key checkpoint =>
    if h.stopped then h.reply id (.refused .stopped) []
    else (h.putCall id (.finding key checkpoint), [])
  | .unsubscribe key handle => (h.putCall id (.leaving key handle), [])
  | .shutdown => h.requestShutdown id
  | .guard => (h.putCall id .guarding, [])

/-- Binds an observer to a key, unless the hub is stopped or the key is taken. -/
def register (h : Hub P) (id : CallId) (key : Key) (observer : ObserverRef) : Outcome P :=
  if h.stopped then h.reply id (.refused .stopped) []
  else if (h.bound? key).isSome then h.reply id (.refused (.alreadyRegistered key)) []
  else
    (h.putRegistration key (.new key observer)).reply id .registered
      [.registered key observer.name]

/-- Finds the registration of a key, draws the next handle and makes the queue. A call that asks for
more room than a queue can have breaks down, and its handle is drawn all the same. -/
def find (h : Hub P) (id : CallId) (key : Key) (checkpoint : Option Version) : Outcome P :=
  match h.bound? key with
  | some _ =>
    let handle := ⟨h.issued + 1⟩
    let h := { h with issued := h.issued + 1 }
    match Room.breakdown? h.config.queueRoom with
    | some message => (h.putCall id (.broken message), [])
    | none => (h.putCall id (.joining key handle checkpoint), [])
  | none => h.reply id (.refused (.noSuchResource key)) []

/-- Joins the audience of a key under a fresh handle, unless the hub is stopped. -/
def join (h : Hub P) (id : CallId) (key : Key) (handle : Handle) (checkpoint : Option Version) :
    Outcome P :=
  if h.stopped then h.reply id (.refused .stopped) []
  else
    match h.registration? key with
    | some r =>
      let (audience, facts) :=
        r.audience.insert handle (.new h.config.queueRoom checkpoint)
      (h.putRegistration key { r with audience := audience }).reply id (.subscribed handle)
        (facts ++ [.subscribed key handle checkpoint])
    | none => h.reply id (.refused (.noSuchResource key)) []

/-- Finds the registration that a subscription is to leave. -/
def leave (h : Hub P) (id : CallId) (key : Key) (handle : Handle) : Outcome P :=
  match h.bound? key with
  | some _ => (h.putCall id (.removing key handle), [])
  | none => h.reply id .unsubscribed []

/-- Removes a subscription from the audience of a key. -/
def remove (h : Hub P) (id : CallId) (key : Key) (handle : Handle) : Outcome P :=
  match h.registration? key with
  | some r =>
    let (_, audience, facts) := r.audience.remove handle
    (h.putRegistration key { r with audience := audience }).reply id .unsubscribed facts
  | none => h.reply id .unsubscribed []

/-- Unbinds every key. -/
def drain (h : Hub P) (id : CallId) : Outcome P :=
  let keys := h.boundKeys
  ({ h with registrations := h.registrations.mapValues fun _ r => { r with bound := false } }.putCall
    id (.awaiting keys keys), [])

/-- Whether the ingest of a key has come to its end. -/
def hasFinished (h : Hub P) (key : Key) : Bool :=
  match h.registration? key with
  | some r => r.ingest.isFinished
  | none => true

/-- What a shutdown notes about an ingest that has come to its end. -/
def obituary (h : Hub P) (key : Key) : List (Fact P) :=
  match h.registration? key with
  | some r => if r.ingest.isCrashed then [.ingestCrashed key] else []
  | none => []

/-- Waits for the next ingest; none if it still runs. -/
def await (h : Hub P) (id : CallId) (left drained : List Key) : Option (Outcome P) :=
  match left with
  | [] => some (h.putCall id (.closing drained drained.length .stopped), [])
  | key :: left =>
    if h.hasFinished key then some (h.putCall id (.awaiting left drained), h.obituary key)
    else none

/-- Ends the wait for the ingests. The call looks at the next ones before it looks at the clock, at so
many at most as it may in one turn; if that does not bring it through, those that still run are
aborted. How many it may look at is up to the runtime and free here: the runtime counts such steps and
allows 128 in a turn, less those that the turn has made already, and a call may be exempt. -/
def endGrace (h : Hub P) (id : CallId) (looks : Nat) (left drained : List Key) : Outcome P :=
  let finished := (left.take looks).takeWhile h.hasFinished
  let facts := finished.flatMap h.obituary
  match left.drop finished.length with
  | [] => (h.putCall id (.closing drained drained.length .stopped), facts)
  | late =>
    let stuck := Key.sort (late.filter fun key => !h.hasFinished key)
    let h := { h with registrations := h.registrations.mapValues fun key r =>
      if stuck.contains key then r.abort else r }
    (h.putCall id (.closing drained drained.length (.failed (.graceExceeded h.config.grace stuck))),
      facts ++ [.graceExceeded h.config.grace stuck])

/-- Closes the next audience, or clears the logs and returns. -/
def close (h : Hub P) (id : CallId) (left : List Key) (drained : Nat) (reply : Reply) :
    Outcome P :=
  match left with
  | key :: left =>
    match h.registration? key with
    | some r =>
      let (audience, facts) := r.audience.closeAll
      ((h.putRegistration key { r with audience := audience }).putCall id
        (.closing left drained reply), facts)
    | none => (h.putCall id (.closing left drained reply), [])
  | [] => { h with log := h.log.clear }.reply id reply [.stopped drained]

/-- Runs a call to the next place where it has to wait; none if it cannot go on. -/
def resume (h : Hub P) (id : CallId) : Option (Outcome P) :=
  match h.calls.get? id with
  | some (.registering key observer) => some (h.register id key observer)
  | some (.finding key checkpoint) => some (h.find id key checkpoint)
  | some (.joining key handle checkpoint) => some (h.join id key handle checkpoint)
  | some (.leaving key handle) => some (h.leave id key handle)
  | some (.removing key handle) => some (h.remove id key handle)
  | some .draining => some (h.drain id)
  | some (.awaiting left drained) => h.await id left drained
  | some (.closing left drained reply) => some (h.close id left drained reply)
  | some .guarding => if h.stopped then some (h.reply id .stopped []) else none
  | some (.broken _) | none => none

/-- Ends the grace of a shutdown that waits for ingests, and looks at so many of them in its last
turn. -/
def expire (h : Hub P) (id : CallId) (looks : Nat) : Option (Outcome P) :=
  match h.calls.get? id with
  | some (.awaiting left drained) => some (h.endGrace id looks left drained)
  | _ => none

/-- Hands a signal to a guard. -/
def signal (h : Hub P) (id : CallId) (name : String) : Option (Outcome P) :=
  match h.calls.get? id with
  | some .guarding =>
    let (h, facts) := h.requestShutdown id
    some (h, .signalled name :: facts)
  | _ => none

end Hub

end WatchHub
