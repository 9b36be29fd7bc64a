import WatchHub.Hub.Config
import WatchHub.Hub.Registration

/-!
# The hub

Everything a hub knows: its logs, whether it was stopped, one registration for each key that was
ever bound, and the calls in progress. A call waits at most for the places where it has to take
turns with the tasks of the hub and with other calls; between these places it runs without
interruption.
-/

namespace WatchHub

/-- What the owner of a hub may ask of it. -/
inductive Request where
  /-- Binds an observer to a key. -/
  | register (key : Key) (observer : ObserverRef)
  /-- Opens a subscription, to be populated from a snapshot or after a checkpoint. -/
  | subscribe (key : Key) (checkpoint : Option Version)
  | unsubscribe (key : Key) (handle : Handle)
  | shutdown
  /-- Shuts down at the first signal; ends also when someone else shuts down. -/
  | guard
deriving DecidableEq, Inhabited, Repr

/-- Where a call stands between two of its steps. -/
inductive Call where
  | registering (key : Key) (observer : ObserverRef)
  /-- About to look for the registration to subscribe to. -/
  | finding (key : Key) (checkpoint : Option Version)
  /-- Has drawn a handle and is about to join the audience. -/
  | joining (key : Key) (handle : Handle) (checkpoint : Option Version)
  /-- Has broken down and is never answered. -/
  | broken (message : String)
  /-- About to look for the registration to leave. -/
  | leaving (key : Key) (handle : Handle)
  /-- About to leave the audience. -/
  | removing (key : Key) (handle : Handle)
  /-- Has stopped the hub and is about to unbind its keys. -/
  | draining
  /-- Waits for the ingests one after the other. -/
  | awaiting (left drained : List Key)
  /-- Closes the audiences one after the other. -/
  | closing (left : List Key) (drained : Nat) (reply : Reply)
  | guarding
deriving DecidableEq, Inhabited, Repr

/-- An event that the owner adds to the log of a key, when the log was found and the event is not yet
in it. -/
structure Appending (P : Type) where
  key : Key
  log : LogId
  event : Event P
deriving DecidableEq, Repr

/-- The state of a hub. -/
structure Hub (P : Type) where
  config : HubConfig
  log : EventLog P
  stopped : Bool
  /-- Every registration ever made; a key is bound at most once in the life of a hub. -/
  registrations : Table Key (Registration P)
  /-- How many handles were drawn. A counter of 64 bits, taken as never exhausted. -/
  issued : Nat
  /-- What the owner is adding to the logs. -/
  appending : List (Appending P)
  calls : Table CallId Call
  /-- How many calls were made. -/
  made : Nat
deriving Repr

/-- Whether the ingest of a bound key still runs. -/
inductive IngestState where
  | running
  | stopped
deriving DecidableEq, Inhabited, Repr

namespace IngestState

/-- The name in descriptions. -/
def describe : IngestState → String
  | running => "Running"
  | stopped => "Stopped"

end IngestState

namespace Hub

variable {P : Type}

/-- A hub to which nothing has happened yet. -/
def new (config : HubConfig) : Hub P :=
  ⟨config, .new config.logRoom, false, .empty, 0, [], .empty, 0⟩

instance : Inhabited (Hub P) := ⟨new .standard⟩

/-- The registration of a key, also after the key was unbound. -/
def registration? (h : Hub P) (key : Key) : Option (Registration P) :=
  h.registrations.get? key

/-- The registration to which a key leads now. -/
def bound? (h : Hub P) (key : Key) : Option (Registration P) :=
  match h.registration? key with
  | some r => if r.bound then some r else none
  | none => none

/-- The bound keys in the order of their registration. -/
def boundKeys (h : Hub P) : List Key :=
  (h.registrations.rows.filter fun row => row.2.bound).map Prod.fst

/-- The bound keys in ascending order. -/
def keys (h : Hub P) : List Key :=
  Key.sort h.boundKeys

/-- The state of the ingest of a bound key. -/
def ingestState? (h : Hub P) (key : Key) : Option IngestState :=
  (h.bound? key).map fun r => if r.ingest.isFinished then .stopped else .running

/-- How many subscriptions a bound key fans out to. -/
def subscriberCount (h : Hub P) (key : Key) : Nat :=
  match h.bound? key with
  | some r => r.audience.size
  | none => 0

/-- How many live events a subscription has missed. -/
def dropped? (h : Hub P) (key : Key) (handle : Handle) : Option Nat :=
  h.bound? key >>= fun r => r.audience.dropped? handle

/-- The subscription behind a key and a handle. -/
def subscription? (h : Hub P) (key : Key) (handle : Handle) : Option (Subscription P) :=
  h.registration? key >>= fun r => r.audience.get? handle

/-- The hub with one registration replaced. -/
def putRegistration (h : Hub P) (key : Key) (r : Registration P) : Hub P :=
  { h with registrations := h.registrations.put key r }

end Hub

end WatchHub
