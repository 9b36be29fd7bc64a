import WatchHub.Hub.Subscription
import WatchHub.Journal.Line

/-!
# Facts

What happens in a hub, one fact for each thing that happened. Some facts are lines of the journal;
the others are known only to who follows a run step by step.
-/

namespace WatchHub

/-- Who adds an event to a log. -/
inductive Writer where
  | ingest
  | population (handle : Handle)
  | owner
deriving DecidableEq, Inhabited, Repr

/-- The answer to a call of a hub. -/
inductive Reply where
  | registered
  | subscribed (handle : Handle)
  | unsubscribed
  | refused (failure : WatchFailure)
  | stopped
  | failed (failure : ShutdownFailure)
deriving DecidableEq, Inhabited, Repr

/-- The number of a call of a hub, in the order in which the calls were made. -/
abbrev CallId := Nat

/-- One thing that happened in a hub. -/
inductive Fact (P : Type) where
  | registered (key : Key) (observer : String)
  /-- The ingest asked the observer for its stream. -/
  | watched (key : Key)
  | running (key : Key) (observer : String)
  | setupFailed (key : Key) (observer : String) (failure : ObserverFailure)
  | cancelled (key : Key)
  | taken (key : Key) (event : Event P)
  | streamEnded (key : Key)
  /-- The key, which had no log, got a new one. -/
  | opened (key : Key) (epoch : UInt64)
  | logged (key : Key) (writer : Writer) (log : LogId) (event : Event P) (version : Version)
  /-- The ingest fanned a logged event out. -/
  | emitted (key : Key) (delivery : Delivery P)
  /-- What became of a live event at one member. -/
  | reached (key : Key) (handle : Handle) (delivery : Delivery P) (reception : Reception)
  | subscribed (key : Key) (handle : Handle) (checkpoint : Option Version)
  | unsubscribed (key : Key) (handle : Handle)
  | pruned (key : Key) (handle : Handle)
  | closed (key : Key) (handle : Handle)
  /-- The population asked the observer for its items. -/
  | listed (key : Key) (handle : Handle)
  | snapshotFailed (key : Key) (handle : Handle) (failure : ObserverFailure)
  | snapshotDelivered (key : Key) (handle : Handle) (total skipped : Nat)
  | historyRead (key : Key) (handle : Handle) (after : Version) (entries : List (Entry P))
  | replayRefused (key : Key) (handle : Handle) (failure : WatchFailure)
  | replayDelivered (key : Key) (handle : Handle) (after : Version) (total skipped : Nat)
  | offered (key : Key) (handle : Handle) (delivery : Delivery P) (offer : Offer)
  | received (key : Key) (handle : Handle) (delivery : Delivery P)
  | shutdownRequested
  | ingestCrashed (key : Key)
  | graceExceeded (grace : Duration) (stuck : List Key)
  | stopped (keys : Nat)
  | signalled (name : String)
  | returned (call : CallId) (reply : Reply)
deriving DecidableEq, Inhabited, Repr

namespace Fact

variable {P : Type}

/-- The fields that name a key. -/
def keyField (key : Key) : List (String × String) :=
  [("key", key.text)]

/-- The fields that name a subscription. -/
def subscriptionFields (key : Key) (handle : Handle) : List (String × String) :=
  [("key", key.text), ("subscription", handle.text)]

/-- The fields that count items. -/
def countFields (total skipped : Nat) : List (String × String) :=
  [("total", Numeral.decimal total), ("skipped", Numeral.decimal skipped)]

/-- What is told when the log of a key is looked for, to be opened if there is none. -/
def ofLocate (log : EventLog P) (key : Key) (epoch : UInt64) : List (Fact P) :=
  if (log.find? key).isSome then [] else [opened key epoch]

/-- The line that a fact leaves in the journal, if any. -/
def line? : Fact P → Option Line
  | registered key observer =>
    some ⟨.info, "observer registered", keyField key ++ [("observer", observer)]⟩
  | running key observer =>
    some ⟨.info, "ingest running", keyField key ++ [("observer", observer)]⟩
  | setupFailed key observer failure =>
    some ⟨.error, "observer setup failed; ingestion stopped",
      keyField key ++ [("observer", observer), ("error", failure.message)]⟩
  | cancelled key => some ⟨.debug, "ingest cancelled", keyField key⟩
  | taken key event =>
    if event.isError then
      some ⟨.warn, "observer reported an error",
        keyField key ++ [("reason", event.reason.getD "")]⟩
    else none
  | streamEnded key =>
    some ⟨.info, "observer stream closed; ingestion stopped", keyField key⟩
  | reached key handle _ (.overflowed dropped) =>
    some ⟨.debug, "queue full; event dropped for this subscriber",
      subscriptionFields key handle ++ [("dropped", Numeral.decimal dropped)]⟩
  | reached key handle _ .gone =>
    some ⟨.trace, "consumer gone; skipped", subscriptionFields key handle⟩
  | subscribed key handle _ => some ⟨.debug, "subscribed", subscriptionFields key handle⟩
  | unsubscribed key handle => some ⟨.debug, "unsubscribed", subscriptionFields key handle⟩
  | pruned key handle =>
    some ⟨.debug, "consumer gone; subscription pruned", subscriptionFields key handle⟩
  | snapshotFailed key handle failure =>
    some ⟨.warn, "snapshot failed",
      subscriptionFields key handle ++ [("error", failure.message)]⟩
  | snapshotDelivered key handle total skipped =>
    some ⟨.debug, "snapshot delivered",
      subscriptionFields key handle ++ countFields total skipped⟩
  | replayRefused key handle failure =>
    some ⟨.debug, "replay refused; consumer must resync",
      subscriptionFields key handle ++ [("error", failure.message)]⟩
  | replayDelivered key handle after total skipped =>
    some ⟨.debug, "replay delivered",
      subscriptionFields key handle ++ ("from", after.text) :: countFields total skipped⟩
  | shutdownRequested => some ⟨.info, "dispatcher shutdown requested", []⟩
  | ingestCrashed key => some ⟨.warn, "ingest task failed", keyField key⟩
  | graceExceeded grace stuck =>
    some ⟨.warn, "ingest tasks did not stop in time; aborted",
      [("grace", grace.text), ("stuck", Numeral.decimal stuck.length)]⟩
  | stopped keys => some ⟨.info, "dispatcher stopped", [("keys", Numeral.decimal keys)]⟩
  | signalled name => some ⟨.info, "termination signal received", [("signal", name)]⟩
  | watched _ | opened .. | logged .. | emitted .. | reached _ _ _ .accepted
  | closed .. | listed .. | historyRead .. | offered .. | received .. | returned .. => none

end Fact

end WatchHub
