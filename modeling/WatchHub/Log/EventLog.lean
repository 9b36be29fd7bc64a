import WatchHub.Failure
import WatchHub.Log.KeyLog
import WatchHub.Table

/-!
# The event log

One log for each key, all with the same capacity. Logs are opened at the first event of their key
and live on for whoever found them before a clear, although no key leads to them any more; so every
log has a place of its own in the store, and each key has at most one current log.
-/

namespace WatchHub

/-- The place of a log among all logs that were ever opened. -/
abbrev LogId := Nat

/-- The logs of all keys. -/
structure EventLog (P : Type) where
  capacity : Nat
  /-- Every log ever opened, in the order of opening. -/
  store : List (KeyLog P)
  /-- The log that each key has now. -/
  current : Table Key LogId
deriving Inhabited, Repr

namespace EventLog

variable {P : Type}

/-- No logs, with room for at least one event in each. -/
def new (capacity : Nat) : EventLog P :=
  ⟨Nat.max capacity 1, [], .empty⟩

/-- The place of the log that a key has now. -/
def find? (l : EventLog P) (key : Key) : Option LogId :=
  l.current.get? key

/-- The log at a place; a place without a log reads as an empty one. -/
def logAt (l : EventLog P) (id : LogId) : KeyLog P :=
  l.store.getD id (.new 0)

/-- The log that a key has now. -/
def get? (l : EventLog P) (key : Key) : Option (KeyLog P) :=
  (l.find? key).map l.logAt

/-- Finds the log of a key, or opens one with the given epoch. -/
def locate (l : EventLog P) (key : Key) (epoch : UInt64) : LogId × EventLog P :=
  match l.find? key with
  | some id => (id, l)
  | none =>
    let id := l.store.length
    (id, { l with
      store := l.store ++ [KeyLog.new epoch]
      current := l.current.put key id })

/-- Adds an event to the log at a place and tells its version. -/
def record (l : EventLog P) (id : LogId) (event : Event P) : Version × EventLog P :=
  let log := l.logAt id
  (log.nextVersion, { l with store := l.store.set id (log.append l.capacity event) })

/-- Adds an event to the log of a key, which is opened with the given epoch if there is none. -/
def append (l : EventLog P) (key : Key) (epoch : UInt64) (event : Event P) :
    Version × EventLog P :=
  let (id, l) := l.locate key epoch
  l.record id event

/-- The entries of a given log of a key after a version. -/
def replayOf (key : Key) (log : KeyLog P) (v : Version) :
    Except WatchFailure (List (Entry P)) :=
  match log.after? v with
  | some entries => .ok entries
  | none => .error (.versionNotFound key v.text)

/-- The entries of a key after a version. -/
def replayAfter (l : EventLog P) (key : Key) (v : Version) :
    Except WatchFailure (List (Entry P)) :=
  match l.get? key with
  | some log => replayOf key log v
  | none => .error (.noSuchResource key)

/-- How many entries a key retains. -/
def length (l : EventLog P) (key : Key) : Nat :=
  match l.get? key with
  | some log => log.entries.length
  | none => 0

/-- The version of the newest entry of a key. -/
def latest? (l : EventLog P) (key : Key) : Option Version :=
  l.get? key >>= KeyLog.latest?

/-- The versions that a key retains, oldest first. -/
def versions (l : EventLog P) (key : Key) : List Version :=
  match l.get? key with
  | some log => log.entries.map Entry.version
  | none => []

/-- Leaves every key without a log. -/
def clear (l : EventLog P) : EventLog P :=
  { l with current := .empty }

end EventLog

end WatchHub
