import WatchHub.Version

/-!
# Events

What an observer reports: one change of one item, or an error. The payload is opaque to the hub. A
delivery is an event together with its version; only errors made while a subscription is populated
have none.
-/

namespace WatchHub

/-- The kinds of change. -/
inductive EventKind where
  | added
  | modified
  | deleted
  | error
deriving DecidableEq, Inhabited, Repr

namespace EventKind

/-- The name that consumers see. -/
def wireName : EventKind → String
  | added => "ADDED"
  | modified => "MODIFIED"
  | deleted => "DELETED"
  | error => "ERROR"

/-- The name in descriptions. -/
def describe : EventKind → String
  | added => "Added"
  | modified => "Modified"
  | deleted => "Deleted"
  | error => "Error"

end EventKind

/-- When an event was observed: by the clock, or at a given number of milliseconds. -/
inductive Stamp where
  | clock
  | millis (ms : Int)
deriving DecidableEq, Inhabited, Repr

/-- One change of one item; an error has a reason and mostly no payload. -/
structure Event (P : Type) where
  kind : EventKind
  payload : Option P
  reason : Option String
  stamp : Stamp
deriving DecidableEq, Inhabited, Repr

namespace Event

variable {P : Type}

/-- An event with a payload, stamped by the clock. -/
def of (kind : EventKind) (payload : P) : Event P :=
  ⟨kind, some payload, none, .clock⟩

/-- An item appeared, or is part of a snapshot. -/
def added (payload : P) : Event P := of .added payload

/-- An item changed. -/
def modified (payload : P) : Event P := of .modified payload

/-- An item disappeared. -/
def deleted (payload : P) : Event P := of .deleted payload

/-- An error without a payload. -/
def error (reason : String) : Event P :=
  ⟨.error, none, some reason, .clock⟩

/-- The event with a reason attached. -/
def withReason (e : Event P) (reason : String) : Event P :=
  { e with reason := some reason }

/-- The event with its time given. -/
def withStamp (e : Event P) (ms : Int) : Event P :=
  { e with stamp := .millis ms }

/-- Whether the event reports an error. -/
def isError (e : Event P) : Bool :=
  e.kind = .error

end Event

/-- An event on its way to a consumer, with its version if it is logged. -/
structure Delivery (P : Type) where
  event : Event P
  version : Option Version
deriving DecidableEq, Inhabited, Repr

namespace Delivery

variable {P : Type}

/-- A logged event. -/
def versioned (event : Event P) (version : Version) : Delivery P :=
  ⟨event, some version⟩

/-- An error that is in no log. -/
def unversioned (reason : String) : Delivery P :=
  ⟨Event.error reason, none⟩

/-- The delivery field by field, with the payload's own text. -/
def describe (payloadText : P → String) (d : Delivery P) : String :=
  Quoted.record "WatchEvent"
    [("kind", d.event.kind.describe),
      ("payload", Quoted.optional (d.event.payload.map payloadText)),
      ("reason", Quoted.optional (d.event.reason.map Quoted.quote)),
      ("resource_version", Quoted.optional (d.version.map Version.describe))]

end Delivery

end WatchHub
