import WatchHub.Key
import WatchHub.Duration
import WatchHub.Failure.System

/-!
# Failures

Why an observer, an operation of the hub or its shutdown failed. Each failure has a short stable
label, a message, a longer detail for consumers, and perhaps the system fault behind it.
-/

namespace WatchHub

/-- Why an observer failed. -/
inductive ObserverFailure where
  | setup (observer error : String)
  | list (observer error : String)
  | io (path : String) (fault : SystemFault)
  | git (error : String)
deriving DecidableEq, Inhabited, Repr

namespace ObserverFailure

/-- The short stable name of the failure. -/
def label : ObserverFailure → String
  | setup .. => "observer_setup"
  | list .. => "observer_list"
  | io .. => "observer_io"
  | git .. => "observer_git"

/-- What happened. -/
def message : ObserverFailure → String
  | setup observer error => "observer '" ++ observer ++ "' failed to start: " ++ error
  | list observer error => "observer '" ++ observer ++ "' failed to list: " ++ error
  | io path fault => "io error at " ++ path ++ ": " ++ fault.text
  | git error => "git error: " ++ error

/-- Whether an observer may try the failed operation again by itself. -/
def isRetryable : ObserverFailure → Bool
  | io .. | git .. => true
  | setup .. | list .. => false

/-- The system fault behind the failure. -/
def cause? : ObserverFailure → Option SystemFault
  | io _ fault => some fault
  | _ => none

end ObserverFailure

/-- Why an operation of the hub or of its log failed. -/
inductive WatchFailure where
  | alreadyRegistered (key : Key)
  | noSuchResource (key : Key)
  | versionNotFound (key : Key) (version : String)
  | observer (failure : ObserverFailure)
  | stopped
deriving DecidableEq, Inhabited, Repr

namespace WatchFailure

/-- The short stable name of the failure. -/
def label : WatchFailure → String
  | alreadyRegistered _ => "watch_already_registered"
  | noSuchResource _ => "watch_no_such_resource"
  | versionNotFound .. => "watch_version_not_found"
  | observer failure => failure.label
  | stopped => "watch_stopped"

/-- What happened. -/
def message : WatchFailure → String
  | alreadyRegistered key => "observer already registered for " ++ key.text
  | noSuchResource key => "no such resource " ++ key.text
  | versionNotFound key version => "resource version " ++ version ++ " not found for " ++ key.text
  | observer failure => failure.message
  | stopped => "dispatcher is stopped"

/-- What a consumer reads in an error event. -/
def detail : WatchFailure → String
  | alreadyRegistered key => "already registered: " ++ key.text
  | noSuchResource key => "no such resource: " ++ key.text
  | versionNotFound key version =>
    "history lost for " ++ key.text ++ " after version " ++ version ++ "; re-sync from snapshot"
  | observer failure => failure.message
  | stopped => "dispatcher stopped"

/-- Whether a consumer has to drop its checkpoint and start again from a snapshot. -/
def requiresResync : WatchFailure → Bool
  | versionNotFound .. | noSuchResource _ => true
  | _ => false

/-- The system fault behind the failure. -/
def cause? : WatchFailure → Option SystemFault
  | observer failure => failure.cause?
  | _ => none

end WatchFailure

/-- Why a hub did not shut down in order. -/
inductive ShutdownFailure where
  | graceExceeded (grace : Duration) (stuck : List Key)
  | signal (fault : SystemFault)
deriving DecidableEq, Inhabited, Repr

namespace ShutdownFailure

/-- The short stable name of the failure. -/
def label : ShutdownFailure → String
  | graceExceeded .. => "runtime_grace_exceeded"
  | signal _ => "runtime_signal"

/-- What happened. -/
def message : ShutdownFailure → String
  | graceExceeded grace stuck =>
    "shutdown timeout " ++ grace.text ++ " exceeded; stuck: "
      ++ Quoted.list (stuck.map Key.describe) ++ "; forcing termination"
  | signal fault => "failed to install signal handlers: " ++ fault.text

/-- The message for a journal. -/
def detail : ShutdownFailure → String
  | graceExceeded grace stuck =>
    "grace exceeded after " ++ grace.text ++ "; stuck ingest="
      ++ Quoted.list (stuck.map fun k => Quoted.quote k.text)
  | signal fault => "signal setup: " ++ fault.text

/-- The system fault behind the failure. -/
def cause? : ShutdownFailure → Option SystemFault
  | signal fault => some fault
  | _ => none

end ShutdownFailure

end WatchHub
