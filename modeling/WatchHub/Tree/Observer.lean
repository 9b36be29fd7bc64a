import WatchHub.Poll.Config

/-!
# The tree observer

Watches every file below a root by polling.
-/

namespace WatchHub

/-- An observer of all files below a root. -/
structure TreeObserver where
  root : String
  poll : PollConfig
deriving DecidableEq, Inhabited, Repr

namespace TreeObserver

/-- The name in failures and in the journal. -/
def name : String := "file"

/-- The observer field by field. -/
def describe (o : TreeObserver) : String :=
  Quoted.record "FileObserver" [("root", Quoted.quote o.root), ("poll", o.poll.describe)]

end TreeObserver

end WatchHub
