import WatchHub.Event
import WatchHub.Tree.Scan

/-!
# Differences of scans

The events that lead from one scan to another, and what a consumer makes of them. New and changed
files come first and vanished ones after them, both in the order of their paths.
-/

namespace WatchHub

namespace Scan

/-- The event for a file that is there, if it is new or changed. -/
def newsOf (prev : Scan) (f : FileState) : Option (Event FileState) :=
  match prev.get? f.path with
  | none => some (.added f)
  | some old => if f.differs old then some (.modified f) else none

/-- The event for a file that was there, if it has vanished; it carries the last known state. -/
def lossOf (cur : Scan) (f : FileState) : Option (Event FileState) :=
  match cur.get? f.path with
  | none => some (.deleted f)
  | some _ => none

/-- The events that lead from one scan to another. -/
def diff (prev cur : Scan) : List (Event FileState) :=
  cur.files.filterMap prev.newsOf ++ prev.files.filterMap cur.lossOf

/-- What a consumer knows after an event. -/
def apply (s : Scan) (e : Event FileState) : Scan :=
  match e.kind, e.payload with
  | .added, some f | .modified, some f => s.insert f
  | .deleted, some f => s.erase f.path
  | _, _ => s

/-- What a consumer knows after events one after the other. -/
def applyAll (s : Scan) (events : List (Event FileState)) : Scan :=
  events.foldl apply s

end Scan

end WatchHub
