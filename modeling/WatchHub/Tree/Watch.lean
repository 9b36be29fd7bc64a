import WatchHub.Journal.Line
import WatchHub.Poll.Poller
import WatchHub.Tree.Diff

/-!
# Watching a tree

A tree observer after its set-up: it keeps its last successful scan, and each poll sends what has
changed since, or one error if the scan failed.
-/

namespace WatchHub

/-- A tree observer that polls; it keeps its last successful scan. -/
structure TreeWatch extends Poller Scan (Event FileState) where
  observer : TreeObserver

namespace TreeWatch

/-- An observer whose first scan succeeded. -/
def start (observer : TreeObserver) (first : Scan) : TreeWatch :=
  ⟨.start observer.poll first, observer⟩

/-- The line about the first scan in the journal. -/
def startLine (w : TreeWatch) : Line :=
  ⟨.debug, "initial scan done",
    [("root", w.observer.root), ("files", Numeral.decimal w.last.files.length)]⟩

/-- The reason in the error event of a failed scan. -/
def reasonOf (root : String) (failure : ObserverFailure) : String :=
  "failed to scan " ++ root ++ ": " ++ failure.message

/-- What a poll sends, and the last successful scan after it. -/
def news (root : String) (last : Scan) :
    Except ObserverFailure Scan → List (Event FileState) × Scan
  | .ok cur => (last.diff cur, cur)
  | .error failure => ([.error (reasonOf root failure)], last)

/-- The lines about a poll in the journal. -/
def pollLines (root : String) : Except ObserverFailure Scan → List Line
  | .ok _ => []
  | .error failure =>
    [⟨.warn, "rescan failed", [("root", root), ("error", failure.message)]⟩]

/-- One poll with the outcome of its scan; an observer that is blocked or has stopped does not poll. -/
def poll (w : TreeWatch) (outcome : Except ObserverFailure Scan) : TreeWatch × List Line :=
  match w.toPoller.step (news w.observer.root) (.poll outcome) with
  | some (p, _) => ({ w with toPoller := p.sendOn }, pollLines w.observer.root outcome)
  | none => (w, [])

end TreeWatch

end WatchHub
