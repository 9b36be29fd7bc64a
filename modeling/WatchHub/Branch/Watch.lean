import WatchHub.Branch.Commands
import WatchHub.Event
import WatchHub.Journal.Line
import WatchHub.Poll.Poller

/-!
# Watching a branch

A branch observer after its set-up: it keeps the last tip that it reported. A poll fetches, reads the
tip and, if it has moved and pulling is on, fast-forwards the clone; only then is the move reported
and the new tip kept. Whatever fails on the way is reported instead, and the tip is kept as it was.
-/

namespace WatchHub

/-- The tip of a branch of a remote. -/
structure BranchTip where
  remote : String
  branch : String
  commit : String
deriving DecidableEq, Inhabited, Repr

/-- A world with a clone in which a branch observer acts. -/
structure Clone (W : Type) where
  /-- Runs a command. -/
  command : BranchCommand → W → Except ObserverFailure Unit × W
  /-- Reads the commit of the tracked reference. -/
  tip : W → Except ObserverFailure String

namespace Clone

variable {W : Type}

/-- One poll: the new tip if there is one. -/
def check (c : Clone W) (pull : Bool) (last : String) (w : W) :
    Except ObserverFailure (Option String) × W :=
  match c.command .fetch w with
  | (.error failure, w) => (.error failure, w)
  | (.ok _, w) =>
    match c.tip w with
    | .error failure => (.error failure, w)
    | .ok tip =>
      if tip = last then (.ok none, w)
      else if pull then
        match c.command .pull w with
        | (.error failure, w) => (.error failure, w)
        | (.ok _, w) => (.ok (some tip), w)
      else (.ok (some tip), w)

end Clone

/-- A branch observer that polls; it keeps the last tip that it reported. -/
structure BranchWatch extends Poller String (Event BranchTip) where
  observer : BranchObserver
deriving DecidableEq, Inhabited, Repr

namespace BranchWatch

/-- An observer whose first look at the tip succeeded. -/
def start (observer : BranchObserver) (first : String) : BranchWatch :=
  ⟨.start observer.poll first, observer⟩

/-- The tip that is reported for a commit. -/
def tipOf (o : BranchObserver) (commit : String) : BranchTip :=
  ⟨o.remote, o.branch, commit⟩

/-- The line about the first tip in the journal. -/
def startLine (w : BranchWatch) : Line :=
  ⟨.debug, "tracking",
    [("repo", w.observer.repo), ("reference", w.observer.trackingRef), ("commit", w.last)]⟩

/-- What a poll sends, and the last tip after it. -/
def news (o : BranchObserver) (last : String) :
    Except ObserverFailure (Option String) → List (Event BranchTip) × String
  | .ok none => ([], last)
  | .ok (some tip) => ([.modified (tipOf o tip)], tip)
  | .error failure => ([.error failure.message], last)

/-- What a poll in a world sends, and the last tip after it. -/
def look {W : Type} (c : Clone W) (o : BranchObserver) (last : String) (world : W) :
    List (Event BranchTip) × String :=
  news o last (c.check o.pull last world).1

/-- The lines about a poll in the journal. -/
def pollLines (o : BranchObserver) (last : String) :
    Except ObserverFailure (Option String) → List Line
  | .ok none => []
  | .ok (some tip) =>
    [⟨.info, "remote branch moved",
      [("reference", o.trackingRef), ("from", last), ("to", tip)]⟩]
  | .error failure =>
    [⟨.warn, "poll failed", [("repo", o.repo), ("error", failure.message)]⟩]

/-- What one poll made of the observer and its world. -/
structure Polled (W : Type) where
  watch : BranchWatch
  world : W
  lines : List Line

/-- One poll in a world; an observer that is blocked or has stopped does not poll. -/
def poll {W : Type} (c : Clone W) (w : BranchWatch) (world : W) : Polled W :=
  match w.toPoller.step (look c w.observer) (.poll world) with
  | some (p, _) =>
    let (outcome, after) := c.check w.observer.pull w.last world
    ⟨{ w with toPoller := p.sendOn }, after, pollLines w.observer w.last outcome⟩
  | none => ⟨w, world, []⟩

end BranchWatch

namespace BranchObserver

/-- The present tip as the only item. -/
def list (o : BranchObserver) (tip : Except ObserverFailure String) :
    Except ObserverFailure (List BranchTip) :=
  match tip with
  | .ok commit => .ok [BranchWatch.tipOf o commit]
  | .error failure => .error (.list name failure.message)

end BranchObserver

end WatchHub
