import WatchHub.Branch.Watch
import WatchHub.Poll.Setup
import WatchHub.Tree.Disk

/-!
# Rehearsing a branch observer

A branch observer in a clone whose commands follow a script. A command can fail only after it has
changed the references that the script says; after the script every command fails.
-/

namespace WatchHub

/-- What one command does. -/
structure Act where
  /-- The references that change: to a commit, or away. -/
  refs : List (String × Option String)
  /-- Whether the directory of the clone is deleted. -/
  destroys : Bool
  errors : List UInt8
  status : Nat
deriving DecidableEq, Inhabited, Repr

/-- A disk with a clone, what its commands will do, and the commands that were run. -/
structure CloneWorld where
  disk : Disk
  script : List Act
  commands : List BranchCommand
  now : Nat

namespace CloneWorld

/-- What every command does after the end of the script. -/
def lastAct : Act :=
  ⟨[], false, "end of script".toUTF8.toList, 99⟩

/-- The name of the directory of the clone. -/
def home : String := "repo"

/-- The name of the directory inside a clone that makes it a repository. -/
def inner : String := ".git"

/-- The path of something inside that directory. -/
def innerPath (name : String) : String :=
  PathText.join (PathText.join home inner) name

/-- A disk with a directory that is no clone yet. -/
def plain : Disk :=
  Disk.empty.makeDir home

/-- The file of a reference gets a commit, or is removed. -/
def setRef (disk : Disk) (change : String × Option String) : Disk :=
  let path := innerPath change.1
  match change.2 with
  | some commit =>
    (disk.makeDir (PathText.parent path)).write path ⟨commit.toUTF8.toList, (0, 0)⟩
  | none => disk.remove path

/-- The disk after changes of references. -/
def setRefs (disk : Disk) (changes : List (String × Option String)) : Disk :=
  changes.foldl setRef disk

/-- A disk with a clone that has certain references. -/
def cloneOf (refs : List (String × Option String)) : Disk :=
  setRefs ((plain.makeDir (innerPath "objects")).makeDir (innerPath "refs"))
    (("HEAD", some "ref: refs/heads/main") :: refs)

/-- The disk after an act. -/
def diskAfter (a : Act) (disk : Disk) : Disk :=
  let disk := setRefs disk a.refs
  if a.destroys then disk.remove home else disk

/-- Where the path of an observer leads, if to a directory. -/
def place (o : BranchObserver) (w : CloneWorld) : Except SystemFault (List String) :=
  match w.disk.locate true o.repo with
  | .ok ⟨names, some (.dir _)⟩ => .ok names
  | .ok ⟨_, some _⟩ => .error .notDirectory
  | .ok ⟨_, none⟩ => .error .missing
  | .error fault => .error fault

/-- Runs a command, which needs the directory of its observer to be there. -/
def run (o : BranchObserver) (c : BranchCommand) (w : CloneWorld) :
    Except ObserverFailure Unit × CloneWorld :=
  match place o w with
  | .error fault => (.error (.io o.repo fault), w)
  | .ok _ =>
    let act := w.script.head?.getD lastAct
    let w := { w with
      disk := diskAfter act w.disk
      script := w.script.drop 1
      commands := w.commands ++ [c] }
    if act.status % 256 = 0 then (.ok (), w)
    else (.error (c.failure (act.status % 256) act.errors), w)

/-- Whether a directory is a repository. -/
def isRepository (w : CloneWorld) (names : List String) : Bool :=
  ["HEAD", "objects", "refs"].all fun name => (w.disk.top.at? (names ++ [name])).isSome

/-- The path of the repository that an observer opens: its directory, or the one inside. -/
def repository? (o : BranchObserver) (w : CloneWorld) : Option String :=
  match place o w with
  | .ok names =>
    if isRepository w (names ++ [inner]) then some (PathText.join o.repo inner)
    else if isRepository w names then some o.repo
    else none
  | .error _ => none

/-- The files of a repository. -/
def files (repository : String) (w : CloneWorld) : RefFiles := fun name =>
  match w.disk.locate true (PathText.join repository name) with
  | .ok ⟨_, some (.file n)⟩ => .ok (some (w.disk.fileAt n).bytes)
  | .ok _ => .ok none
  | .error fault => if fault = .missing then .ok none else .error fault

/-- Reads the commit of the tracked reference. -/
def tip (o : BranchObserver) (w : CloneWorld) : Except ObserverFailure String :=
  match repository? o w with
  | some repository => o.readTip (files repository w)
  | none => .error o.notARepository

/-- The commands that can still be told: they are noted in the directory of the clone. -/
def told (w : CloneWorld) : List BranchCommand :=
  if (w.disk.top.at? [Disk.work, home]).isSome then w.commands else []

/-- The clone as its observer acts on it. -/
def clone (o : BranchObserver) : Clone CloneWorld :=
  ⟨run o, tip o⟩

end CloneWorld

namespace BranchRun

/-- The surroundings of the set-up: an attempt reads the tip. -/
def surroundings (o : BranchObserver) : Setup.Surroundings CloneWorld String where
  attempt w := (CloneWorld.tip o w, w)
  isCancelled _ := false
  wait delay w := (true, { w with now := w.now + delay.timerMillis })

/-- Sets the observer up. -/
def setup (o : BranchObserver) (w : CloneWorld) : Setup.Result CloneWorld String :=
  Setup.run (surroundings o) o.poll.retry (fun _ => 0) BranchObserver.name w

/-- Whether an event tells that the script is over or the clone is gone. -/
def isFinal (e : Event BranchTip) : Bool :=
  let reason := e.reason.getD ""
  "end of script".toList.isSuffixOf reason.toList || (reason.splitOn "io error").length > 1

/-- Polls until the script is over, and each time takes the events; the fuel bounds the number of
polls. -/
def polls (watch : BranchWatch) (w : CloneWorld) :
    Nat → List (Event BranchTip) × List Line × CloneWorld
  | 0 => ([], [], w)
  | fuel + 1 =>
    let p := watch.poll (CloneWorld.clone watch.observer) w
    let (events, stream) := p.watch.stream.drain
    if events.any isFinal then (events, p.lines, p.world)
    else
      let (more, lines, w) := polls { p.watch with stream := stream } p.world fuel
      (events ++ more, p.lines ++ lines, w)

/-- Polls from the first tip on until the script is over; each poll runs a command of it. -/
def run (o : BranchObserver) (w : CloneWorld) (first : String) :
    List (Event BranchTip) × List Line × CloneWorld :=
  let watch := BranchWatch.start o first
  let (events, lines, w) := polls watch w (w.script.length + 2)
  (events, watch.startLine :: lines, w)

end BranchRun

end WatchHub
