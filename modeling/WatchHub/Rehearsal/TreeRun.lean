import WatchHub.Poll.Setup
import WatchHub.Rehearsal.Timeline
import WatchHub.Tree.Watch

/-!
# Rehearsing a tree observer

A tree observer on a disk that changes: first its set-up, while changes fall at given moments, and
then poll by poll.
-/

namespace WatchHub

/-- A tree observer in a rehearsal. -/
structure TreeRun where
  disk : Disk
  watch : TreeWatch
  lines : List Line

/-- What one step shows: the events that were taken, or how many wait. -/
inductive Shown (α : Type) where
  | taken (items : List α)
  | waiting (count : Nat)
deriving Repr

namespace TreeRun

/-- The surroundings of the set-up: an attempt is a scan. -/
def surroundings (o : TreeObserver) :
    Setup.Surroundings (Timeline Disk Mutation) Scan where
  attempt t :=
    let t := t.catchUp Disk.mutate t.now
    (t.world.scan o.root, t)
  isCancelled t := t.cancelled
  wait delay t := t.wait Disk.mutate delay

/-- Sets the observer up. -/
def setup (o : TreeObserver) (disk : Disk) (during : List (Moment Mutation)) :
    Setup.Result (Timeline Disk Mutation) Scan :=
  Setup.run (surroundings o) o.poll.retry (fun _ => 0) TreeObserver.name (.start disk during)

/-- The lines of a set-up in the journal. -/
def setupLines (r : Setup.Result (Timeline Disk Mutation) Scan) : List Line :=
  r.retries.map (Setup.Retry.line TreeObserver.name)

/-- The observer after its set-up, once everything that was to happen meanwhile has happened. -/
def start (o : TreeObserver) (t : Timeline Disk Mutation) (first : Scan) : TreeRun :=
  let t := t.finish Disk.mutate
  let watch := TreeWatch.start o first
  let stream := if t.cancelled then watch.stream.cancel.stop else watch.stream
  ⟨t.world, { watch with stream := stream }, [watch.startLine]⟩

/-- The disk changes, the observer polls, and the events are taken or left. -/
def step (r : TreeRun) (changes : List Mutation) (drains : Bool) :
    Shown (Event FileState) × TreeRun :=
  if r.watch.stream.ended then (.taken [], r)
  else
    let disk := r.disk.mutateAll changes
    let (watch, lines) := r.watch.poll (disk.scan r.watch.observer.root)
    let lines := r.lines ++ lines
    if drains then
      let (events, stream) := watch.stream.drain
      (.taken events, ⟨disk, { watch with stream := stream }, lines⟩)
    else (.waiting watch.stream.items.length, ⟨disk, watch, lines⟩)

end TreeRun

end WatchHub
