import WatchHub.Duration

/-!
# Timelines

A world on which changes fall at given moments, one of which may be a cancellation. Whoever waits is
woken by a cancellation.
-/

namespace WatchHub

/-- What happens to a world at one moment, in milliseconds. -/
structure Moment (C : Type) where
  time : Nat
  changes : List C
  cancels : Bool
deriving DecidableEq, Inhabited, Repr

/-- A world, the time, and what is still to happen, the next moment in front. -/
structure Timeline (W C : Type) where
  now : Nat
  world : W
  cancelled : Bool
  ahead : List (Moment C)

namespace Timeline

variable {W C : Type}

/-- A world at the start of time, with what is to happen in any order. -/
def start (world : W) (moments : List (Moment C)) : Timeline W C :=
  ⟨0, world, false, moments.mergeSort fun a b => a.time ≤ b.time⟩

/-- The next moment comes. -/
def meet (change : W → C → W) (t : Timeline W C) (m : Moment C) (ahead : List (Moment C)) :
    Timeline W C :=
  { now := max t.now m.time
    world := m.changes.foldl change t.world
    cancelled := t.cancelled || m.cancels
    ahead := ahead }

/-- Everything up to a time happens; the clock itself is not moved to that time. -/
def catchUp (change : W → C → W) (limit : Nat) (t : Timeline W C) : Timeline W C :=
  (t.ahead.takeWhile fun m => m.time ≤ limit).foldl
    (fun t m => t.meet change m (t.ahead.drop 1)) t

/-- Time passes up to a moment, unless the cancellation comes first. -/
def passTo (change : W → C → W) (limit : Nat) :
    List (Moment C) → Timeline W C → Bool × Timeline W C
  | m :: ahead, t =>
    if m.time ≤ limit then
      let t := t.meet change m ahead
      if m.cancels then (false, t) else passTo change limit ahead t
    else (true, { t with now := limit })
  | [], t => (true, { t with now := limit })

/-- Waits, and tells whether the wait was not cut short by a cancellation. -/
def wait (change : W → C → W) (delay : Duration) (t : Timeline W C) : Bool × Timeline W C :=
  if t.cancelled then (false, t) else passTo change (t.now + delay.timerMillis) t.ahead t

/-- Everything that was still to happen has happened. -/
def finish (change : W → C → W) (t : Timeline W C) : Timeline W C :=
  t.ahead.foldl (fun t m => t.meet change m []) t

end Timeline

end WatchHub
