import WatchHub.Duration

/-!
# Jitter

Spreads delays that would otherwise end together. A jittered delay is a whole number of
milliseconds, never longer than the plain one.
-/

namespace WatchHub

/-- How a delay is randomised. -/
inductive Jitter where
  /-- The exact delay. -/
  | none
  /-- Anywhere between zero and the delay. -/
  | full
  /-- At least half of the delay. -/
  | equal
deriving DecidableEq, Inhabited, Repr

namespace Jitter

/-- The name in descriptions. -/
def describe : Jitter → String
  | none => "None"
  | full => "Full"
  | equal => "Equal"

/-- A drawn number brought into the range from zero to a bound, both included. -/
def within (bound draw : Nat) : Nat :=
  draw % (bound + 1)

/-- The delay that a drawn number stands for; delays under a millisecond stay as they are. -/
def apply (j : Jitter) (draw : Nat) (delay : Duration) : Duration :=
  let ms := min delay.millis (UInt64.size - 1)
  if ms = 0 then delay
  else
    match j with
    | none => delay
    | full => Duration.ofMillis (within ms draw).toUInt64
    | equal => Duration.ofMillis (ms / 2 + within (ms - ms / 2) draw).toUInt64

end Jitter

end WatchHub
