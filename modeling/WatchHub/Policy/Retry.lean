import WatchHub.Duration.Seconds
import WatchHub.Number.Shortest
import WatchHub.Policy.Jitter
import WatchHub.Text.Quoted

/-!
# Retry policies

How often, and how far apart, an observer tries a failed set-up again. The delay grows by a factor
from retry to retry, is capped, and is then jittered; it depends on the number of the retry alone.
-/

namespace WatchHub

/-- How often and how far apart a failed set-up is tried again. -/
structure RetryPolicy where
  attempts : Nat
  first : Duration
  max : Duration
  factor : Binary64
  jitter : Jitter
deriving DecidableEq, Repr

namespace RetryPolicy

/-- Three attempts, 200 ms doubling up to five seconds, with equal jitter. -/
def standard : RetryPolicy where
  attempts := 3
  first := .ofMillis 200
  max := .ofMillis 5000
  factor := Binary64.ofNat 2
  jitter := .equal

instance : Inhabited RetryPolicy := ⟨standard⟩

/-- A single attempt. -/
def once : RetryPolicy :=
  { standard with attempts := 1 }

/-- The total number of attempts; there is always one. -/
def totalAttempts (p : RetryPolicy) : Nat :=
  Nat.max p.attempts 1

/-- The exponent of the factor for a retry, counted from zero and capped. -/
def exponent (retry : Nat) : Nat :=
  min retry 2147483647

/-- The delay before a retry, in seconds, before the cap. -/
def seconds (p : RetryPolicy) (retry : Nat) : Binary64 :=
  Binary64.mul p.first.seconds (Binary64.pow p.factor (exponent retry))

/-- The capped delay before a retry. -/
def base (p : RetryPolicy) (retry : Nat) : Except SecondsFault Duration :=
  let secs := p.seconds retry
  if !secs.isFinite || secs.isNegative || p.max.seconds.lt secs then .ok p.max
  else Duration.ofSeconds secs

/-- The delay before a retry, jittered by a drawn number. -/
def delay (p : RetryPolicy) (draw retry : Nat) : Except SecondsFault Duration :=
  (p.base retry).map (p.jitter.apply draw)

/-- The policy field by field. -/
def describe (p : RetryPolicy) : String :=
  Quoted.record "RetryPolicy"
    [("attempts", Numeral.decimal p.attempts), ("first", p.first.text), ("max", p.max.text),
      ("factor", p.factor.text), ("jitter", p.jitter.describe)]

end RetryPolicy

end WatchHub
