import WatchHub.Duration
import WatchHub.Number.Binary64

/-!
# Durations as seconds

A duration as a double-precision number of seconds, and back. Going back rounds to the nearest
nanosecond, a half to the even one, and fails on what no duration holds.
-/

namespace WatchHub

/-- Why a number of seconds is no duration. -/
inductive SecondsFault where
  | negative
  | outOfRange
deriving DecidableEq, Inhabited, Repr

namespace SecondsFault

/-- What is wrong with the number. -/
def message : SecondsFault → String
  | negative => "cannot convert float seconds to Duration: value is negative"
  | outOfRange =>
    "cannot convert float seconds to Duration: value is either too big or NaN"

end SecondsFault

namespace Duration

/-- The length in seconds: whole seconds and the fraction each rounded, and so their sum. -/
def seconds (d : Duration) : Binary64 :=
  Binary64.add (Binary64.ofNat d.secs)
    (Binary64.ofRatio false d.nanos 1000000000)

/-- The duration nearest to a number of seconds. -/
def ofSeconds : Binary64 → Except SecondsFault Duration
  | .finite negative steps =>
    if negative && steps != 0 then .error .negative
    else
      match ofNanos? (Binary64.roundDiv (steps * 1000000000) Binary64.one) with
      | some d => .ok d
      | none => .error .outOfRange
  | .infinite true => .error .negative
  | .infinite false | .nan => .error .outOfRange

end Duration

end WatchHub
