import WatchHub.Policy.Retry
import WatchHub.Queue

/-!
# Polling

The settings that all polling observers share: the time between two polls, the retries of the
set-up, and the capacity of the stream of events.
-/

namespace WatchHub

/-- How an observer polls. -/
structure PollConfig where
  interval : Duration
  jitter : Jitter
  retry : RetryPolicy
  streamCapacity : Nat
deriving DecidableEq, Repr

namespace PollConfig

/-- Every five seconds exactly, with the standard retries and ten events in the stream. -/
def standard : PollConfig where
  interval := .ofMillis 5000
  jitter := .none
  retry := .standard
  streamCapacity := 10

instance : Inhabited PollConfig := ⟨standard⟩

/-- The standard settings with another interval. -/
def every (interval : Duration) : PollConfig :=
  { standard with interval := interval }

/-- The settings with another retry policy. -/
def withRetry (c : PollConfig) (retry : RetryPolicy) : PollConfig :=
  { c with retry := retry }

/-- The room in the stream of events; there is always some. -/
def streamRoom (c : PollConfig) : Nat :=
  Nat.max c.streamCapacity 1

/-- What is said when a stream with that much room cannot be opened. -/
def breakdown? (c : PollConfig) : Option String :=
  Room.breakdown? c.streamRoom

/-- The settings field by field. -/
def describe (c : PollConfig) : String :=
  Quoted.record "PollConfig"
    [("interval", c.interval.text), ("jitter", c.jitter.describe), ("retry", c.retry.describe),
      ("stream_capacity", Numeral.decimal c.streamCapacity)]

end PollConfig

end WatchHub
