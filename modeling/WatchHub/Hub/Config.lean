import WatchHub.Duration
import WatchHub.Text.Quoted

/-!
# Settings of a hub

How much history is kept, how many events may wait for a consumer, and how long population and
shutdown wait. Capacities of zero count as one.
-/

namespace WatchHub

/-- How a hub keeps, queues and waits. -/
structure HubConfig where
  /-- How many events are retained for each key. -/
  logCapacity : Nat
  /-- How many events may wait for each consumer. -/
  queueCapacity : Nat
  /-- How long one population item waits for room before it is skipped. -/
  deliveryTimeout : Duration
  /-- How long a shutdown waits for the ingests to stop. -/
  grace : Duration
deriving DecidableEq, Repr

namespace HubConfig

/-- A thousand events of history, a hundred waiting, 100 ms for an item and five seconds of grace. -/
def standard : HubConfig where
  logCapacity := 1000
  queueCapacity := 100
  deliveryTimeout := .ofMillis 100
  grace := .ofMillis 5000

instance : Inhabited HubConfig := ⟨standard⟩

/-- The history that is kept; always one event at least. -/
def logRoom (c : HubConfig) : Nat :=
  Nat.max c.logCapacity 1

/-- The room of each consumer's queue; always one event at least. -/
def queueRoom (c : HubConfig) : Nat :=
  Nat.max c.queueCapacity 1

/-- The settings field by field. -/
def describe (c : HubConfig) : String :=
  Quoted.record "DispatcherConfig"
    [("log_capacity", Numeral.decimal c.logCapacity),
      ("queue_capacity", Numeral.decimal c.queueCapacity),
      ("delivery_timeout", c.deliveryTimeout.text), ("grace", c.grace.text)]

end HubConfig

end WatchHub
