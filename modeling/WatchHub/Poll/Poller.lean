import WatchHub.Poll.Config
import WatchHub.Poll.Stream

/-!
# Polling observers at work

What every polling observer does after its set-up: it waits for the time between two polls, looks at
its source, sends one batch of events about it, and starts again. From one poll to the next it keeps
something of what it saw; what a poll sends, and what is kept after it, is up to the observer. A
cancellation can be noticed wherever it waits, be it for the next poll or for room in the stream. Where
it need not wait, as the time is over or there is room, either may come first: it goes on or notices.
-/

namespace WatchHub

/-- A polling observer at work: what it keeps of what it saw, and the stream of its events. -/
structure Poller (S α : Type) where
  last : S
  stream : PollStream α
deriving DecidableEq, Inhabited, Repr

namespace Poller

/-- What can happen to a polling observer. -/
inductive Move (O : Type) where
  /-- The time between two polls is over, and the poll has an outcome. -/
  | poll (outcome : O)
  /-- The next event of the batch enters the stream. -/
  | send
  /-- Whoever watches takes the oldest event. -/
  | take
  /-- The cancellation is signalled. -/
  | cancel
  /-- The observer notices that it was cancelled. -/
  | stop
  /-- Whoever watches lets go of the stream. -/
  | hangUp
deriving DecidableEq, Inhabited, Repr

/-- One thing that happened at a polling observer. -/
inductive Told (O α : Type) where
  /-- A poll had an outcome and made a batch of it. -/
  | polled (outcome : O) (batch : List α)
  | sent (event : α)
  | taken (event : α)
deriving DecidableEq, Inhabited, Repr

variable {S O α : Type}

/-- An observer after its set-up. -/
def start (config : PollConfig) (first : S) : Poller S α :=
  ⟨first, .new config.streamRoom⟩

/-- One step, if it can be made, and what happened. -/
def step (news : S → O → List α × S) (p : Poller S α) :
    Move O → Option (Poller S α × List (Told O α))
  | .poll outcome =>
    if p.stream.isIdle then
      let (batch, last) := news p.last outcome
      some (⟨last, p.stream.load batch⟩, [.polled outcome batch])
    else none
  | .send => p.stream.push?.map fun (a, stream) => ({ p with stream := stream }, [.sent a])
  | .take => p.stream.pop?.map fun (a, stream) => ({ p with stream := stream }, [.taken a])
  | .cancel => some ({ p with stream := p.stream.cancel }, [])
  | .stop =>
    if p.stream.cancelled && !p.stream.ended then some ({ p with stream := p.stream.stop }, [])
    else none
  | .hangUp => some ({ p with stream := p.stream.hangUp }, [])

/-- A run: the steps one after the other, as far as they can be made, and all that happened. -/
def run (news : S → O → List α × S) (p : Poller S α) :
    List (Move O) → Option (Poller S α × List (Told O α))
  | [] => some (p, [])
  | move :: moves => do
    let (p, told) ← p.step news move
    let (p, more) ← p.run news moves
    pure (p, told ++ more)

/-- The observer sends what there is room for. -/
def sendOn (p : Poller S α) : Poller S α :=
  { p with stream := p.stream.fill }

end Poller

end WatchHub
