/-!
# Streams of a polling observer

A bounded stream from an observer to whoever watches it. The observer sends a batch of events one by
one and waits while the stream is full; it does not poll again before the whole batch is in the
stream. A cancellation is a signal, which the observer notices where it waits; what it does on until
then is not cut short. When it notices the signal the stream ends, and with it whatever the observer
still had to send. Once nobody takes from the stream any more nothing can be sent, and the observer
stops at the first event that it has to send.
-/

namespace WatchHub

/-- A bounded stream of events. -/
structure PollStream (α : Type) where
  room : Nat
  /-- What is in the stream and was not taken yet. -/
  items : List α
  /-- What the observer has still to send of its batch. -/
  blocked : List α
  /-- Whether the cancellation was signalled. -/
  cancelled : Bool
  /-- Whether the observer has noticed the cancellation and stopped. -/
  ended : Bool
  /-- Whether whoever watched has let go of the stream. -/
  abandoned : Bool
deriving DecidableEq, Inhabited, Repr

namespace PollStream

variable {α : Type}

/-- An empty stream. -/
def new (room : Nat) : PollStream α :=
  ⟨room, [], [], false, false, false⟩

/-- Whether the observer is free to poll. -/
def isIdle (s : PollStream α) : Bool :=
  !s.ended && s.blocked.isEmpty

/-- The observer has one more batch to send. -/
def load (s : PollStream α) (batch : List α) : PollStream α :=
  { s with blocked := s.blocked ++ batch }

/-- Sends the next event of the batch, if there is room for it and somebody to take it. -/
def push? (s : PollStream α) : Option (α × PollStream α) :=
  match s.blocked with
  | [] => none
  | a :: blocked =>
    if !s.abandoned && s.items.length < s.room then
      some (a, { s with items := s.items ++ [a], blocked := blocked })
    else none

/-- Sends events as long as there are any and they can be sent; the fuel bounds how many. -/
def pushMany (s : PollStream α) : Nat → PollStream α
  | 0 => s
  | fuel + 1 =>
    match s.push? with
    | none => s
    | some (_, s) => s.pushMany fuel

/-- Sends what there is room for. -/
def fill (s : PollStream α) : PollStream α :=
  s.pushMany s.blocked.length

/-- Takes the oldest event. -/
def pop? (s : PollStream α) : Option (α × PollStream α) :=
  match s.items with
  | [] => none
  | a :: items => some (a, { s with items := items })

/-- Takes the oldest event, which makes room for another. -/
def take? (s : PollStream α) : Option (α × PollStream α) :=
  s.pop?.map fun (a, s) => (a, s.fill)

/-- Takes events as long as there are any; the fuel bounds how many. -/
def takeMany (s : PollStream α) : Nat → List α × PollStream α
  | 0 => ([], s)
  | fuel + 1 =>
    match s.take? with
    | none => ([], s)
    | some (a, s) =>
      let (as, s) := s.takeMany fuel
      (a :: as, s)

/-- Takes everything, also what the observer sends as room appears. -/
def drain (s : PollStream α) : List α × PollStream α :=
  s.takeMany (s.items.length + s.blocked.length)

/-- Signals the cancellation. -/
def cancel (s : PollStream α) : PollStream α :=
  { s with cancelled := true }

/-- Ends the stream, as the observer notices the cancellation: what is in it stays readable, and what
was to be sent is lost. -/
def stop (s : PollStream α) : PollStream α :=
  { s with blocked := [], ended := true }

/-- Whoever watched lets go of the stream, and what is in it is lost. -/
def hangUp (s : PollStream α) : PollStream α :=
  { s with items := [], abandoned := true }

end PollStream

end WatchHub
