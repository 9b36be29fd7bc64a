import WatchHub.Failure
import WatchHub.Journal.Line
import WatchHub.Policy.Retry

/-!
# Setting up an observer

An observer tries to set itself up until it succeeds, its attempts are used up, it fails in a way
that another attempt cannot mend, or it is cancelled. A cancellation is noticed after a failed
attempt and during the wait before the next one; an attempt in progress is never cut short.
-/

namespace WatchHub

namespace Setup

/-- What surrounds a set-up: a world in which attempts are made and time passes. -/
structure Surroundings (W α : Type) where
  /-- Makes one attempt. -/
  attempt : W → Except ObserverFailure α × W
  isCancelled : W → Bool
  /-- Lets time pass, and tells whether it passed without a cancellation. -/
  wait : Duration → W → Bool × W

/-- How a set-up ended. -/
inductive Outcome (α : Type) where
  | ready (value : α)
  | failed (failure : ObserverFailure)
  /-- The delay before an attempt cannot be represented. -/
  | broken (fault : SecondsFault)
deriving Repr

/-- A failed attempt that is followed by a wait. -/
structure Retry where
  /-- The number of the attempt, from one. -/
  attempt : Nat
  delay : Duration
  failure : ObserverFailure
deriving DecidableEq, Repr

/-- The line that a failed attempt leaves in the journal. -/
def Retry.line (observer : String) (r : Retry) : Line :=
  ⟨.warn, "setup failed; retrying",
    [("observer", observer), ("attempt", Numeral.decimal r.attempt), ("delay", r.delay.text),
      ("error", r.failure.message)]⟩

/-- How a set-up ended, the world after it, and the attempts that were followed by a wait. -/
structure Result (W α : Type) where
  outcome : Outcome α
  world : W
  retries : List Retry

variable {W α : Type}

/-- Makes attempts, the first of them with the number `done` from zero, with `left` more to come; there is
a delay after each of them. -/
def attempts (s : Surroundings W α) (delays : Nat → Except SecondsFault Duration)
    (observer : String) : (left done : Nat) → W → Result W α
  | left, done, w =>
    match s.attempt w with
    | (.ok value, w) => ⟨.ready value, w, []⟩
    | (.error failure, w) =>
      match left with
      | 0 => ⟨.failed (.setup observer failure.message), w, []⟩
      | left + 1 =>
        if !failure.isRetryable || s.isCancelled w then
          ⟨.failed (.setup observer failure.message), w, []⟩
        else
          match delays done with
          | .error fault => ⟨.broken fault, w, []⟩
          | .ok delay =>
            let retry : Retry := ⟨done + 1, delay, failure⟩
            match s.wait delay w with
            | (false, w) =>
              ⟨.failed (.setup observer ("cancelled after: " ++ failure.message)), w, [retry]⟩
            | (true, w) =>
              let result := attempts s delays observer left (done + 1) w
              { result with retries := retry :: result.retries }

/-- Sets an observer up: at least one attempt, and no more than the policy allows. -/
def run (s : Surroundings W α) (policy : RetryPolicy) (draws : Nat → Nat) (observer : String)
    (w : W) : Result W α :=
  attempts s (fun retry => policy.delay (draws retry) retry) observer (policy.totalAttempts - 1) 0 w

end Setup

end WatchHub
