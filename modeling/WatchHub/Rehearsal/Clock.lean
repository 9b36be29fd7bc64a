import WatchHub.Rehearsal.Turns

/-!
# The clock of a rehearsal

Time passes only while everything is idle, and then in one leap to the next moment at which a task
gives up waiting.
-/

namespace WatchHub

namespace Rehearsal

variable {P : Type}

/-- The next moment up to a time at which a task gives up waiting. -/
def nextDeadline? (s : Rehearsal P) (limit : Nat) : Option Nat :=
  ((s.deadlines.rows.map Prod.snd).filter fun t => s.now < t && t ≤ limit).min?

/-- Lets time pass up to a moment, or until something that is waited for is there. -/
def passUntil (s : Rehearsal P) (limit : Nat) (isThere : Rehearsal P → Bool) :
    Nat → Rehearsal P
  | 0 => s
  | fuel + 1 =>
    let s := s.runIdle
    if isThere s then s
    else
      match s.nextDeadline? limit with
      | some t => { s with now := t }.passUntil limit isThere fuel
      | none => { s with now := max s.now limit }.runIdle

/-- Lets time pass up to a moment, or until something that is waited for is there. -/
def waitUntil (s : Rehearsal P) (limit : Nat) (isThere : Rehearsal P → Bool) : Rehearsal P :=
  s.passUntil limit isThere (s.work + 2)

/-- Lets time pass. -/
def advance (s : Rehearsal P) (ms : Nat) : Rehearsal P :=
  s.waitUntil (s.now + ms) fun _ => false

/-- What follows a command: the tasks run until all are idle, in a millisecond. -/
def settle (s : Rehearsal P) : Rehearsal P :=
  s.advance 1

end Rehearsal

end WatchHub
