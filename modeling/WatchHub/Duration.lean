import WatchHub.Text.Numeral

/-!
# Durations

Lengths of time in whole seconds and nanoseconds, and their text: in the largest unit that leaves a
whole part, exact, without trailing zeros.
-/

namespace WatchHub

/-- A length of time; the seconds fit a word of 64 bits and the nanoseconds are below one second. -/
structure Duration where
  secs : Nat
  nanos : Nat
  secs_lt : secs < UInt64.size := by decide
  nanos_lt : nanos < 1000000000 := by decide
deriving DecidableEq, Repr

namespace Duration

/-- No time at all. -/
def zero : Duration := ⟨0, 0, by decide, by decide⟩

instance : Inhabited Duration := ⟨zero⟩

/-- The whole length in nanoseconds. -/
def totalNanos (d : Duration) : Nat :=
  d.secs * 1000000000 + d.nanos

/-- The duration of a number of nanoseconds, if its seconds fit. -/
def ofNanos? (n : Nat) : Option Duration :=
  if h : n / 1000000000 < UInt64.size then
    some ⟨n / 1000000000, n % 1000000000, h, Nat.mod_lt _ (by decide)⟩
  else none

/-- A number of milliseconds that fits a word of 64 bits; the count is taken modulo that word. -/
def ofMillis (ms : UInt64) : Duration :=
  ⟨ms.toNat / 1000, ms.toNat % 1000 * 1000000,
    Nat.lt_of_le_of_lt (Nat.div_le_self _ _) ms.toNat_lt,
    by have := Nat.mod_lt ms.toNat (show 0 < 1000 by decide); omega⟩

/-- The whole milliseconds. -/
def millis (d : Duration) : Nat :=
  d.secs * 1000 + d.nanos / 1000000

/-- The most milliseconds that a timer waits: thirty years of 365 days. -/
def longestTimer : Nat := 946080000000

/-- The milliseconds that a timer waits: a started one counts. -/
def timerMillis (d : Duration) : Nat :=
  min longestTimer (d.secs * 1000 + (d.nanos + 999999) / 1000000)

/-- Durations are ordered by length. -/
def le (a b : Duration) : Bool :=
  a.totalNanos ≤ b.totalNanos

/-- A fraction's digits after the point, without the zeros at the end. -/
def fraction (width part : Nat) : String :=
  let digits := Numeral.padLeft width (Numeral.digits 10 part)
  match (digits.reverse.dropWhile (· == '0')).reverse with
  | [] => ""
  | cs => String.ofList ('.' :: cs)

/-- The text in the largest unit that leaves a whole part. -/
def text (d : Duration) : String :=
  if 0 < d.secs then Numeral.decimal d.secs ++ fraction 9 d.nanos ++ "s"
  else if 1000000 ≤ d.nanos then
    Numeral.decimal (d.nanos / 1000000) ++ fraction 6 (d.nanos % 1000000) ++ "ms"
  else if 1000 ≤ d.nanos then
    Numeral.decimal (d.nanos / 1000) ++ fraction 3 (d.nanos % 1000) ++ "µs"
  else Numeral.decimal d.nanos ++ "ns"

end Duration

end WatchHub
