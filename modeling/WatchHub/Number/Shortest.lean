import WatchHub.Number.Binary64
import WatchHub.Text.Numeral

/-!
# Shortest decimals

The text of a double-precision number: the fewest decimal digits that no other number is nearer to,
of two equally short candidates the nearer one and of two equally near ones the upper. A number is
written positionally, with at least one digit after the point, when its leading digit stands between
the fourth place after the point and the sixteenth place before it, and with an exponent otherwise.
-/

namespace WatchHub.Binary64

/-- A decimal `digits * 10 ^ exponent`. -/
structure Decimal where
  digits : Nat
  exponent : Int
deriving DecidableEq, Repr

namespace Decimal

/-- The decimal as a numerator over a denominator. -/
def ratio (d : Decimal) : Nat × Nat :=
  (d.digits * Nat.pow 10 d.exponent.toNat, Nat.pow 10 (-d.exponent).toNat)

/-- Moves the zeros at the end of the digits into the exponent; the fuel bounds their count. -/
def strip : Nat → Decimal → Decimal
  | 0, d => d
  | fuel + 1, d =>
    if d.digits != 0 && d.digits % 10 == 0 then strip fuel ⟨d.digits / 10, d.exponent + 1⟩ else d

end Decimal

/-- Compares a decimal with a number of quarter steps. -/
def compareQuarters (d : Decimal) (quarters : Nat) : Ordering :=
  compare (d.ratio.1 * (4 * one)) (quarters * d.ratio.2)

/-- Whether the magnitude is the number nearest to the decimal. -/
def readsBack (steps : Nat) (d : Decimal) : Bool :=
  let unit := Nat.pow 2 (excess steps)
  let narrow := 1 < unit && steps == Nat.pow 2 52 * unit
  let low := 4 * steps - (if narrow then unit else 2 * unit)
  let high := 4 * steps + 2 * unit
  let inclusive := steps / unit % 2 == 0
  let atLow := compareQuarters d low
  let atHigh := compareQuarters d high
  (atLow == .gt || (inclusive && atLow == .eq)) && (atHigh == .lt || (inclusive && atHigh == .eq))

/-- The power of ten next above the magnitude. -/
def scale (steps : Nat) : Int :=
  ((Numeral.digits 10 (steps * Nat.pow 10 400 / one)).length : Int) - 400

/-- The best decimal with the given count of digits, if one reads back. -/
def shortestOf? (steps count : Nat) : Option Decimal :=
  let exponent := scale steps - count
  let num := steps * Nat.pow 10 (-exponent).toNat
  let den := one * Nat.pow 10 exponent.toNat
  let below : Decimal := ⟨num / den, exponent⟩
  let above : Decimal := ⟨num / den + 1, exponent⟩
  match readsBack steps below, readsBack steps above with
  | true, true => some (if 2 * (num % den) < den then below else above)
  | true, false => some below
  | false, true => some above
  | false, false => none

/-- The fewest digits that read back; seventeen always do. -/
def shortest (steps : Nat) : Decimal :=
  let found := (List.range' 1 17).findSome? (shortestOf? steps)
  (found.getD ⟨steps * Nat.pow 10 1074 / one, -1074⟩).strip 400

/-- The digits laid out with a point among them or zeros around them. -/
def layOut (d : Decimal) : List Char :=
  let cs := Numeral.digits 10 d.digits
  let place : Int := d.exponent + cs.length
  if place < -3 ∨ 16 < place then
    let tail := if cs.length = 1 then [] else '.' :: cs.drop 1
    let power := place - 1
    let sign := if power < 0 then ['-'] else []
    cs.take 1 ++ tail ++ 'e' :: sign ++ Numeral.digits 10 power.natAbs
  else if place ≤ 0 then '0' :: '.' :: List.replicate (-place).toNat '0' ++ cs
  else if cs.length ≤ place.toNat then
    cs ++ List.replicate (place.toNat - cs.length) '0' ++ ['.', '0']
  else cs.take place.toNat ++ '.' :: cs.drop place.toNat

/-- The text of a number. -/
def text : Binary64 → String
  | nan => "NaN"
  | infinite s => if s then "-inf" else "inf"
  | finite s n =>
    let sign := if s then ['-'] else []
    String.ofList (sign ++ if n = 0 then ['0', '.', '0'] else layOut (shortest n))

end WatchHub.Binary64
