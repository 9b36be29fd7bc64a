import WatchHub.Number.Binary64
import WatchHub.Text.Numeral

/-!
# Reading numbers

A double-precision number from its decimal text: a sign, digits with or without a point, and an
exponent; or the words for the infinities and the missing number, in either case.
-/

namespace WatchHub.Binary64

/-- The digits at the front of a text, and the rest. -/
def spanDigits (cs : List Char) : List Char × List Char :=
  cs.span fun c => '0' ≤ c && c ≤ '9'

/-- The value of a run of decimal digits; none at all count as zero. -/
def digitsValue (cs : List Char) : Nat :=
  (Numeral.valueFrom? 10 0 cs).getD 0

/-- An optional sign in front of a text. -/
def takeSign : List Char → Bool × List Char
  | '-' :: cs => (true, cs)
  | '+' :: cs => (false, cs)
  | cs => (false, cs)

/-- An exponent part that takes the whole text; an empty text is the exponent zero. -/
def exponent? : List Char → Option Int
  | [] => some 0
  | c :: cs =>
    if c = 'e' ∨ c = 'E' then
      let (negative, ds) := takeSign cs
      match ds, spanDigits ds with
      | [], _ => none
      | _, (ds, []) => some (if negative then -(digitsValue ds : Int) else digitsValue ds)
      | _, _ => none
    else none

/-- The number nearest to `digits * 10 ^ exponent`. -/
def ofDecimal (negative : Bool) (digits : Nat) (exponent : Int) : Binary64 :=
  let places : Int := (Numeral.digits 10 digits).length + exponent
  if digits = 0 ∨ places < -400 then finite negative 0
  else if 400 < places then infinite negative
  else ofRatio negative (digits * Nat.pow 10 exponent.toNat) (Nat.pow 10 (-exponent).toNat)

/-- Reads digits, an optional fraction and an optional exponent. -/
def magnitude? (negative : Bool) (cs : List Char) : Option Binary64 :=
  let (whole, rest) := spanDigits cs
  let (fraction, rest) :=
    match rest with
    | '.' :: rest => spanDigits rest
    | rest => ([], rest)
  if whole.isEmpty && fraction.isEmpty then none
  else (exponent? rest).map fun e =>
    ofDecimal negative (digitsValue (whole ++ fraction)) (e - fraction.length)

/-- Reads a number from its text. -/
def parse? (s : String) : Option Binary64 :=
  let (negative, cs) := takeSign s.toList
  let word := String.ofList (cs.map Char.toLower)
  if word = "nan" then some nan
  else if word = "inf" ∨ word = "infinity" then some (infinite negative)
  else magnitude? negative cs

end WatchHub.Binary64
