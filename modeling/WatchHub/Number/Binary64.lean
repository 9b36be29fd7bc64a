/-!
# Numbers in binary64

Double-precision numbers in exact arithmetic. Every finite one is a whole number of smallest steps
of `2 ^ (-1074)`, so each operation computes its exact result as a ratio of naturals and rounds once,
to the nearest representable number and to the even one of two equally near.
-/

namespace WatchHub

/-- A double-precision number; a finite one has its magnitude in steps of `2 ^ (-1074)`. -/
inductive Binary64 where
  | nan
  | infinite (negative : Bool)
  | finite (negative : Bool) (steps : Nat)
deriving DecidableEq, Inhabited, Repr

namespace Binary64

/-- The steps in one. -/
def one : Nat := Nat.pow 2 1074

/-- A quotient rounded to the nearest natural, a half to the even one. -/
def roundDiv (num den : Nat) : Nat :=
  let q := num / den
  let r := num % den
  if 2 * r < den then q
  else if den < 2 * r then q + 1
  else if q % 2 = 0 then q else q + 1

/-- How many low bits a magnitude has too many for a significand of 53 bits. -/
def excess (steps : Nat) : Nat :=
  steps.log2 - 52

/-- A ratio of steps rounded to the nearest magnitude with a significand of 53 bits. -/
def roundSteps (num den : Nat) : Nat :=
  let unit := Nat.pow 2 (excess (num / den))
  roundDiv num (den * unit) * unit

/-- The number nearest to a ratio of steps; beyond the largest finite one it is infinite. -/
def ofSteps (negative : Bool) (num den : Nat) : Binary64 :=
  let steps := roundSteps num den
  if steps < Nat.pow 2 1024 * one then finite negative steps else infinite negative

/-- The number nearest to a ratio of naturals. -/
def ofRatio (negative : Bool) (num den : Nat) : Binary64 :=
  ofSteps negative (num * one) den

/-- The number nearest to a natural. -/
def ofNat (n : Nat) : Binary64 :=
  ofRatio false n 1

/-- The sum, rounded once; unlike infinities have none. -/
def add : Binary64 → Binary64 → Binary64
  | nan, _ | _, nan => nan
  | infinite s, infinite t => if s = t then infinite s else nan
  | infinite s, finite .. | finite .., infinite s => infinite s
  | finite s a, finite t b =>
    if s = t then ofSteps s (a + b) 1
    else if a = b then finite false 0
    else if b < a then ofSteps s (a - b) 1
    else ofSteps t (b - a) 1

/-- The product, rounded once; zero times an infinity has none. -/
def mul : Binary64 → Binary64 → Binary64
  | nan, _ | _, nan => nan
  | infinite s, infinite t => infinite (s != t)
  | infinite s, finite t n | finite t n, infinite s => if n = 0 then nan else infinite (s != t)
  | finite s a, finite t b => ofSteps (s != t) (a * b) one

/-- The power by repeated squaring; the fuel bounds the binary digits of the exponent. -/
def powFrom (result base : Binary64) : Nat → Nat → Binary64
  | 0, _ => result
  | fuel + 1, n =>
    let result := if n % 2 = 1 then mul result base else result
    if n / 2 = 0 then result else powFrom result (mul base base) fuel (n / 2)

/-- The power with a natural exponent below `2 ^ 32`. -/
def pow (base : Binary64) (n : Nat) : Binary64 :=
  powFrom (ofNat 1) base 32 n

/-- Whether the number is neither infinite nor missing. -/
def isFinite : Binary64 → Bool
  | finite .. => true
  | _ => false

/-- Whether the number is below zero; a negative zero is not. -/
def isNegative : Binary64 → Bool
  | nan => false
  | infinite s => s
  | finite s n => s && n != 0

/-- The strict order; nothing is comparable with a missing number. -/
def lt : Binary64 → Binary64 → Bool
  | nan, _ | _, nan => false
  | infinite s, infinite t => s && !t
  | infinite s, finite .. => s
  | finite .., infinite t => !t
  | finite s a, finite t b =>
    match s, t with
    | false, false => a < b
    | true, true => b < a
    | true, false => a != 0 || b != 0
    | false, true => false

end Binary64

end WatchHub
