/-!
# Numerals

Numbers written in a base, most significant digit first, and read back. Reading accepts one leading
plus sign, digits of either case and any number of leading zeros.
-/

namespace WatchHub.Numeral

/-- The digits of a number in a base, least significant first; the fuel bounds their count. -/
def digitsUp (base : Nat) : Nat → Nat → List Nat
  | 0, _ => []
  | fuel + 1, n => if n < base then [n] else n % base :: digitsUp base fuel (n / base)

/-- The digits of a number in a base up to sixteen as characters, without leading zeros. -/
def digits (base n : Nat) : List Char :=
  (digitsUp base (n + 1) n).reverse.map Nat.digitChar

/-- A number in decimal. -/
def decimal (n : Nat) : String :=
  String.ofList (digits 10 n)

/-- An integer in decimal, with a minus sign if it is negative. -/
def signed : Int → String
  | .ofNat n => decimal n
  | .negSucc n => "-" ++ decimal (n + 1)

/-- Fills a run of digits with zeros on the left up to a width. -/
def padLeft (width : Nat) (cs : List Char) : List Char :=
  List.replicate (width - cs.length) '0' ++ cs

/-- A number in hexadecimal with at least the given number of digits. -/
def hex (width n : Nat) : List Char :=
  padLeft width (digits 16 n)

/-- The value of a character as a digit of the base, if it is one. -/
def digitValue? (base : Nat) (c : Char) : Option Nat :=
  let n := c.toNat
  let value? :=
    if 48 ≤ n ∧ n ≤ 57 then some (n - 48)
    else if 97 ≤ n ∧ n ≤ 122 then some (n - 87)
    else if 65 ≤ n ∧ n ≤ 90 then some (n - 55)
    else none
  value?.filter (· < base)

/-- Continues a numeral whose digits so far have the given value. -/
def valueFrom? (base : Nat) : Nat → List Char → Option Nat
  | acc, [] => some acc
  | acc, c :: cs =>
    match digitValue? base c with
    | some d => valueFrom? base (acc * base + d) cs
    | none => none

/-- The value of one or more digits. -/
def value? (base : Nat) : List Char → Option Nat
  | [] => none
  | cs => valueFrom? base 0 cs

/-- Removes one leading plus sign. -/
def dropPlus : List Char → List Char
  | '+' :: cs => cs
  | cs => cs

/-- Reads a number below 2^64: an optional plus sign, then one or more digits of the base. -/
def readWord? (base : Nat) (cs : List Char) : Option Nat :=
  (value? base (dropPlus cs)).filter (· < UInt64.size)

/-- Reads an integer that fits 64 bits: an optional sign, then one or more decimal digits. -/
def readSigned? : List Char → Option Int
  | '-' :: cs =>
    ((value? 10 cs).filter (· ≤ 9223372036854775808)).map fun n => -Int.ofNat n
  | cs => ((value? 10 (dropPlus cs)).filter (· < 9223372036854775808)).map Int.ofNat

end WatchHub.Numeral
