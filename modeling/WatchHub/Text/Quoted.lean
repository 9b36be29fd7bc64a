import WatchHub.Text.Graphic
import WatchHub.Text.Numeral

/-!
# Quoted text

A text between double quotes. The quote and the backslash are escaped by a backslash, the common
controls by a letter, and every other character that is not graphic or would join its neighbour by
its code point in braces.
-/

namespace WatchHub.Quoted

/-- The code point of a character, in braces behind a backslash and a `u`. -/
def codePoint (c : Char) : List Char :=
  '\\' :: 'u' :: '{' :: Numeral.digits 16 c.toNat ++ ['}']

/-- How one character is written between double quotes. -/
def escape (c : Char) : List Char :=
  if c = '"' then ['\\', '"']
  else if c = '\\' then ['\\', '\\']
  else if c = '\n' then ['\\', 'n']
  else if c = '\r' then ['\\', 'r']
  else if c = '\t' then ['\\', 't']
  else if c.toNat = 0 then ['\\', '0']
  else if Text.isGraphic c && !Text.isExtending c then [c]
  else codePoint c

/-- A text in double quotes. -/
def quote (s : String) : String :=
  String.ofList ('"' :: s.toList.flatMap escape ++ ['"'])

/-- How one character is written where a text may be any bytes: the apostrophe is escaped too, and the
controls without a letter by the two hexadecimal digits of their byte. -/
def escapeInBytes (c : Char) : List Char :=
  let n := c.toNat
  if n = 0x27 then ['\\', c]
  else if (0x1 ≤ n ∧ n ≤ 0x19 ∨ n = 0x7F) ∧ n ≠ 0x9 ∧ n ≠ 0xA ∧ n ≠ 0xD then
    '\\' :: 'x' :: Numeral.hex 2 n
  else escape c

/-- A text in double quotes where it may be any bytes. -/
def quoteBytes (s : String) : String :=
  String.ofList ('"' :: s.toList.flatMap escapeInBytes ++ ['"'])

/-- Texts in double quotes as a bracketed list. -/
def list (items : List String) : String :=
  "[" ++ String.intercalate ", " items ++ "]"

/-- A record's name followed by its fields, each written as name and text. -/
def record (name : String) (fields : List (String × String)) : String :=
  name ++ " \x7b " ++ String.intercalate ", " (fields.map fun f => f.1 ++ ": " ++ f.2) ++ " \x7d"

/-- An optional value, present or not. -/
def optional : Option String → String
  | some s => "Some(" ++ s ++ ")"
  | none => "None"

end WatchHub.Quoted
