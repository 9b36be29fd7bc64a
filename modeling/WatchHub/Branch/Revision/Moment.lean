import WatchHub.Text.Blank
import WatchHub.Text.Numeral
import WatchHub.Text.Segments

/-!
# Moments

The texts by which a revision may name a moment: a day of the calendar, or a length of time ago. Like
all reading of revisions this stands in for a library of repositories.
-/

namespace WatchHub.Moment

/-- How many days a month of a year has. -/
def daysIn (year month : Nat) : Nat :=
  if month = 2 then if year % 4 = 0 ∧ (year % 100 ≠ 0 ∨ year % 400 = 0) then 29 else 28
  else if [4, 6, 9, 11].contains month then 30
  else 31

/-- A day: the year, the month and the day of the month, with dashes between them. -/
def isDay (text : List Char) : Bool :=
  match (Segments.cut '-' text).map fun part => (part.length, Numeral.value? 10 part) with
  | [(y, some year), (m, some month), (d, some day)] =>
    y ≤ 4 && m ≤ 2 && d ≤ 2 && 1 ≤ month && month ≤ 12 && 1 ≤ day && day ≤ daysIn year month
  | _ => false

/-- The words of a text. -/
def words (text : List Char) : List (List Char) :=
  (Segments.cut ' ' (text.map fun c => if Text.isBlank c then ' ' else c)).filter (!·.isEmpty)

/-- A length of time ago: a number, a unit, and the word for the past. -/
def isAgo (text : List Char) : Bool :=
  match words text with
  | number :: _ :: ago :: _ =>
    (Numeral.readSigned? number).isSome && ago = "ago".toList
  | _ => false

/-- A text that names a moment. -/
def isMoment (text : List Char) : Bool :=
  isDay text || isAgo text

end WatchHub.Moment
