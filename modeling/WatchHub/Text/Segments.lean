/-!
# Segments of a text

A text cut at every occurrence of a separator, and the segments joined again. Joining what was cut
gives the text back; cutting gives always one segment more than there are separators.
-/

namespace WatchHub.Segments

/-- Cuts a text at every separator; neighbouring separators leave an empty segment. -/
def cut (sep : Char) : List Char → List (List Char)
  | [] => [[]]
  | c :: cs =>
    if c = sep then [] :: cut sep cs
    else
      match cut sep cs with
      | [] => [[c]]
      | first :: rest => (c :: first) :: rest

/-- Joins segments with the separator between neighbours. -/
def joined (sep : Char) : List (List Char) → List Char
  | [] => []
  | [s] => s
  | s :: rest => s ++ sep :: joined sep rest

/-- Cuts a text at the first separator, if there is one. -/
def cutOnce? (sep : Char) : List Char → Option (List Char × List Char)
  | [] => none
  | c :: cs => if c = sep then some ([], cs) else (cutOnce? sep cs).map fun p => (c :: p.1, p.2)

end WatchHub.Segments
