import WatchHub.Text.Segments

/-!
# Paths

A path as text is cut at its slashes into names. The path of something below a root is the root as
it was given and the names below it; such paths are ordered name by name, which is not the order of
their texts.
-/

namespace WatchHub

namespace PathText

/-- The names of a path. A slash at the end asks for a directory, as the name of a dot does. -/
def names (path : String) : List String :=
  let segments := (Segments.cut '/' path.toList).map String.ofList
  segments.filter (· ≠ "") ++ (if segments.getLast? = some "" then ["."] else [])

/-- Whether a path starts at the top. -/
def isAbsolute (path : String) : Bool :=
  path.toList.head? = some '/'

/-- Whether a path ends in a slash. -/
def hasSlashes (path : String) : Bool :=
  path.toList.getLast? = some '/'

/-- A path without the slashes at its end. -/
def dropSlashes (path : String) : String :=
  String.ofList (path.toList.reverse.dropWhile (· = '/')).reverse

/-- A path extended by a name, behind a slash unless there is one. -/
def join (path name : String) : String :=
  if hasSlashes path then path ++ name else path ++ "/" ++ name

/-- A path without its last name and the slash in front of it. -/
def parent (path : String) : String :=
  String.ofList ((path.toList.reverse.dropWhile (· ≠ '/')).drop 1).reverse

end PathText

/-- The path of something at or below a root. -/
structure TreePath where
  root : String
  below : List String
deriving DecidableEq, Inhabited, Repr

namespace TreePath

/-- The path as text. -/
def text (p : TreePath) : String :=
  p.below.foldl PathText.join p.root

/-- What paths are ordered by: the root and then name by name. -/
def parts (p : TreePath) : List String :=
  p.root :: p.below

end TreePath

end WatchHub
