import WatchHub.Text.Segments

/-!
# Names of references

Which texts can name a reference. A name is cut at its slashes into parts, none of which is empty,
hidden or looks like a lock; it holds no space, no control and none of the characters that have a
meaning in a revision or a pattern.
-/

namespace WatchHub.RefName

/-- A character that no name holds. -/
def isForbidden (c : Char) : Bool :=
  c.toNat ≤ 0x20 || c.toNat = 0x7F || ['\\', '^', ':', '[', '?', '~', '*'].contains c

/-- Two characters that do not stand side by side in a name. -/
def clash (c next : Char) : Bool :=
  (c = '.' && next = '.') || (c = '@' && next = '{')

/-- Whether no two neighbours clash. -/
def isCalm : List Char → Bool
  | c :: next :: rest => !clash c next && isCalm (next :: rest)
  | _ => true

/-- A part of a name: not empty, not hidden, and no lock. -/
def isPart (part : List Char) : Bool :=
  !part.isEmpty && part.head? ≠ some '.' && !".lock".toList.isSuffixOf part

/-- A text that can name a reference. -/
def isValid (name : List Char) : Bool :=
  !name.any isForbidden && isCalm name && (Segments.cut '/' name).all isPart
    && name.getLast? ≠ some '.'

/-- A letter of the names that stand beside the tree of references. -/
def isCapital (c : Char) : Bool :=
  (0x41 ≤ c.toNat && c.toNat ≤ 0x5A) || c = '_'

/-- A valid name that is whole: it has a slash, or it is one of those that stand beside the tree. -/
def isWhole (name : List Char) : Bool :=
  isValid name && (name.contains '/' || name.all isCapital)

/-- Where a reference may be kept that is asked for by a name, the first place in front. -/
def places (name : String) : List String :=
  let below := ["refs/" ++ name, "refs/tags/" ++ name, "refs/heads/" ++ name,
    "refs/remotes/" ++ name, "refs/remotes/" ++ name ++ "/HEAD"]
  if "refs/".toList.isPrefixOf name.toList then [name]
  else if name.toList.all isCapital then name :: below
  else below

end WatchHub.RefName
