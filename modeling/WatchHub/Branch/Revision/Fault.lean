import WatchHub.Text.Quoted

/-!
# Faults of revisions

Why a revision does not tell one commit: a reference or an object is missing, the revision goes
where the repository has nothing, or its text breaks the rules; and the message of each. Like all
reading of revisions this stands in for a library of repositories.
-/

namespace WatchHub

/-- Why a revision does not tell one commit. -/
inductive RevisionFault where
  /-- The name is no name of a reference, or the reference cannot be read. -/
  | lookupFailed
  | noSuchRef (name : String)
  | noSuchObject (id : String)
  | noSuchPrefix (digits : String)
  /-- The commit has no such ancestor, nor any other. -/
  | noAncestor (id : String) (number : Nat)
  | noHistory (ref : String) (byDate : Bool)
  | noSibling (ref : String) (pushes : Bool)
  /-- A reference leads nowhere, or there is none. -/
  | malformed
  /-- The revision tells more than one commit. -/
  | notSingle (text : String)
  | unread (text : String)
  | signed (text : String)
  | badNumber (text : String)
  | negativeZero (text : String)
  | negativeEntry (text : String)
  | unclosed (text : String)
  | unknownKind (text : String)
  | badTime (text : String)
deriving DecidableEq, Inhabited, Repr

namespace RevisionFault

/-- What happened. -/
def message : RevisionFault → String
  | lookupFailed => "An error occurred while trying to find a reference"
  | noSuchRef name => "The ref partially named " ++ Quoted.quote name ++ " could not be found"
  | noSuchObject id => "An object with id " ++ id ++ " could not be found"
  | noSuchPrefix digits => "An object prefixed " ++ digits ++ " could not be found"
  | noAncestor id number =>
    "Commit " ++ id ++ " has 0 ancestors along the first parent and ancestor number "
      ++ Numeral.decimal number ++ " is out of range"
  | noHistory ref byDate =>
    "Reference " ++ Quoted.quoteBytes ref ++ " does not have a reference log, cannot lookup reflog "
      ++ "entry by " ++ (if byDate then "date" else "index")
  | noSibling ref pushes =>
    "Branch named " ++ ref ++ " does not have a " ++ (if pushes then "push" else "fetch")
      ++ " tracking branch configured"
  | malformed => "The rev-spec is malformed and misses a ref name"
  | notSingle text => "revspec " ++ Quoted.quoteBytes text ++ " did not resolve to a single object"
  | unread text => "A portion of the input could not be parsed: " ++ Quoted.quoteBytes text
  | signed text =>
    "Negative or explicitly positive numbers are invalid here: " ++ Quoted.quoteBytes text
  | badNumber text => "Could not parse number from " ++ Quoted.quoteBytes text
  | negativeZero text =>
    "Negative zeroes are invalid: " ++ Quoted.quoteBytes text ++ " - remove the '-'"
  | negativeEntry text =>
    "A reference name must be followed by positive numbers in '@\x7bn\x7d', got "
      ++ Quoted.quoteBytes text
  | unclosed text => "The opening brace in " ++ Quoted.quoteBytes text ++ " was not matched"
  | unknownKind text => "Cannot peel to " ++ Quoted.quoteBytes text ++ " - unknown target"
  | badTime text => "Could not parse time " ++ Quoted.quoteBytes text ++ " for revlog lookup."

end RevisionFault

end WatchHub
