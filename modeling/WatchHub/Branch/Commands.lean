import WatchHub.Branch.Observer
import WatchHub.Branch.Revision
import WatchHub.Failure
import WatchHub.Text.Base64
import WatchHub.Text.Blank
import WatchHub.Text.Utf8

/-!
# The commands of a branch observer

What a branch observer asks of its clone: the arguments and settings of the commands that it runs
there, the name of the reference that it reads, and the failures that come of them. A login travels
in the settings of a command and never in its arguments.
-/

namespace WatchHub

namespace Login

/-- The header that logs in. -/
def header (l : Login) : String :=
  "Authorization: Basic "
    ++ String.ofList (Base64.encode (l.username ++ ":" ++ l.password).toUTF8.toList)

end Login

/-- The commands that a branch observer runs in its clone. -/
inductive BranchCommand where
  | fetch
  | pull
deriving DecidableEq, Inhabited, Repr

namespace BranchCommand

/-- The name of a command. -/
def name : BranchCommand → String
  | fetch => "fetch"
  | pull => "pull"

/-- The options of a command. -/
def options : BranchCommand → List String
  | fetch => ["--quiet"]
  | pull => ["--ff-only", "--quiet"]

/-- The failure of a command that ended with a status and wrote something to its error stream. -/
def failure (c : BranchCommand) (status : Nat) (errors : List UInt8) : ObserverFailure :=
  .git ("git " ++ c.name ++ " failed (exit status: " ++ Numeral.decimal status ++ "): "
    ++ String.ofList (Text.trim (Utf8.read errors)))

end BranchCommand

namespace BranchObserver

/-- The reference that holds the last fetched tip; it is read as a revision. -/
def trackingRef (o : BranchObserver) : String :=
  "refs/remotes/" ++ o.remote ++ "/" ++ o.branch

/-- The arguments of a command. -/
def arguments (o : BranchObserver) (c : BranchCommand) : List String :=
  c.name :: c.options ++ [o.remote, o.branch]

/-- The number, key and value of the one setting that a login adds to a command. -/
def settings (o : BranchObserver) : Option (String × String × String) :=
  o.login.map fun l => ("1", "http.extraHeader", l.header)

/-- The clone is no repository. -/
def notARepository (o : BranchObserver) : ObserverFailure :=
  .git ("\"" ++ o.repo ++ "\" does not appear to be a git repository")

/-- What the revision that is tracked tells in a repository with certain files. -/
def readTip (o : BranchObserver) (files : RefFiles) : Except ObserverFailure String :=
  match Revision.resolve files o.trackingRef with
  | .ok commit => .ok commit
  | .error fault => .error (.git fault.message)

end BranchObserver

end WatchHub
