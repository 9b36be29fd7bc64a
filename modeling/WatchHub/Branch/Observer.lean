import WatchHub.Poll.Config

/-!
# The branch observer

Watches the tip of one branch of a remote repository through a local clone, by polling. It may also
fast-forward the clone, and it may log in.
-/

namespace WatchHub

/-- A name and a password for a remote. -/
structure Login where
  username : String
  password : String
deriving DecidableEq, Inhabited, Repr

namespace Login

/-- The login with its password hidden. -/
def describe (l : Login) : String :=
  Quoted.record "BasicAuth"
    [("username", Quoted.quote l.username), ("password", Quoted.quote "***")]

end Login

/-- An observer of one branch of a remote repository. -/
structure BranchObserver where
  /-- The directory of the local clone. -/
  repo : String
  remote : String
  branch : String
  /-- Whether a moved branch is fast-forwarded. -/
  pull : Bool
  login : Option Login
  poll : PollConfig
deriving DecidableEq, Inhabited, Repr

namespace BranchObserver

/-- The name in failures and in the journal. -/
def name : String := "git"

/-- An observer of a branch of `origin` that neither pulls nor logs in. -/
def new (repo branch : String) (poll : PollConfig) : BranchObserver :=
  ⟨repo, "origin", branch, false, none, poll⟩

/-- The observer with another remote; an empty name changes nothing. -/
def withRemote (o : BranchObserver) (remote : String) : BranchObserver :=
  if remote = "" then o else { o with remote := remote }

/-- The observer with pulling switched. -/
def withPull (o : BranchObserver) (pull : Bool) : BranchObserver :=
  { o with pull := pull }

/-- The observer with a login. -/
def withLogin (o : BranchObserver) (login : Login) : BranchObserver :=
  { o with login := some login }

/-- The observer field by field. -/
def describe (o : BranchObserver) : String :=
  Quoted.record "GitObserver"
    [("repo", Quoted.quote o.repo), ("remote", Quoted.quote o.remote),
      ("branch", Quoted.quote o.branch), ("pull", if o.pull then "true" else "false"),
      ("auth", Quoted.optional (o.login.map Login.describe)), ("poll", o.poll.describe)]

end BranchObserver

end WatchHub
