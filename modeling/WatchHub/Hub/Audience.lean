import WatchHub.Hub.Fact

/-!
# Audiences

All subscriptions that one key ever had. Live events go to those that are members; a subscription
leaves when it is removed, when the key closes them all, or when its consumer turns out to be gone
at the next insertion or removal.
-/

namespace WatchHub

/-- The subscriptions of one key. -/
structure Audience (P : Type) where
  key : Key
  rows : Table Handle (Subscription P)
deriving Repr

namespace Audience

variable {P : Type}

/-- No subscriptions yet. -/
def new (key : Key) : Audience P :=
  ⟨key, .empty⟩

/-- The subscription behind a handle, also when it is no member any more. -/
def get? (a : Audience P) (handle : Handle) : Option (Subscription P) :=
  a.rows.get? handle

/-- The audience with one subscription replaced. -/
def put (a : Audience P) (handle : Handle) (s : Subscription P) : Audience P :=
  { a with rows := a.rows.put handle s }

/-- The handles of the members. -/
def members (a : Audience P) : List Handle :=
  (a.rows.rows.filter fun row => row.2.member).map Prod.fst

/-- How many members there are. -/
def size (a : Audience P) : Nat :=
  a.members.length

/-- How many live events a member has missed. -/
def dropped? (a : Audience P) (handle : Handle) : Option Nat :=
  match a.get? handle with
  | some s => if s.member then some s.dropped else none
  | none => none

/-- Closes the members that a test picks out. -/
def closeWhere (a : Audience P) (p : Subscription P → Bool) : Audience P :=
  { a with rows := a.rows.mapValues fun _ s => if s.member && p s then s.close else s }

/-- The members that a test picks out. -/
def membersWhere (a : Audience P) (p : Subscription P → Bool) : List Handle :=
  (a.rows.rows.filter fun row => row.2.member && p row.2).map Prod.fst

/-- Closes the members whose consumers are gone. -/
def prune (a : Audience P) : Audience P × List (Fact P) :=
  (a.closeWhere Subscription.isAbandoned,
    (a.membersWhere Subscription.isAbandoned).flatMap fun h =>
      [.pruned a.key h, .closed a.key h])

/-- Adds a subscription under a fresh handle. -/
def insert (a : Audience P) (handle : Handle) (s : Subscription P) :
    Audience P × List (Fact P) :=
  let (a, facts) := a.prune
  (a.put handle s, facts)

/-- Whether a handle is a member. -/
def contains (a : Audience P) (handle : Handle) : Bool :=
  match a.get? handle with
  | some s => s.member
  | none => false

/-- Removes a member and tells whether there was one; the others are pruned. -/
def remove (a : Audience P) (handle : Handle) : Bool × Audience P × List (Fact P) :=
  if a.contains handle then
    let (b, facts) := { a with rows := a.rows.modify handle Subscription.close }.prune
    (true, b, .closed a.key handle :: facts ++ [.unsubscribed a.key handle])
  else
    let (b, facts) := a.prune
    (false, b, facts)

/-- Closes every member. -/
def closeAll (a : Audience P) : Audience P × List (Fact P) :=
  (a.closeWhere fun _ => true, a.members.map fun h => .closed a.key h)

/-- Fans a live event out to every member, none of which is waited for. -/
def emit (a : Audience P) (d : Delivery P) : Audience P × List (Fact P) :=
  ({ a with rows := a.rows.mapValues fun _ s => if s.member then (s.live d).2 else s },
    .emitted a.key d :: (a.rows.rows.filter fun row => row.2.member).map fun row =>
      .reached a.key row.1 d (row.2.live d).1)

end Audience

end WatchHub
