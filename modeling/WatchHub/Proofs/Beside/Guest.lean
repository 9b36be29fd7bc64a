import WatchHub.Proofs.Hub.Calls

/-!
# A run without one subscription

From a run the steps of one subscription are left out: the calls that were made for it, the steps of
its population and those of its consumer. All other steps are taken in their order. As a hub numbers its
calls and its handles one after the other, whoever comes later has a number less.
-/

namespace WatchHub

variable {P : Type}

/-- The subscription that a run goes without: its handle and the calls that were made for it. -/
structure Guest where
  handle : Handle
  made : CallId → Bool

namespace Guest

/-- The guest that came by a call of a run: for it this call was made, and every one to unsubscribe
it. -/
def ofRun (actions : List (Action P)) (id : CallId) (handle : Handle) : Guest where
  handle := handle
  made id' := id' = id || match (requests actions)[id']? with
    | some (.unsubscribe _ handle') => handle' = handle
    | _ => false

variable (g : Guest)

/-- The number of a call where those of the guest are not counted. -/
def callId (id : CallId) : CallId :=
  (List.range id).countP fun id => !g.made id

/-- The handle of another subscription where the guest draws none. -/
def rename (handle : Handle) : Handle :=
  if handle.number < g.handle.number then handle else ⟨handle.number - 1⟩

/-- The request of somebody else. -/
def request : Request → Request
  | .unsubscribe key handle => .unsubscribe key (g.rename handle)
  | request => request

/-- The place of a call of somebody else. -/
def call : Call → Call
  | .joining key handle checkpoint => .joining key (g.rename handle) checkpoint
  | .leaving key handle => .leaving key (g.rename handle)
  | .removing key handle => .removing key (g.rename handle)
  | call => call

/-- A step after some calls were made, if it is not one of the guest. -/
def action? (made : CallId) : Action P → Option (Action P)
  | .start request => if g.made made then none else some (.start (g.request request))
  | .resume id => if g.made id then none else some (.resume (g.callId id))
  | .expire id looks => if g.made id then none else some (.expire (g.callId id) looks)
  | .signal id name => if g.made id then none else some (.signal (g.callId id) name)
  | .populate key handle move =>
    if handle = g.handle then none else some (.populate key (g.rename handle) move)
  | .receive key handle => if handle = g.handle then none else some (.receive key (g.rename handle))
  | .hangUp key handle => if handle = g.handle then none else some (.hangUp key (g.rename handle))
  | action => some action

/-- The steps of a run without those of the guest, after some calls were made. -/
def without : CallId → List (Action P) → List (Action P)
  | _, [] => []
  | made, action :: actions =>
    (g.action? made action).toList ++
      without (made + (action.request?.elim 0 fun _ => 1)) actions

lemma callId_succ (id : CallId) :
    g.callId (id + 1) = g.callId id + if g.made id then 0 else 1 := by
  cases h : g.made id <;> simp [callId, List.range_succ, h]

lemma callId_succ_own {id : CallId} (h : g.made id = true) : g.callId (id + 1) = g.callId id := by
  simp [callId_succ, h]

lemma callId_succ_other {id : CallId} (h : g.made id = false) :
    g.callId (id + 1) = g.callId id + 1 := by
  simp [callId_succ, h]

lemma callId_mono {id id' : CallId} (h : id ≤ id') : g.callId id ≤ g.callId id' := by
  induction h with
  | refl => exact Nat.le_refl _
  | step _ ih =>
    rw [callId_succ]
    exact Nat.le_trans ih (Nat.le_add_right _ _)

/-- The calls of others keep their order. -/
lemma callId_lt {id id' : CallId} (hother : g.made id = false) (h : id < id') :
    g.callId id < g.callId id' := by
  have := g.callId_mono (Nat.succ_le_of_lt h)
  rw [callId_succ_other g hother] at this
  exact this

lemma callId_ne {id id' : CallId} (h : g.made id = false) (h' : g.made id' = false)
    (hne : id ≠ id') : g.callId id ≠ g.callId id' := by
  rcases Nat.lt_or_gt_of_ne hne with hlt | hlt
  · exact Nat.ne_of_lt (g.callId_lt h hlt)
  · exact Nat.ne_of_gt (g.callId_lt h' hlt)

/-- Two others have different handles. -/
lemma rename_ne {handle handle' : Handle} (h : handle ≠ g.handle) (h' : handle' ≠ g.handle)
    (hne : handle ≠ handle') : g.rename handle ≠ g.rename handle' := by
  obtain ⟨n⟩ := handle
  obtain ⟨n'⟩ := handle'
  have hn : n ≠ g.handle.number := fun heq => h (by rw [heq])
  have hn' : n' ≠ g.handle.number := fun heq => h' (by rw [heq])
  have hne' : n ≠ n' := fun heq => hne (by rw [heq])
  unfold rename
  intro heq
  have := congrArg Handle.number heq
  split at this <;> split at this <;> dsimp only at * <;> omega

lemma rename_eq_iff {handle handle' : Handle} (h : handle ≠ g.handle) (h' : handle' ≠ g.handle) :
    g.rename handle = g.rename handle' ↔ handle = handle' :=
  ⟨fun heq => Decidable.byContradiction fun hne => g.rename_ne h h' hne heq, fun heq => heq ▸ rfl⟩

end Guest

/-- Whether a step is one of a population. -/
def Action.isPopulation : Action P → Bool
  | .populate .. => true
  | _ => false

namespace Hub

/-- Makes steps one after the other; a population that cannot make its step is passed over. -/
def play (h : Hub P) : List (Action P) → Option (Outcome P)
  | [] => some (h, [])
  | action :: actions =>
    match h.step action with
    | some (h', told) => (h'.play actions).map fun out => (out.1, told ++ out.2)
    | none => if action.isPopulation then h.play actions else none

/-- The steps of populations that are passed over. -/
def skipped (h : Hub P) : List (Action P) → List (Action P)
  | [] => []
  | action :: actions =>
    match h.step action with
    | some (h', _) => h'.skipped actions
    | none => action :: h.skipped actions

/-- What the consumer of a subscription finds in a step. -/
def found? (h : Hub P) (key : Key) (handle : Handle) : Action P → Option (Receipt P)
  | .receive key' handle' =>
    if key' = key ∧ handle' = handle then (h.subscription? key handle).map fun s => s.receive.1
    else none
  | _ => none

/-- What the consumer of a subscription finds along the steps, each time that it asks. -/
def finds (h : Hub P) (key : Key) (handle : Handle) : List (Action P) → List (Receipt P)
  | [] => []
  | action :: actions =>
    (h.found? key handle action).toList ++
      match h.step action with
      | some (h', _) => h'.finds key handle actions
      | none => h.finds key handle actions

/-- Along a run the population of a subscription looks for a log of its key where there is none, so it
opens one. -/
def Opens (h : Hub P) (key : Key) (handle : Handle) (actions : List (Action P)) : Prop :=
  ∃ before epoch after h₀ told, actions = before ++ .populate key handle (.locate epoch) :: after ∧
    h.run before = some (h₀, told) ∧ h₀.log.get? key = none

end Hub

end WatchHub
