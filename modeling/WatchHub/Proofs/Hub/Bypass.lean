import WatchHub.Proofs.Hub.Calls

/-!
# A run without one call

From a run the steps of one call are left out; whoever calls later has a number less. If the call did
nothing but get its answer, nobody else is told anything different, and the hub comes to the same state
(`Hub.Bypassed.run`).
-/

namespace WatchHub

variable {P : Type}

namespace Hub

/-- The number of a call where another one is not made. -/
def earlier (id k : Nat) : Nat :=
  if k ≤ id then k else k - 1

variable {id k k' : Nat}

lemma earlier_ne (hk : k ≠ id) (hk' : k' ≠ id) (hne : k ≠ k') : earlier id k ≠ earlier id k' := by
  unfold earlier
  split <;> split <;> omega

lemma earlier_succ (hne : k ≠ id) : earlier id (k + 1) = earlier id k + 1 := by
  unfold earlier
  split <;> split <;> omega

lemma earlier_succ_self : earlier id (id + 1) = earlier id id := by
  simp [earlier]

end Hub

open Hub (earlier)

namespace Action

/-- Whether a step is one of a call, after some calls were made. -/
def isOf (id made : CallId) : Action P → Bool
  | start _ => made = id
  | resume k | expire k _ | signal k _ => k = id
  | _ => false

/-- A step of somebody else where a call is not made. -/
def bypass (id : CallId) : Action P → Action P
  | resume k => .resume (earlier id k)
  | expire k looks => .expire (earlier id k) looks
  | signal k name => .signal (earlier id k) name
  | action => action

/-- The steps of a run without those of a call, after some calls were made. -/
def without (id : CallId) : CallId → List (Action P) → List (Action P)
  | _, [] => []
  | made, action :: actions =>
    let rest := without id (made + (action.request?.elim 0 fun _ => 1)) actions
    if action.isOf id made then rest else action.bypass id :: rest

end Action

/-- What is told where a call is not made. -/
def Fact.bypass? (id : CallId) : Fact P → Option (Fact P)
  | .returned k reply => if k = id then none else some (.returned (earlier id k) reply)
  | x => some x

lemma Fact.filterMap_bypass?_of_quiet (id : CallId) {told : List (Fact P)}
    (htold : ∀ x ∈ told, ∀ k reply, x ≠ .returned k reply) :
    told.filterMap (Fact.bypass? id) = told := by
  induction told with
  | nil => rfl
  | cons x told ih =>
    have hx : x.bypass? id = some x := by
      have := htold x (List.mem_cons_self ..)
      cases x <;> first | rfl | exact absurd rfl (this _ _)
    rw [List.filterMap_cons_some hx, ih fun y hy => htold y (List.mem_cons_of_mem _ hy)]

namespace Hub

/-- The hub with other calls in progress. -/
def withCalls (h : Hub P) (calls : Table CallId Call) (made : CallId) : Hub P :=
  { h with calls := calls, made := made }

/-- Calls of which one has come to another place, or to its end. -/
def moved (calls : Table CallId Call) (k : CallId) : Option Call → Table CallId Call
  | some call => calls.put k call
  | none => calls.erase k

lemma get?_moved_self (calls : Table CallId Call) (k : CallId) (call? : Option Call) :
    (moved calls k call?).get? k = call? := by
  cases call? with
  | none => exact (Table.get?_erase ..).trans (if_pos rfl)
  | some call => exact Table.get?_put_self ..

lemma get?_moved_ne (calls : Table CallId Call) {k k' : CallId} (hne : k ≠ k')
    (call? : Option Call) : (moved calls k call?).get? k' = calls.get? k' := by
  cases call? with
  | none => exact (Table.get?_erase ..).trans (if_neg hne)
  | some call => exact Table.get?_put_ne _ hne _

section Steps

variable (id : CallId) (h : Hub P) (calls : Table CallId Call) (made k : CallId)

/-- What a step of a call makes of the hub with other calls in progress. -/
def carry (out : Outcome P) : Outcome P :=
  (out.1.withCalls (moved calls (earlier id k) (out.1.calls.get? k)) made,
    out.2.filterMap (Fact.bypass? id))

variable {k}

lemma carry_reply (hk : k ≠ id) (answer : Reply) (facts : List (Fact P)) :
    carry id calls made k (h.reply k answer facts) =
      (h.withCalls calls made).reply (earlier id k) answer (facts.filterMap (Fact.bypass? id)) := by
  simp [carry, reply, withCalls, Table.get?_erase, moved, Fact.bypass?, hk]

lemma carry_putCall (call : Call) (facts : List (Fact P)) :
    carry id calls made k (h.putCall k call, facts) =
      ((h.withCalls calls made).putCall (earlier id k) call,
        facts.filterMap (Fact.bypass? id)) := by
  simp [carry, putCall, withCalls, moved]

lemma quiet_obituary (key : Key) :
    (h.obituary key).filterMap (Fact.bypass? id) = h.obituary key :=
  Fact.filterMap_bypass?_of_quiet id fun _ hx k reply heq =>
    not_returned_obituary h key k reply (heq ▸ hx)

lemma carry_register (hk : k ≠ id) (key : Key) (observer : ObserverRef) :
    (h.withCalls calls made).register (earlier id k) key observer =
      carry id calls made k (h.register k key observer) := by
  unfold Hub.register
  simp only [show (h.withCalls calls made).stopped = h.stopped from rfl,
    show (h.withCalls calls made).bound? key = h.bound? key from rfl]
  split
  · exact (carry_reply id h calls made hk _ []).symm
  · split
    · exact (carry_reply id h calls made hk _ []).symm
    · rw [carry_reply id _ calls made hk]
      rfl

lemma carry_find (hk : k ≠ id) (key : Key) (checkpoint : Option Version) :
    (h.withCalls calls made).find (earlier id k) key checkpoint =
      carry id calls made k (h.find k key checkpoint) := by
  unfold Hub.find
  simp only [show (h.withCalls calls made).bound? key = h.bound? key from rfl,
    show (h.withCalls calls made).config = h.config from rfl]
  split
  · split
    · rw [carry_putCall]
      rfl
    · rw [carry_putCall]
      rfl
  · exact (carry_reply id h calls made hk _ []).symm

lemma carry_join (hk : k ≠ id) (key : Key) (handle : Handle) (checkpoint : Option Version) :
    (h.withCalls calls made).join (earlier id k) key handle checkpoint =
      carry id calls made k (h.join k key handle checkpoint) := by
  unfold Hub.join
  simp only [show (h.withCalls calls made).stopped = h.stopped from rfl,
    show (h.withCalls calls made).registration? key = h.registration? key from rfl]
  split
  · exact (carry_reply id h calls made hk _ []).symm
  · split
    · rename_i r _
      have hquiet : (r.audience.prune.2 ++ [Fact.subscribed key handle checkpoint]).filterMap
          (Fact.bypass? id) = r.audience.prune.2 ++ [.subscribed key handle checkpoint] := by
        apply Fact.filterMap_bypass?_of_quiet
        rintro _ hx _ _ rfl
        rcases List.mem_append.1 hx with hx | hx
        · obtain ⟨_, hx | hx⟩ := Audience.mem_prune hx <;> cases hx
        · simp at hx
      rw [carry_reply id _ calls made hk]
      simp only [Audience.insert]
      rw [hquiet]
      rfl
    · exact (carry_reply id h calls made hk _ []).symm

lemma carry_leave (hk : k ≠ id) (key : Key) (handle : Handle) :
    (h.withCalls calls made).leave (earlier id k) key handle =
      carry id calls made k (h.leave k key handle) := by
  unfold Hub.leave
  simp only [show (h.withCalls calls made).bound? key = h.bound? key from rfl]
  split
  · exact (carry_putCall id _ calls made _ []).symm
  · exact (carry_reply id h calls made hk _ []).symm

lemma carry_remove (hk : k ≠ id) (key : Key) (handle : Handle) :
    (h.withCalls calls made).remove (earlier id k) key handle =
      carry id calls made k (h.remove k key handle) := by
  unfold Hub.remove
  simp only [show (h.withCalls calls made).registration? key = h.registration? key from rfl]
  split
  · rename_i r _
    have hquiet : (r.audience.remove handle).2.2.filterMap (Fact.bypass? id) =
        (r.audience.remove handle).2.2 := by
      apply Fact.filterMap_bypass?_of_quiet
      rintro _ hx _ _ rfl
      obtain ⟨_, hx | hx | hx⟩ := Audience.mem_remove hx <;> cases hx
    simp only [carry_reply id _ calls made hk, hquiet]
    rfl
  · exact (carry_reply id h calls made hk _ []).symm

lemma carry_await (left drained : List Key) :
    (h.withCalls calls made).await (earlier id k) left drained =
      (h.await k left drained).map (carry id calls made k) := by
  unfold Hub.await
  cases left with
  | nil => exact congrArg some (carry_putCall id h calls made _ []).symm
  | cons key left =>
    simp only [show (h.withCalls calls made).hasFinished key = h.hasFinished key from rfl]
    split
    · rw [Option.map_some, carry_putCall, quiet_obituary]
      rfl
    · rfl

lemma carry_endGrace (looks : Nat) (left drained : List Key) :
    (h.withCalls calls made).endGrace (earlier id k) looks left drained =
      carry id calls made k (h.endGrace k looks left drained) := by
  have hquiet : ∀ keys : List Key, ((keys.flatMap h.obituary).filterMap (Fact.bypass? id)) =
      keys.flatMap h.obituary := fun keys =>
    Fact.filterMap_bypass?_of_quiet id fun _ hx k reply heq => by
      obtain ⟨key, -, hx⟩ := List.mem_flatMap.1 hx
      exact not_returned_obituary h key k reply (heq ▸ hx)
  unfold Hub.endGrace
  simp only [show (h.withCalls calls made).hasFinished = h.hasFinished from rfl,
    show (h.withCalls calls made).obituary = h.obituary from rfl]
  split
  · rw [carry_putCall, hquiet]
  · rw [carry_putCall, List.filterMap_append, hquiet]
    rfl

lemma carry_close (hk : k ≠ id) (left : List Key) (drained : Nat) (answer : Reply) :
    (h.withCalls calls made).close (earlier id k) left drained answer =
      carry id calls made k (h.close k left drained answer) := by
  unfold Hub.close
  cases left with
  | nil =>
    dsimp only
    rw [carry_reply id _ calls made hk]
    rfl
  | cons key left =>
    simp only [show (h.withCalls calls made).registration? key = h.registration? key from rfl]
    split
    · rename_i r _
      have hquiet : r.audience.closeAll.2.filterMap (Fact.bypass? id) = r.audience.closeAll.2 := by
        apply Fact.filterMap_bypass?_of_quiet
        rintro _ hx _ _ rfl
        obtain ⟨_, hx⟩ := Audience.mem_closeAll hx
        cases hx
      simp only [carry_putCall, hquiet]
      rfl
    · exact (carry_putCall id _ calls made _ []).symm

/-- A call goes on in the same way whatever other calls there are. -/
lemma carry_resume (hk : k ≠ id) (hcall : calls.get? (earlier id k) = h.calls.get? k) :
    (h.withCalls calls made).resume (earlier id k) =
      (h.resume k).map (carry id calls made k) := by
  unfold Hub.resume
  rw [show (h.withCalls calls made).calls = calls from rfl, hcall]
  cases h.calls.get? k with
  | none => rfl
  | some call =>
    cases call with
    | registering key observer => exact congrArg some (carry_register id h calls made hk ..)
    | finding key checkpoint => exact congrArg some (carry_find id h calls made hk ..)
    | joining key handle checkpoint => exact congrArg some (carry_join id h calls made hk ..)
    | leaving key handle => exact congrArg some (carry_leave id h calls made hk ..)
    | removing key handle => exact congrArg some (carry_remove id h calls made hk ..)
    | draining =>
      simp only [Hub.drain, Option.map_some, carry_putCall]
      rfl
    | awaiting left drained => exact carry_await id h calls made ..
    | closing left drained answer => exact congrArg some (carry_close id h calls made hk ..)
    | guarding =>
      simp only [show (h.withCalls calls made).stopped = h.stopped from rfl]
      split
      · exact congrArg some (carry_reply id h calls made hk _ []).symm
      · rfl
    | broken => rfl

lemma carry_expire (hcall : calls.get? (earlier id k) = h.calls.get? k) (looks : Nat) :
    (h.withCalls calls made).expire (earlier id k) looks =
      (h.expire k looks).map (carry id calls made k) := by
  unfold Hub.expire
  rw [show (h.withCalls calls made).calls = calls from rfl, hcall]
  cases h.calls.get? k with
  | none => rfl
  | some call =>
    cases call with
    | awaiting left drained => exact congrArg some (carry_endGrace id h calls made ..)
    | _ => rfl

lemma carry_signal (hcall : calls.get? (earlier id k) = h.calls.get? k) (name : String) :
    (h.withCalls calls made).signal (earlier id k) name =
      (h.signal k name).map (carry id calls made k) := by
  unfold Hub.signal
  rw [show (h.withCalls calls made).calls = calls from rfl, hcall]
  cases h.calls.get? k with
  | none => rfl
  | some call =>
    cases call with
    | guarding =>
      simp only [requestShutdown, Option.map_some, carry_putCall]
      rfl
    | _ => rfl

end Steps

variable {id : CallId} {h h' h₀ : Hub P} {action : Action P} {told : List (Fact P)}

lemma isOf_iff : action.isOf id h.made = true ↔ h.caller? action = some id := by
  cases action <;> simp [Action.isOf, caller?]

lemma start_withCalls (hne : h.made ≠ id) (calls : Table CallId Call) (request : Request) :
    (h.withCalls calls (earlier id h.made)).start request =
      carry id calls (earlier id h.made + 1) h.made (h.start request) := by
  cases request with
  | subscribe key checkpoint =>
    unfold Hub.start
    simp only [show (h.withCalls calls (earlier id h.made)).stopped = h.stopped from rfl]
    split
    · rw [carry_reply id _ calls _ hne]
      rfl
    · rw [carry_putCall]
      rfl
  | _ =>
    simp only [Hub.start, requestShutdown, carry_putCall]
    rfl

lemma within_withCalls (h : Hub P) (calls : Table CallId Call) (made : CallId) (key : Key)
    (f : Registration P → Option (Ingested P)) :
    (h.withCalls calls made).within key f =
      (h.within key f).map fun out => (out.1.withCalls calls made, out.2) := by
  unfold Hub.within
  rw [show (h.withCalls calls made).registration? key = h.registration? key from rfl]
  cases h.registration? key with
  | none => rfl
  | some r => cases hf : f r <;> simp [hf, withCalls, putRegistration]

lemma record_withCalls (h : Hub P) (calls : Table CallId Call) (made : CallId) (place : Nat) :
    (h.withCalls calls made).record place =
      (h.record place).map fun out => (out.1.withCalls calls made, out.2) := by
  unfold Hub.record
  rw [show (h.withCalls calls made).appending = h.appending from rfl]
  cases h.appending[place]? <;> rfl

/-- The hub in the run without a call, and the hub: they differ in the calls alone. -/
structure Bypassed (id : CallId) (h₀ h : Hub P) : Prop where
  same : h₀ = h.withCalls h₀.calls h₀.made
  made_eq : h₀.made = earlier id h.made
  calls : ∀ k, k ≠ id → h₀.calls.get? (earlier id k) = h.calls.get? k

lemma Bypassed.new (id : CallId) (config : HubConfig) :
    Bypassed id (.new config) (.new config : Hub P) where
  same := rfl
  made_eq := by simp [Hub.new, earlier]
  calls _ _ := rfl

lemma Bypassed.carry {calls : Table CallId Call} {made : CallId} {k : CallId}
    (hcalls : ∀ k, k ≠ id → calls.get? (earlier id k) = h.calls.get? k)
    (hmade : made = earlier id h'.made) (hc : Conducts h action told h')
    (hcaller : h.caller? action = some k) (hk : k ≠ id) :
    Bypassed id (Hub.carry id calls made k (h', told)).1 h' where
  same := rfl
  made_eq := hmade
  calls k' hk' := by
    simp only [Hub.carry, withCalls]
    by_cases heq : k' = k
    · rw [heq, get?_moved_self]
    · rw [get?_moved_ne _ (earlier_ne hk hk' (Ne.symm heq)), hcalls k' hk',
        hc.calls_of_ne (by rw [hcaller]; simpa using Ne.symm heq)]

/-- A step of somebody else is made there as well. -/
lemma Bypassed.step_other (hb : Bypassed id h₀ h) (hs : h.Sound)
    (hstep : h.step action = some (h', told)) (hother : action.isOf id h.made = false) :
    ∃ h₀', h₀.step (action.bypass id) = some (h₀', told.filterMap (Fact.bypass? id)) ∧
      Bypassed id h₀' h' := by
  obtain ⟨calls, made, rfl⟩ : ∃ calls made, h₀ = h.withCalls calls made := ⟨_, _, hb.same⟩
  obtain ⟨-, hmade, hcalls⟩ := hb
  change made = earlier id h.made at hmade
  change ∀ k, k ≠ id → calls.get? (earlier id k) = h.calls.get? k at hcalls
  by_cases hcall : action.isCall = true
  · have hconducts : Conducts h action told h' := Conducts.of_step hstep hcall
    cases action with
    | start request =>
      have hne : h.made ≠ id := by simpa [Action.isOf] using hother
      have hmade' : earlier id h.made + 1 = earlier id h'.made := by
        rw [hconducts.made_eq]
        exact (earlier_succ hne).symm
      have hout : h.start request = (h', told) := Option.some.inj hstep
      refine ⟨_, ?_, .carry hcalls hmade' hconducts rfl hne⟩
      rw [hmade]
      exact congrArg some ((start_withCalls hne calls request).trans (congrArg _ hout))
    | resume k =>
      have hne : k ≠ id := by simpa [Action.isOf] using hother
      refine ⟨_, (carry_resume id h calls made hne (hcalls k hne)).trans
        (congrArg _ (show h.resume k = some (h', told) from hstep)), ?_⟩
      exact .carry hcalls (hmade.trans (congrArg _ hconducts.made_eq.symm)) hconducts rfl hne
    | expire k looks =>
      have hne : k ≠ id := by simpa [Action.isOf] using hother
      refine ⟨_, (carry_expire id h calls made (hcalls k hne) looks).trans
        (congrArg _ (show h.expire k looks = some (h', told) from hstep)), ?_⟩
      exact .carry hcalls (hmade.trans (congrArg _ hconducts.made_eq.symm)) hconducts rfl hne
    | signal k name =>
      have hne : k ≠ id := by simpa [Action.isOf] using hother
      refine ⟨_, (carry_signal id h calls made (hcalls k hne) name).trans
        (congrArg _ (show h.signal k name = some (h', told) from hstep)), ?_⟩
      exact .carry hcalls (hmade.trans (congrArg _ hconducts.made_eq.symm)) hconducts rfl hne
    | _ => cases hcall
  · have hignores : Ignores h h' := Ignores.of_step hstep (eq_false_of_ne_true hcall)
    have hquiet : told.filterMap (Fact.bypass? id) = told :=
      Fact.filterMap_bypass?_of_quiet id fun x hx k reply heq =>
        hcall ((hs.changes hstep).isCall_of_told hx (by rw [heq]; rfl))
    have hbypassed : Bypassed id (h'.withCalls calls made) h' :=
      ⟨rfl, hignores.made_eq ▸ hmade, fun k hk => hignores.calls_eq ▸ hcalls k hk⟩
    refine ⟨h'.withCalls calls made, ?_, hbypassed⟩
    rw [hquiet]
    cases action with
    | start | resume | expire | signal => exact absurd rfl hcall
    | locate | clear =>
      cases hstep
      rfl
    | record place =>
      exact (record_withCalls h calls made place).trans (congrArg _ hstep)
    | ingest | populate | receive | hangUp | send | endStream =>
      exact (within_withCalls h calls made _ _).trans (congrArg _ hstep)

/-- Nothing has changed but where the calls stand and how many handles were drawn. -/
structure Unmoved (h h' : Hub P) : Prop where
  config_eq : h'.config = h.config
  log_eq : h'.log = h.log
  stopped_eq : h'.stopped = h.stopped
  registrations_eq : h'.registrations = h.registrations
  appending_eq : h'.appending = h.appending

/-- A step of the call itself is left out. -/
lemma Bypassed.step_own (hb : Bypassed id h₀ h) (hstep : h.step action = some (h', told))
    (hown : action.isOf id h.made = true) (huntouched : Unmoved h h')
    (hissued : h'.issued = h.issued) : Bypassed id h₀ h' := by
  have hcaller := isOf_iff.1 hown
  have hconducts : Conducts h action told h' := Conducts.of_step hstep (isCall_of_caller hcaller)
  refine ⟨?_, ?_, fun k hk => ?_⟩
  · obtain ⟨hconfig, hlog, hstopped, hregs, happending⟩ := huntouched
    rw [hb.same]
    simp only [withCalls, hconfig, hlog, hstopped, hregs, hissued, happending]
  · rw [hb.made_eq, hconducts.made_eq]
    cases action with
    | start request =>
      have heq : h.made = id := by simpa [Action.isOf] using hown
      rw [heq]
      exact earlier_succ_self.symm
    | _ => rfl
  · rw [hb.calls k hk, hconducts.calls_of_ne]
    rw [hcaller]
    simpa using Ne.symm hk

/-- Along the steps, a call does nothing but get its answer. -/
def Idles (h : Hub P) (id : CallId) (actions : List (Action P)) : Prop :=
  ∀ before action after h₁ told₁ h₂ told₂, actions = before ++ action :: after →
    h.run before = some (h₁, told₁) → h₁.step action = some (h₂, told₂) →
    h₁.caller? action = some id →
    Unmoved h₁ h₂ ∧ h₂.issued = h₁.issued ∧ ∀ x ∈ told₂, ∃ reply, x = .returned id reply

variable {config : HubConfig} {past actions more : List (Action P)} {facts : List (Fact P)}

lemma Idles.append {h₁ : Hub P} (hi : h.Idles id actions) (hrun : h.run actions = some (h₁, told))
    (hi₁ : h₁.Idles id more) : h.Idles id (actions ++ more) := by
  intro before action after h₂ told₂ h₃ told₃ heq hbefore hstep hcaller
  rcases append_eq_append_cons heq with ⟨rest, rfl, -⟩ | ⟨rest, rfl, rfl⟩
  · exact hi before action rest h₂ told₂ h₃ told₃ rfl hbefore hstep hcaller
  · obtain ⟨told₄, hrest, -⟩ := run_append hrun hbefore
    exact hi₁ rest action after h₂ told₄ h₃ told₃ rfl hrest hstep hcaller

lemma Idles.step (hidle : ∀ h' told, h.step action = some (h', told) →
      h.caller? action = some id →
      Unmoved h h' ∧ h'.issued = h.issued ∧ ∀ x ∈ told, ∃ reply, x = .returned id reply) :
    h.Idles id [action] := by
  rintro before action' after h₂ told₂ h₃ told₃ heq hbefore hstep hcaller
  obtain ⟨rfl, heq⟩ | ⟨before, rfl, hnil⟩ := List.cons_eq_append_iff.1 heq
  · cases heq
    cases hbefore
    exact hidle _ _ hstep hcaller
  · simp at hnil

/-- A call that has come to its end makes no more steps. -/
lemma step_eq_none_of_over (hcall : h.calls.get? id = none) (hmade : id < h.made)
    (hcaller : h.caller? action = some id) : h.step action = none := by
  refine Option.eq_none_iff_forall_ne_some.2 fun out hstep => ?_
  obtain ⟨h', told⟩ := out
  cases Conducts.of_step hstep (isCall_of_caller hcaller) with
  | opened | turnedAway | halted =>
    cases hcaller
    exact Nat.lt_irrefl _ hmade
  | proceeded hcall' hp =>
    cases hcaller.symm.trans hp.caller
    cases hcall.symm.trans hcall'

lemma Idles.of_over (hcall : h.calls.get? id = none) (hmade : id < h.made)
    (actions : List (Action P)) : h.Idles id actions := by
  rintro before action after h₁ told₁ h₂ told₂ - hbefore hstep hcaller
  induction before generalizing h told₁ with
  | nil =>
    cases hbefore
    cases (step_eq_none_of_over hcall hmade hcaller).symm.trans hstep
  | cons action' before ih =>
    obtain ⟨h', told, rest, hstep', hrest, rfl⟩ := run_cons hbefore
    have hother : h.caller? action' ≠ some id := fun hcaller' => by
      cases (step_eq_none_of_over hcall hmade hcaller').symm.trans hstep'
    refine ih ((calls_of_step_ne hstep' hother).trans hcall) ?_ rest hrest
    rw [made_of_step hstep']
    exact Nat.lt_add_right _ hmade

/-- A run can be made without a call that does nothing but get its answer. -/
theorem Bypassed.run (hb : Bypassed id h₀ h) (hr : Reached config past facts h)
    (hrun : h.run actions = some (h', told)) (hidles : h.Idles id actions) :
    ∃ h₀', h₀.run (Action.without id h.made actions) =
        some (h₀', told.filterMap (Fact.bypass? id)) ∧ Bypassed id h₀' h' := by
  induction actions generalizing past facts h h₀ told with
  | nil =>
    cases hrun
    exact ⟨h₀, rfl, hb⟩
  | cons action actions ih =>
    obtain ⟨h₁, told₁, told₂, hstep, hrest, rfl⟩ := run_cons hrun
    have hidles₁ : h₁.Idles id actions :=
      fun before action' after h₂ told₂ h₃ told₃ heq hbefore =>
        hidles (action :: before) action' after h₂ _ h₃ told₃ (by rw [heq]; rfl)
          (run_of_step hstep hbefore)
    rw [Action.without, List.filterMap_append, ← made_of_step hstep]
    by_cases hown : action.isOf id h.made = true
    · obtain ⟨huntouched, hissued, htold⟩ :=
        hidles [] action actions h [] h₁ told₁ rfl rfl hstep (isOf_iff.1 hown)
      have hnone : told₁.filterMap (Fact.bypass? id) = [] := by
        refine List.filterMap_eq_nil_iff.2 fun x hx => ?_
        obtain ⟨reply, rfl⟩ := htold x hx
        exact if_pos rfl
      rw [if_pos hown, hnone, List.nil_append]
      exact ih (hb.step_own hstep hown huntouched hissued) (hr.step hstep) hrest hidles₁
    · rw [if_neg hown]
      obtain ⟨h₀₁, hstep₀, hb₁⟩ := hb.step_other hr.sound hstep (eq_false_of_ne_true hown)
      obtain ⟨h₀', hrest₀, hb'⟩ := ih hb₁ (hr.step hstep) hrest hidles₁
      exact ⟨h₀', run_of_step hstep₀ hrest₀, hb'⟩

end Hub

end WatchHub
