import WatchHub.Proofs.Hub.Bypass
import WatchHub.Proofs.Hub.Halt
import WatchHub.Proofs.Hub.Life
import WatchHub.Proofs.Hub.Registrations

/-!
# How a subscriber is let in

A call to subscribe that is under way began while the hub ran (`Reached.begun`), and once it has drawn a
handle it is refused only because the hub was stopped in between (`Reached.joining_answered`). No two
subscriptions ever have the same handle (`Reached.nodup_admissions`). A hub that runs lets in whoever
wants to subscribe to a key that it knows (`Reached.admitted`), unless it was set to make larger queues
than there can be (`Reached.stranded`).
-/

namespace WatchHub

variable {P : Type}

namespace Room

variable {slots : Nat}

lemma breakdown?_eq_none (h : slots ≤ limit) : breakdown? slots = none :=
  if_pos h

lemma exists_breakdown? (h : limit < slots) : ∃ message, breakdown? slots = some message :=
  ⟨_, if_neg (Nat.not_le_of_lt h)⟩

end Room

/-- A subscription that was just opened: nothing waits in its queue, all slots are free, its consumer is
there, and its population has not yet run. -/
structure Subscription.IsFresh (s : Subscription P) (room : Nat) (checkpoint : Option Version) :
    Prop where
  capacity_eq : s.queue.capacity = room
  items_eq : s.queue.items = []
  free_eq : s.queue.free = room
  waiter_eq : s.queue.waiter = .none
  receiving : s.queue.receiving = true
  member : s.member = true
  closed_eq : s.closed = false
  dropped_eq : s.dropped = 0
  stage_eq : s.population.stage = .spawned checkpoint

lemma Subscription.isFresh_new {room : Nat} (hroom : 1 ≤ room) (checkpoint : Option Version) :
    (Subscription.new room checkpoint : Subscription P).IsFresh room checkpoint where
  capacity_eq := Nat.max_eq_left hroom
  items_eq := rfl
  free_eq := Nat.max_eq_left hroom
  waiter_eq := rfl
  receiving := rfl
  member := rfl
  closed_eq := rfl
  dropped_eq := rfl
  stage_eq := rfl

/-- The handle that somebody subscribed under. -/
def Fact.admission? : Fact P → Option Handle
  | subscribed _ handle _ => some handle
  | _ => none

/-- Where nobody is told to have subscribed, nobody is seen to be let in. -/
lemma Fact.admissions_eq_nil {told : List (Fact P)}
    (h : ∀ key handle checkpoint, .subscribed key handle checkpoint ∉ told) :
    told.filterMap Fact.admission? = [] := by
  refine List.filterMap_eq_nil_iff.2 fun x hx => ?_
  cases x with
  | subscribed key handle checkpoint => exact absurd hx (h key handle checkpoint)
  | _ => rfl

lemma Fact.mem_admissions {told : List (Fact P)} {handle : Handle} :
    handle ∈ told.filterMap Fact.admission? ↔
      ∃ key checkpoint, .subscribed key handle checkpoint ∈ told := by
  rw [List.mem_filterMap]
  constructor
  · rintro ⟨x, hx, hadmission⟩
    cases x <;> cases hadmission
    exact ⟨_, _, hx⟩
  · rintro ⟨key, checkpoint, hx⟩
    exact ⟨_, hx, rfl⟩

namespace Hub

variable {h h' h₁ h₂ : Hub P} {action : Action P} {told facts : List (Fact P)} {config : HubConfig}
  {actions more : List (Action P)} {id : CallId} {key : Key} {handle : Handle}
  {checkpoint : Option Version} {reply : Reply}

/-- One step lets in at most one subscriber, under a handle that nobody has. -/
lemma Sound.admissions (hs : h.Sound) (hstep : h.step action = some (h', told)) :
    told.filterMap Fact.admission? = [] ∨
      ∃ handle, told.filterMap Fact.admission? = [handle] ∧
        ∀ key, h.subscription? key handle = none := by
  by_cases htold : ∃ key handle checkpoint, .subscribed key handle checkpoint ∈ told
  · obtain ⟨key, handle, checkpoint, hmem⟩ := htold
    have hiscall := (hs.changes hstep).isCall_of_told hmem rfl
    obtain ⟨id, r, -, hcall, -, htold, -⟩ := (Conducts.of_step hstep hiscall).joined_of_told hmem
    have hnone : r.audience.prune.2.filterMap Fact.admission? = [] := by
      refine Fact.admissions_eq_nil fun key handle checkpoint hx => ?_
      obtain ⟨_, hx | hx⟩ := Audience.mem_prune hx <;> cases hx
    refine .inr ⟨handle, ?_, hs.fresh hcall⟩
    rw [show told = _ from htold, List.filterMap_append, hnone]
    rfl
  · exact .inl (Fact.admissions_eq_nil fun key handle checkpoint hx => htold ⟨_, _, _, hx⟩)

/-- No handle is given twice, under whatever keys. -/
theorem Reached.nodup_admissions (hr : Reached config actions facts h) :
    (facts.filterMap Fact.admission?).Nodup := by
  induction hr with
  | new => exact List.nodup_nil
  | @step actions past h action h' told hr hstep ih =>
    rw [List.filterMap_append]
    rcases hr.sound.admissions hstep with hnone | ⟨handle, hone, hfresh⟩
    · rw [hnone, List.append_nil]
      exact ih
    · rw [hone, List.nodup_append]
      refine ⟨ih, List.pairwise_singleton .., ?_⟩
      rintro _ hold _ hnew rfl
      cases List.mem_singleton.1 hnew
      obtain ⟨key, checkpoint, hx⟩ := Fact.mem_admissions.1 hold
      obtain ⟨before, after, rfl⟩ := List.append_of_mem hx
      obtain ⟨s, hsub, -⟩ := hr.lived rfl
      cases (hfresh key).symm.trans hsub

/-- Whoever is about to join an audience has found the registration of its key. -/
lemma Reached.registered_of_joining (hr : Reached config actions facts h)
    (hcall : h.calls.get? id = some (.joining key handle checkpoint)) :
    ∃ r, h.registration? key = some r := by
  induction hr with
  | new => cases hcall
  | @step actions past h action h' told hr hstep ih =>
    have hkeep : (∃ r, h.registration? key = some r) → ∃ r, h'.registration? key = some r := by
      rintro ⟨r, hreg⟩
      obtain ⟨r', hreg', -⟩ := hr.sound.ages hstep hreg
      exact ⟨r', hreg'⟩
    rcases came_of_step hstep hcall with hcall | ⟨-, request, -, hopens, -⟩ | ⟨call, -, -, hled⟩
    · exact hkeep (ih hcall)
    · cases request <;> cases hopens
    · cases hled with
      | finds hbound => exact hkeep ⟨_, registration?_of_bound? hbound⟩

/-- A call to subscribe was made while the hub ran. -/
def Begun (config : HubConfig) (actions : List (Action P)) (id : CallId) (key : Key)
    (checkpoint : Option Version) : Prop :=
  ∃ before after past h₀, actions = before ++ .start (.subscribe key checkpoint) :: after ∧
    Reached config before past h₀ ∧ h₀.made = id ∧ h₀.stopped = false

lemma Begun.append (hb : Begun config actions id key checkpoint) (more : List (Action P)) :
    Begun config (actions ++ more) id key checkpoint := by
  obtain ⟨before, after, past, h₀, rfl, hr, hmade, hrunning⟩ := hb
  exact ⟨before, after ++ more, past, h₀, by simp, hr, hmade, hrunning⟩

/-- Who is about to look for a registration was not turned away. -/
lemma Reached.begun (hr : Reached config actions facts h)
    (hcall : h.calls.get? id = some (.finding key checkpoint)) :
    Begun config actions id key checkpoint := by
  induction hr with
  | new => cases hcall
  | @step actions past h action h' told hr hstep ih =>
    rcases came_of_step hstep hcall with hcall | ⟨rfl, request, rfl, hopens, hrunning⟩ |
      ⟨call, -, -, hled⟩
    · exact (ih hcall).append _
    · cases request <;> cases hopens
      exact ⟨actions, [], past, h, rfl, hr, rfl, hrunning _ _ rfl⟩
    · cases hled

/-- A call gets one reply. -/
lemma Served.reply_unique (hd : h.Served actions facts) {reply reply' : Reply}
    (hreply : .returned id reply ∈ facts) (hreply' : .returned id reply' ∈ facts) :
    reply = reply' := by
  obtain ⟨-, -, -, -, hone⟩ := hd.answered hreply
  have hmem := Fact.mem_reply.2 hreply'
  rw [hone] at hmem
  exact (List.mem_singleton.1 hmem).symm

/-- The next step of whoever is about to join is its last one. -/
lemma Reached.joining_step (hr : Reached config actions facts h)
    (hcall : h.calls.get? id = some (.joining key handle checkpoint))
    (hstep : h.step action = some (h', told)) (hcaller : h.caller? action = some id) :
    .returned id (.subscribed handle) ∈ told ∨ .returned id (.refused .stopped) ∈ told := by
  cases hr.proceeds hstep hcaller hcall with
  | refused hrefuses =>
    cases hrefuses with
    | joining => exact .inr (List.mem_singleton_self _)
    | lost _ hnone =>
      obtain ⟨r, hreg⟩ := hr.registered_of_joining hcall
      cases hnone.symm.trans hreg
  | joined => exact .inl (by simp)

/-- Whoever is about to join is let in under its handle, unless the hub was stopped in between. -/
lemma Reached.joining_answered (hr : Reached config actions facts h)
    (hcall : h.calls.get? id = some (.joining key handle checkpoint))
    (hrun : h.run more = some (h', told)) (hreply : .returned id reply ∈ told) :
    reply = .subscribed handle ∨ reply = .refused .stopped := by
  induction more generalizing actions facts h told with
  | nil =>
    cases hrun
    cases hreply
  | cons action more ih =>
    have hserved := (hr.run hrun).served
    obtain ⟨h₁, told₁, told₂, hstep, hrest, rfl⟩ := run_cons hrun
    by_cases hcaller : h.caller? action = some id
    · have hone : ∀ {reply'}, .returned id reply' ∈ told₁ → reply = reply' := fun hreply' =>
        hserved.reply_unique (List.mem_append_right _ hreply)
          (List.mem_append_right _ (List.mem_append_left _ hreply'))
      exact (hr.joining_step hcall hstep hcaller).imp hone hone
    · have hcall₁ := (calls_of_step_ne hstep hcaller).trans hcall
      refine ih (hr.step hstep) hcall₁ hrest ((List.mem_append.1 hreply).resolve_left fun hx => ?_)
      rcases hr.answered_by hstep hx with ⟨rfl, -, ⟨_, _, rfl⟩, -⟩ | ⟨rfl, -⟩ <;> exact hcaller rfl

/-- Whoever has broken down makes no step any more. -/
lemma Reached.caller_ne_of_broken (hr : Reached config actions facts h) {message : String}
    (hcall : h.calls.get? id = some (.broken message)) (hstep : h.step action = some (h', told)) :
    h.caller? action ≠ some id := by
  intro hcaller
  cases hr.proceeds hstep hcaller hcall with
  | refused hrefuses => cases hrefuses

/-- Whoever has broken down is never answered. -/
lemma Reached.silent_of_broken (hr : Reached config actions facts h) {message : String}
    (hcall : h.calls.get? id = some (.broken message)) (hrun : h.run more = some (h', told))
    {reply : Reply} : .returned id reply ∉ told := by
  induction more generalizing actions facts h told with
  | nil =>
    cases hrun
    exact List.not_mem_nil
  | cons action more ih =>
    obtain ⟨h₁, told₁, rest, hstep, hrest, rfl⟩ := run_cons hrun
    have hne := hr.caller_ne_of_broken hcall hstep
    have hcall₁ := (calls_of_step_ne hstep hne).trans hcall
    refine fun hmem => (List.mem_append.1 hmem).elim (fun hx => ?_) (ih (hr.step hstep) hcall₁ hrest)
    rcases hr.answered_by hstep hx with ⟨rfl, -, ⟨_, _, rfl⟩, -⟩ | ⟨rfl, -⟩ <;> exact hne rfl

/-- A registration that is there while the hub runs is bound, and stays so while the hub runs. -/
lemma Reached.bound_of_run (hr : Reached config actions facts h) {r : Registration P}
    (hreg : h.registration? key = some r) (hrun : h.run more = some (h', told))
    (hrunning : h'.stopped = false) : ∃ r', h'.bound? key = some r' := by
  obtain ⟨r', hreg', -⟩ := hr.ages hrun hreg
  exact ⟨r', (hr.run hrun).sound.bound?_of_registration? hrunning hreg'⟩

/-- In a running hub, whoever is about to join is let in. -/
lemma join_of_running {r : Registration P} (hrunning : h.stopped = false)
    (hreg : h.registration? key = some r)
    (hcall : h.calls.get? id = some (.joining key handle checkpoint)) :
    ∃ h', h.step (.resume id) = some (h', r.audience.prune.2 ++
      [.subscribed key handle checkpoint, .returned id (.subscribed handle)]) := by
  refine ⟨(h.putRegistration key { r with
    audience := (r.audience.insert handle (.new h.config.queueRoom checkpoint)).1 }).dismiss id, ?_⟩
  simp [Hub.step, Hub.resume, hcall, Hub.join, hrunning, hreg, reply, dismiss, Audience.insert]

/-- Where a call to subscribe to a key that a running hub knows stands as long as the hub runs. -/
inductive Admission (h : Hub P) (id : CallId) (key : Key) (checkpoint : Option Version)
    (told : List (Fact P)) : Prop where
  | finding {r} :
    h.calls.get? id = some (.finding key checkpoint) → h.bound? key = some r →
    Admission h id key checkpoint told
  | joining {handle : Handle} {r} :
    h.calls.get? id = some (.joining key handle checkpoint) → h.registration? key = some r →
    Admission h id key checkpoint told
  | broken {message} :
    h.calls.get? id = some (.broken message) → Admission h id key checkpoint told
  | answered {handle : Handle} :
    .returned id (.subscribed handle) ∈ told → .subscribed key handle checkpoint ∈ told →
    Admission h id key checkpoint told

lemma Reached.admission (hr : Reached config actions facts h) {r : Registration P}
    (hbound : h.bound? key = some r)
    (hstep : h.step (.start (.subscribe key checkpoint)) = some (h₁, []))
    (hrun : h₁.run more = some (h₂, told)) (hrunning₂ : h₂.stopped = false) :
    h₂.Admission h.made key checkpoint told := by
  have hr₁ := hr.step hstep
  have hr₂ := hr₁.run hrun
  have hmade : (requests (actions ++ [.start (.subscribe key checkpoint)] : List (Action P)))[h.made]? =
      some (.subscribe key checkpoint) := by
    rw [requests_of_some rfl, hr.served.getElem?_concat, if_pos rfl]
  obtain ⟨r₁, hreg₁, -⟩ := hr.sound.ages hstep (registration?_of_bound? hbound)
  rcases hr₂.served.progress (getElem?_requests hmade more) with ⟨call, hcall, hserves⟩ |
    ⟨reply, hreply⟩
  · obtain ⟨r₂, hbound₂⟩ := hr₁.bound_of_run hreg₁ hrun hrunning₂
    cases call with
    | finding =>
      cases hserves
      exact .finding hcall hbound₂
    | joining =>
      cases hserves
      exact .joining hcall (registration?_of_bound? hbound₂)
    | broken => exact .broken hcall
    | _ => simp [Call.Serves] at hserves
  · have hnew : .returned h.made reply ∈ told := by
      have hpast : .returned h.made reply ∉ facts := fun hx => by
        have hmem := Fact.mem_reply.2 hx
        rw [(hr.served.unmade (Nat.le_refl _)).2] at hmem
        cases hmem
      simpa [hpast] using hreply
    obtain ⟨actions₀, action, actions₁, h₀, told₀, h₀', told₀', rfl, hrun₀, hstep₀, hreply₀⟩ :=
      step_of_told hrun hnew
    obtain ⟨rest, hrest, rfl⟩ := run_append hrun₀ hrun
    have hrunning₀ : h₀.stopped = false := by
      refine eq_false_of_ne_true fun hstopped => ?_
      cases hrunning₂.symm.trans (stopped_of_run hstopped hrest)
    obtain ⟨r₀, hbound₀⟩ := hr₁.bound_of_run hreg₁ hrun₀ hrunning₀
    have hrequest := getElem?_requests (getElem?_requests hmade actions₀) [action]
    obtain ⟨h₀'', told₁, rest', hstep₀', -, rfl⟩ := run_cons hrest
    cases hstep₀.symm.trans hstep₀'
    rcases (hr₁.run hrun₀).subscribe_answered hstep₀ hreply₀ hrequest with ⟨-, hstopped, -⟩ |
      ⟨-, hfind⟩ | ⟨handle, -, hjoin⟩
    · cases hrunning₀.symm.trans hstopped
    · -- Whoever finds the registration is not answered yet, whether it gets a queue or not.
      rw [show told₀' = [] from ?_] at hreply₀
      · cases hreply₀
      · have htold := congrArg Prod.snd hfind
        simp only [Hub.find, hbound₀] at htold
        split at htold <;> exact htold
    · simp only [Hub.join, hrunning₀, registration?_of_bound? hbound₀, Bool.false_eq_true, if_false,
        Hub.reply, Prod.mk.injEq] at hjoin
      have hreturned : .returned h.made (.subscribed handle) ∈ told₀ ++ (told₀' ++ rest') := by
        simp [hjoin.2]
      exact .answered hreturned (by simp [hjoin.2])

/-- A step of a run opens a subscription under a handle, and it is fresh. -/
def OpensFresh (h : Hub P) (actions : List (Action P)) (key : Key) (handle : Handle)
    (checkpoint : Option Version) : Prop :=
  ∃ before action after h₁ past h₂ told s, actions = before ++ action :: after ∧
    h.run before = some (h₁, past) ∧ h₁.step action = some (h₂, told) ∧
    .subscribed key handle checkpoint ∈ told ∧ h₂.subscription? key handle = some s ∧
    s.IsFresh h.config.queueRoom checkpoint

/-- Whoever was told to have subscribed has got a fresh subscription. -/
lemma Reached.opensFresh (hr : Reached config actions facts h) (hrun : h.run more = some (h', told))
    (hsubscribed : .subscribed key handle checkpoint ∈ told) :
    h.OpensFresh more key handle checkpoint := by
  obtain ⟨before, action, after, h₁, past, h₂, told₁, heq, hbefore, hstep, hmem⟩ :=
    step_of_told hrun hsubscribed
  have hr₁ := hr.run hbefore
  obtain ⟨told₂, told₃, htold⟩ := List.append_of_mem hmem
  obtain ⟨-, -, hsub, -⟩ := (hr₁.sound.changes hstep).subscribed hr₁.sound htold
  refine ⟨before, action, after, h₁, past, h₂, told₁, _, heq, hbefore, hstep, hmem, hsub, ?_⟩
  rw [hr₁.config_eq, ← hr.config_eq]
  exact Subscription.isFresh_new (Nat.le_max_right ..) checkpoint

/-- Nobody is let in who cannot get a queue. -/
lemma Reached.breakdown_of_subscribed (hr : Reached config actions facts h)
    (hrun : h.run more = some (h', told)) (hsubscribed : .subscribed key handle checkpoint ∈ told) :
    Room.breakdown? config.queueRoom = none := by
  obtain ⟨before, action, after, h₁, past, h₂, told₁, -, hbefore, hstep, hmem⟩ :=
    step_of_told hrun hsubscribed
  have hr₁ := hr.run hbefore
  have hiscall := (hr₁.sound.changes hstep).isCall_of_told hmem rfl
  obtain ⟨id, r, -, hcall, -⟩ := (Conducts.of_step hstep hiscall).joined_of_told hmem
  exact hr₁.breakdown_eq_none hcall

section Admitted

variable (hr : Reached config actions facts h) {r : Registration P} (hbound : h.bound? key = some r)
  (hstep : h.step (.start (.subscribe key checkpoint)) = some (h₁, []))
  (hrun : h₁.run more = some (h₂, told)) (hrunning₂ : h₂.stopped = false)
include hr hbound hstep hrun hrunning₂

/-- A call to subscribe to a key that a running hub knows, as long as the hub runs: it was let in, or it
will be by at most two more steps. -/
lemma Reached.admitted (hroom : Room.breakdown? config.queueRoom = none) :
    ∃ n ≤ 2, ∃ h₃ rest handle,
      h₂.run (List.replicate n (.resume h.made)) = some (h₃, rest) ∧
        .returned h.made (.subscribed handle) ∈ told ++ rest ∧
        .subscribed key handle checkpoint ∈ told ++ rest := by
  have hr₂ := (hr.step hstep).run hrun
  cases hr.admission hbound hstep hrun hrunning₂ with
  | finding hcall hbound₂ =>
    let h' : Hub P := { h₂ with issued := h₂.issued + 1 }.putCall h.made
      (.joining key ⟨h₂.issued + 1⟩ checkpoint)
    have hroom₂ : Room.breakdown? h₂.config.queueRoom = none := hr₂.config_eq ▸ hroom
    have hfind : h₂.step (.resume h.made) = some (h', []) := by
      simp only [Hub.step, Hub.resume, hcall, Hub.find, hbound₂, hroom₂]
      rfl
    obtain ⟨h₃, hjoin⟩ := @join_of_running P h' h.made key ⟨h₂.issued + 1⟩ checkpoint _ hrunning₂
      (registration?_of_bound? hbound₂) (Table.get?_put_self ..)
    exact ⟨2, Nat.le_refl _, h₃, _, ⟨h₂.issued + 1⟩, run_of_step hfind (run_of_step hjoin rfl),
      by simp, by simp⟩
  | @joining handle _ hcall hreg₂ =>
    obtain ⟨h₃, hjoin⟩ := join_of_running hrunning₂ hreg₂ hcall
    exact ⟨1, Nat.le_succ _, h₃, _, handle, run_of_step hjoin rfl, by simp, by simp⟩
  | broken hcall => cases hroom.symm.trans (hr₂.breakdown_eq hcall)
  | @answered handle hreturned hsubscribed =>
    exact ⟨0, Nat.zero_le _, h₂, [], handle, rfl, by simp [hreturned], by simp [hsubscribed]⟩

/-- Where no queue can be as large as it is to be, such a call breaks down when it has found the
registration and drawn its handle; nothing else changes, and it is never answered. -/
lemma Reached.stranded {message : String} (hroom : Room.breakdown? config.queueRoom = some message) :
    ∃ n ≤ 1, ∃ h₃, h₂.run (List.replicate n (.resume h.made)) = some (h₃, []) ∧
      Unmoved h₂ h₃ ∧ h₃.issued = h₂.issued + n ∧
      h₃.calls.get? h.made = some (.broken message) ∧
      ∀ later h₄ rest, h₃.run later = some (h₄, rest) →
        ∀ reply, .returned h.made reply ∉ told ++ rest := by
  have hr₁ := hr.step hstep
  have hr₂ := hr₁.run hrun
  have hsilent : ∀ {call}, h₂.calls.get? h.made = some call →
      ∀ reply, .returned h.made reply ∉ told := by
    intro call hcall reply hx
    obtain ⟨-, -, -, hnone, -⟩ := hr₂.served.answered (List.mem_append_right _ hx)
    cases hnone.symm.trans hcall
  cases hr.admission hbound hstep hrun hrunning₂ with
  | finding hcall hbound₂ =>
    have hroom₂ : Room.breakdown? h₂.config.queueRoom = some message := hr₂.config_eq ▸ hroom
    have hfind : h₂.step (.resume h.made) =
        some ({ h₂ with issued := h₂.issued + 1 }.putCall h.made (.broken message), []) := by
      simp only [Hub.step, Hub.resume, hcall, Hub.find, hbound₂, hroom₂]
    have hbroken := Table.get?_put_self h₂.calls h.made (Call.broken message)
    refine ⟨1, Nat.le_refl _, _, run_of_step hfind rfl, ⟨rfl, rfl, rfl, rfl, rfl⟩, rfl, hbroken,
      fun later h₄ rest hlater reply hmem => ?_⟩
    exact (List.mem_append.1 hmem).elim (hsilent hcall reply)
      ((hr₂.step hfind).silent_of_broken hbroken hlater)
  | joining hcall => cases hroom.symm.trans (hr₂.breakdown_eq_none hcall)
  | broken hcall =>
    cases hroom.symm.trans (hr₂.breakdown_eq hcall)
    refine ⟨0, Nat.zero_le _, h₂, rfl, ⟨rfl, rfl, rfl, rfl, rfl⟩, rfl, hcall,
      fun later h₄ rest hlater reply hmem => ?_⟩
    exact (List.mem_append.1 hmem).elim (hsilent hcall reply) (hr₂.silent_of_broken hcall hlater)
  | answered _ hsubscribed => cases hroom.symm.trans (hr₁.breakdown_of_subscribed hrun hsubscribed)

end Admitted

end Hub

end WatchHub
