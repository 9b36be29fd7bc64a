import WatchHub.Proofs.Hub.Halt

/-!
# Shutdown

What is left of a hub when its only shutdown returns, and what becomes of those who come to register or
to subscribe once it was stopped. The stop mark is looked at again by whoever is about to join, so a
call either came before it and is torn down, or is refused (`nothing_escapes_shutdown`).
-/

namespace WatchHub

variable {P : Type}

/-- The replies that a request gets from a hub that was stopped; only a call that was made before may
still look for a registration. -/
def Request.AdmitsLate (early : Prop) : Request → Reply → Prop
  | register _ _, reply => reply = .refused .stopped
  | subscribe key _, reply =>
    reply = .refused .stopped ∨ (early ∧ reply = .refused (.noSuchResource key))
  | request, reply => request.Admits reply

/-- Whether a call is one that would bring something into the hub. -/
def Call.isEntry : Call → Bool
  | registering .. | finding .. | joining .. | broken .. => true
  | _ => false

/-- Whether a call is about to join an audience, or to look for one. -/
def Call.isJoining : Call → Bool
  | finding .. | joining .. => true
  | _ => false

/-- Whether a request brings something into the hub. -/
def Request.isEntry : Request → Bool
  | register .. | subscribe .. => true
  | _ => false

/-- A call brings something into the hub exactly if its request does. -/
lemma Call.Serves.isEntry_eq {call : Call} {request : Request} (h : call.Serves request) :
    call.isEntry = request.isEntry := by
  cases call with
  | registering | finding | joining | leaving | removing | guarding =>
    obtain rfl := h
    rfl
  | broken =>
    obtain ⟨key, checkpoint, rfl⟩ := h
    rfl
  | draining | awaiting => obtain rfl | rfl := h <;> rfl
  | closing => obtain ⟨rfl | rfl, -⟩ := h <;> rfl

namespace Hub

variable {h h' h'' : Hub P} {action : Action P} {told : List (Fact P)} {key : Key}
  {handle : Handle} {config : HubConfig} {actions more : List (Action P)} {facts : List (Fact P)}
  {id : CallId} {reply : Reply}

/-- A hub is torn down: no key leads anywhere, and of those who were told that they are in there is
nothing but what has come to its end or was told to. -/
structure TornDown (facts : List (Fact P)) (h : Hub P) : Prop where
  keys_eq : h.keys = []
  logs : ∀ key, h.log.length key = 0 ∧ h.log.latest? key = none ∧ h.log.versions key = []
  ingests : ∀ {key observer}, .registered key observer ∈ facts →
    ∃ r, h.registration? key = some r ∧ r.ingest.isDismissed = true
  subscriptions : ∀ {id handle}, .returned id (.subscribed handle) ∈ facts →
    ∃ key s, h.subscription? key handle = some s ∧ s.closed = true

/-- A hub that was stopped answers nobody who would come in but by a refusal. -/
lemma Reached.answered_late (hr : Reached config actions facts h) (hstopped : h.stopped = true)
    (hstep : h.step action = some (h', told)) (hreply : .returned id reply ∈ told) :
    ∃ request, (requests (actions ++ [action]))[id]? = some request ∧
      request.AdmitsLate (∃ key checkpoint, h.calls.get? id = some (.finding key checkpoint)) reply := by
  have hserved := (hr.step hstep).served
  obtain ⟨request, hrequest, hadmits, -⟩ := hserved.answered (List.mem_append_right facts hreply)
  refine ⟨request, hrequest, ?_⟩
  cases request with
  | register key observer =>
    obtain ⟨-, -, hout⟩ := hr.register_answered hstep hreply hrequest
    simp only [Hub.register, hstopped, if_true, Hub.reply, List.nil_append, Prod.mk.injEq] at hout
    cases (List.mem_singleton.1 (hout.2 ▸ hreply))
    rfl
  | subscribe key checkpoint =>
    rcases hr.subscribe_answered hstep hreply hrequest with ⟨-, -, hrefused⟩ | ⟨hcall, hout⟩ |
      ⟨handle, hcall, hout⟩
    · exact .inl hrefused
    · unfold find at hout
      dsimp only at hout
      split at hout
      · split at hout <;>
        · cases hout
          cases hreply
      · cases hout
        cases List.mem_singleton.1 hreply
        exact .inr ⟨⟨key, checkpoint, hcall⟩, rfl⟩
    · simp only [Hub.join, hstopped, if_true, Hub.reply, List.nil_append, Prod.mk.injEq] at hout
      cases (List.mem_singleton.1 (hout.2 ▸ hreply))
      exact .inl rfl
  | _ => exact hadmits

/-- Whoever is about to join a stopped hub was called before it was stopped. -/
lemma Reached.early (hr : Reached config actions facts h) (hstopped : h.stopped = true)
    (hrun : h.run more = some (h', told)) {call : Call} (hcall : h'.calls.get? id = some call)
    (hjoining : call.isJoining = true) : id < h.made := by
  obtain ⟨call₀, hcall₀, -⟩ : ∃ call₀, h.calls.get? id = some call₀ ∧ call₀.isJoining = true := by
    clear hr
    induction more generalizing h told with
    | nil =>
      cases hrun
      exact ⟨call, hcall, hjoining⟩
    | cons action more ih =>
      obtain ⟨h₁, told₁, told₂, hstep, hrest, rfl⟩ := run_cons hrun
      obtain ⟨call₁, hcall₁, hjoining₁⟩ := ih ((Follows.of_step hstep).stopped hstopped) hrest
      refine call_before hstep (fun request hrunning => ?_) (fun hled hlater => ?_) hcall₁ hjoining₁
      · cases request with
        | subscribe key checkpoint => cases (hrunning key checkpoint rfl).symm.trans hstopped
        | _ => rfl
      · cases hled with
        | finds => rfl
        | _ => cases hlater
  by_contra hlate
  cases (hr.served.unmade (Nat.le_of_not_lt hlate)).1.symm.trans hcall₀

/-- A hub that was stopped answers nobody who would come in but by a refusal, whatever happens. -/
lemma Reached.answered_after (hr : Reached config actions facts h) (hstopped : h.stopped = true)
    (hrun : h.run more = some (h', told)) (hreply : .returned id reply ∈ told) :
    ∃ request, (requests (actions ++ more))[id]? = some request ∧ request.Admits reply ∧
      request.AdmitsLate (id < h.made) reply := by
  obtain ⟨request, hrequest, hadmits, -⟩ :=
    (hr.run hrun).served.answered (List.mem_append_right facts hreply)
  obtain ⟨actions₀, action, actions₁, h₀, told₀, h₁, told₁, rfl, hrun₀, hstep, hreply⟩ :=
    step_of_told hrun hreply
  obtain ⟨request', hrequest', hlate⟩ :=
    (hr.run hrun₀).answered_late (stopped_of_run hstopped hrun₀) hstep hreply
  have hsame := getElem?_requests hrequest' actions₁
  simp only [List.append_assoc, List.singleton_append] at hsame
  cases hrequest.symm.trans hsame
  refine ⟨request, hrequest, hadmits, ?_⟩
  cases request with
  | subscribe key checkpoint =>
    refine hlate.imp (fun heq => heq) fun hfinding => ⟨?_, hfinding.2⟩
    obtain ⟨⟨key', checkpoint', hcall⟩, -⟩ := hfinding
    exact hr.early hstopped hrun₀ hcall rfl
  | _ => exact hlate

/-- A shutdown is answered when it has closed every audience, by the step that clears the logs. -/
lemma Reached.shutdown_answered (hr : Reached config actions facts h)
    (hstep : h.step action = some (h', told)) (hreply : .returned id reply ∈ told)
    (hrequest : (requests actions)[id]? = some .shutdown) :
    ∃ drained, h.calls.get? id = some (.closing [] drained reply) ∧
      (h', told) = h.close id [] drained reply ∧ Request.shutdown.Admits reply := by
  rcases hr.answered_by hstep hreply with ⟨rfl, -⟩ |
    ⟨rfl, request, call, hrequest', hcall, hserves, hadmits⟩
  · rw [List.getElem?_eq_none (hr.served.made_eq ▸ Nat.le_refl _)] at hrequest
    cases hrequest
  · cases hrequest.symm.trans hrequest'
    -- Only a call that tears the hub down serves a shutdown.
    cases call with
    | closing left drained reply' =>
      cases hr.proceeds hstep rfl hcall with
      | refused hrefuses => cases hrefuses
      | closed =>
        obtain ⟨_, hx⟩ := Audience.mem_closeAll hreply
        cases hx
      | passed => cases hreply
      | ended =>
        obtain rfl : reply = reply' := by simpa using hreply
        exact ⟨drained, hcall, rfl, hadmits⟩
    | draining =>
      cases hr.proceeds hstep rfl hcall with
      | refused hrefuses => cases hrefuses
      | drained => cases hreply
    | awaiting left drained =>
      cases hr.proceeds hstep rfl hcall with
      | refused hrefuses => cases hrefuses
      | awaited => cases mem_obituary hreply
      | awaitedAll => cases hreply
    | broken =>
      obtain ⟨_, _, hserves⟩ := hserves
      cases hserves
    | _ => cases hserves

/-- Whoever is answered with a handle has joined an audience under it. -/
lemma joined_of_returned {checkpoint : Option Version} {handle' : Handle}
    (hreply : .returned id (.subscribed handle') ∈ (h.join id key handle checkpoint).2) :
    ∃ s, (h.join id key handle checkpoint).1.subscription? key handle' = some s := by
  unfold Hub.join at hreply ⊢
  split at hreply
  · simp [Hub.reply] at hreply
  · rename_i hrunning
    rw [if_neg hrunning]
    cases hreg : h.registration? key with
    | none => simp [hreg, Hub.reply] at hreply
    | some r =>
      have htold : Fact.returned id (.subscribed handle') ∈ r.audience.prune.2 ++
          [.subscribed key handle checkpoint, .returned id (.subscribed handle)] := by
        simpa [hreg, Hub.reply, Audience.insert] using hreply
      rcases List.mem_append.1 htold with hx | hx
      · obtain ⟨_, hx | hx⟩ := Audience.mem_prune hx <;> cases hx
      · obtain rfl : handle' = handle := by simpa using hx
        refine ⟨.new h.config.queueRoom checkpoint, ?_⟩
        rw [subscription?_of_put (h := h) rfl, if_pos rfl]
        exact (Audience.get?_insert ..).trans (if_pos rfl)

lemma Reached.subscribed_of_returned (hr : Reached config actions facts h)
    (hreply : .returned id (.subscribed handle) ∈ facts) :
    ∃ key s, h.subscription? key handle = some s := by
  induction hr with
  | new => cases hreply
  | @step actions past h action h' told hr hstep ih =>
    rcases List.mem_append.1 hreply with hreply | hreply
    · obtain ⟨key, s, hsub⟩ := ih hreply
      obtain ⟨s', hsub', -⟩ := (hr.sound.changes hstep).turn hr.sound hsub
      exact ⟨key, s', hsub'⟩
    · obtain ⟨request, hrequest, hadmits, -⟩ :=
        (hr.step hstep).served.answered (List.mem_append_right past hreply)
      -- Only a request to subscribe admits a handle.
      cases request with
      | subscribe key checkpoint =>
        rcases hr.subscribe_answered hstep hreply hrequest with ⟨-, -, hrefused⟩ | ⟨-, hout⟩ |
          ⟨handle', hcall, hout⟩
        · cases hrefused
        · unfold find at hout
          dsimp only at hout
          split at hout
          · split at hout <;>
            · cases hout
              cases hreply
          · cases hout
            simp at hreply
        · obtain ⟨rfl, rfl⟩ := Prod.mk.inj hout
          exact ⟨key, joined_of_returned hreply⟩
      | _ => simp [Request.Admits] at hadmits

/-- Where every key is unbound, none is listed. -/
lemma keys_eq_nil (hunbound : ∀ {key r}, h.registration? key = some r → r.bound = false) :
    h.keys = [] := by
  have hnone : h.boundKeys = [] := by
    refine List.map_eq_nil_iff.2 (List.filter_eq_nil_iff.2 fun row hrow => ?_)
    rw [hunbound (Table.get?_eq_some_iff.2 hrow)]
    exact Bool.false_ne_true
  simp [keys, hnone, Key.sort]

/-- Where everything is down and the logs are empty, nothing goes on any more. -/
lemma Reached.tornDown_of_down (hr : Reached config actions facts h)
    (hlogs : ∀ key, h.log.length key = 0 ∧ h.log.latest? key = none ∧ h.log.versions key = [])
    (hdown : ∀ {key r}, h.registration? key = some r → r.IsDown) : h.TornDown facts where
  keys_eq := keys_eq_nil fun hreg => (hdown hreg).unbound
  logs := hlogs
  ingests hmem := by
    obtain ⟨r, hreg, -⟩ := hr.registration_of_told hmem
    exact ⟨r, hreg, (hdown hreg).dismissed⟩
  subscriptions hmem := by
    obtain ⟨key, s, hsub⟩ := hr.subscribed_of_returned hmem
    obtain ⟨r, hreg, hget⟩ := exists_registration hsub
    exact ⟨key, s, hsub, (hdown hreg).closed _ s hget⟩

/-- When the only shutdown returns, everything is down, and every ingest has come to its end if the
answer says so. -/
lemma Reached.isDown_of_return (hr : Reached config actions facts h)
    (hstep : h.step action = some (h', told)) (hreply : .returned id reply ∈ told)
    (hrequest : (requests actions)[id]? = some .shutdown) (honce : facts.countP Fact.isHalt ≤ 1)
    {r : Registration P} (hreg : h'.registration? key = some r) :
    r.IsDown ∧ (reply = .stopped → r.ingest.isFinished = true) := by
  obtain ⟨drained, hcall, hout, -⟩ := hr.shutdown_answered hstep hreply hrequest
  obtain ⟨rfl, rfl⟩ := Prod.mk.inj hout
  obtain ⟨hunbound, hdismissed, hfinished, hrest⟩ := hr.takesDown honce hcall rfl hreg
  exact ⟨⟨hunbound, hdismissed, hrest.resolve_left List.not_mem_nil⟩, hfinished⟩

/-- When the only shutdown returns, everything is torn down. -/
lemma Reached.tornDown (hr : Reached config actions facts h)
    (hstep : h.step action = some (h', told)) (hreply : .returned id reply ∈ told)
    (hrequest : (requests actions)[id]? = some .shutdown) (honce : facts.countP Fact.isHalt ≤ 1) :
    h'.TornDown (facts ++ told) := by
  have hdown : ∀ {key r}, h'.registration? key = some r → r.IsDown := fun hreg =>
    (hr.isDown_of_return hstep hreply hrequest honce hreg).1
  obtain ⟨drained, -, hout, -⟩ := hr.shutdown_answered hstep hreply hrequest
  have hr' := hr.step hstep
  obtain ⟨rfl, rfl⟩ := Prod.mk.inj hout
  exact hr'.tornDown_of_down (fun key => ⟨rfl, rfl, rfl⟩) hdown

/-- After a stop nobody is let in any more, so nobody is left out. -/
lemma TornDown.later (hd : h.TornDown facts) (hr : Reached config actions facts h)
    (hstopped : h.stopped = true) (hrun : h.run more = some (h', told)) :
    h.TornDown (facts ++ told) := by
  refine ⟨hd.keys_eq, hd.logs, fun {key name} hmem => ?_, fun {id handle} hmem => ?_⟩
  · refine hd.ingests ((List.mem_append.1 hmem).resolve_right fun hlater => ?_)
    obtain ⟨actions₀, action, actions₁, h₀, told₀, h₁, told₁, rfl, hrun₀, hstep, hx⟩ :=
      step_of_told hrun hlater
    have hr₀ := hr.run hrun₀
    obtain ⟨hnone, observer, -, -, -, hreg⟩ := (hr₀.sound.changes hstep).registered_told hx
    rcases hr₀.sound.unregistered hstep hnone with hnone' | ⟨_, _, -, hrunning, -⟩
    · cases hnone'.symm.trans hreg
    · cases hrunning.symm.trans (stopped_of_run hstopped hrun₀)
  · refine hd.subscriptions ((List.mem_append.1 hmem).resolve_right fun hlater => ?_)
    obtain ⟨request, -, hadmits, hlate⟩ := hr.answered_after hstopped hrun hlater
    cases request <;> simp [Request.Admits, Request.AdmitsLate] at hadmits hlate

end Hub

end WatchHub
