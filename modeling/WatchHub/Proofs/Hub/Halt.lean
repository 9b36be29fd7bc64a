import WatchHub.Proofs.Hub.Teardown

/-!
# The stop mark

A hub is stopped exactly if this was told (`Reached.stopped_iff`). If it was told once, a single call
tears the hub down, and when this call has come to its end, no call tears it down any more
(`Reached.alone`).
-/

namespace WatchHub

variable {P : Type}

/-- Whether a fact tells that the hub was stopped. -/
def Fact.isHalt : Fact P → Bool
  | shutdownRequested => true
  | _ => false

lemma Fact.isHalt_eq_true {x : Fact P} : x.isHalt = true ↔ x = .shutdownRequested := by
  cases x <;> simp [isHalt]

/-- Whether a fact tells that a shutdown came to its end. -/
def Fact.isEnd : Fact P → Bool
  | stopped _ => true
  | _ => false

/-- What is told of an audience is about no shutdown. -/
lemma Fact.not_halt_of_isMembership {x : Fact P} (hx : x.isMembership = true) :
    x.isHalt = false ∧ x.isEnd = false := by
  cases x <;> first | exact ⟨rfl, rfl⟩ | cases hx

namespace Hub

variable {h h' : Hub P} {action : Action P} {told : List (Fact P)}

/-- What a step does to the stop mark and to the calls that tear the hub down. -/
inductive Halts (h : Hub P) (told : List (Fact P)) (h' : Hub P) : Prop where
  /-- One more call starts to tear the hub down. -/
  | marked {id} :
    told.countP Fact.isHalt = 1 → (∀ x ∈ told, x.isEnd = false) → h'.stopped = true →
    h'.calls.get? id = some .draining →
    (∀ id', id' ≠ id → h'.calls.get? id' = h.calls.get? id') → Halts h told h'
  | kept :
    (∀ x ∈ told, x.isHalt = false ∧ x.isEnd = false) → h'.stopped = h.stopped →
    (∀ id call', h'.calls.get? id = some call' → call'.isStopping = true →
      ∃ call, h.calls.get? id = some call ∧ call.isStopping = true) → Halts h told h'
  /-- A call that tore the hub down comes to its end. -/
  | ended {id n call reply} :
    told = [.stopped n, .returned id reply] → h'.stopped = h.stopped →
    h.calls.get? id = some call → call.isStopping = true → h'.calls = h.calls.erase id →
    Halts h told h'

/-- A call that tears the hub down after another one went on, or after it went on itself, did so before,
but for a guard that gets its signal. -/
lemma Proceeds.stopping_before {id : CallId} {call : Call} (hp : h.Proceeds id call action told h')
    (hcall : h.calls.get? id = some call) (hguard : call ≠ .guarding) (id' : CallId) (call' : Call)
    (hcall' : h'.calls.get? id' = some call') (hstopping : call'.isStopping = true) :
    ∃ call, h.calls.get? id' = some call ∧ call.isStopping = true := by
  by_cases heq : id = id'
  · subst heq
    refine ⟨call, hcall, ?_⟩
    cases hp.leads hcall' with
    | stops => exact absurd rfl hguard
    | finds | breaks | leaves => cases hstopping
    | _ => rfl
  · exact ⟨call', (hp.calls_of_ne heq).symm.trans hcall', hstopping⟩

lemma stopping_of_erase {id : CallId} (hcalls : h'.calls = h.calls.erase id) (id' : CallId)
    (call' : Call) (hcall' : h'.calls.get? id' = some call') (hstopping : call'.isStopping = true) :
    ∃ call, h.calls.get? id' = some call ∧ call.isStopping = true := by
  rw [hcalls] at hcall'
  exact ⟨call', (Table.get?_erase_eq_some hcall').2, hstopping⟩

lemma mem_obituary {h : Hub P} {key : Key} {x : Fact P} (hx : x ∈ h.obituary key) :
    x = .ingestCrashed key := by
  unfold obituary at hx
  split at hx
  · split at hx
    · exact List.mem_singleton.1 hx
    · cases hx
  · cases hx

/-- What a shutdown notes about ingests is not that it begins or ends. -/
lemma not_halt_of_obituaries {left : List Key} {x : Fact P} (hx : x ∈ left.flatMap h.obituary) :
    x.isHalt = false ∧ x.isEnd = false := by
  obtain ⟨key, -, hx⟩ := List.mem_flatMap.1 hx
  cases mem_obituary hx
  exact ⟨rfl, rfl⟩

theorem Conducts.halts (hc : Conducts h action told h') : Halts h told h' := by
  cases hc with
  | @opened request hne =>
    refine .kept (List.forall_mem_nil _) rfl fun id call' hcall' hstopping => ?_
    rcases Table.get?_put_eq_some hcall' with ⟨-, rfl⟩ | ⟨-, hold⟩
    · cases request with
      | shutdown => exact absurd rfl hne
      | _ => cases hstopping
    · exact ⟨call', hold, hstopping⟩
  | turnedAway => exact .kept (by simp [Fact.isHalt, Fact.isEnd]) rfl (stopping_of_erase rfl)
  | halted =>
    exact .marked rfl (by simp [Fact.isEnd]) rfl (Table.get?_put_self ..)
      fun _ hne => Table.get?_put_ne _ hne.symm _
  | proceeded hcall hp =>
    have hbefore := hp.stopping_before hcall
    cases hp with
    | signalled =>
      exact .marked rfl (by simp [Fact.isEnd]) rfl (Table.get?_put_self ..)
        fun _ hne => Table.get?_put_ne _ hne.symm _
    | relieved | refused | registered | spared | missed =>
      exact .kept (by simp [Fact.isHalt, Fact.isEnd]) rfl (stopping_of_erase rfl)
    | joined =>
      exact .kept (fun _ hx => Fact.not_halt_of_isMembership (isMembership_joined hx)) rfl
        (hbefore nofun)
    | left =>
      exact .kept (fun _ hx => Fact.not_halt_of_isMembership (isMembership_left hx)) rfl
        (hbefore nofun)
    | closed =>
      exact .kept (fun _ hx => Fact.not_halt_of_isMembership (Audience.isMembership_closeAll hx)) rfl
        (hbefore nofun)
    | awaited =>
      refine .kept (fun x hx => ?_) rfl (hbefore nofun)
      cases mem_obituary hx
      exact ⟨rfl, rfl⟩
    | expired => exact .kept (fun _ => not_halt_of_obituaries) rfl (hbefore nofun)
    | aborted =>
      refine .kept (fun x hx => ?_) rfl (hbefore nofun)
      rcases List.mem_append.1 hx with hx | hx
      · exact not_halt_of_obituaries hx
      · cases List.mem_singleton.1 hx
        exact ⟨rfl, rfl⟩
    | ended => exact .ended rfl rfl hcall rfl rfl
    | _ => exact .kept (List.forall_mem_nil _) rfl (hbefore nofun)

/-- Every step of a sound hub does one of these things to the stop mark. -/
theorem Sound.halts (hs : h.Sound) (hstep : h.step action = some (h', told)) : Halts h told h' := by
  by_cases hcall : action.isCall = true
  · exact (Conducts.of_step hstep hcall).halts
  · have hignores := Ignores.of_step hstep (eq_false_of_ne_true hcall)
    refine .kept (fun x hx => ?_) hignores.stopped_eq fun id call' hcall' hstopping => ?_
    · have hteller : x.teller? ≠ some .call := fun hteller =>
        hcall ((hs.changes hstep).isCall_of_told hx hteller)
      cases x <;> first | exact ⟨rfl, rfl⟩ | exact absurd rfl hteller
    · exact ⟨call', hignores.calls_eq ▸ hcall', hstopping⟩

variable {config : HubConfig} {actions more : List (Action P)} {facts : List (Fact P)}

lemma mem_of_countP_isHalt (hone : told.countP Fact.isHalt = 1) : .shutdownRequested ∈ told := by
  obtain ⟨x, hx, hhalt⟩ := List.countP_pos_iff.1 (hone ▸ Nat.one_pos)
  exact Fact.isHalt_eq_true.1 hhalt ▸ hx

/-- A hub is stopped exactly if this was told. -/
theorem Reached.stopped_iff (hr : Reached config actions facts h) :
    h.stopped = true ↔ .shutdownRequested ∈ facts := by
  induction hr with
  | new => exact ⟨nofun, nofun⟩
  | @step actions past h action h' told hr hstep ih =>
    rw [List.mem_append, ← ih]
    cases hr.sound.halts hstep with
    | marked hone _ hstopped => exact ⟨fun _ => .inr (mem_of_countP_isHalt hone), fun _ => hstopped⟩
    | kept hquiet hstopped =>
      rw [hstopped]
      refine ⟨.inl, fun hor => hor.resolve_right fun hx => ?_⟩
      cases (hquiet _ hx).1
    | ended htold hstopped =>
      rw [hstopped, htold]
      exact ⟨.inl, fun hor => hor.resolve_right (by simp)⟩

/-- At most one call tears the hub down, and none once a shutdown has ended. -/
structure Alone (facts : List (Fact P)) (h : Hub P) : Prop where
  unique : ∀ {id id' call call'}, h.calls.get? id = some call → call.isStopping = true →
    h.calls.get? id' = some call' → call'.isStopping = true → id = id'
  ended : ∀ {n}, .stopped n ∈ facts → ∀ {id call}, h.calls.get? id = some call →
    call.isStopping = false

/-- While the hub was stopped at most once, at most one call tears it down. -/
theorem Reached.alone (hr : Reached config actions facts h)
    (honce : facts.countP Fact.isHalt ≤ 1) : h.Alone facts := by
  induction hr with
  | new => exact ⟨nofun, nofun⟩
  | @step actions past h action h' told hr hstep ih =>
    rw [List.countP_append] at honce
    have ih := ih (Nat.le_trans (Nat.le_add_right _ _) honce)
    cases hr.sound.halts hstep with
    | @marked id hone hend _ hnew hothers =>
      -- The hub was not stopped before, so no other call tears it down.
      have hzero : past.countP Fact.isHalt = 0 := by omega
      have hrunning : h.stopped = false := by
        refine eq_false_of_ne_true fun hstopped => ?_
        have hmem := hr.stopped_iff.1 hstopped
        exact absurd hzero (Nat.ne_of_gt (List.countP_pos_iff.2 ⟨_, hmem, rfl⟩))
      have honly : ∀ {id' call'}, h'.calls.get? id' = some call' → call'.isStopping = true →
          id' = id := by
        intro id' call' hcall' hstopping
        by_contra hne
        cases hrunning.symm.trans (hr.sound.stopping ((hothers id' hne).symm.trans hcall') hstopping)
      refine ⟨fun hcall hstopping hcall' hstopping' => ?_, fun {n} hn => ?_⟩
      · rw [honly hcall hstopping, honly hcall' hstopping']
      · rcases List.mem_append.1 hn with hn | hn
        · cases hrunning.symm.trans (hr.stopped_of_told hn)
        · cases hend _ hn
    | kept hquiet _ hcalls =>
      refine ⟨fun hcall hstopping hcall' hstopping' => ?_, fun {n} hn {id call} hcall => ?_⟩
      · obtain ⟨_, hold, hold_stopping⟩ := hcalls _ _ hcall hstopping
        obtain ⟨_, hold', hold_stopping'⟩ := hcalls _ _ hcall' hstopping'
        exact ih.unique hold hold_stopping hold' hold_stopping'
      · refine eq_false_of_ne_true fun hstopping => ?_
        obtain ⟨_, hold, hold_stopping⟩ := hcalls _ _ hcall hstopping
        rcases List.mem_append.1 hn with hn | hn
        · cases (ih.ended hn hold).symm.trans hold_stopping
        · cases (hquiet _ hn).2
    | @ended id n call reply htold _ hending hending_stopping hcalls =>
      have hnone : ∀ {id' call'}, h'.calls.get? id' = some call' → call'.isStopping = false := by
        intro id' call' hcall'
        rw [hcalls] at hcall'
        obtain ⟨hne, hold⟩ := Table.get?_erase_eq_some hcall'
        exact eq_false_of_ne_true fun hstopping =>
          hne (ih.unique hending hending_stopping hold hstopping)
      refine ⟨fun hcall hstopping => ?_, fun _ => hnone⟩
      cases (hnone hcall).symm.trans hstopping

/-- While the hub was stopped at most once, the call that tears it down takes every registration down. -/
theorem Reached.takesDown (hr : Reached config actions facts h) (honce : facts.countP Fact.isHalt ≤ 1)
    {id : CallId} {call : Call} (hcall : h.calls.get? id = some call)
    (hstopping : call.isStopping = true) {key : Key} {r : Registration P}
    (hreg : h.registration? key = some r) : call.TakesDown key r := by
  induction hr generalizing id call key r with
  | new => cases hreg
  | @step actions past h action h' told hr hstep ih =>
    have hr' := hr.step hstep
    have halone := hr'.alone honce
    have hstopped := hr'.sound.stopping hcall hstopping
    rw [List.countP_append] at honce
    obtain ⟨r₀, hreg₀⟩ := hr.sound.exists_before hstep hstopped hreg
    -- Whoever takes the registration down after the step is the only one to do so.
    have hsame : ∀ {id' call'}, h'.calls.get? id' = some call' → call'.TakesDown key r →
        call.TakesDown key r := by
      intro id' call' hcall' htakes
      obtain rfl := halone.unique hcall hstopping hcall' htakes.isStopping
      cases hcall.symm.trans hcall'
      exact htakes
    cases hwas : h.stopped with
    | false =>
      obtain ⟨hreg', hdown | ⟨id', call', hcall', htakes⟩⟩ :=
        TakesDown.halted hr.sound hwas hstopped hstep hreg₀
      · cases hdown.unbound.symm.trans (hr.sound.bound hreg₀ hwas)
      · cases hreg.symm.trans hreg'
        exact hsame hcall' htakes
    | true =>
      rcases hr.sound.bound_cases hstep hreg₀ hreg with hbound | ⟨id', call', -, -, hcall', htakes⟩
      · -- The hub was stopped before, so the call tore it down before.
        obtain ⟨call₀, hcall₀, hstopping₀⟩ : ∃ call, h.calls.get? id = some call ∧
            call.isStopping = true := by
          cases hr.sound.halts hstep with
          | marked hmarks =>
            have hmarked : 0 < past.countP Fact.isHalt :=
              List.countP_pos_iff.2 ⟨_, hr.stopped_iff.1 hwas, rfl⟩
            omega
          | kept _ _ hcalls => exact hcalls id call hcall hstopping
          | ended _ _ _ _ hcalls => exact stopping_of_erase hcalls id call hcall hstopping
        have htakes₀ := ih (Nat.le_trans (Nat.le_add_right _ _) honce) hcall₀ hstopping₀ hreg₀
        rcases hr.takesDown_step hwas hstep hreg₀ hreg hbound hcall₀ htakes₀ with
          ⟨call', hcall', htakes⟩ | ⟨hnone, -⟩
        · exact hsame hcall' htakes
        · cases hnone.symm.trans hcall
      · exact hsame hcall' htakes

/-- A hub that was stopped stays stopped along every run. -/
lemma stopped_of_run (hstopped : h.stopped = true) (hrun : h.run more = some (h', told)) :
    h'.stopped = true := by
  induction more generalizing h told with
  | nil =>
    cases hrun
    exact hstopped
  | cons action more ih =>
    obtain ⟨h₁, told₁, told₂, hstep, hrest, rfl⟩ := run_cons hrun
    exact ih ((Follows.of_step hstep).stopped hstopped) hrest

end Hub

end WatchHub
