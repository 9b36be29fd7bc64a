import WatchHub.Proofs.Hub.Enquiries
import WatchHub.Proofs.Hub.Halt
import WatchHub.Proofs.Hub.Phase

/-!
# The life of a registration

Who registers first under a key stays for the life of the hub; whoever comes later is refused and changes
nothing. The observer of the first is asked for its stream once at most, and for its items once for each
snapshot, and the states of its ingest come in the order in which a life goes
(`Hub.lifecycle_of_registration`).
-/

namespace WatchHub

variable {P : Type}

namespace Hub

open WatchHub.Fact (asksStream asksItems)

variable {h h' : Hub P} {action : Action P} {told : List (Fact P)} {key : Key}
  {handle : Handle} {config : HubConfig} {actions : List (Action P)} {facts : List (Fact P)}
  {id id' : CallId} {observer observer' : ObserverRef} {r : Registration P}

/-- A call asked to register an observer under a key and was told that it is registered. -/
def Accepted (actions : List (Action P)) (facts : List (Fact P)) (key : Key) (id : CallId)
    (observer : ObserverRef) : Prop :=
  (requests actions)[id]? = some (.register key observer) ∧ .returned id .registered ∈ facts

/-- The reply that a call to register under a key gets after a run. -/
inductive Answers (actions : List (Action P)) (facts : List (Fact P)) (key : Key) : Reply → Prop where
  | accepted :
    .shutdownRequested ∉ facts → (∀ id observer, ¬ Accepted actions facts key id observer) →
    Answers actions facts key .registered
  | taken {id : CallId} {observer : ObserverRef} :
    .shutdownRequested ∉ facts → Accepted actions facts key id observer →
    Answers actions facts key (.refused (.alreadyRegistered key))
  | stopped :
    .shutdownRequested ∈ facts → Answers actions facts key (.refused .stopped)

lemma Accepted.append (h : Accepted actions facts key id observer) (more : List (Action P))
    (told : List (Fact P)) : Accepted (actions ++ more) (facts ++ told) key id observer :=
  ⟨getElem?_requests h.1 more, List.mem_append_left told h.2⟩

/-- A step of a call to register: it is made, or it is refused, or it finds its key free. -/
lemma Reached.register_step (hr : Reached config actions facts h)
    (hstep : h.step action = some (h', told)) (hcaller : h.caller? action = some id)
    (hrequest : (requests (actions ++ [action]))[id]? = some (.register key observer)) :
    (action = .start (.register key observer) ∧ told = [] ∧ h'.log = h.log ∧
        h'.registrations = h.registrations) ∨
      (∃ failure, h.Refuses (.registering key observer) failure ∧
        told = [.returned id (.refused failure)] ∧ h' = h.dismiss id) ∨
      (h.stopped = false ∧ h.bound? key = none ∧
        told = [.registered key observer.name, .returned id .registered] ∧
        h' = (h.putRegistration key (.new key observer)).dismiss id) := by
  have hmade : ∀ {request}, action = .start request → request = .register key observer := by
    rintro request rfl
    cases hcaller
    rw [requests_of_some rfl, hr.served.getElem?_concat, if_pos rfl] at hrequest
    exact Option.some.inj hrequest
  have hserves : ∀ {call}, h.calls.get? id = some call → call = .registering key observer := by
    intro call hcall
    obtain ⟨request, hrequest', hserves, -⟩ := hr.served.serves hcall
    cases hrequest.symm.trans (getElem?_requests hrequest' _)
    cases call <;> simp [Call.Serves] at hserves
    exact hserves.1 ▸ hserves.2 ▸ rfl
  cases Conducts.of_step hstep (isCall_of_caller hcaller) with
  | opened =>
    cases hmade rfl
    exact .inl ⟨rfl, rfl, rfl, rfl⟩
  | turnedAway | halted => cases hmade rfl
  | proceeded hcall hp =>
    cases hcaller.symm.trans hp.caller
    cases hserves hcall
    cases hp with
    | refused hrefuses => exact .inr (.inl ⟨_, hrefuses, rfl, rfl⟩)
    | registered hrunning hbound => exact .inr (.inr ⟨hrunning, hbound, rfl, rfl⟩)

/-- Whoever is told to be registered is the caller, and has found its key free. -/
lemma Reached.accepted_step (hr : Reached config actions facts h)
    (hstep : h.step action = some (h', told)) (hreply : .returned id .registered ∈ told)
    (hrequest : (requests (actions ++ [action]))[id]? = some (.register key observer)) :
    h.registration? key = none ∧ h'.registration? key = some (.new key observer) := by
  obtain ⟨-, rfl, -⟩ := hr.register_answered hstep hreply hrequest
  rcases hr.register_step hstep rfl hrequest with ⟨hstart, -⟩ | ⟨failure, -, rfl, -⟩ |
    ⟨hrunning, hbound, -, rfl⟩
  · cases hstart
  · simp at hreply
  · exact ⟨hr.sound.registration?_eq_none hrunning (by rw [hbound]; rfl), registration?_of_put rfl⟩

/-- Whoever was accepted is there with its observer. -/
theorem Reached.registration_of_accepted (hr : Reached config actions facts h)
    (haccepted : Accepted actions facts key id observer) :
    ∃ r, h.registration? key = some r ∧ r.observer = observer := by
  induction hr with
  | new => cases haccepted.2
  | @step actions past h action h' told hr hstep ih =>
    obtain ⟨hrequest, hreply⟩ := haccepted
    rcases List.mem_append.1 hreply with hreply | hreply
    · obtain ⟨request, hrequest', -⟩ := hr.served.answered hreply
      cases hrequest.symm.trans (getElem?_requests hrequest' _)
      obtain ⟨r, hreg, hobserver⟩ := ih ⟨hrequest', hreply⟩
      obtain ⟨r', hreg', hages⟩ := hr.sound.ages hstep hreg
      exact ⟨r', hreg', hages.observer_eq.trans hobserver⟩
    · exact ⟨_, (hr.accepted_step hstep hreply hrequest).2, rfl⟩

/-- Whatever is there has been accepted. -/
theorem Reached.accepted (hr : Reached config actions facts h)
    (hreg : h.registration? key = some r) :
    ∃ id, Accepted actions facts key id r.observer := by
  induction hr generalizing r with
  | new => cases hreg
  | @step actions past h action h' told hr hstep ih =>
    cases hold : h.registration? key with
    | some r₀ =>
      obtain ⟨r', hreg', hages⟩ := hr.sound.ages hstep hold
      cases hreg.symm.trans hreg'
      obtain ⟨id, haccepted⟩ := ih hold
      exact ⟨id, hages.observer_eq ▸ haccepted.append _ _⟩
    | none =>
      rcases hr.sound.unregistered hstep hold with hnone | ⟨id, observer, hcall, -, rfl, rfl, hreg', -⟩
      · cases hnone.symm.trans hreg
      · cases hreg.symm.trans hreg'
        obtain ⟨request, hrequest, hserves, -⟩ := hr.served.serves hcall
        cases hserves
        exact ⟨id, getElem?_requests hrequest _, by simp⟩

/-- At most one call to register under a key is ever accepted. -/
theorem Reached.accepted_unique (hr : Reached config actions facts h)
    (haccepted : Accepted actions facts key id observer)
    (haccepted' : Accepted actions facts key id' observer') : id = id' := by
  induction hr with
  | new => cases haccepted.2
  | @step actions past h action h' told hr hstep ih =>
    have hearlier : ∀ {id observer}, Accepted (actions ++ [action]) (past ++ told) key id observer →
        Accepted actions past key id observer ∨ .returned id .registered ∈ told := by
      rintro id observer ⟨hrequest, hreply⟩
      refine (List.mem_append.1 hreply).imp (fun hreply => ?_) fun hreply => hreply
      obtain ⟨request, hrequest', -⟩ := hr.served.answered hreply
      cases hrequest.symm.trans (getElem?_requests hrequest' _)
      exact ⟨hrequest', hreply⟩
    -- Whoever is accepted finds its key free, so nobody was accepted before.
    have hfirst : ∀ {id id' observer observer'}, Accepted actions past key id observer →
        (requests (actions ++ [action]))[id']? = some (.register key observer') →
        .returned id' .registered ∉ told := by
      intro id id' observer observer' haccepted hrequest hreply
      obtain ⟨r, hreg, -⟩ := hr.registration_of_accepted haccepted
      cases (hr.accepted_step hstep hreply hrequest).1.symm.trans hreg
    rcases hearlier haccepted with hold | hreply <;> rcases hearlier haccepted' with hold' | hreply'
    · exact ih hold hold'
    · exact absurd hreply' (hfirst hold haccepted'.1)
    · exact absurd hreply (hfirst hold' haccepted.1)
    · obtain ⟨-, haction, -⟩ := hr.register_answered hstep hreply haccepted.1
      obtain ⟨-, haction', -⟩ := hr.register_answered hstep hreply' haccepted'.1
      cases haction.symm.trans haction'
      rfl

/-- A call to register is answered by the next step that it takes. -/
lemma Reached.answer_registering (hr : Reached config actions facts h)
    (hrequest : (requests actions)[id]? = some (.register key observer)) :
    (∃ reply, .returned id reply ∈ facts) ∨
      ∃ h' told reply, h.step (.resume id) = some (h', told) ∧ .returned id reply ∈ told := by
  rcases hr.served.progress hrequest with ⟨call, hcall, hserves⟩ | hanswered
  · cases call <;> simp [Call.Serves] at hserves
    obtain ⟨rfl, rfl⟩ := hserves
    have hstep : h.step (.resume id) = some (h.register id key observer) := by
      simp [Hub.step, Hub.resume, hcall]
    right
    rcases hr.register_step hstep rfl (getElem?_requests hrequest _) with ⟨hstart, -⟩ |
      ⟨failure, -, htold, -⟩ | ⟨-, -, htold, -⟩
    · cases hstart
    · exact ⟨_, _, .refused failure, hstep, by simp [htold]⟩
    · exact ⟨_, _, .registered, hstep, by simp [htold]⟩
  · exact .inl hanswered

/-- What a call to register is told by its step, and what it leaves as it was. -/
lemma Reached.answers (hr : Reached config actions facts h)
    (hstep : h.step action = some (h', told)) (hcaller : h.caller? action = some id)
    (hrequest : (requests (actions ++ [action]))[id]? = some (.register key observer)) :
    ((action = .start (.register key observer) ∧ told = []) ∨
        ∃ reply, .returned id reply ∈ told ∧ Answers actions facts key reply) ∧
      (.returned id .registered ∈ told ∨ ((∀ x ∈ told, ∃ reply, x = .returned id reply) ∧
        h'.log = h.log ∧ h'.registrations = h.registrations)) := by
  have hrunning : h.stopped = false → .shutdownRequested ∉ facts := fun hrunning hrequested => by
    cases hrunning.symm.trans (hr.stopped_iff.2 hrequested)
  rcases hr.register_step hstep hcaller hrequest with ⟨rfl, rfl, hlog, hregs⟩ |
    ⟨failure, hrefuses, rfl, rfl⟩ | ⟨hnotstopped, hbound, rfl, rfl⟩
  · exact ⟨.inl ⟨rfl, rfl⟩, .inr ⟨List.forall_mem_nil _, hlog, hregs⟩⟩
  · refine ⟨.inr ⟨_, List.mem_singleton.2 rfl, ?_⟩, .inr ⟨by simp, rfl, rfl⟩⟩
    cases hrefuses with
    | registering hstopped => exact .stopped (hr.stopped_iff.1 hstopped)
    | taken hnotstopped hbound =>
      obtain ⟨r, hbound⟩ := Option.isSome_iff_exists.1 hbound
      obtain ⟨first, haccepted⟩ := hr.accepted (registration?_of_bound? hbound)
      exact .taken (hrunning hnotstopped) haccepted
  · refine ⟨.inr ⟨.registered, by simp, .accepted (hrunning hnotstopped) fun first observer' hfirst => ?_⟩,
      .inl (by simp)⟩
    obtain ⟨r, hreg, -⟩ := hr.registration_of_accepted hfirst
    have hnone := hr.sound.registration?_eq_none hnotstopped (by rw [hbound]; rfl)
    cases hnone.symm.trans hreg

/-- At most one call to register under a key is ever accepted; every other one is refused, changes
nothing, and has its observer asked for nothing. The observer of the first is asked for its stream at most
once, while its ingest runs, and for its items once by each snapshot population that begins while its
subscription is open. The states of the ingest come in the order of a life, its end leaves the logs and the
open subscriptions as they are, and only the drain of a shutdown unbinds the key. -/
theorem lifecycle_of_registration (hrun : (Hub.new config).run actions = some (h, facts)) (key : Key) :
    (∀ id id' observer observer', Accepted actions facts key id observer →
      Accepted actions facts key id' observer' → id = id') ∧
    (∀ id observer, (requests actions)[id]? = some (.register key observer) →
      (∃ reply, .returned id reply ∈ facts) ∨
        ∃ h' told reply, h.step (.resume id) = some (h', told) ∧ .returned id reply ∈ told) ∧
    (∀ action h' told, h.step action = some (h', told) →
      (∀ id observer, h.caller? action = some id →
        (requests (actions ++ [action]))[id]? = some (.register key observer) →
        ((action = .start (.register key observer) ∧ told = []) ∨
            ∃ reply, .returned id reply ∈ told ∧ Answers actions facts key reply) ∧
          (.returned id .registered ∈ told ∨ ((∀ x ∈ told, ∃ reply, x = .returned id reply) ∧
            h'.log = h.log ∧ h'.registrations = h.registrations))) ∧
      -- whoever is asked came with the call that was accepted
      (.watched key ∈ told ∨ (∃ handle, .listed key handle ∈ told) →
        ∃ id r, h.registration? key = some r ∧ Accepted actions facts key id r.observer) ∧
      (.watched key ∈ told → h.ingestState? key = some .running) ∧
      (∀ handle, .listed key handle ∈ told ↔ action = .populate key handle .start ∧
        ∃ s, h.subscription? key handle = some s ∧ s.population.stage = .spawned none ∧
          s.closed = false) ∧
      (h.ingestState? key = some .running → h'.ingestState? key = some .stopped →
        Outlives h key told h') ∧
      (∀ state, h.ingestState? key = some state → h'.ingestState? key = none →
        .shutdownRequested ∈ facts ∧ Unbinds h action h')) ∧
    facts.countP (asksStream key) ≤ 1 ∧ (∀ handle, facts.countP (asksItems key handle) ≤ 1) ∧
    Phase.absent.Course (((Hub.new config).hubs actions).map fun h => h.ingestState? key) := by
  have hr : Reached config actions facts h := .of_run hrun
  refine ⟨fun _ _ _ _ => hr.accepted_unique, fun _ _ => hr.answer_registering,
    fun action h' told hstep => ?_, hr.watched_once.once, fun _ => hr.listed_once.once,
    (Reached.new (P := P)).sound.course actions key⟩
  have hc := hr.sound.changes hstep
  refine ⟨fun _ _ => hr.answers hstep, fun hasks => ?_, fun hwatched => ?_, fun handle => ?_,
    hr.sound.outlives hstep, fun state hstate hnone => ?_⟩
  · obtain ⟨r, hreg⟩ : ∃ r, h.registration? key = some r := by
      rcases hasks with hwatched | ⟨handle, hlisted⟩
      · obtain ⟨r, hreg, -⟩ := hc.watched hr.sound hwatched
        exact ⟨r, hreg⟩
      · obtain ⟨-, -, s, hsub, -⟩ := (hc.works key handle).listed hlisted
        obtain ⟨r, hreg, -⟩ := exists_registration hsub
        exact ⟨r, hreg⟩
    obtain ⟨id, haccepted⟩ := hr.accepted hreg
    exact ⟨id, r, hreg, haccepted⟩
  · obtain ⟨r, hreg, hrunning, hstage, -⟩ := hc.watched hr.sound hwatched
    simp [ingestState?, bound?, hreg, hr.sound.bound hreg hrunning, Ingest.isFinished, hstage]
  · constructor
    · intro hlisted
      obtain ⟨haction, -, s⟩ := (hc.works key handle).listed hlisted
      exact ⟨haction, s⟩
    · rintro ⟨rfl, s, hsub, hstage, hopen⟩
      exact (hc.works key handle).listed_of_start hsub hstage hopen
  · have hunbinds := hr.sound.unbinds hstep hstate hnone
    obtain ⟨id, -, hdraining, -⟩ := hunbinds
    exact ⟨hr.stopped_iff.1 (hr.sound.stopping hdraining rfl), hr.sound.unbinds hstep hstate hnone⟩

/-- Two observers are to be registered under one key. The first is asked for its stream and, by a
subscriber, for its items; then its stream ends. -/
def rivals : List (Action Nat) :=
  [.start (.register default ⟨1, "o"⟩), .start (.register default ⟨2, "p"⟩), .resume 0,
    .ingest default .start, .ingest default (.answer (.ok ())), .start (.subscribe default none),
    .resume 2, .resume 2, .populate default ⟨1⟩ .start, .endStream default, .ingest default .finish]

def toldRivals : List (Fact Nat) :=
  [.registered default "o", .returned 0 .registered, .watched default, .running default "o",
    .subscribed default ⟨1⟩ none, .returned 2 (.subscribed ⟨1⟩), .listed default ⟨1⟩,
    .streamEnded default]

theorem lifecycle_of_rivals :
    ∃ h h', (new .standard).run rivals = some (h, toldRivals) ∧
      h.step (.resume 1) = some (h', [.returned 1 (.refused (.alreadyRegistered default))]) ∧
      h'.registrations = h.registrations ∧ toldRivals.countP (asksStream default) ≤ 1 ∧
      ((new .standard).hubs rivals).map (fun h => h.ingestState? default) =
        List.replicate 3 none ++ List.replicate 8 (some .running) ++ [some .stopped] ∧
      Phase.absent.Course (((new .standard).hubs rivals).map fun h => h.ingestState? default) := by
  have hrun : (new .standard).run rivals = some (_, toldRivals) := rfl
  obtain ⟨-, -, hsteps, hwatched, -, hcourse⟩ := lifecycle_of_registration hrun default
  obtain ⟨hanswer, -⟩ := hsteps (.resume 1) _ _ rfl
  obtain ⟨-, hkept⟩ := hanswer 1 ⟨2, "p"⟩ rfl rfl
  obtain ⟨-, -, hregs⟩ := hkept.resolve_left (by simp)
  exact ⟨_, _, hrun, rfl, hregs, hwatched, rfl, hcourse⟩

end Hub

end WatchHub
