import WatchHub.Proofs.Hub.Sound

/-!
# What a step changes

`Hub.Changes` says what a step makes of the logs and the registrations of a sound hub and what it
tells, one rule for each way in which these can change; where the calls stand is left out. What
concerns one subscription, one key or one log along a run is read off these rules.
-/

namespace WatchHub

variable {P : Type}

namespace Fact

/-- Whether a fact is about a call or about the hub as a whole. -/
def isAside : Fact P → Bool
  | shutdownRequested | ingestCrashed _ | graceExceeded _ _ | stopped _ | signalled _
  | returned _ _ => true
  | _ => false

/-- Who tells of something that happened. -/
inductive Teller where
  | call | ingest | population | consumer | owner

/-- Who tells a fact. That a log was opened is told by whoever needed it. -/
def teller? : Fact P → Option Teller
  | opened _ _ => none
  | watched _ | running _ _ | setupFailed _ _ _ | cancelled _ | taken _ _ | streamEnded _
  | logged _ .ingest _ _ _ | emitted _ _ | reached _ _ _ _ => some .ingest
  | listed _ _ | snapshotFailed _ _ _ | snapshotDelivered _ _ _ _ | historyRead _ _ _ _
  | replayRefused _ _ _ | replayDelivered _ _ _ _ _ | offered _ _ _ _
  | logged _ (.population _) _ _ _ => some .population
  | received _ _ _ => some .consumer
  | logged _ .owner _ _ _ => some .owner
  | _ => some .call

end Fact

/-- Whether a step is one of a call. -/
def Action.isCall : Action P → Bool
  | .start _ | .resume _ | .expire _ _ | .signal _ _ => true
  | _ => false

namespace Subscription

/-- A consumer gets the next event, or its queue is empty. -/
lemma receive_cases (s : Subscription P) :
    (∃ d s', s.receive = (.event d, s')) ∨
      (s.queue.items = [] ∧ ∃ receipt, (∀ d, receipt ≠ .event d) ∧ s.receive = (receipt, s)) := by
  unfold receive Queue.receive?
  cases s.queue.items with
  | cons d items => exact .inl ⟨d, _, rfl⟩
  | nil =>
    refine .inr ⟨rfl, _, fun d => ?_, rfl⟩
    split <;> exact nofun

/-- An event that was received was the oldest in the queue. -/
lemma queue_receive {s s' : Subscription P} {d : Delivery P} (h : s.receive = (.event d, s')) :
    ∃ queue, s.queue.receive? = some (d, queue) ∧ s' = { s with queue := queue } := by
  unfold receive at h
  split at h
  · rename_i d' queue hqueue
    cases h
    exact ⟨queue, hqueue, rfl⟩
  · split at h <;> cases h

lemma population_receive {s s' : Subscription P} {d : Delivery P}
    (h : s.receive = (.event d, s')) : s'.population = s.population := by
  obtain ⟨queue, -, rfl⟩ := queue_receive h
  rfl

lemma population_live (s : Subscription P) (d : Delivery P) :
    (s.live d).2.population = s.population := by
  unfold live
  split <;> rfl

end Subscription

namespace Hub

variable {h : Hub P}

/-- What a step changes in the logs and the registrations, and what it tells. -/
inductive Changes (h : Hub P) : Action P → List (Fact P) → Hub P → Prop where
  /-- A call moves on, which at most unbinds keys or, in a shutdown, aborts ingests. -/
  | aside {action facts h'} (f : Key → Registration P → Registration P) :
    (∀ key r, (f key r).audience = r.audience) →
    (∀ key r, (f key r).ingest = r.ingest ∨
      (h.stopped = true ∧ (f key r).ingest = r.abort.ingest)) →
    (∀ x ∈ facts, x.isAside = true ∧ ∀ n, x ≠ .stopped n) →
    h'.log = h.log → (∀ key, h'.registration? key = (h.registration? key).map (f key)) →
    action.isCall = true → h'.appending = h.appending → Changes h action facts h'
  | registered {key observer id h'} :
    h.registration? key = none →
    h'.log = h.log → h'.registrations = h.registrations.put key (.new key observer) →
    h'.appending = h.appending →
    Changes h (.resume id) [.registered key observer.name, .returned id .registered] h'
  | joined {key handle checkpoint id r h'} :
    h.stopped = false → h.registration? key = some r →
    (∀ key', h.subscription? key' handle = none) →
    h'.log = h.log →
    h'.registrations = h.registrations.put key { r with audience :=
      (r.audience.insert handle (.new h.config.queueRoom checkpoint)).1 } →
    h'.appending = h.appending →
    Changes h (.resume id)
      (r.audience.prune.2 ++ [.subscribed key handle checkpoint,
        .returned id (.subscribed handle)]) h'
  | left {key handle id r h'} :
    h.registration? key = some r →
    h'.log = h.log →
    h'.registrations =
      h.registrations.put key { r with audience := (r.audience.remove handle).2.1 } →
    h'.appending = h.appending →
    Changes h (.resume id) ((r.audience.remove handle).2.2 ++ [.returned id .unsubscribed]) h'
  | closed {key id r h'} :
    h.stopped = true → h.registration? key = some r →
    h'.log = h.log →
    h'.registrations = h.registrations.put key { r with audience := r.audience.closeAll.1 } →
    h'.appending = h.appending →
    Changes h (.resume id) r.audience.closeAll.2 h'
  /-- A shutdown comes to its end. -/
  | stopped {drained id reply h'} :
    h.stopped = true →
    h'.log = h.log.clear → h'.registrations = h.registrations → h'.appending = h.appending →
    Changes h (.resume id) [.stopped drained, .returned id reply] h'
  | ingested {key move r out} :
    h.registration? key = some r → r.Ingests h.stopped h.log move out →
    Changes h (.ingest key move) out.facts
      ({ h with log := out.log }.putRegistration key out.registration)
  | populated {key handle move r s out} :
    h.registration? key = some r → r.audience.get? handle = some s →
    s.Populates key handle h.log move out →
    Changes h (.populate key handle move) out.facts
      ({ h with log := out.log }.putRegistration key
        { r with audience := r.audience.put handle out.subscription })
  | received {key handle r s d s'} :
    h.registration? key = some r → r.audience.get? handle = some s →
    s.receive = (.event d, s') →
    Changes h (.receive key handle) [.received key handle d]
      (h.putRegistration key { r with audience := r.audience.put handle s' })
  /-- The consumer asks while its queue is empty. -/
  | asked {key handle r s} :
    h.registration? key = some r → r.audience.get? handle = some s → s.queue.items = [] →
    Changes h (.receive key handle) []
      (h.putRegistration key { r with audience := r.audience.put handle s })
  | hungUp {key handle r s} :
    h.registration? key = some r → r.audience.get? handle = some s →
    Changes h (.hangUp key handle) []
      (h.putRegistration key
        { r with audience := r.audience.put handle { s with queue := s.queue.hangUp } })
  | sent {key event r} :
    h.registration? key = some r →
    Changes h (.send key event) [] (h.putRegistration key (r.send event))
  | ended {key r} :
    h.registration? key = some r →
    Changes h (.endStream key) [] (h.putRegistration key r.endStream)
  | located {key epoch event} :
    Changes h (.locate key epoch event) (Fact.ofLocate h.log key epoch)
      { h with
        log := (h.log.locate key epoch).2
        appending := h.appending ++ [⟨key, (h.log.locate key epoch).1, event⟩] }
  | recorded {place a} :
    h.appending[place]? = some a →
    Changes h (.record place)
      [.logged a.key .owner a.log a.event (h.log.record a.log a.event).1]
      { h with
        log := (h.log.record a.log a.event).2
        appending := h.appending.eraseIdx place }
  | cleared : Changes h .clear [] { h with log := h.log.clear }

/-- Joining tells of memberships only. -/
lemma isMembership_joined {a : Audience P} {key : Key} {handle : Handle}
    {checkpoint : Option Version} {id : CallId} {reply : Reply} {x : Fact P}
    (hx : x ∈ a.prune.2 ++ [.subscribed key handle checkpoint, .returned id reply]) :
    x.isMembership = true := by
  rcases List.mem_append.1 hx with hx | hx
  · exact Audience.isMembership_prune hx
  · simp only [List.mem_cons, List.not_mem_nil, or_false] at hx
    rcases hx with rfl | rfl <;> rfl

/-- Leaving tells of memberships only. -/
lemma isMembership_left {a : Audience P} {handle : Handle} {id : CallId} {reply : Reply}
    {x : Fact P} (hx : x ∈ (a.remove handle).2.2 ++ [.returned id reply]) :
    x.isMembership = true := by
  rcases List.mem_append.1 hx with hx | hx
  · exact Audience.isMembership_remove hx
  · cases List.mem_singleton.1 hx
    rfl

/-- An ingest tells its own facts, and that it opened a log. -/
lemma teller?_of_ingests {stopped : Bool} {log : EventLog P} {r : Registration P}
    {move : Ingest.Move} {out : Ingested P} (hi : r.Ingests stopped log move out) {x : Fact P}
    (hx : x ∈ out.facts) : x.teller? = some .ingest ∨ x.teller? = none := by
  cases hi with
  | locate _ =>
    cases Fact.mem_ofLocate hx
    exact .inr rfl
  | emit _ => rcases Audience.mem_emit hx with rfl | ⟨_, _, rfl⟩ <;> exact .inl rfl
  | _ =>
    first
    | cases hx; done
    | cases List.mem_singleton.1 hx; exact .inl rfl

/-- A population tells its own facts, and that it opened a log. -/
lemma teller?_of_populates {key : Key} {handle : Handle} {log : EventLog P} {s : Subscription P}
    {move : Population.Move P} {out : Populated P} (hp : s.Populates key handle log move out)
    {x : Fact P} (hx : x ∈ out.facts) : x.teller? = some .population ∨ x.teller? = none := by
  cases hp with
  | locate _ =>
    cases Fact.mem_ofLocate hx
    exact .inr rfl
  | _ =>
    first
    | cases hx; done
    | cases List.mem_singleton.1 hx; exact .inl rfl

lemma teller?_of_isAside {x : Fact P} (hx : x.isAside = true) : x.teller? = some .call := by
  cases x <;> first | rfl | cases hx

lemma teller?_of_isMembership {x : Fact P} (hx : x.isMembership = true) :
    x.teller? = some .call := by
  cases x <;> first | rfl | cases hx

/-- Each fact is told by a step of its teller. -/
theorem Changes.told_by {action : Action P} {told : List (Fact P)} {h' : Hub P}
    (hc : Changes h action told h') {x : Fact P} (hx : x ∈ told) :
    match x.teller? with
    | none => True
    | some .call => action.isCall = true
    | some .ingest => ∃ key move r out, action = .ingest key move ∧ told = out.facts ∧
        h.registration? key = some r ∧ r.Ingests h.stopped h.log move out
    | some .population => ∃ key handle move r s out, action = .populate key handle move ∧
        told = out.facts ∧ h.registration? key = some r ∧ r.audience.get? handle = some s ∧
        s.Populates key handle h.log move out
    | some .consumer => ∃ key handle r s d s', action = .receive key handle ∧
        told = [.received key handle d] ∧ h.registration? key = some r ∧
        r.audience.get? handle = some s ∧ s.receive = (.event d, s')
    | some .owner => ∃ place a, action = .record place ∧ h.appending[place]? = some a ∧
        x = .logged a.key .owner a.log a.event (h.log.record a.log a.event).1 := by
  cases hc with
  | aside _ _ _ hasides _ _ hcall =>
    rw [teller?_of_isAside (hasides x hx).1]
    exact hcall
  | registered | stopped =>
    simp only [List.mem_cons, List.not_mem_nil, or_false] at hx
    rcases hx with rfl | rfl <;> rfl
  | joined =>
    rw [teller?_of_isMembership (isMembership_joined hx)]
    rfl
  | left =>
    rw [teller?_of_isMembership (isMembership_left hx)]
    rfl
  | closed =>
    rw [teller?_of_isMembership (Audience.isMembership_closeAll hx)]
    rfl
  | ingested hr hi =>
    rcases teller?_of_ingests hi hx with hteller | hteller <;> rw [hteller]
    · exact ⟨_, _, _, _, rfl, rfl, hr, hi⟩
    · trivial
  | populated hr hget hp =>
    rcases teller?_of_populates hp hx with hteller | hteller <;> rw [hteller]
    · exact ⟨_, _, _, _, _, _, rfl, rfl, hr, hget, hp⟩
    · trivial
  | received hr hget hreceive =>
    cases List.mem_singleton.1 hx
    exact ⟨_, _, _, _, _, _, rfl, rfl, hr, hget, hreceive⟩
  | located =>
    cases Fact.mem_ofLocate hx
    trivial
  | recorded ha =>
    cases List.mem_singleton.1 hx
    exact ⟨_, _, rfl, ha, rfl⟩
  | asked | hungUp | sent | ended | cleared => cases hx

/-- What the owner is adding it has begun to add. -/
lemma Changes.appending_cases {action : Action P} {told : List (Fact P)} {h' : Hub P}
    (hc : Changes h action told h') {a : Appending P} (ha : a ∈ h'.appending) :
    a ∈ h.appending ∨ ∃ epoch, action = .locate a.key epoch a.event := by
  cases hc with
  | aside _ _ _ _ _ _ _ hsame => exact .inl (hsame ▸ ha)
  | registered _ _ _ hsame | left _ _ _ hsame | stopped _ _ _ hsame => exact .inl (hsame ▸ ha)
  | closed _ _ _ _ hsame => exact .inl (hsame ▸ ha)
  | joined _ _ _ _ _ hsame => exact .inl (hsame ▸ ha)
  | located =>
    rcases List.mem_append.1 ha with ha | ha
    · exact .inl ha
    · cases List.mem_singleton.1 ha
      exact .inr ⟨_, rfl⟩
  | recorded => exact .inl (List.mem_of_mem_eraseIdx ha)
  | _ => exact .inl ha

/-- A call moves on and touches neither logs nor registrations. -/
lemma Changes.idle {action : Action P} {facts : List (Fact P)} {h' : Hub P}
    (hfacts : ∀ x ∈ facts, x.isAside = true ∧ ∀ n, x ≠ .stopped n) (hlog : h'.log = h.log)
    (hregs : h'.registrations = h.registrations) (hcall : action.isCall = true)
    (happending : h'.appending = h.appending) : Changes h action facts h' := by
  refine .aside (fun _ r => r) (fun _ _ => rfl) (fun _ _ => .inl rfl) hfacts hlog (fun key => ?_)
    hcall happending
  rw [registration?, hregs]
  exact (Option.map_id' ..).symm

lemma isAside_nil : ∀ x ∈ ([] : List (Fact P)), x.isAside = true ∧ ∀ n, x ≠ .stopped n :=
  fun _ hx => absurd hx List.not_mem_nil

/-- A single fact that is about a call or the hub as a whole. -/
lemma isAside_singleton {x : Fact P} (hx : x.isAside = true) (hne : ∀ n, x ≠ .stopped n) :
    ∀ y ∈ [x], y.isAside = true ∧ ∀ n, y ≠ .stopped n := by
  intro y hy
  cases List.mem_singleton.1 hy
  exact ⟨hx, hne⟩

lemma isAside_returned (id : CallId) (answer : Reply) :
    ∀ x ∈ ([.returned id answer] : List (Fact P)), x.isAside = true ∧ ∀ n, x ≠ .stopped n :=
  isAside_singleton rfl fun _ => nofun

lemma Changes.start (h : Hub P) (request : Request) :
    Changes h (.start request) (h.start request).2 (h.start request).1 := by
  unfold Hub.start
  cases request with
  | register key observer => exact .idle isAside_nil rfl rfl rfl rfl
  | subscribe key checkpoint =>
    dsimp only
    split
    · exact .idle (isAside_returned _ _) rfl rfl rfl rfl
    · exact .idle isAside_nil rfl rfl rfl rfl
  | unsubscribe key handle => exact .idle isAside_nil rfl rfl rfl rfl
  | shutdown => exact .idle (isAside_singleton rfl fun _ => nofun) rfl rfl rfl rfl
  | guard => exact .idle isAside_nil rfl rfl rfl rfl

lemma Changes.register (hs : h.Sound) (id : CallId) (key : Key) (observer : ObserverRef) :
    Changes h (.resume id) (h.register id key observer).2 (h.register id key observer).1 := by
  unfold Hub.register
  split
  · exact .idle (isAside_returned _ _) rfl rfl rfl rfl
  · rename_i hstopped
    split
    · exact .idle (isAside_returned _ _) rfl rfl rfl rfl
    · rename_i hbound
      exact .registered (hs.registration?_eq_none (eq_false_of_ne_true hstopped)
        (eq_false_of_ne_true hbound)) rfl rfl rfl

lemma Changes.join (hs : h.Sound) {id : CallId} {key : Key} {handle : Handle}
    {checkpoint : Option Version}
    (hcall : h.calls.get? id = some (.joining key handle checkpoint)) :
    Changes h (.resume id) (h.join id key handle checkpoint).2
      (h.join id key handle checkpoint).1 := by
  unfold Hub.join
  split
  · exact .idle (isAside_returned _ _) rfl rfl rfl rfl
  · rename_i hstopped
    cases hr : h.registration? key with
    | none => exact .idle (isAside_returned _ _) rfl rfl rfl rfl
    | some r =>
      simp only [reply, List.append_assoc, List.singleton_append]
      exact .joined (eq_false_of_ne_true hstopped) hr (hs.fresh hcall) rfl rfl rfl

lemma Changes.remove (h : Hub P) (id : CallId) (key : Key) (handle : Handle) :
    Changes h (.resume id) (h.remove id key handle).2 (h.remove id key handle).1 := by
  unfold Hub.remove
  cases hr : h.registration? key with
  | none => exact .idle (isAside_returned _ _) rfl rfl rfl rfl
  | some r => exact .left hr rfl rfl rfl

lemma Changes.drain (h : Hub P) (id : CallId) :
    Changes h (.resume id) (h.drain id).2 (h.drain id).1 :=
  .aside (fun _ r => { r with bound := false }) (fun _ _ => rfl) (fun _ _ => .inl rfl) isAside_nil
    rfl (fun key => Table.get?_mapValues h.registrations _ key) rfl rfl

/-- What a shutdown notes about an ingest is about the hub. -/
lemma isAside_obituary (h : Hub P) (key : Key) :
    ∀ x ∈ h.obituary key, x.isAside = true ∧ ∀ n, x ≠ .stopped n := by
  unfold obituary
  split
  · split
    · exact isAside_singleton rfl fun _ => nofun
    · exact isAside_nil
  · exact isAside_nil

lemma Changes.await {id : CallId} {left drained : List Key} {out : Outcome P}
    (h' : h.await id left drained = some out) : Changes h (.resume id) out.2 out.1 := by
  unfold Hub.await at h'
  split at h'
  · cases h'
    exact .idle isAside_nil rfl rfl rfl rfl
  · split at h'
    · cases h'
      exact .idle (isAside_obituary h _) rfl rfl rfl rfl
    · cases h'

lemma Changes.endGrace (hstopped : h.stopped = true) (id : CallId) (looks : Nat)
    (left drained : List Key) :
    Changes h (.expire id looks) (h.endGrace id looks left drained).2
      (h.endGrace id looks left drained).1 := by
  have hnoted : ∀ x ∈ ((left.take looks).takeWhile h.hasFinished).flatMap h.obituary,
      x.isAside = true ∧ ∀ n, x ≠ .stopped n := by
    intro x hx
    obtain ⟨key, -, hx⟩ := List.mem_flatMap.1 hx
    exact isAside_obituary h key x hx
  unfold Hub.endGrace
  dsimp only
  split
  · exact .idle hnoted rfl rfl rfl rfl
  · refine .aside (fun key r => if (Key.sort _).contains key then r.abort else r) (fun key r => ?_)
      (fun key r => ?_) (fun x hx => ?_) rfl
      (fun key => Table.get?_mapValues h.registrations _ key) rfl rfl
    · split
      · unfold Registration.abort
        split <;> rfl
      · rfl
    · split
      · exact .inr ⟨hstopped, rfl⟩
      · exact .inl rfl
    · rcases List.mem_append.1 hx with hx | hx
      · exact hnoted x hx
      · cases List.mem_singleton.1 hx
        exact ⟨rfl, fun _ => nofun⟩

lemma Changes.close (hstopped : h.stopped = true) (id : CallId) (left : List Key) (drained : Nat)
    (answer : Reply) :
    Changes h (.resume id) (h.close id left drained answer).2
      (h.close id left drained answer).1 := by
  unfold Hub.close
  split
  · rename_i key left
    cases hr : h.registration? key with
    | none => exact .idle isAside_nil rfl rfl rfl rfl
    | some r => exact .closed hstopped hr rfl rfl rfl
  · exact .stopped hstopped rfl rfl rfl

lemma Changes.resume (hs : h.Sound) {id : CallId} {out : Outcome P}
    (h' : h.resume id = some out) : Changes h (.resume id) out.2 out.1 := by
  unfold Hub.resume at h'
  split at h'
  · cases h'
    exact .register hs ..
  · cases h'
    unfold find
    dsimp only
    split
    · split <;> exact .idle isAside_nil rfl rfl rfl rfl
    · exact .idle (isAside_returned _ _) rfl rfl rfl rfl
  · rename_i hcall
    cases h'
    exact .join hs hcall
  · cases h'
    unfold leave
    split
    · exact .idle isAside_nil rfl rfl rfl rfl
    · exact .idle (isAside_returned _ _) rfl rfl rfl rfl
  · cases h'
    exact .remove h ..
  · cases h'
    exact .drain h id
  · exact .await h'
  · rename_i hcall
    cases h'
    exact .close (hs.stopping hcall rfl) ..
  · split at h'
    · cases h'
      exact .idle (isAside_returned _ _) rfl rfl rfl rfl
    · cases h'
  · cases h'
  · cases h'

/-- A step within one registration that leaves the logs alone. -/
lemma within_eq_some {key : Key} {f : Registration P → Option (Ingested P)} {out : Outcome P}
    (h' : h.within key f = some out) :
    ∃ r ingested, h.registration? key = some r ∧ f r = some ingested ∧
      out = ({ h with log := ingested.log }.putRegistration key ingested.registration,
        ingested.facts) := by
  obtain ⟨r, hr, h'⟩ := Option.bind_eq_some_iff.1 h'
  obtain ⟨ingested, hf, h'⟩ := Option.bind_eq_some_iff.1 h'
  cases h'
  exact ⟨r, ingested, hr, hf, rfl⟩

lemma Changes.receive {key : Key} {handle : Handle} {out : Outcome P}
    (h' : h.step (.receive key handle) = some out) :
    Changes h (.receive key handle) out.2 out.1 := by
  obtain ⟨r, ingested, hr, hf, rfl⟩ := within_eq_some h'
  obtain ⟨s, hget, hf⟩ := Option.bind_eq_some_iff.1 hf
  rcases s.receive_cases with ⟨d, s', hreceive⟩ | ⟨hitems, receipt, hreceipt, hreceive⟩
  · rw [hreceive] at hf
    cases hf
    exact .received hr hget hreceive
  · rw [hreceive] at hf
    cases hf
    cases receipt with
    | event d => exact absurd rfl (hreceipt d)
    | nothing => exact .asked hr hget hitems
    | ended => exact .asked hr hget hitems

/-- Every step of a sound hub changes it in one of these ways. -/
theorem Sound.changes (hs : h.Sound) {action : Action P} {out : Outcome P}
    (h' : h.step action = some out) : Changes h action out.2 out.1 := by
  cases action with
  | start request =>
    cases h'
    exact .start h request
  | resume call => exact .resume hs h'
  | expire call looks =>
    simp only [Hub.step, expire] at h'
    split at h'
    · rename_i hcall
      cases h'
      exact .endGrace (hs.stopping hcall rfl) ..
    · cases h'
  | signal call name =>
    simp only [Hub.step, signal] at h'
    split at h'
    · cases h'
      refine .idle (fun x hx => ?_) rfl rfl rfl rfl
      rcases List.mem_cons.1 hx with rfl | hx
      · exact ⟨rfl, fun _ h => by cases h⟩
      · cases List.mem_singleton.1 hx
        exact ⟨rfl, fun _ h => by cases h⟩
    · cases h'
  | ingest key move =>
    obtain ⟨r, ingested, hr, hf, rfl⟩ := within_eq_some h'
    exact .ingested hr (.of_step hf)
  | populate key handle move =>
    obtain ⟨r, ingested, hr, hf, rfl⟩ := within_eq_some h'
    obtain ⟨s, hget, hf⟩ := Option.bind_eq_some_iff.1 hf
    obtain ⟨p, hp, hf⟩ := Option.bind_eq_some_iff.1 hf
    cases hf
    rw [hs.keyed hr] at hp
    exact .populated hr hget (.of_populate hp)
  | receive key handle => exact .receive h'
  | hangUp key handle =>
    obtain ⟨r, ingested, hr, hf, rfl⟩ := within_eq_some h'
    obtain ⟨s, hget, hf⟩ := Option.bind_eq_some_iff.1 hf
    cases hf
    exact .hungUp hr hget
  | send key event =>
    obtain ⟨r, ingested, hr, hf, rfl⟩ := within_eq_some h'
    cases hf
    exact .sent hr
  | endStream key =>
    obtain ⟨r, ingested, hr, hf, rfl⟩ := within_eq_some h'
    cases hf
    exact .ended hr
  | locate key epoch event =>
    cases h'
    exact .located
  | record place =>
    obtain ⟨a, ha, h'⟩ := Option.bind_eq_some_iff.1 h'
    cases h'
    exact .recorded ha
  | clear =>
    cases h'
    exact .cleared

/-- The settings never change, and a stop mark is never taken back. -/
structure Follows (h h' : Hub P) : Prop where
  config_eq : h'.config = h.config
  stopped : h.stopped = true → h'.stopped = true

lemma Follows.resume {call : CallId} {out : Outcome P} (h' : h.resume call = some out) :
    h.Follows out.1 := by
  unfold Hub.resume at h'
  split at h'
  · cases h'
    unfold register
    split
    · exact ⟨rfl, id⟩
    · split <;> exact ⟨rfl, id⟩
  · cases h'
    unfold find
    dsimp only
    split
    · split <;> exact ⟨rfl, id⟩
    · exact ⟨rfl, id⟩
  · cases h'
    unfold join
    split
    · exact ⟨rfl, id⟩
    · split <;> exact ⟨rfl, id⟩
  · cases h'
    unfold leave
    split <;> exact ⟨rfl, id⟩
  · cases h'
    unfold remove
    split <;> exact ⟨rfl, id⟩
  · cases h'
    exact ⟨rfl, id⟩
  · unfold await at h'
    split at h'
    · cases h'
      exact ⟨rfl, id⟩
    · split at h'
      · cases h'
        exact ⟨rfl, id⟩
      · cases h'
  · cases h'
    unfold close
    split
    · split <;> exact ⟨rfl, id⟩
    · exact ⟨rfl, id⟩
  · split at h'
    · cases h'
      exact ⟨rfl, id⟩
    · cases h'
  · cases h'
  · cases h'

/-- A step leaves the settings alone and takes no stop mark back. -/
theorem Follows.of_step {action : Action P} {out : Outcome P} (h' : h.step action = some out) :
    h.Follows out.1 := by
  cases action with
  | start request =>
    cases h'
    unfold Hub.start
    cases request with
    | register | unsubscribe | guard => exact ⟨rfl, id⟩
    | shutdown => exact ⟨rfl, fun _ => rfl⟩
    | subscribe =>
      dsimp only
      split <;> exact ⟨rfl, id⟩
  | resume call => exact .resume h'
  | expire call looks =>
    simp only [Hub.step, expire] at h'
    split at h'
    · cases h'
      unfold endGrace
      dsimp only
      split <;> exact ⟨rfl, id⟩
    · cases h'
  | signal call name =>
    simp only [Hub.step, signal] at h'
    split at h'
    · cases h'
      exact ⟨rfl, fun _ => rfl⟩
    · cases h'
  | locate | clear =>
    cases h'
    exact ⟨rfl, id⟩
  | record =>
    obtain ⟨a, -, h'⟩ := Option.bind_eq_some_iff.1 h'
    cases h'
    exact ⟨rfl, id⟩
  | ingest | populate | receive | hangUp | send | endStream =>
    obtain ⟨r, ingested, hr, hf, rfl⟩ := within_eq_some h'
    exact ⟨rfl, id⟩

end Hub

end WatchHub
