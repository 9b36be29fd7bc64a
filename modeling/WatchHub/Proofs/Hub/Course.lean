import WatchHub.Proofs.Hub.Later

/-!
# The course of a population

Where a population stands tells what it has said so far: which history it has read and how much of it
it has offered, or how it failed and whether the error was offered. `Population.Stage.Course` says so
stage by stage; every step of a population keeps it.
-/

namespace WatchHub

variable {P : Type}

namespace Fact

/-- The history that the population of a subscription has read, as it is to be offered. -/
def reading? (key : Key) (handle : Handle) : Fact P → Option (List (Delivery P))
  | historyRead k h _ entries =>
    if k = key ∧ h = handle then some (entries.map Entry.delivery) else none
  | _ => none

/-- Why the population of a subscription failed, as its consumer is to be told. -/
def failure? (key : Key) (handle : Handle) : Fact P → Option String
  | snapshotFailed k h failure => if k = key ∧ h = handle then some failure.message else none
  | replayRefused k h failure => if k = key ∧ h = handle then some failure.detail else none
  | _ => none

variable {key : Key} {handle : Handle} (facts : List (Fact P))

@[simp]
lemma reading?_concerns :
    (facts.filter (concerns key handle)).filterMap (reading? key handle) =
      facts.filterMap (reading? key handle) :=
  filterMap_filter_concerns (fun x => by cases x <;> simp [reading?, concerns]) facts

@[simp]
lemma failure?_concerns :
    (facts.filter (concerns key handle)).filterMap (failure? key handle) =
      facts.filterMap (failure? key handle) :=
  filterMap_filter_concerns (fun x => by cases x <;> simp [failure?, concerns]) facts

end Fact

/-- Whether every delivery is of a logged event. -/
def Logged (ds : List (Delivery P)) : Prop :=
  ∀ d ∈ ds, d.version.isSome = true

lemma Logged.append_singleton {ds : List (Delivery P)} (h : Logged ds) {d : Delivery P}
    (hd : d.version.isSome = true) : Logged (ds ++ [d]) := by
  intro d' hd'
  rcases List.mem_append.1 hd' with hd' | hd'
  · exact h d' hd'
  · cases List.mem_singleton.1 hd'
    exact hd

lemma logged_entries (entries : List (Entry P)) : Logged (entries.map Entry.delivery) := by
  intro d hd
  obtain ⟨e, -, rfl⟩ := List.mem_map.1 hd
  rfl

/-- What a population has read, how it failed and what it has offered when it stands at a stage. -/
def Population.Stage.Course (readings : List (List (Delivery P))) (failures : List String)
    (offers : List (Delivery P × Offer)) : Population.Stage P → Prop
  | .spawned _ | .listing | .seeking _ | .reading .. => readings = [] ∧ failures = [] ∧ offers = []
  | .between (.items _) | .locating .. | .recording .. =>
    readings = [] ∧ failures = [] ∧ Logged (offers.map Prod.fst)
  | .offering d (.items _) | .waiting d (.items _) =>
    readings = [] ∧ failures = [] ∧ Logged (offers.map Prod.fst ++ [d])
  | .between (.history _ ds) =>
    readings = [offers.map Prod.fst ++ ds] ∧ failures = [] ∧ Logged (offers.map Prod.fst ++ ds)
  | .offering d (.history _ ds) | .waiting d (.history _ ds) =>
    readings = [offers.map Prod.fst ++ d :: ds] ∧ failures = [] ∧
      Logged (offers.map Prod.fst ++ d :: ds)
  | .offering d .nothing | .waiting d .nothing =>
    readings = [] ∧ offers = [] ∧ ∃ reason, failures = [reason] ∧ d = .unversioned reason
  | .between .nothing => False
  | .finished .complete =>
    (readings = [] ∨ readings = [offers.map Prod.fst]) ∧ failures = [] ∧
      Logged (offers.map Prod.fst)
  | .finished .failed =>
    readings = [] ∧
      ∃ reason offer, failures = [reason] ∧ offers = [(.unversioned reason, offer)]
  | .finished .closed => failures = [] ∧ Logged (offers.map Prod.fst)
  | .finished .crashed => readings = [] ∧ failures = [] ∧ Logged (offers.map Prod.fst)

namespace Subscription

open Population.Stage (Course)

variable {key : Key} {handle : Handle} {s : Subscription P}
  {readings : List (List (Delivery P))} {failures : List String}
  {offers : List (Delivery P × Offer)}

/-- An offer comes to its end, in whatever way. -/
lemma course_settle {d : Delivery P} {rest : Population.Rest P}
    (h : Course readings failures offers (.offering d rest)) (s : Subscription P) (offer : Offer) :
    Course readings failures (offers ++ [(d, offer)]) (s.settle offer rest).population.stage := by
  have hmap : (offers ++ [(d, offer)]).map Prod.fst = offers.map Prod.fst ++ [d] := by simp
  cases rest with
  | items items =>
    obtain ⟨hread, hfail, hlogged⟩ := h
    cases offer with
    | closed => exact ⟨hfail, hmap ▸ hlogged⟩
    | delivered | timedOut => exact ⟨hread, hfail, hmap ▸ hlogged⟩
  | history after ds =>
    obtain ⟨hread, hfail, hlogged⟩ := h
    have hlist : offers.map Prod.fst ++ d :: ds = (offers ++ [(d, offer)]).map Prod.fst ++ ds := by
      simp
    cases offer with
    | closed =>
      refine ⟨hfail, fun d' hd' => hlogged d' ?_⟩
      rw [hlist]
      exact List.mem_append_left ds hd'
    | delivered | timedOut => exact ⟨hlist ▸ hread, hfail, hlist ▸ hlogged⟩
  | nothing =>
    obtain ⟨hread, rfl, reason, hfail, rfl⟩ := h
    exact ⟨hread, reason, offer, hfail, rfl⟩

open WatchHub.Fact (reading? failure? offer?)

/-- What is told about neither histories, failures nor offers leaves the course as it is. -/
lemma course_idle {told : List (Fact P)} (hread : told.filterMap (reading? key handle) = [])
    (hfail : told.filterMap (failure? key handle) = [])
    (hoffer : told.filterMap (offer? key handle) = []) {stage : Population.Stage P}
    (h : Course readings failures offers stage) :
    stage.Course (readings ++ told.filterMap (reading? key handle))
      (failures ++ told.filterMap (failure? key handle))
      (offers ++ told.filterMap (offer? key handle)) := by
  rwa [hread, hfail, hoffer, List.append_nil, List.append_nil, List.append_nil]

/-- An offer that came to its end is told. -/
lemma course_offered {d : Delivery P} {rest : Population.Rest P}
    (h : Course readings failures offers (.offering d rest)) (s : Subscription P) (offer : Offer) :
    (s.settle offer rest).population.stage.Course
      (readings ++ [Fact.offered key handle d offer].filterMap (reading? key handle))
      (failures ++ [Fact.offered key handle d offer].filterMap (failure? key handle))
      (offers ++ [Fact.offered key handle d offer].filterMap (offer? key handle)) := by
  have hoffer : [Fact.offered key handle d offer].filterMap (offer? key handle) = [(d, offer)] := by
    simp [offer?]
  rw [hoffer, show [Fact.offered key handle d offer].filterMap (reading? key handle) = [] from rfl,
    show [Fact.offered key handle d offer].filterMap (failure? key handle) = [] from rfl,
    List.append_nil, List.append_nil]
  exact course_settle h s offer

/-- Every step of a population stays on its course. -/
theorem Populates.course {log : EventLog P} {move : Population.Move P} {out : Populated P}
    (hp : Populates key handle log s move out)
    (h : s.population.stage.Course readings failures offers) :
    out.subscription.population.stage.Course
      (readings ++ out.facts.filterMap (reading? key handle))
      (failures ++ out.facts.filterMap (failure? key handle))
      (offers ++ out.facts.filterMap (offer? key handle)) := by
  cases hp with
  | startClosed hstage | quit hstage =>
    rw [hstage] at h
    obtain ⟨rfl, rfl, rfl⟩ := h
    exact course_idle rfl rfl rfl ⟨rfl, fun _ hd => absurd hd List.not_mem_nil⟩
  | startListing hstage | startSeeking hstage | seekFound hstage =>
    rw [hstage] at h
    exact course_idle rfl rfl rfl h
  | answerItems hstage | answerCrashed hstage =>
    rw [hstage] at h
    obtain ⟨rfl, rfl, rfl⟩ := h
    exact course_idle rfl rfl rfl ⟨rfl, rfl, fun _ hd => absurd hd List.not_mem_nil⟩
  | answerFailed hstage | seekRefused hstage | readRefused hstage =>
    rw [hstage] at h
    obtain ⟨rfl, rfl, rfl⟩ := h
    exact ⟨rfl, rfl, _, by simp [failure?], rfl⟩
  | @readHistory after id entries hstage =>
    rw [hstage] at h
    obtain ⟨rfl, rfl, rfl⟩ := h
    exact ⟨by simp [reading?, offer?], rfl, logged_entries entries⟩
  | snapshotDone hstage =>
    rw [hstage] at h
    exact course_idle rfl rfl rfl ⟨.inl h.1, h.2⟩
  | snapshotHalted hstage =>
    rw [hstage] at h
    exact course_idle rfl rfl rfl h.2
  | snapshotNext hstage =>
    rw [hstage] at h
    exact course_idle rfl rfl rfl h
  | replayDone hstage =>
    rw [hstage] at h
    obtain ⟨hread, hfail, hlogged⟩ := h
    rw [List.append_nil] at hread hlogged
    exact course_idle rfl rfl rfl ⟨.inr hread, hfail, hlogged⟩
  | replayNext hstage =>
    rw [hstage] at h
    exact course_idle rfl rfl rfl h
  | complaintDone hstage =>
    rw [hstage] at h
    exact h.elim
  | @locate event rest epoch hstage =>
    rw [hstage] at h
    refine course_idle ?_ ?_ ?_ h <;> exact Fact.filterMap_ofLocate rfl log
  | record hstage =>
    rw [hstage] at h
    obtain ⟨hread, hfail, hlogged⟩ := h
    exact course_idle rfl rfl rfl ⟨hread, hfail, hlogged.append_singleton rfl⟩
  | offerRefused hstage | offerAccepted hstage | offerGone hstage =>
    rw [hstage] at h
    exact course_offered h _ _
  | @offerWaits d rest hstage =>
    rw [hstage] at h
    cases rest <;> exact course_idle rfl rfl rfl h
  | @fill d rest hstage | @timeOut d rest hstage | @giveUp d rest hstage =>
    rw [hstage] at h
    -- Waiting is on the same course as offering, whatever comes after the item.
    have hoffering : Course readings failures offers (.offering d rest) := by
      cases rest <;> exact h
    exact course_offered hoffering _ _

/-- A turn that is not one of the population leaves the course as it is. -/
theorem Turn.course {past told : List (Fact P)} {s s' : Subscription P}
    (hturn : Turn key handle s told s')
    (h : s.population.stage.Course (past.filterMap (reading? key handle))
      (past.filterMap (failure? key handle)) (past.filterMap (offer? key handle))) :
    s'.population.stage.Course ((past ++ told).filterMap (reading? key handle))
      ((past ++ told).filterMap (failure? key handle))
      ((past ++ told).filterMap (offer? key handle)) := by
  rw [List.filterMap_append, List.filterMap_append, List.filterMap_append]
  cases hturn with
  | rest | passed | pruned | unsubscribed | closed | hungUp => exact course_idle rfl rfl rfl h
  | live =>
    rw [population_live]
    exact course_idle rfl rfl rfl h
  | populated hp => simpa using hp.course h
  | received hreceive =>
    rw [population_receive hreceive]
    exact course_idle rfl rfl rfl h

/-- A population is on its course throughout the life of its subscription. -/
theorem Lived.course {room : Nat} {checkpoint : Option Version} {past : List (Fact P)}
    (hl : Lived room key handle checkpoint past s) :
    s.population.stage.Course (past.filterMap (reading? key handle))
      (past.filterMap (failure? key handle)) (past.filterMap (offer? key handle)) := by
  induction hl with
  | new => exact ⟨rfl, rfl, rfl⟩
  | turn _ hturn ih => exact hturn.course ih

/-- Whether live events are still fanned out to the subscription and its consumer holds its end. -/
structure IsOpen (s : Subscription P) : Prop where
  member : s.member = true
  receiving : s.queue.receiving = true

lemma Later.isOpen {s s' : Subscription P} (h : Later s s') (ho : s'.IsOpen) : s.IsOpen :=
  ⟨h.member ho.member, h.receiving ho.receiving⟩

lemma stage_settle_ne_closed (s : Subscription P) {offer : Offer} (h : offer ≠ .closed)
    (rest : Population.Rest P) :
    (s.settle offer rest).population.stage ≠ .finished .closed := by
  cases rest <;> cases offer <;> simp [settle, moveTo] at h ⊢

/-- Nothing that an open subscription is offered finds it closed. -/
lemma Populates.not_closed {log : EventLog P} {move : Population.Move P} {out : Populated P}
    (hp : Populates key handle log s move out) {room : Nat} (hr : s.Ready room) (ho : s.IsOpen) :
    (∀ d, (d, Offer.closed) ∉ out.facts.filterMap (offer? key handle)) ∧
      out.subscription.population.stage ≠ .finished .closed := by
  have hclosed : s.closed = false := by rw [hr.closed_eq, ho.member]; rfl
  have hnever : ∀ {told : List (Fact P)}, told.filterMap (offer? key handle) = [] →
      ∀ d, (d, Offer.closed) ∉ told.filterMap (offer? key handle) := by
    intro told htold d hd
    rw [htold] at hd
    exact absurd hd List.not_mem_nil
  cases hp with
  | startClosed _ h | quit _ h | snapshotHalted _ h => cases hclosed.symm.trans h
  | offerRefused _ h => simp [hclosed, ho.member] at h
  | @offerGone d _ _ _ hgone =>
    rcases s.queue.push_cases d with ⟨-, -, h⟩ | ⟨-, -, h⟩ | ⟨hr, -⟩
    · rw [h] at hgone
      cases hgone
    · rw [h] at hgone
      cases hgone
    · cases ho.receiving.symm.trans hr
  | giveUp _ h => simp [accepts, hclosed, ho.receiving] at h
  | offerAccepted | fill | timeOut =>
    refine ⟨fun d hd => ?_, stage_settle_ne_closed _ (by decide) _⟩
    simp [offer?] at hd
  | locate =>
    exact ⟨hnever (Fact.filterMap_ofLocate rfl log), fun h => by cases h⟩
  | _ => exact ⟨hnever rfl, fun h => by cases h⟩

/-- As long as a subscription is open, no offer has found it closed. -/
theorem Lived.not_closed {room : Nat} {checkpoint : Option Version} {past : List (Fact P)}
    (hl : Lived room key handle checkpoint past s) (ho : s.IsOpen) :
    (∀ d, (d, Offer.closed) ∉ past.filterMap (offer? key handle)) ∧
      s.population.stage ≠ .finished .closed := by
  induction hl with
  | new => exact ⟨fun d hd => absurd hd List.not_mem_nil, fun h => by cases h⟩
  | @turn past s told s' hl hturn ih =>
    -- What is open after the turn was open before it.
    have hopen : s.IsOpen := hturn.later.isOpen ho
    obtain ⟨hpast, hstage⟩ := ih hopen
    have hsplit : (∀ d, (d, Offer.closed) ∉ told.filterMap (offer? key handle)) →
        ∀ d, (d, Offer.closed) ∉ (past ++ told).filterMap (offer? key handle) := by
      intro htold d hd
      rw [List.filterMap_append] at hd
      exact (List.mem_append.1 hd).elim (hpast d) (htold d)
    have hquiet : told.filterMap (offer? key handle) = [] → s'.population = s.population →
        (∀ d, (d, Offer.closed) ∉ (past ++ told).filterMap (offer? key handle)) ∧
          s'.population.stage ≠ .finished .closed := by
      intro htold hpop
      refine ⟨hsplit fun d hd => ?_, hpop ▸ hstage⟩
      rw [htold] at hd
      exact absurd hd List.not_mem_nil
    cases hturn with
    | populated hp =>
      obtain ⟨htold, hstage'⟩ := hp.not_closed hl.ready hopen
      exact ⟨hsplit (by simpa using htold), hstage'⟩
    | rest | passed | pruned | unsubscribed | closed | hungUp => exact hquiet rfl rfl
    | live => exact hquiet rfl (population_live _ _)
    | received hreceive => exact hquiet rfl (population_receive hreceive)

/-- An open subscription that missed nothing has accepted every live event. -/
lemma Accounts.accepted_eq {past : List (Fact P)} (ha : s.Accounts key handle past) (ho : s.IsOpen)
    (hdropped : s.dropped = 0) :
    past.filterMap (Fact.acceptance? key handle) = past.filterMap (Fact.emission? key) := by
  have hsub := ha.accepted
  rw [ha.reached ho.member] at hsub
  refine hsub.eq_of_length ?_
  have hcount := ha.dropped ho.receiving
  have hreached := congrArg List.length (ha.reached ho.member)
  rw [List.length_map] at hreached
  omega

/-- What was delivered is what was offered and accepted. -/
lemma deliveries_eq_filterMap (facts : List (Fact P)) :
    facts.filterMap (Fact.delivery? key handle) =
      (facts.filterMap (offer? key handle)).filterMap fun o =>
        if o.2 = .delivered then some o.1 else none := by
  rw [List.filterMap_filterMap]
  refine List.filterMap_congr fun x _ => ?_
  cases x with
  | offered k h d offer =>
    by_cases hown : k = key ∧ h = handle
    · cases offer <;> simp [Fact.delivery?, offer?, hown]
    · cases offer <;> simp [Fact.delivery?, offer?, hown]
  | _ => rfl

/-- If every offer was accepted, everything that was offered was delivered. -/
lemma deliveries_eq {facts : List (Fact P)}
    (h : ∀ d offer, (d, offer) ∈ facts.filterMap (offer? key handle) → offer = .delivered) :
    facts.filterMap (Fact.delivery? key handle) =
      (facts.filterMap (offer? key handle)).map Prod.fst := by
  rw [deliveries_eq_filterMap, ← List.filterMap_eq_map]
  refine List.filterMap_congr fun o ho => ?_
  exact if_pos (h o.1 o.2 ho)

end Subscription

end WatchHub
