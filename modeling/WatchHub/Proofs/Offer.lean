import WatchHub.Proofs.Closing
import WatchHub.Proofs.Hub.Entries

/-!
# Offers

A population offers one item at a time. Its next step is determined: an offer looks for a free slot before
any time can run out, and one that waits either uses the slot that it was granted, or runs out of time, or
gives up because nobody takes events any more (`Hub.Next`). The first slot that the consumer frees is
granted to the offer that waits, and live events take only the slots freed after it
(`Subscription.Waits`). However a run goes on, an offer is answered at most once, and its item enters the
queue if it is delivered and not otherwise (`Subscription.Fares`).
-/

namespace WatchHub

variable {P : Type}

open WatchHub.Fact (acceptance? offer? receipt? enqueued?)

namespace Subscription

variable {key : Key} {handle : Handle} {log : EventLog P} {s s' s'' : Subscription P}
  {told told' : List (Fact P)} {d : Delivery P} {rest : Population.Rest P} {room : Nat}
  {move : Population.Move P} {out : Populated P}

/-- An item is being offered: the offer is about to be made, or it waits for a slot. -/
def IsOffering (s : Subscription P) (d : Delivery P) (rest : Population.Rest P) : Prop :=
  s.population.stage = .offering d rest ∨ s.population.stage = .waiting d rest

/-! ### The next step of an offer -/

/-- The only way on for an offer that is about to be made is to make it. -/
lemma Populates.eq_offer (hp : Populates key handle log s move out)
    (hstage : s.population.stage = .offering d rest) : move = .offer := by
  cases hp with
  | offerRefused | offerAccepted | offerGone | offerWaits => rfl
  | _ hstage' => cases hstage.symm.trans hstage'

/-- The ways on for an offer that waits exclude each other. -/
lemma Populates.waiting_cases (hp : Populates key handle log s move out)
    (hstage : s.population.stage = .waiting d rest) :
    (move = .fill ∧ s.accepts = true ∧ s.queue.waiter = .granted) ∨
      (move = .timeOut ∧ s.accepts = true ∧ s.queue.waiter = .queued) ∨
      (move = .giveUp ∧ s.accepts = false) := by
  cases hp with
  | fill _ haccepts hwaiter => exact .inl ⟨rfl, haccepts, hwaiter⟩
  | timeOut _ haccepts hwaiter => exact .inr (.inl ⟨rfl, haccepts, hwaiter⟩)
  | giveUp _ hrefuses => exact .inr (.inr ⟨rfl, hrefuses⟩)
  | _ hstage' => cases hstage.symm.trans hstage'

/-- A step of a population that offers an item answers the offer, or lets it wait and tells nothing. -/
lemma Populates.answers (hp : Populates key handle log s move out) (hs : s.IsOffering d rest) :
    (out.facts = [] ∧ out.subscription.population.stage = .waiting d rest) ∨
      ∃ answer, out.facts = [.offered key handle d answer] := by
  rcases hs with hs | hs
  · cases hp with
    | offerRefused hstage | offerAccepted hstage | offerGone hstage =>
      cases hs.symm.trans hstage
      exact .inr ⟨_, rfl⟩
    | offerWaits hstage =>
      cases hs.symm.trans hstage
      exact .inl ⟨rfl, rfl⟩
    | _ hstage => cases hs.symm.trans hstage
  · cases hp with
    | fill hstage | timeOut hstage | giveUp hstage =>
      cases hs.symm.trans hstage
      exact .inr ⟨_, rfl⟩
    | _ hstage => cases hs.symm.trans hstage

/-! ### The course of an offer -/

/-- In a turn an offer goes on or is answered. -/
lemma Turn.answers (h : Turn key handle s told s') (hs : s.IsOffering d rest) :
    (told.filterMap (offer? key handle) = [] ∧ s'.IsOffering d rest) ∨
      ∃ answer, told.filterMap (offer? key handle) = [(d, answer)] := by
  cases h with
  | rest | passed | pruned | unsubscribed | closed | hungUp => exact .inl ⟨rfl, hs⟩
  | live hm => exact .inl ⟨rfl, by rwa [IsOffering, population_live]⟩
  | received hreceive => exact .inl ⟨rfl, by rwa [IsOffering, population_receive hreceive]⟩
  | populated hp =>
    rw [Fact.offer?_concerns]
    rcases hp.answers hs with ⟨hfacts, hstage⟩ | ⟨answer, hfacts⟩
    · exact .inl ⟨by rw [hfacts]; rfl, .inr hstage⟩
    · exact .inr ⟨answer, by simp [hfacts, offer?]⟩

/-- However the turns go, an offer goes on or is the first to be answered. -/
lemma Turns.answers (h : Turns key handle s told s') (hs : s.IsOffering d rest) :
    (told.filterMap (offer? key handle) = [] ∧ s'.IsOffering d rest) ∨
      ∃ answer others, told.filterMap (offer? key handle) = (d, answer) :: others := by
  induction h with
  | nil => exact .inl ⟨rfl, hs⟩
  | cons hturn _ ih =>
    rw [List.filterMap_append]
    rcases hturn.answers hs with ⟨hnone, hs⟩ | ⟨answer, hanswer⟩
    · rw [hnone, List.nil_append]
      exact ih hs
    · rw [hanswer]
      exact .inr ⟨answer, _, rfl⟩

/-- How an offer has fared, and what has entered the queue in the meantime. -/
inductive Fares (key : Key) (handle : Handle) (d : Delivery P) (rest : Population.Rest P)
    (told : List (Fact P)) (s' : Subscription P) : List (Delivery P) → Prop where
  /-- It goes on, and only live events have entered. -/
  | pending :
    told.filterMap (offer? key handle) = [] → s'.IsOffering d rest →
    Fares key handle d rest told s' (told.filterMap (acceptance? key handle))
  /-- It was answered, and its item entered then if it was delivered, and not otherwise. -/
  | answered {before answer after} :
    told = before ++ .offered key handle d answer :: after →
    before.filterMap (offer? key handle) = [] →
    Fares key handle d rest told s'
      (before.filterMap (acceptance? key handle) ++ (if answer = .delivered then [d] else []) ++
        after.filterMap (enqueued? key handle))

/-- What has entered the queue tells how an offer has fared. -/
lemma Fares.of_offers
    (h : (told.filterMap (offer? key handle) = [] ∧ s'.IsOffering d rest) ∨
      ∃ answer others, told.filterMap (offer? key handle) = (d, answer) :: others) :
    Fares key handle d rest told s' (told.filterMap (enqueued? key handle)) := by
  rcases h with ⟨hnone, hs⟩ | ⟨answer, others, hfirst⟩
  · rw [Fact.entries_eq_acceptances hnone]
    exact .pending hnone hs
  · obtain ⟨before, x, after, rfl, hbefore, hx, -⟩ := List.filterMap_eq_cons_iff.1 hfirst
    obtain rfl := Fact.offer?_eq_some hx
    have hnone : before.filterMap (offer? key handle) = [] := List.filterMap_eq_nil_iff.2 hbefore
    have hentries : (before ++ .offered key handle d answer :: after).filterMap
        (enqueued? key handle) =
          before.filterMap (acceptance? key handle) ++ (if answer = .delivered then [d] else []) ++
            after.filterMap (enqueued? key handle) := by
      rw [List.filterMap_append, Fact.entries_eq_acceptances hnone, List.filterMap_cons,
        Fact.enqueued?_offered]
      split <;> simp_all
    rw [hentries]
    exact .answered rfl hnone

/-! ### Waiting for a slot -/

/-- What has become of an offer that waits and was not answered: it has been granted the first slot that
was freed, if one was. -/
structure Waits (key : Key) (handle : Handle) (d : Delivery P) (rest : Population.Rest P)
    (s : Subscription P) (told : List (Fact P)) (s' : Subscription P) : Prop where
  stage : s'.population.stage = .waiting d rest
  unserved : told.filterMap (receipt? key handle) = [] → s'.queue.waiter = s.queue.waiter
  served : told.filterMap (receipt? key handle) ≠ [] → s'.queue.waiter = .granted

lemma Waits.refl (hstage : s.population.stage = .waiting d rest) :
    Waits key handle d rest s [] s :=
  ⟨hstage, fun _ => rfl, fun h => absurd rfl h⟩

lemma Waits.trans (h : Waits key handle d rest s told s')
    (h' : Waits key handle d rest s' told' s'') :
    Waits key handle d rest s (told ++ told') s'' where
  stage := h'.stage
  unserved hnone := by
    rw [List.filterMap_append, List.append_eq_nil_iff] at hnone
    rw [h'.unserved hnone.2, h.unserved hnone.1]
  served hsome := by
    rw [List.filterMap_append] at hsome
    by_cases hnone : told'.filterMap (receipt? key handle) = []
    · rw [hnone, List.append_nil] at hsome
      rw [h'.unserved hnone, h.served hsome]
    · exact h'.served hnone

/-- Whoever waits has a place at the queue. -/
lemma Ready.waiter_ne_none (hr : s.Ready room) (hstage : s.population.stage = .waiting d rest) :
    s.queue.waiter ≠ .none := by
  simp [hr.waiter, Population.isWaiting, hstage]

lemma Turn.waits (h : Turn key handle s told s') (hr : s.Ready room)
    (hstage : s.population.stage = .waiting d rest)
    (hnone : told.filterMap (offer? key handle) = []) :
    Waits key handle d rest s told s' := by
  cases h with
  | rest => exact .refl hstage
  | passed | pruned | unsubscribed | closed | hungUp =>
    exact ⟨hstage, fun _ => rfl, fun h => absurd rfl h⟩
  | live hm =>
    refine ⟨by rw [population_live, hstage], fun _ => ?_, fun h => absurd rfl h⟩
    rw [queue_live, Queue.waiter_push]
  | populated hp =>
    -- Whatever step an offer that waits makes, it is answered.
    rw [Fact.offer?_concerns] at hnone
    rcases hp.waiting_cases hstage with ⟨rfl, -, -⟩ | ⟨rfl, -, -⟩ | ⟨rfl, -⟩ <;> cases hp <;>
      simp [offer?] at hnone
  | received hreceive =>
    refine ⟨by rw [population_receive hreceive, hstage], fun h => ?_, fun _ => ?_⟩
    · simp [receipt?] at h
    · obtain ⟨queue, hqueue, rfl⟩ := queue_receive hreceive
      obtain ⟨items, -, rfl⟩ := Queue.receive?_eq_some hqueue
      have hplace := hr.waiter_ne_none hstage
      rcases Queue.freeSlot_cases { s.queue with items := items } with ⟨-, h⟩ | ⟨hw, h⟩ <;> rw [h]
      cases hwaiter : s.queue.waiter with
      | none => exact absurd hwaiter hplace
      | queued => exact absurd hwaiter hw
      | granted => rfl

lemma Turns.waits (h : Turns key handle s told s') (hr : s.Ready room)
    (hstage : s.population.stage = .waiting d rest)
    (hnone : told.filterMap (offer? key handle) = []) :
    Waits key handle d rest s told s' := by
  induction h with
  | nil => exact .refl hstage
  | cons hturn _ ih =>
    rw [List.filterMap_append, List.append_eq_nil_iff] at hnone
    have hwaits := hturn.waits hr hstage hnone.1
    exact hwaits.trans (ih (hr.turn hturn) hwaits.stage hnone.2)

/-- The slots that were freed are granted, free, or hold what entered since. -/
lemma Gathers.slots {fed : List (Delivery P)} (hg : Gathers key handle s told s' fed)
    (hr : s.Ready room) (hr' : s'.Ready room) (hreceiving : s'.queue.receiving = true) :
    fed.length + s'.queue.granted + s'.queue.free =
      (told.filterMap (receipt? key handle)).length + s.queue.granted + s.queue.free := by
  have hlength := congrArg List.length (hg.kept hreceiving).2
  rw [List.length_append, List.length_append] at hlength
  have hslots := hr.balanced.slots
  have hslots' := hr'.balanced.slots
  rw [hr.balanced.capacity_eq] at hslots
  rw [hr'.balanced.capacity_eq] at hslots'
  omega

end Subscription

namespace Hub

open Subscription (Populates)

variable {config : HubConfig} {actions more : List (Action P)} {facts told : List (Fact P)}
  {h h' : Hub P} {key : Key} {handle : Handle} {s s' : Subscription P} {d : Delivery P}
  {rest : Population.Rest P} {move : Population.Move P} {out : Populated P}

/-- The one step that a population can make next, with what it tells and what the subscription comes
to. -/
def Next (h : Hub P) (key : Key) (handle : Handle) (move : Population.Move P)
    (told : List (Fact P)) (s' : Subscription P) : Prop :=
  (∀ move', move' ≠ move → h.step (.populate key handle move') = none) ∧
    ∃ h', h.step (.populate key handle move) = some (h', told) ∧
      h'.subscription? key handle = some s'

/-- A step of a population that can be made, and no other one, is the next. -/
lemma Sound.next_of_populates (hs : h.Sound) (hsub : h.subscription? key handle = some s)
    (hp : Populates key handle h.log s move out)
    (honly : ∀ move' out', Populates key handle h.log s move' out' → move' = move) :
    h.Next key handle move out.facts out.subscription := by
  obtain ⟨r, hreg, hget⟩ := exists_registration hsub
  have hkey : r.key = key := hs.keyed hreg
  refine ⟨fun move' hne => Option.eq_none_iff_forall_ne_some.2 fun out' hstep => ?_, ?_⟩
  · obtain ⟨r', ingested, hreg', hf, rfl⟩ := within_eq_some hstep
    cases hreg.symm.trans hreg'
    obtain ⟨s', hget', hf⟩ := Option.bind_eq_some_iff.1 hf
    cases hget.symm.trans hget'
    obtain ⟨populated, hp', -⟩ := Option.bind_eq_some_iff.1 hf
    rw [hkey] at hp'
    exact hne (honly _ _ (.of_populate hp'))
  · let r' : Registration P := { r with audience := r.audience.put handle out.subscription }
    refine ⟨{ h with log := out.log }.putRegistration key r', ?_, ?_⟩
    · have hout := hp.populate_eq
      rw [← hkey] at hout
      simp [Hub.step, Hub.within, Registration.populate, hreg, hget, hout, r', putRegistration]
    · rw [subscription?_putRegistration, if_pos rfl, Audience.get?_put_self]

/-- What an offer that is about to be made comes to: it looks whether events are still taken, then for a
free slot, and only then it waits. -/
lemma Reached.next_of_offering (hr : Reached config actions facts h)
    (hsub : h.subscription? key handle = some s) (hstage : s.population.stage = .offering d rest) :
    (s.accepts = false → ∃ s', h.Next key handle .offer [.offered key handle d .closed] s' ∧
      s'.queue = s.queue) ∧
    (s.accepts = true → 0 < s.queue.free →
      ∃ s', h.Next key handle .offer [.offered key handle d .delivered] s' ∧
        s'.queue = { s.queue with
          items := s.queue.items ++ [d], free := s.queue.free - 1 }) ∧
    (s.accepts = true → s.queue.free = 0 → ∃ s', h.Next key handle .offer [] s' ∧
      s'.population.stage = .waiting d rest ∧ s'.queue = { s.queue with waiter := .queued }) := by
  have hclosed := (hr.ready hsub).closed_eq
  have hnext : ∀ {out}, Populates key handle h.log s .offer out →
      h.Next key handle .offer out.facts out.subscription := fun hp =>
    hr.sound.next_of_populates hsub hp fun _ _ hp' => hp'.eq_offer hstage
  have hopen : s.accepts = true → (s.closed || !s.member) = false ∧ s.queue.receiving = true := by
    intro haccepts
    simp only [Subscription.accepts, Bool.and_eq_true, Bool.not_eq_true'] at haccepts
    simp [← hclosed, haccepts]
  refine ⟨fun hrefuses => ?_, fun haccepts hfree => ?_, fun haccepts hfull => ?_⟩
  · cases hc : s.closed with
    | true =>
      exact ⟨_, hnext (.offerRefused hstage (by simp [hc])), Subscription.queue_settle ..⟩
    | false =>
      have hgone : s.queue.receiving = false := by simpa [Subscription.accepts, hc] using hrefuses
      have hpush : (s.queue.push d).1 = .gone := by simp [Queue.push, hgone]
      exact ⟨_, hnext (.offerGone hstage (by simp [← hclosed, hc]) hpush),
        Subscription.queue_settle ..⟩
  · obtain ⟨hmember, hreceiving⟩ := hopen haccepts
    rcases s.queue.push_cases d with ⟨-, -, hpush⟩ | ⟨-, hfull, -⟩ | ⟨hgone, -⟩
    · refine ⟨_, hnext (.offerAccepted hstage hmember (by rw [hpush])), ?_⟩
      rw [Subscription.queue_settle, hpush]
    · omega
    · cases hreceiving.symm.trans hgone
  · obtain ⟨hmember, hreceiving⟩ := hopen haccepts
    rcases s.queue.push_cases d with ⟨-, hfree, -⟩ | ⟨-, -, hpush⟩ | ⟨hgone, -⟩
    · omega
    · exact ⟨_, hnext (.offerWaits hstage hmember (by rw [hpush])), rfl, rfl⟩
    · cases hreceiving.symm.trans hgone

/-- What an offer that waits comes to: it gives its slot back if events are not taken any more, uses the
slot that it was granted, or runs out of time. -/
lemma Reached.next_of_waiting (hr : Reached config actions facts h)
    (hsub : h.subscription? key handle = some s) (hstage : s.population.stage = .waiting d rest) :
    (s.accepts = false → ∃ s', h.Next key handle .giveUp [.offered key handle d .closed] s' ∧
      s'.queue = { s.queue with free := s.queue.free + s.queue.granted, waiter := .none }) ∧
    (s.accepts = true → s.queue.waiter = .granted →
      ∃ s', h.Next key handle .fill [.offered key handle d .delivered] s' ∧
        s'.queue = { s.queue with items := s.queue.items ++ [d], waiter := .none }) ∧
    (s.accepts = true → s.queue.waiter = .queued →
      ∃ s', h.Next key handle .timeOut [.offered key handle d .timedOut] s' ∧
        s'.queue = { s.queue with waiter := .none }) := by
  refine ⟨fun hrefuses => ?_, fun haccepts hwaiter => ?_, fun haccepts hwaiter => ?_⟩
  · refine ⟨_, hr.sound.next_of_populates hsub (.giveUp hstage hrefuses) fun _ _ hp => ?_,
      Subscription.queue_settle ..⟩
    rcases hp.waiting_cases hstage with ⟨-, h, -⟩ | ⟨-, h, -⟩ | ⟨hmove, -⟩
    · cases hrefuses.symm.trans h
    · cases hrefuses.symm.trans h
    · exact hmove
  · refine ⟨_, hr.sound.next_of_populates hsub (.fill hstage haccepts hwaiter) fun _ _ hp => ?_,
      Subscription.queue_settle ..⟩
    rcases hp.waiting_cases hstage with ⟨hmove, -⟩ | ⟨-, -, h⟩ | ⟨-, h⟩
    · exact hmove
    · cases hwaiter.symm.trans h
    · cases haccepts.symm.trans h
  · refine ⟨_, hr.sound.next_of_populates hsub (.timeOut hstage haccepts hwaiter) fun _ _ hp => ?_,
      ?_⟩
    · rcases hp.waiting_cases hstage with ⟨-, -, h⟩ | ⟨hmove, -⟩ | ⟨-, h⟩
      · cases hwaiter.symm.trans h
      · exact hmove
      · cases haccepts.symm.trans h
    · rw [Subscription.queue_settle, Queue.withdraw, Queue.granted_of_ne (by simp [hwaiter])]
      rfl

/-- However a run goes on, the queue holds what it held and what has entered it since, less what was
received; and an offer that was under way is answered at most once, its item entering accordingly. -/
lemma Reached.fares (hr : Reached config actions facts h) (hrun : h.run more = some (h', told))
    (hsub : h.subscription? key handle = some s) (hs : s.IsOffering d rest) :
    ∃ s' entered, h'.subscription? key handle = some s' ∧
      Subscription.Fares key handle d rest told s' entered ∧
      told.filterMap (receipt? key handle) ++ s'.queue.items <+: s.queue.items ++ entered ∧
      (s'.queue.receiving = true →
        told.filterMap (receipt? key handle) ++ s'.queue.items = s.queue.items ++ entered) := by
  obtain ⟨s', hsub', hturns⟩ := hr.turns hrun hsub
  obtain ⟨-, hitems, hkept, -⟩ := hturns.entries
  have hanswers := hturns.answers hs
  rw [Fact.enqueued?_concerns, Fact.receipt?_concerns] at hitems hkept
  rw [Fact.offer?_concerns] at hanswers
  exact ⟨s', _, hsub', .of_offers hanswers, hitems, fun hreceiving => (hkept hreceiving).2⟩

/-- While an offer waits, the first slot that the consumer frees is granted to it and stays so, and the
live events get only the slots that were freed after it. -/
lemma Reached.waits (hr : Reached config actions facts h) (hrun : h.run more = some (h', told))
    (hsub : h.subscription? key handle = some s) (hstage : s.population.stage = .waiting d rest)
    (hnone : told.filterMap (offer? key handle) = []) :
    ∃ s', h'.subscription? key handle = some s' ∧ s.Waits key handle d rest told s' ∧
      (s.queue.waiter = .queued → s'.queue.receiving = true →
        (told.filterMap (acceptance? key handle)).length + s'.queue.granted + s'.queue.free =
          (told.filterMap (receipt? key handle)).length) := by
  obtain ⟨s', hsub', hturns⟩ := hr.turns hrun hsub
  have hready := hr.ready hsub
  obtain ⟨hstage', hunserved, hserved⟩ :=
    hturns.waits hready hstage (by rwa [Fact.offer?_concerns])
  rw [Fact.receipt?_concerns] at hunserved hserved
  refine ⟨s', hsub', ⟨hstage', hunserved, hserved⟩, fun hwaiter hreceiving => ?_⟩
  have hslots := hturns.entries.slots hready ((hr.run hrun).ready hsub') hreceiving
  -- No slot was free when the offer began to wait.
  have hfull := hready.balanced.queued hwaiter (hturns.later.receiving hreceiving)
  have hgranted : s.queue.granted = 0 := Queue.granted_of_ne (by simp [hwaiter])
  rw [Fact.enqueued?_concerns, Fact.entries_eq_acceptances hnone, Fact.receipt?_concerns, hfull,
    hgranted] at hslots
  exact hslots

/-- Every slot of a queue holds an event, is granted to the offer that waits, or is free, and the queue
holds what entered it, less what was received. An offer that finds a free slot is delivered, whatever time
it has; one that finds none waits, and then is delivered into the slot that it is granted, or runs out of
time before that, or gives up and hands a granted slot back once events are not taken any more. The first
slot that is freed while it waits is granted to it, and no live event gets it. It is answered once, and its
item enters the queue, once, if the answer is that it was delivered, and never otherwise. -/
theorem offered_of_run (hrun : (Hub.new config).run actions = some (h, facts))
    (hsub : h.subscription? key handle = some s) :
    s.queue.items.length + s.queue.granted + s.queue.free = Nat.max config.queueCapacity 1 ∧
    (∃ before checkpoint after, facts = before ++ .subscribed key handle checkpoint :: after ∧
      after.filterMap (receipt? key handle) ++ s.queue.items <+:
        after.filterMap (enqueued? key handle) ∧
      (s.queue.receiving = true → after.filterMap (receipt? key handle) ++ s.queue.items =
        after.filterMap (enqueued? key handle))) ∧
    -- an offer that is about to be made
    (∀ d rest, s.population.stage = .offering d rest →
      (s.accepts = false → ∃ s', h.Next key handle .offer [.offered key handle d .closed] s' ∧
        s'.queue = s.queue) ∧
      (s.accepts = true → 0 < s.queue.free →
        ∃ s', h.Next key handle .offer [.offered key handle d .delivered] s' ∧
          s'.queue = { s.queue with
            items := s.queue.items ++ [d], free := s.queue.free - 1 }) ∧
      (s.accepts = true → s.queue.free = 0 → ∃ s', h.Next key handle .offer [] s' ∧
        s'.population.stage = .waiting d rest ∧
        s'.queue = { s.queue with waiter := .queued })) ∧
    -- an offer that waits
    (∀ d rest, s.population.stage = .waiting d rest →
      (s.accepts = false → ∃ s', h.Next key handle .giveUp [.offered key handle d .closed] s' ∧
        s'.queue = { s.queue with
          free := s.queue.free + s.queue.granted, waiter := .none }) ∧
      (s.accepts = true → s.queue.waiter = .granted →
        ∃ s', h.Next key handle .fill [.offered key handle d .delivered] s' ∧
          s'.queue = { s.queue with items := s.queue.items ++ [d], waiter := .none }) ∧
      (s.accepts = true → s.queue.waiter = .queued →
        ∃ s', h.Next key handle .timeOut [.offered key handle d .timedOut] s' ∧
          s'.queue = { s.queue with waiter := .none }) ∧
      s.queue.waiter ≠ .none ∧
      ∀ more h' told, h.run more = some (h', told) → told.filterMap (offer? key handle) = [] →
        ∃ s', h'.subscription? key handle = some s' ∧ s.Waits key handle d rest told s' ∧
          (s.queue.waiter = .queued → s'.queue.receiving = true →
            (told.filterMap (acceptance? key handle)).length + s'.queue.granted + s'.queue.free =
              (told.filterMap (receipt? key handle)).length)) ∧
    -- how an offer fares in whatever comes after
    ∀ d rest, s.IsOffering d rest → ∀ more h' told, h.run more = some (h', told) →
      ∃ s' entered, h'.subscription? key handle = some s' ∧
        Subscription.Fares key handle d rest told s' entered ∧
        told.filterMap (receipt? key handle) ++ s'.queue.items <+: s.queue.items ++ entered ∧
        (s'.queue.receiving = true →
          told.filterMap (receipt? key handle) ++ s'.queue.items = s.queue.items ++ entered) := by
  have hr : Reached config actions facts h := .of_run hrun
  have hready := hr.ready hsub
  refine ⟨hready.balanced.slots.trans hready.balanced.capacity_eq, ?_,
    fun d rest => hr.next_of_offering hsub, fun d rest hstage => ?_,
    fun d rest hs more h' told hmore => hr.fares hmore hsub hs⟩
  · obtain ⟨before, checkpoint, after, hfacts⟩ := hr.subscribed hsub
    obtain ⟨s', hsub', hlived⟩ := hr.lived hfacts
    cases hsub.symm.trans hsub'
    obtain ⟨-, hitems, hkept, -⟩ := hlived.entries
    rw [Fact.enqueued?_concerns, Fact.receipt?_concerns] at hitems hkept
    exact ⟨before, checkpoint, after, hfacts, hitems, fun hreceiving => (hkept hreceiving).2⟩
  · obtain ⟨hgiveUp, hfill, htimeOut⟩ := hr.next_of_waiting hsub hstage
    exact ⟨hgiveUp, hfill, htimeOut, hready.waiter_ne_none hstage,
      fun more h' told hmore => hr.waits hmore hsub hstage⟩

/-- A snapshot of two items, and a live event that is about to be fanned out, for which there is one slot.
The second item waits, though no time is given to it. -/
def contest : List (Action Nat) :=
  [.start (.register default ⟨1, "o"⟩), .resume 0,
    .start (.subscribe default none), .resume 1, .resume 1,
    .ingest default .start, .ingest default (.answer (.ok ())), .send default (.added 9),
    .ingest default .take, .ingest default (.locate 7), .ingest default .record,
    .populate default ⟨1⟩ .start, .populate default ⟨1⟩ (.answer (.ok [1, 2])),
    .populate default ⟨1⟩ .next, .populate default ⟨1⟩ (.locate 7), .populate default ⟨1⟩ .record,
    .populate default ⟨1⟩ .offer,
    .populate default ⟨1⟩ .next, .populate default ⟨1⟩ (.locate 7), .populate default ⟨1⟩ .record,
    .populate default ⟨1⟩ .offer]

theorem offered_of_contest :
    ∃ h facts s h' told s',
      (new { HubConfig.standard with queueCapacity := 1, deliveryTimeout := .ofMillis 0 }).run
        contest = some (h, facts) ∧
      h.subscription? default ⟨1⟩ = some s ∧
      s.IsOffering (.versioned (.added 2) ⟨7, 3⟩) (.items []) ∧ s.queue.waiter = .queued ∧
      h.run [.receive default ⟨1⟩, .ingest default .emit] = some (h', told) ∧
      .reached default ⟨1⟩ (.versioned (.added 9) ⟨7, 1⟩) (.overflowed 1) ∈ told ∧
      h'.subscription? default ⟨1⟩ = some s' ∧ s'.queue.waiter = .granted ∧
      s'.queue.free = 0 := by
  have hrun : (new { HubConfig.standard with
    queueCapacity := 1, deliveryTimeout := .ofMillis 0 }).run contest = some (_, _) := rfl
  obtain ⟨-, -, -, hwaiting, -⟩ := @offered_of_run Nat _ _ _ _ default ⟨1⟩ _ hrun rfl
  obtain ⟨-, -, -, -, hcourse⟩ := hwaiting _ _ rfl
  obtain ⟨s', hsub', ⟨-, -, hserved⟩, hslots⟩ :=
    hcourse [.receive default ⟨1⟩, .ingest default .emit] _ _ rfl rfl
  have hgranted := hserved (List.cons_ne_nil _ _)
  cases hsub'
  refine ⟨_, _, _, _, _, _, hrun, rfl, .inr rfl, rfl, rfl,
    .tail _ (.tail _ (.head _)), rfl, hgranted, rfl⟩

end Hub

end WatchHub
