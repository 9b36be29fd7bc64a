import WatchHub.Proofs.Hub.Later

/-!
# Closed subscriptions

A subscription that was closed takes nothing more: a population that was about to offer something, or
was waiting for a slot or had one granted, finds it closed. So its consumer gets what was in the queue
when it was closed and then the end (`Subscription.Drains`).
-/

namespace WatchHub

variable {P : Type}

open WatchHub.Fact (acceptance? delivery? receipt?)

namespace Subscription

variable {key : Key} {handle : Handle} {s s' s'' : Subscription P} {told told' : List (Fact P)}

/-- What a closed subscription has come to: its consumer got its queue from the front, and nothing
was put in at the end. -/
structure Drains (key : Key) (handle : Handle) (s : Subscription P) (told : List (Fact P))
    (s' : Subscription P) : Prop where
  closed : s'.closed = true
  member : s'.member = false
  received : told.filterMap (receipt? key handle) ++ s'.queue.items <+: s.queue.items
  /-- Nothing is lost unless the consumer lets go of its end. -/
  kept : s'.queue.receiving = true →
    told.filterMap (receipt? key handle) ++ s'.queue.items = s.queue.items
  accepted : told.filterMap (acceptance? key handle) = []
  delivered : told.filterMap (delivery? key handle) = []
  waiting : s'.population.isWaiting = true → s.population.isWaiting = true

lemma Drains.refl (hclosed : s.closed = true) (hmember : s.member = false) :
    Drains key handle s [] s where
  closed := hclosed
  member := hmember
  received := List.prefix_rfl
  kept _ := rfl
  accepted := rfl
  delivered := rfl
  waiting := id

lemma Drains.trans (h : Drains key handle s told s') (hlater : Later s' s'')
    (h' : Drains key handle s' told' s'') : Drains key handle s (told ++ told') s'' where
  closed := h'.closed
  member := h'.member
  received := by
    rw [List.filterMap_append, List.append_assoc]
    exact ((List.prefix_append_right_inj _).2 h'.received).trans h.received
  kept hreceiving := by
    rw [List.filterMap_append, List.append_assoc, h'.kept hreceiving,
      h.kept (hlater.receiving hreceiving)]
  accepted := by rw [List.filterMap_append, h.accepted, h'.accepted, List.append_nil]
  delivered := by rw [List.filterMap_append, h.delivered, h'.delivered, List.append_nil]
  waiting hw := h.waiting (h'.waiting hw)

/-- Every turn of a closed subscription drains it. -/
lemma Turn.drains (hclosed : s.closed = true) (hmember : s.member = false)
    (h : Turn key handle s told s') : Drains key handle s told s' := by
  have hrefl : Drains key handle s [] s := .refl hclosed hmember
  cases h with
  | rest => exact hrefl
  | passed => exact ⟨hclosed, hmember, List.prefix_rfl, fun _ => rfl, rfl, rfl, id⟩
  | live hm | pruned hm | unsubscribed hm | closed hm => cases hmember.symm.trans hm
  | populated hp =>
    have hrefuses : s.accepts = false := by simp [accepts, hclosed]
    obtain ⟨hitems, hdelivered, hwaiting⟩ := hp.unfed hrefuses
    obtain ⟨-, -, haccepted, hreceived⟩ := hp.silent
    refine ⟨hp.keeps.closed_eq.trans hclosed, hp.keeps.member_eq.trans hmember, ?_, fun _ => ?_,
      by simpa using haccepted, by simpa using hdelivered, hwaiting⟩
    · simp [hreceived, hitems]
    · simp [hreceived, hitems]
  | @received d _ hreceive =>
    obtain ⟨queue, hqueue, rfl⟩ := queue_receive hreceive
    obtain ⟨items, hitems, rfl⟩ := Queue.receive?_eq_some hqueue
    have hall : [Fact.received key handle d].filterMap (receipt? key handle) ++
        ({ s.queue with items := items } : Queue (Delivery P)).freeSlot.items = s.queue.items := by
      simp [receipt?, hitems]
    exact ⟨hclosed, hmember, hall ▸ List.prefix_rfl, fun _ => hall, rfl, rfl, id⟩
  | hungUp =>
    refine ⟨hclosed, hmember, List.nil_prefix, fun hreceiving => ?_, rfl, rfl, id⟩
    cases hreceiving

lemma Turns.drains (hclosed : s.closed = true) (hmember : s.member = false)
    (h : Turns key handle s told s') : Drains key handle s told s' := by
  induction h with
  | nil => exact .refl hclosed hmember
  | cons hturn hturns ih =>
    have hdrains := hturn.drains hclosed hmember
    exact hdrains.trans hturns.later (ih hdrains.closed hdrains.member)

/-- Whoever is no member gets what is in its queue, and then the end unless an offer is in progress. -/
lemma receive_of_not_member (hmember : s.member = false) :
    s.receive.1 = match s.queue.items with
      | d :: _ => .event d
      | [] => if s.population.isWaiting then .nothing else .ended := by
  unfold receive Queue.receive?
  cases s.queue.items with
  | cons d items => rfl
  | nil => simp [hasSender, hmember]

/-- The end stays the end. -/
lemma Drains.ended (h : Drains key handle s told s') (hmember : s.member = false)
    (hended : s.receive.1 = .ended) : s'.receive.1 = .ended := by
  rw [receive_of_not_member hmember] at hended
  split at hended
  · cases hended
  · rename_i hitems
    have hwaiting : s.population.isWaiting = false := by
      cases hw : s.population.isWaiting with
      | false => rfl
      | true =>
        rw [hw] at hended
        cases hended
    have hitems' : s'.queue.items = [] := by
      have := h.received
      rw [hitems, List.prefix_nil, List.append_eq_nil_iff] at this
      exact this.2
    have hwaiting' : s'.population.isWaiting = false := by
      refine eq_false_of_ne_true fun hw => ?_
      cases hwaiting.symm.trans (h.waiting hw)
    rw [receive_of_not_member h.member, hitems', hwaiting']
    rfl

/-- Whoever was a member is closed, and whoever was none was closed before. -/
lemma Ready.close_member {room : Nat} (hr : s.Ready room) :
    (if s.member then s.close else s).closed = true ∧
      (if s.member then s.close else s).queue = s.queue ∧
      (if s.member then s.close else s).population = s.population := by
  have hclosed := hr.closed_eq
  cases hm : s.member with
  | true => exact ⟨rfl, rfl, rfl⟩
  | false =>
    rw [hm] at hclosed
    exact ⟨hclosed, rfl, rfl⟩

/-- A waiting offer has a delivery and something to come after it. -/
lemma stage_of_isWaiting {p : Population P} (h : p.isWaiting = true) :
    ∃ d rest, p.stage = .waiting d rest := by
  unfold Population.isWaiting at h
  split at h
  · exact ⟨_, _, ‹_›⟩
  · cases h

/-- The only way on for an offer that waits at a closed subscription is to give up. -/
lemma Populates.eq_giveUp {log : EventLog P} {move : Population.Move P} {out : Populated P}
    (h : Populates key handle log s move out) (hwaiting : s.population.isWaiting = true)
    (hclosed : s.closed = true) : move = .giveUp := by
  obtain ⟨d, rest, hstage⟩ := stage_of_isWaiting hwaiting
  have hrefuses : s.accepts = false := by simp [accepts, hclosed]
  cases h with
  | fill _ haccepts | timeOut _ haccepts => cases hrefuses.symm.trans haccepts
  | giveUp => rfl
  | _ hstage' => cases hstage.symm.trans hstage'

end Subscription

namespace Hub

variable {config : HubConfig} {actions more : List (Action P)} {facts told : List (Fact P)}
  {h h' : Hub P} {key key' : Key} {handle : Handle} {s : Subscription P}

/-- A handle under which there is a subscription is never given to another one. -/
lemma Reached.not_subscribed (hr : Reached config actions facts h)
    (hrun : h.run more = some (h', told)) (hsub : h.subscription? key handle = some s)
    (key' : Key) (checkpoint : Option Version) :
    .subscribed key' handle checkpoint ∉ told := by
  induction more generalizing actions facts h told s with
  | nil =>
    cases hrun
    exact List.not_mem_nil
  | cons action more ih =>
    obtain ⟨h₁, told₁, told₂, hstep, hrest, rfl⟩ := run_cons hrun
    have hchanges := hr.sound.changes hstep
    obtain ⟨s₁, hsub₁, -⟩ := hchanges.turn hr.sound hsub
    rw [List.mem_append, not_or]
    refine ⟨fun hmem => ?_, ih (hr.step hstep) hrest hsub₁⟩
    obtain ⟨before, after, rfl⟩ := List.append_of_mem hmem
    obtain ⟨-, hfresh, -⟩ := hchanges.subscribed hr.sound rfl
    cases (hfresh key).symm.trans hsub

/-- Leaving closes a subscription and does not touch its queue. -/
lemma Reached.closed_of_remove (hr : Reached config actions facts h)
    (hsub : h.subscription? key handle = some s) (id : CallId) :
    ∃ s', (h.remove id key handle).1.subscription? key handle = some s' ∧ s'.closed = true ∧
      s'.queue = s.queue ∧ s'.population = s.population := by
  obtain ⟨r, hreg, hget⟩ := exists_registration hsub
  have hsub' : (h.remove id key handle).1.subscription? key handle =
      some (if s.member then s.close else s) := by
    have hleaves : (s.isAbandoned || (s.member && decide (handle = handle))) = s.member := by
      unfold Subscription.isAbandoned
      cases s.member <;> simp
    let r' : Registration P := { r with audience := (r.audience.remove handle).2.1 }
    have hregs : (h.remove id key handle).1.registrations = h.registrations.put key r' := by
      rw [Hub.remove, hreg]
      rfl
    rw [subscription?_of_put hregs, if_pos rfl, Audience.get?_remove, hget, Option.map_some, hleaves]
  exact ⟨_, hsub', (hr.ready hsub).close_member⟩

/-- Closing an audience closes each of its subscriptions and touches no queue. -/
lemma Reached.closed_of_close (hr : Reached config actions facts h)
    (hsub : h.subscription? key handle = some s) (id : CallId) (left : List Key) (drained : Nat)
    (reply : Reply) :
    ∃ s', (h.close id (key :: left) drained reply).1.subscription? key handle = some s' ∧
      s'.closed = true ∧ s'.queue = s.queue ∧ s'.population = s.population := by
  obtain ⟨r, hreg, hget⟩ := exists_registration hsub
  have hsub' : (h.close id (key :: left) drained reply).1.subscription? key handle =
      some (if s.member then s.close else s) := by
    let r' : Registration P := { r with audience := r.audience.closeAll.1 }
    have hregs : (h.close id (key :: left) drained reply).1.registrations =
        h.registrations.put key r' := by
      simp only [Hub.close, hreg]
      rfl
    rw [subscription?_of_put hregs, if_pos rfl, Audience.get?_closeAll, hget, Option.map_some]
  exact ⟨_, hsub', (hr.ready hsub).close_member⟩

/-- An offer that waits at a closed subscription comes to its end by giving up, and in no other way. -/
lemma Reached.giveUp_of_closed (hr : Reached config actions facts h)
    (hsub : h.subscription? key handle = some s) (hclosed : s.closed = true)
    (hwaiting : s.population.isWaiting = true) :
    (∀ move, move ≠ .giveUp → h.step (.populate key handle move) = none) ∧
      ∃ h' d s', h.step (.populate key handle .giveUp) =
          some (h', [.offered key handle d .closed]) ∧
        h'.subscription? key handle = some s' ∧ s'.queue.items = s.queue.items ∧
        s'.population.isWaiting = false := by
  obtain ⟨r, hreg, hget⟩ := exists_registration hsub
  refine ⟨fun move hmove => Option.eq_none_iff_forall_ne_some.2 fun out hstep => hmove ?_, ?_⟩
  · obtain ⟨r', ingested, hreg', hf, rfl⟩ := within_eq_some hstep
    cases hreg.symm.trans hreg'
    obtain ⟨s', hget', hf⟩ := Option.bind_eq_some_iff.1 hf
    cases hget.symm.trans hget'
    obtain ⟨p, hp, -⟩ := Option.bind_eq_some_iff.1 hf
    exact (Subscription.Populates.of_populate hp).eq_giveUp hwaiting hclosed
  · obtain ⟨d, rest, hstage⟩ := Subscription.stage_of_isWaiting hwaiting
    have hkey : r.key = key := hr.sound.keyed hreg
    have hrefuses : s.accepts = false := by simp [Subscription.accepts, hclosed]
    let s' : Subscription P := { s with queue := s.queue.withdraw }.settle .closed rest
    let r' : Registration P := { r with audience := r.audience.put handle s' }
    refine ⟨h.putRegistration key r', d, s', ?_, ?_, ?_, Subscription.isWaiting_settle ..⟩
    · have hp : s.populate key handle h.log .giveUp =
          some ⟨h.log, s', [.offered key handle d .closed]⟩ := by
        simp [Subscription.populate, hstage, hrefuses, Subscription.conclude, s']
      simp [Hub.step, within, Registration.populate, hreg, hget, hkey, hp, r', putRegistration]
    · rw [subscription?_putRegistration, if_pos rfl, Audience.get?_put_self]
    · simp only [s', Subscription.queue_settle, Queue.withdraw]

/-- Leaving and shutting down close a subscription, whatever its population is about to do; and from
then on its consumer gets what its queue holds and then the end, and its handle is not given away. -/
theorem drained_of_closed (hrun : (Hub.new config).run actions = some (h, facts))
    (hsub : h.subscription? key handle = some s) :
    (∀ id h₁ told, h.step (.resume id) = some (h₁, told) →
      (h.calls.get? id = some (.removing key handle) ∨
        ∃ left drained reply, h.calls.get? id = some (.closing (key :: left) drained reply)) →
      ∃ s₁, h₁.subscription? key handle = some s₁ ∧ s₁.closed = true ∧ s₁.queue = s.queue ∧
        s₁.population = s.population) ∧
    (s.closed = true → ∀ more h' told, h.run more = some (h', told) →
      ∃ s', h'.subscription? key handle = some s' ∧ s.Drains key handle told s' ∧
        -- the consumer finds the rest of the queue, and then the end
        (s'.receive.1 = match s'.queue.items with
          | d :: _ => .event d
          | [] => if s'.population.isWaiting then .nothing else .ended) ∧
        (s.receive.1 = .ended → s'.receive.1 = .ended) ∧
        -- an offer that is still in progress ends without being taken
        (s'.population.isWaiting = true →
          (∀ move, move ≠ .giveUp → h'.step (.populate key handle move) = none) ∧
            ∃ h'' d s'', h'.step (.populate key handle .giveUp) =
                some (h'', [.offered key handle d .closed]) ∧
              h''.subscription? key handle = some s'' ∧ s''.queue.items = s'.queue.items ∧
              s''.population.isWaiting = false) ∧
        (∀ key' checkpoint, .subscribed key' handle checkpoint ∉ told) ∧
        ∀ id key' checkpoint, h'.calls.get? id ≠ some (.joining key' handle checkpoint)) := by
  have hr : Reached config actions facts h := .of_run hrun
  refine ⟨fun id h₁ told hstep hcall => ?_, fun hclosed more h' told hmore => ?_⟩
  · change h.resume id = some (h₁, told) at hstep
    rcases hcall with hcall | ⟨left, drained, reply, hcall⟩
    · simp only [Hub.resume, hcall, Option.some.injEq] at hstep
      obtain ⟨s₁, h'⟩ := hr.closed_of_remove hsub id
      exact ⟨s₁, by rwa [hstep] at h'⟩
    · simp only [Hub.resume, hcall, Option.some.injEq] at hstep
      obtain ⟨s₁, h'⟩ := hr.closed_of_close hsub id left drained reply
      exact ⟨s₁, by rwa [hstep] at h'⟩
  · have hmember : s.member = false := by
      have := (hr.ready hsub).closed_eq
      rw [hclosed] at this
      simpa using this.symm
    have hr' : Reached config (actions ++ more) (facts ++ told) h' := hr.run hmore
    obtain ⟨s', hsub', hturns⟩ := hr.turns hmore hsub
    have hdrains : s.Drains key handle told s' := by
      obtain ⟨hclosed', hmember', hreceived, hkept, haccepted, hdelivered, hwaiting⟩ :=
        hturns.drains hclosed hmember
      rw [Fact.receipt?_concerns] at hreceived hkept
      rw [Fact.acceptance?_concerns] at haccepted
      rw [Fact.delivery?_concerns] at hdelivered
      exact ⟨hclosed', hmember', hreceived, hkept, haccepted, hdelivered, hwaiting⟩
    refine ⟨s', hsub', hdrains, Subscription.receive_of_not_member hdrains.member,
      hdrains.ended hmember, hr'.giveUp_of_closed hsub' hdrains.closed,
      hr.not_subscribed hmore hsub, fun id key' checkpoint hcall => ?_⟩
    cases (hr'.sound.fresh hcall key).symm.trans hsub'

/-- A snapshot of three items for which there is room for two: the offer of the third has just been
granted a slot when the consumer leaves. -/
def departure : List (Action Nat) :=
  [.start (.register default ⟨1, "o"⟩), .resume 0,
    .start (.subscribe default none), .resume 1, .resume 1,
    .populate default ⟨1⟩ .start, .populate default ⟨1⟩ (.answer (.ok [1, 2, 3])),
    .populate default ⟨1⟩ .next, .populate default ⟨1⟩ (.locate 7), .populate default ⟨1⟩ .record,
    .populate default ⟨1⟩ .offer,
    .populate default ⟨1⟩ .next, .populate default ⟨1⟩ (.locate 7), .populate default ⟨1⟩ .record,
    .populate default ⟨1⟩ .offer,
    .populate default ⟨1⟩ .next, .populate default ⟨1⟩ (.locate 7), .populate default ⟨1⟩ .record,
    .populate default ⟨1⟩ .offer,
    .receive default ⟨1⟩,
    .start (.unsubscribe default ⟨1⟩), .resume 2, .resume 2]

theorem drained_of_departure :
    ∃ h facts s h' told s',
      (new { HubConfig.standard with queueCapacity := 2 }).run departure = some (h, facts) ∧
      h.subscription? default ⟨1⟩ = some s ∧ s.closed = true ∧ s.queue.waiter = .granted ∧
      h.run [.receive default ⟨1⟩, .populate default ⟨1⟩ .giveUp, .receive default ⟨1⟩] =
        some (h', told) ∧
      told.filterMap (receipt? default ⟨1⟩) = [.versioned (.added 2) ⟨7, 2⟩] ∧
      h'.subscription? default ⟨1⟩ = some s' ∧ s'.receive.1 = .ended := by
  have hrun : (new { HubConfig.standard with queueCapacity := 2 }).run departure =
      some (_, _) := rfl
  obtain ⟨-, hdrained⟩ := @drained_of_closed Nat _ _ _ _ default ⟨1⟩ _ hrun rfl
  obtain ⟨s', hsub', -, hreceive, -⟩ := hdrained rfl [.receive default ⟨1⟩,
    .populate default ⟨1⟩ .giveUp, .receive default ⟨1⟩] _ _ rfl
  cases hsub'
  exact ⟨_, _, _, _, _, _, hrun, rfl, rfl, rfl, rfl, rfl, rfl, hreceive⟩

end Hub

end WatchHub
