import WatchHub.Proofs.Hub.Life
import WatchHub.Proofs.Interleaving
import WatchHub.Proofs.Queue.Slots

/-!
# The accounts of a subscription

What went into the queue of a subscription and what came out, read off what was told about it. As long
as the consumer holds its end, the queue holds the accepted live events and the delivered items of the
population, merged in the order of their arrival, less what was received (`Subscription.Accounts`).
-/

namespace WatchHub

variable {P : Type}

namespace Fact

/-- The live event that was fanned out for a key. -/
def emission? (key : Key) : Fact P → Option (Delivery P)
  | emitted k d => if k = key then some d else none
  | _ => none

/-- The live event that came to a subscription as a member, with what became of it. -/
def reach? (key : Key) (handle : Handle) : Fact P → Option (Delivery P × Reception)
  | reached k h d reception => if k = key ∧ h = handle then some (d, reception) else none
  | _ => none

/-- The live event that was accepted into the queue of a subscription. -/
def acceptance? (key : Key) (handle : Handle) : Fact P → Option (Delivery P)
  | reached k h d .accepted => if k = key ∧ h = handle then some d else none
  | _ => none

/-- The offer of a population that came to its end, with what became of it. -/
def offer? (key : Key) (handle : Handle) : Fact P → Option (Delivery P × Offer)
  | offered k h d offer => if k = key ∧ h = handle then some (d, offer) else none
  | _ => none

/-- The item that the population of a subscription delivered. -/
def delivery? (key : Key) (handle : Handle) : Fact P → Option (Delivery P)
  | offered k h d .delivered => if k = key ∧ h = handle then some d else none
  | _ => none

/-- The event that the consumer of a subscription received. -/
def receipt? (key : Key) (handle : Handle) : Fact P → Option (Delivery P)
  | received k h d => if k = key ∧ h = handle then some d else none
  | _ => none

lemma emission?_eq_some {key : Key} {x : Fact P} {d : Delivery P} (h : emission? key x = some d) :
    x = .emitted key d := by
  cases x with
  | emitted k d' =>
    by_cases heq : k = key
    · subst heq
      rw [emission?, if_pos rfl] at h
      rw [Option.some.inj h]
    · simp [emission?, heq] at h
  | _ => cases h

lemma offer?_eq_some {key : Key} {handle : Handle} {x : Fact P} {o : Delivery P × Offer}
    (h : offer? key handle x = some o) : x = .offered key handle o.1 o.2 := by
  cases x with
  | offered k h' d offer =>
    by_cases heq : k = key ∧ h' = handle
    · obtain ⟨rfl, rfl⟩ := heq
      rw [offer?, if_pos ⟨rfl, rfl⟩] at h
      rw [← Option.some.inj h]
    · simp [offer?, heq] at h
  | _ => cases h

lemma mem_emission {key : Key} {facts : List (Fact P)} {d : Delivery P} :
    d ∈ facts.filterMap (emission? key) ↔ .emitted key d ∈ facts := by
  constructor
  · intro h
    obtain ⟨x, hx, hview⟩ := List.mem_filterMap.1 h
    exact emission?_eq_some hview ▸ hx
  · exact fun h => List.mem_filterMap.2 ⟨_, h, if_pos rfl⟩

lemma mem_offer {key : Key} {handle : Handle} {facts : List (Fact P)} {d : Delivery P}
    {offer : Offer} :
    (d, offer) ∈ facts.filterMap (offer? key handle) ↔ .offered key handle d offer ∈ facts := by
  constructor
  · intro h
    obtain ⟨x, hx, hview⟩ := List.mem_filterMap.1 h
    exact offer?_eq_some hview ▸ hx
  · exact fun h => List.mem_filterMap.2 ⟨_, h, if_pos ⟨rfl, rfl⟩⟩

end Fact

/-- A view of what concerns a subscription sees all of it there. -/
lemma Fact.filterMap_filter_concerns {B : Type} {key : Key} {handle : Handle}
    {view : Fact P → Option B}
    (hview : ∀ x, (view x).isSome = true → x.concerns key handle = true) (facts : List (Fact P)) :
    (facts.filter (Fact.concerns key handle)).filterMap view = facts.filterMap view := by
  rw [List.filterMap_filter]
  congr 1
  funext x
  cases hx : view x with
  | none => split <;> rfl
  | some b => rw [hview x (by simp [hx]), if_pos rfl]

namespace Fact

variable {key : Key} {handle : Handle} (facts : List (Fact P))

@[simp]
lemma emission?_concerns :
    (facts.filter (concerns key handle)).filterMap (emission? key) =
      facts.filterMap (emission? key) :=
  filterMap_filter_concerns (fun x => by cases x <;> simp [emission?, concerns]) facts

@[simp]
lemma reach?_concerns :
    (facts.filter (concerns key handle)).filterMap (reach? key handle) =
      facts.filterMap (reach? key handle) :=
  filterMap_filter_concerns (fun x => by cases x <;> simp [reach?, concerns]) facts

@[simp]
lemma acceptance?_concerns :
    (facts.filter (concerns key handle)).filterMap (acceptance? key handle) =
      facts.filterMap (acceptance? key handle) := by
  refine filterMap_filter_concerns (fun x => ?_) facts
  cases x with
  | reached k h d reception => cases reception <;> simp [acceptance?, concerns]
  | _ => simp [acceptance?]

@[simp]
lemma offer?_concerns :
    (facts.filter (concerns key handle)).filterMap (offer? key handle) =
      facts.filterMap (offer? key handle) :=
  filterMap_filter_concerns (fun x => by cases x <;> simp [offer?, concerns]) facts

@[simp]
lemma delivery?_concerns :
    (facts.filter (concerns key handle)).filterMap (delivery? key handle) =
      facts.filterMap (delivery? key handle) := by
  refine filterMap_filter_concerns (fun x => ?_) facts
  cases x with
  | offered k h d offer => cases offer <;> simp [delivery?, concerns]
  | _ => simp [delivery?]

@[simp]
lemma receipt?_concerns :
    (facts.filter (concerns key handle)).filterMap (receipt? key handle) =
      facts.filterMap (receipt? key handle) :=
  filterMap_filter_concerns (fun x => by cases x <;> simp [receipt?, concerns]) facts

end Fact

namespace Subscription

variable {key : Key} {handle : Handle}

lemma queue_settle (s : Subscription P) (offer : Offer) (rest : Population.Rest P) :
    (s.settle offer rest).queue = s.queue := by
  unfold settle
  split <;> rfl

/-- An offer that came to its end waits no more. -/
lemma isWaiting_settle (s : Subscription P) (offer : Offer) (rest : Population.Rest P) :
    (s.settle offer rest).population.isWaiting = false := by
  unfold settle
  split <;> rfl

lemma member_settle (s : Subscription P) (offer : Offer) (rest : Population.Rest P) :
    (s.settle offer rest).member = s.member := by
  unfold settle
  split <;> rfl

lemma closed_settle (s : Subscription P) (offer : Offer) (rest : Population.Rest P) :
    (s.settle offer rest).closed = s.closed := by
  unfold settle
  split <;> rfl

lemma dropped_settle (s : Subscription P) (offer : Offer) (rest : Population.Rest P) :
    (s.settle offer rest).dropped = s.dropped := by
  unfold settle
  split <;> rfl

/-- A population changes nothing but the queue and its own place. -/
structure Populates.Keeps (s s' : Subscription P) : Prop where
  member_eq : s'.member = s.member
  closed_eq : s'.closed = s.closed
  dropped_eq : s'.dropped = s.dropped

lemma Populates.keeps {log : EventLog P} {s : Subscription P} {move : Population.Move P}
    {out : Populated P} (h : Populates key handle log s move out) :
    Populates.Keeps s out.subscription := by
  cases h with
  | offerRefused | offerAccepted | offerGone | fill | timeOut | giveUp =>
    exact ⟨member_settle .., closed_settle .., dropped_settle ..⟩
  | _ => exact ⟨rfl, rfl, rfl⟩

/-- What one step of a population does to the queue. -/
inductive Serves (key : Key) (handle : Handle) (s : Subscription P) :
    List (Fact P) → Subscription P → Prop where
  | aside {facts s'} :
    s.population.isWaiting = false → s'.population.isWaiting = false →
    s'.queue = s.queue → facts.filterMap (Fact.delivery? key handle) = [] →
    Serves key handle s facts s'
  | delivered {d s'} :
    s.population.isWaiting = false → s'.population.isWaiting = false →
    (s.queue.push d).1 = .accepted → s'.queue = (s.queue.push d).2 →
    Serves key handle s [.offered key handle d .delivered] s'
  | linedUp {d s'} :
    s.population.isWaiting = false → s'.population.isWaiting = true →
    (s.queue.push d).1 = .full → s'.queue = s.queue.lineUp →
    Serves key handle s [] s'
  | filled {d s'} :
    s.population.isWaiting = true → s'.population.isWaiting = false →
    s.queue.waiter = .granted → s'.queue = s.queue.fill d →
    Serves key handle s [.offered key handle d .delivered] s'
  | withdrawn {facts s'} :
    s.population.isWaiting = true → s'.population.isWaiting = false →
    s'.queue = s.queue.withdraw → facts.filterMap (Fact.delivery? key handle) = [] →
    Serves key handle s facts s'

lemma Populates.serves {log : EventLog P} {s : Subscription P} {move : Population.Move P}
    {out : Populated P} (h : Populates key handle log s move out) :
    Serves key handle s out.facts out.subscription := by
  cases h with
  | offerRefused hstage | offerGone hstage =>
    exact .aside (by simp [Population.isWaiting, hstage]) (isWaiting_settle ..) (queue_settle ..)
      rfl
  | offerAccepted hstage _ hpush =>
    exact .delivered (by simp [Population.isWaiting, hstage]) (isWaiting_settle ..) hpush
      (queue_settle ..)
  | offerWaits hstage _ hpush =>
    exact .linedUp (by simp [Population.isWaiting, hstage]) rfl hpush rfl
  | fill hstage _ hwaiter =>
    exact .filled (by simp [Population.isWaiting, hstage]) (isWaiting_settle ..) hwaiter
      (queue_settle ..)
  | timeOut hstage | giveUp hstage =>
    exact .withdrawn (by simp [Population.isWaiting, hstage]) (isWaiting_settle ..)
      (queue_settle ..) rfl
  | locate hstage =>
    exact .aside (by simp [Population.isWaiting, hstage]) rfl rfl (Fact.filterMap_ofLocate rfl log)
  | startClosed hstage | startListing hstage | startSeeking hstage | answerItems hstage
  | answerFailed hstage | answerCrashed hstage | quit hstage | seekFound hstage
  | seekRefused hstage | readHistory hstage | readRefused hstage | snapshotDone hstage
  | snapshotHalted hstage | snapshotNext hstage | replayDone hstage | replayNext hstage
  | complaintDone hstage | record hstage =>
    exact .aside (by simp [Population.isWaiting, hstage]) rfl rfl rfl

/-- A population feeds a queue only while the subscription accepts what it offers. -/
lemma Populates.unfed {log : EventLog P} {s : Subscription P} {move : Population.Move P}
    {out : Populated P} (h : Populates key handle log s move out) (hs : s.accepts = false) :
    out.subscription.queue.items = s.queue.items ∧
      out.facts.filterMap (Fact.delivery? key handle) = [] ∧
      (out.subscription.population.isWaiting = true → s.population.isWaiting = true) := by
  cases h with
  | @offerAccepted d _ _ hopen hpush | @offerWaits d _ _ hopen hpush =>
    -- Only a queue whose consumer holds its end takes an item or lets it wait.
    have hreceiving : s.queue.receiving = true := by
      rcases s.queue.push_cases d with ⟨hr, -, -⟩ | ⟨hr, -, -⟩ | ⟨-, h⟩
      · exact hr
      · exact hr
      · rw [h] at hpush
        cases hpush
    simp only [Bool.or_eq_false_iff] at hopen
    simp [accepts, hopen.1, hreceiving] at hs
  | fill _ haccepts | timeOut _ haccepts => cases hs.symm.trans haccepts
  | offerRefused | offerGone | giveUp =>
    refine ⟨by simp only [queue_settle, Queue.withdraw], rfl, fun hw => ?_⟩
    rw [isWaiting_settle] at hw
    cases hw
  | locate => exact ⟨rfl, Fact.filterMap_ofLocate rfl log, fun hw => by cases hw⟩
  | _ => exact ⟨rfl, rfl, fun hw => by cases hw⟩

lemma Serves.receiving_eq {s s' : Subscription P} {facts : List (Fact P)}
    (h : Serves key handle s facts s') : s'.queue.receiving = s.queue.receiving := by
  cases h with
  | aside _ _ hqueue => rw [hqueue]
  | delivered _ _ _ hqueue => rw [hqueue, Queue.receiving_push]
  | linedUp _ _ _ hqueue | filled _ _ _ hqueue | withdrawn _ _ hqueue =>
    rw [hqueue]
    rfl

/-- The slots add up, somebody waits for one exactly if the population does, and only a member is
open. -/
structure Ready (room : Nat) (s : Subscription P) : Prop where
  balanced : s.queue.Balanced room
  waiter : s.queue.waiter = .none ↔ s.population.isWaiting = false
  closed_eq : s.closed = !s.member

lemma Ready.new (room : Nat) (checkpoint : Option Version) :
    (Subscription.new room checkpoint : Subscription P).Ready (Nat.max room 1) where
  balanced := .new room
  waiter := by simp [Subscription.new, Queue.new, Population.new, Population.isWaiting]
  closed_eq := rfl

/-- A live event went into the queue, found it full or the consumer gone. -/
lemma live_cases (s : Subscription P) (d : Delivery P) :
    (s.queue.receiving = true ∧ 0 < s.queue.free ∧
        s.live d = (.accepted, { s with queue := { s.queue with
          items := s.queue.items ++ [d], free := s.queue.free - 1 } })) ∨
      (s.queue.receiving = true ∧ s.queue.free = 0 ∧
        s.live d = (.overflowed (s.dropped + 1), { s with dropped := s.dropped + 1 })) ∨
      (s.queue.receiving = false ∧ s.live d = (.gone, s)) := by
  unfold live
  rcases s.queue.push_cases d with ⟨hr, hf, h⟩ | ⟨hr, hf, h⟩ | ⟨hr, h⟩ <;> rw [h]
  · exact .inl ⟨hr, hf, rfl⟩
  · exact .inr (.inl ⟨hr, hf, rfl⟩)
  · exact .inr (.inr ⟨hr, rfl⟩)

lemma queue_live (s : Subscription P) (d : Delivery P) :
    (s.live d).2.queue = (s.queue.push d).2 := by
  unfold live
  rcases s.queue.push_cases d with ⟨-, -, h⟩ | ⟨-, -, h⟩ | ⟨-, h⟩ <;> rw [h]

lemma Ready.serves {room : Nat} {s s' : Subscription P} {facts : List (Fact P)} (hr : s.Ready room)
    (hserves : Serves key handle s facts s') (hkeeps : Populates.Keeps s s') : s'.Ready room := by
  have hclosed : s'.closed = !s'.member := by
    rw [hkeeps.closed_eq, hkeeps.member_eq, hr.closed_eq]
  cases hserves with
  | aside hw hw' hqueue =>
    exact ⟨hqueue ▸ hr.balanced, by rw [hqueue, hr.waiter, hw, hw'], hclosed⟩
  | delivered hw hw' hpush hqueue =>
    refine ⟨hqueue ▸ hr.balanced.push _, ?_, hclosed⟩
    rw [hqueue, Queue.waiter_push, hr.waiter, hw, hw']
  | @linedUp d _ hw hw' hpush hqueue =>
    -- Only a queue without a free slot is lined up at.
    have hfree : s.queue.free = 0 := by
      rcases s.queue.push_cases d with ⟨-, -, h⟩ | ⟨-, hf, -⟩ | ⟨-, h⟩
      · rw [h] at hpush
        cases hpush
      · exact hf
      · rw [h] at hpush
        cases hpush
    refine ⟨hqueue ▸ hr.balanced.lineUp (hr.waiter.2 hw) hfree, ?_, hclosed⟩
    rw [hqueue, hw']
    simp [Queue.lineUp]
  | filled hw hw' hwaiter hqueue =>
    refine ⟨hqueue ▸ hr.balanced.fill hwaiter _, ?_, hclosed⟩
    rw [hqueue, hw']
    simp [Queue.fill]
  | withdrawn hw hw' hqueue =>
    refine ⟨hqueue ▸ hr.balanced.withdraw, ?_, hclosed⟩
    rw [hqueue, hw']
    simp [Queue.withdraw]

lemma Ready.turn {room : Nat} {s s' : Subscription P} {told : List (Fact P)} (hr : s.Ready room)
    (hturn : Turn key handle s told s') : s'.Ready room := by
  cases hturn with
  | rest | passed => exact hr
  | @live d hm =>
    refine ⟨?_, ?_, ?_⟩
    · rw [queue_live]
      exact hr.balanced.push d
    · rw [queue_live, Queue.waiter_push, hr.waiter]
      rcases s.live_cases d with ⟨-, -, h⟩ | ⟨-, -, h⟩ | ⟨-, h⟩ <;> rw [h]
    · rcases s.live_cases d with ⟨-, -, h⟩ | ⟨-, -, h⟩ | ⟨-, h⟩ <;> rw [h] <;> exact hr.closed_eq
  | pruned | unsubscribed | closed => exact ⟨hr.balanced, hr.waiter, rfl⟩
  | populated hp => exact hr.serves hp.serves hp.keeps
  | received hreceive =>
    obtain ⟨queue, hqueue, rfl⟩ := queue_receive hreceive
    refine ⟨hr.balanced.receive hqueue, ?_, hr.closed_eq⟩
    obtain ⟨items, hitems, rfl⟩ := Queue.receive?_eq_some hqueue
    exact Queue.waiter_freeSlot_eq_none.trans hr.waiter
  | hungUp => exact ⟨hr.balanced.hangUp, hr.waiter, hr.closed_eq⟩

/-- What was told is about neither live events nor receipts. -/
structure Silent (key : Key) (handle : Handle) (told : List (Fact P)) : Prop where
  emissions : told.filterMap (Fact.emission? key) = []
  reaches : told.filterMap (Fact.reach? key handle) = []
  acceptances : told.filterMap (Fact.acceptance? key handle) = []
  receipts : told.filterMap (Fact.receipt? key handle) = []

/-- What a population tells is about its items only. -/
lemma Populates.silent {log : EventLog P} {s : Subscription P} {move : Population.Move P}
    {out : Populated P} (h : Populates key handle log s move out) :
    Silent key handle out.facts := by
  cases h with
  | locate => constructor <;> exact Fact.filterMap_ofLocate rfl log
  | _ => exact ⟨rfl, rfl, rfl, rfl⟩

/-- What comes of a queue: what is received leaves it at the front, and what is accepted or delivered
comes in at the end, so that it is made of what it was and of what was fed to it. Only a consumer that
lets go of its end loses anything. -/
structure Gathers (key : Key) (handle : Handle) (s : Subscription P) (told : List (Fact P))
    (s' : Subscription P) (fed : List (Delivery P)) : Prop where
  merged : Interleaving (told.filterMap (Fact.acceptance? key handle))
    (told.filterMap (Fact.delivery? key handle)) fed
  items : told.filterMap (Fact.receipt? key handle) ++ s'.queue.items <+: s.queue.items ++ fed
  kept : s'.queue.receiving = true → s.queue.receiving = true ∧
    told.filterMap (Fact.receipt? key handle) ++ s'.queue.items = s.queue.items ++ fed
  unfed : s.queue.receiving = false → fed = []

lemma Gathers.refl (s : Subscription P) : Gathers key handle s [] s [] where
  merged := .nil
  items := (List.append_nil s.queue.items).symm ▸ List.prefix_rfl
  kept hr := ⟨hr, (List.append_nil _).symm⟩
  unfed _ := rfl

/-- A turn in which nothing is lost. -/
lemma Gathers.of_eq {s s' : Subscription P} {told : List (Fact P)} {fed : List (Delivery P)}
    (hmerged : Interleaving (told.filterMap (Fact.acceptance? key handle))
      (told.filterMap (Fact.delivery? key handle)) fed)
    (hitems : told.filterMap (Fact.receipt? key handle) ++ s'.queue.items = s.queue.items ++ fed)
    (hreceiving : s'.queue.receiving = s.queue.receiving)
    (hunfed : s.queue.receiving = false → fed = []) : Gathers key handle s told s' fed where
  merged := hmerged
  items := hitems ▸ List.prefix_rfl
  kept hr := ⟨hreceiving ▸ hr, hitems⟩
  unfed := hunfed

/-- A turn that leaves the queue as it is. -/
lemma Gathers.idle {s s' : Subscription P} {told : List (Fact P)}
    (hacceptances : told.filterMap (Fact.acceptance? key handle) = [])
    (hdeliveries : told.filterMap (Fact.delivery? key handle) = [])
    (hreceipts : told.filterMap (Fact.receipt? key handle) = []) (hqueue : s'.queue = s.queue) :
    Gathers key handle s told s' [] := by
  refine .of_eq ?_ ?_ (by rw [hqueue]) fun _ => rfl
  · rw [hacceptances, hdeliveries]
    exact .nil
  · rw [hreceipts, hqueue, List.nil_append, List.append_nil]

lemma Gathers.trans {s s' s'' : Subscription P} {told told' : List (Fact P)}
    {fed fed' : List (Delivery P)} (h : Gathers key handle s told s' fed)
    (h' : Gathers key handle s' told' s'' fed') :
    Gathers key handle s (told ++ told') s'' (fed ++ fed') := by
  refine ⟨?_, ?_, fun hr => ?_, fun hgone => ?_⟩
  · rw [List.filterMap_append, List.filterMap_append]
    exact h.merged.append h'.merged
  · rw [List.filterMap_append, List.append_assoc]
    -- Either nothing was lost yet, or nothing comes in any more.
    cases hreceiving : s'.queue.receiving with
    | true =>
      rw [← List.append_assoc s.queue.items, ← (h.kept hreceiving).2, List.append_assoc,
        List.prefix_append_right_inj]
      exact h'.items
    | false =>
      have hitems := h'.items
      rw [h'.unfed hreceiving, List.append_nil] at hitems ⊢
      exact ((List.prefix_append_right_inj _).2 hitems).trans h.items
  · obtain ⟨hreceiving', hitems'⟩ := h'.kept hr
    obtain ⟨hreceiving, hitems⟩ := h.kept hreceiving'
    refine ⟨hreceiving, ?_⟩
    rw [List.filterMap_append, List.append_assoc, hitems', ← List.append_assoc, hitems,
      List.append_assoc]
  · have hgone' : s'.queue.receiving = false := by
      apply eq_false_of_ne_true
      intro hreceiving
      cases hgone.symm.trans (h.kept hreceiving).1
    rw [h.unfed hgone, h'.unfed hgone', List.append_nil]

/-- What a population delivers is at the end of the queue. -/
lemma Serves.items_eq {s s' : Subscription P} {told : List (Fact P)}
    (h : Serves key handle s told s') :
    s'.queue.items = s.queue.items ++ told.filterMap (Fact.delivery? key handle) := by
  cases h with
  | aside _ _ hqueue hnone => rw [hqueue, hnone, List.append_nil]
  | withdrawn _ _ hqueue hnone =>
    rw [hqueue, hnone, List.append_nil]
    rfl
  | linedUp _ _ _ hqueue =>
    rw [hqueue]
    exact (List.append_nil _).symm
  | @delivered d _ _ _ hpush hqueue =>
    rcases s.queue.push_cases d with ⟨-, -, h⟩ | ⟨-, -, h⟩ | ⟨-, h⟩
    · rw [hqueue, h]
      simp [Fact.delivery?]
    · rw [h] at hpush
      cases hpush
    · rw [h] at hpush
      cases hpush
  | filled _ _ _ hqueue =>
    rw [hqueue]
    simp [Queue.fill, Fact.delivery?]

/-- Every turn of a subscription keeps its queue together. -/
theorem Turn.gathers {s s' : Subscription P} {told : List (Fact P)}
    (h : Turn key handle s told s') : ∃ fed, Gathers key handle s told s' fed := by
  cases h with
  | rest => exact ⟨[], .refl s⟩
  | passed | pruned | unsubscribed | closed => exact ⟨[], .idle rfl rfl rfl rfl⟩
  | @live d hm =>
    rcases s.live_cases d with ⟨hr, -, h⟩ | ⟨hr, -, h⟩ | ⟨hr, h⟩ <;> rw [h]
    · refine ⟨[d], .of_eq ?_ ?_ rfl fun hgone => ?_⟩
      · simpa [List.filterMap_cons, Fact.acceptance?, Fact.delivery?] using Interleaving.nil.left d
      · simp [List.filterMap_cons, Fact.receipt?]
      · cases hr.symm.trans hgone
    · exact ⟨[], .idle rfl rfl rfl rfl⟩
    · exact ⟨[], .idle rfl rfl rfl rfl⟩
  | @populated log move out hp =>
    obtain ⟨-, -, hacceptances, hreceipts⟩ := hp.silent
    refine ⟨out.facts.filterMap (Fact.delivery? key handle),
      .of_eq ?_ ?_ hp.serves.receiving_eq fun hgone => ?_⟩
    · rw [Fact.acceptance?_concerns, Fact.delivery?_concerns, hacceptances]
      exact .append_self [] _
    · rw [Fact.receipt?_concerns, hreceipts, hp.serves.items_eq]
      rfl
    · have hrefuses : s.accepts = false := by simp [accepts, hgone]
      exact (hp.unfed hrefuses).2.1
  | @received d _ hreceive =>
    obtain ⟨queue, hqueue, rfl⟩ := queue_receive hreceive
    obtain ⟨items, hitems, rfl⟩ := Queue.receive?_eq_some hqueue
    refine ⟨[], .of_eq .nil ?_ (Queue.receiving_freeSlot _) fun _ => rfl⟩
    simp [Fact.receipt?, hitems]
  | hungUp => exact ⟨[], .nil, List.nil_prefix, nofun, fun _ => rfl⟩

/-- What went into the queue and what came out, as long as the consumer holds its end. -/
structure Accounts (key : Key) (handle : Handle) (past : List (Fact P)) (s : Subscription P) :
    Prop where
  /-- A member is reached by every live event. -/
  reached : s.member = true →
    (past.filterMap (Fact.reach? key handle)).map Prod.fst = past.filterMap (Fact.emission? key)
  accepted : (past.filterMap (Fact.acceptance? key handle)).Sublist
    ((past.filterMap (Fact.reach? key handle)).map Prod.fst)
  dropped : s.queue.receiving = true →
    (past.filterMap (Fact.acceptance? key handle)).length + s.dropped =
      (past.filterMap (Fact.reach? key handle)).length
  merged : s.queue.receiving = true →
    Interleaving (past.filterMap (Fact.acceptance? key handle))
      (past.filterMap (Fact.delivery? key handle))
      (past.filterMap (Fact.receipt? key handle) ++ s.queue.items)

lemma Accounts.new (key : Key) (handle : Handle) (room : Nat) (checkpoint : Option Version) :
    (Subscription.new room checkpoint : Subscription P).Accounts key handle [] where
  reached _ := rfl
  accepted := .slnil
  dropped _ := rfl
  merged _ := .nil

/-- What comes in is merged at the end. -/
lemma Accounts.gather {past told : List (Fact P)} {s s' : Subscription P}
    {fed : List (Delivery P)} (ha : s.Accounts key handle past)
    (hg : Gathers key handle s told s' fed) (hr : s'.queue.receiving = true) :
    Interleaving ((past ++ told).filterMap (Fact.acceptance? key handle))
      ((past ++ told).filterMap (Fact.delivery? key handle))
      ((past ++ told).filterMap (Fact.receipt? key handle) ++ s'.queue.items) := by
  obtain ⟨hreceiving, hitems⟩ := hg.kept hr
  rw [List.filterMap_append, List.filterMap_append, List.filterMap_append, List.append_assoc,
    hitems, ← List.append_assoc]
  exact (ha.merged hreceiving).append hg.merged

/-- A turn that tells of no live event. -/
lemma Accounts.quiet {past told : List (Fact P)} {s s' : Subscription P}
    {fed : List (Delivery P)} (ha : s.Accounts key handle past)
    (hg : Gathers key handle s told s' fed)
    (hmember : s'.member = true → s.member = true) (hdropped : s'.dropped = s.dropped)
    (hemissions : told.filterMap (Fact.emission? key) = [])
    (hreaches : told.filterMap (Fact.reach? key handle) = [])
    (hacceptances : told.filterMap (Fact.acceptance? key handle) = []) :
    s'.Accounts key handle (past ++ told) where
  reached hm := by simpa [hemissions, hreaches] using ha.reached (hmember hm)
  accepted := by simpa [hreaches, hacceptances] using ha.accepted
  dropped hr := by simpa [hreaches, hacceptances, hdropped] using ha.dropped (hg.kept hr).1
  merged := ha.gather hg

lemma Accounts.live {past : List (Fact P)} {s : Subscription P} (ha : s.Accounts key handle past)
    (hm : s.member = true) (d : Delivery P) :
    (s.live d).2.Accounts key handle
      (past ++ [.emitted key d, .reached key handle d (s.live d).1]) := by
  obtain ⟨fed, hg⟩ := (@Turn.live P key handle s d hm).gathers
  have hmerged := ha.gather hg
  have hreached : ∀ reception,
      ((past ++ [Fact.emitted key d, .reached key handle d reception]).filterMap
        (Fact.reach? key handle)).map Prod.fst =
          (past ++ [Fact.emitted key d, .reached key handle d reception]).filterMap
            (Fact.emission? key) := by
    simp [List.filterMap_cons, Fact.reach?, Fact.emission?, ha.reached hm]
  have hgrown := ha.accepted.trans (List.sublist_append_left _ [d])
  -- The event is accepted, overflows, or finds the consumer gone.
  rcases s.live_cases d with ⟨hr, -, h⟩ | ⟨hr, -, h⟩ | ⟨hr, h⟩ <;> rw [h] at hmerged ⊢
  · refine ⟨fun _ => hreached _, ?_, fun _ => ?_, hmerged⟩
    · simpa [List.filterMap_cons, Fact.acceptance?, Fact.reach?] using ha.accepted
    · have := ha.dropped hr
      simp only [List.filterMap_append, List.filterMap_cons, List.filterMap_nil, Fact.acceptance?,
        Fact.reach?, and_self, if_true, List.length_append, List.length_cons, List.length_nil]
      omega
  · refine ⟨fun _ => hreached _, ?_, fun _ => ?_, hmerged⟩
    · simpa [List.filterMap_cons, Fact.acceptance?, Fact.reach?] using hgrown
    · have := ha.dropped hr
      simp only [List.filterMap_append, List.filterMap_cons, List.filterMap_nil, Fact.acceptance?,
        Fact.reach?, and_self, if_true, List.length_append, List.length_cons, List.length_nil]
      omega
  · refine ⟨fun _ => hreached _, ?_, fun h => ?_, hmerged⟩
    · simpa [List.filterMap_cons, Fact.acceptance?, Fact.reach?] using hgrown
    · exact nomatch hr.symm.trans h

lemma Accounts.turn {past told : List (Fact P)} {s s' : Subscription P}
    (ha : s.Accounts key handle past) (hturn : Turn key handle s told s') :
    s'.Accounts key handle (past ++ told) := by
  obtain ⟨fed, hg⟩ := hturn.gathers
  cases hturn with
  | rest => exact (List.append_nil past).symm ▸ ha
  | @passed d hm =>
    refine ⟨fun hm' => absurd hm' (by simp [hm]), ?_, fun hr => ?_, ha.gather hg⟩
    · simpa [List.filterMap_cons, Fact.acceptance?, Fact.reach?] using ha.accepted
    · simpa [List.filterMap_cons, Fact.acceptance?, Fact.reach?] using ha.dropped hr
  | live hm => exact ha.live hm _
  | pruned | unsubscribed | closed => exact ha.quiet hg nofun rfl rfl rfl rfl
  | populated hp =>
    obtain ⟨hemissions, hreaches, hacceptances, -⟩ := hp.silent
    refine ha.quiet hg (fun hm => hp.keeps.member_eq ▸ hm) hp.keeps.dropped_eq ?_ ?_ ?_
    · simpa using hemissions
    · simpa using hreaches
    · simpa using hacceptances
  | received hreceive =>
    obtain ⟨queue, -, rfl⟩ := queue_receive hreceive
    exact ha.quiet hg id rfl rfl rfl rfl
  | hungUp => exact ha.quiet hg id rfl rfl rfl rfl

variable {room : Nat} {checkpoint : Option Version} {past : List (Fact P)} {s : Subscription P}

/-- The queue of a subscription is in order throughout its life. -/
theorem Lived.ready (hl : Lived room key handle checkpoint past s) :
    s.Ready (Nat.max room 1) := by
  induction hl with
  | new => exact .new room checkpoint
  | turn _ hturn ih => exact ih.turn hturn

/-- What came in and what came out of a queue throughout the life of its subscription. -/
theorem Lived.gathers (hl : Lived room key handle checkpoint past s) :
    ∃ fed, Gathers key handle (.new room checkpoint) past s fed := by
  induction hl with
  | new => exact ⟨[], .refl _⟩
  | turn _ hturn ih =>
    obtain ⟨fed, hg⟩ := ih
    obtain ⟨fed', hg'⟩ := hturn.gathers
    exact ⟨fed ++ fed', hg.trans hg'⟩

/-- The accounts of a subscription are in order throughout its life. -/
theorem Lived.accounts (hl : Lived room key handle checkpoint past s) :
    s.Accounts key handle past := by
  induction hl with
  | new => exact .new key handle room checkpoint
  | turn _ hturn ih => exact ih.turn hturn

end Subscription

/-- The queue of every subscription has the room that the settings say, and is in order. -/
theorem Hub.Reached.ready {config : HubConfig} {actions : List (Action P)} {facts : List (Fact P)}
    {h : Hub P} (hr : Reached config actions facts h) {key : Key} {handle : Handle}
    {s : Subscription P} (hsub : h.subscription? key handle = some s) :
    s.Ready config.queueRoom := by
  obtain ⟨before, checkpoint, after, hfacts⟩ := hr.subscribed hsub
  obtain ⟨s', hsub', hlived⟩ := hr.lived hfacts
  cases hsub.symm.trans hsub'
  have hroom : Nat.max config.queueRoom 1 = config.queueRoom :=
    Nat.max_eq_left (Nat.le_max_right _ _)
  exact hroom ▸ hlived.ready

end WatchHub
