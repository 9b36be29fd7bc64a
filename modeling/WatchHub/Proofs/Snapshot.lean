import WatchHub.Proofs.Hub.Addition
import WatchHub.Proofs.Hub.Pace
import WatchHub.Proofs.Leftover

/-!
# Snapshots

What becomes of a subscription that starts with a snapshot. The items are added to the log one by one, as
the observer listed them, and each is offered under the version that it got; whether an offer succeeds
depends on the room in the queue at its end, and only an offer that is refused ends the snapshot before
its last item (`snapshot_of_run`).
-/

namespace WatchHub

variable {P : Type}

open WatchHub.Fact (deed? delivery? offer? listing?)

namespace Subscription

variable {key : Key} {handle : Handle} {log : EventLog P} {s : Subscription P}
  {move : Population.Move P} {out : Populated P} {room : Nat} {d : Delivery P} {offer : Offer}

/-- How an offer comes to its end: refused if nobody takes it any more, and otherwise delivered exactly
if the queue has room for it. Only an offer that has waited times out. -/
structure Settles (room : Nat) (s : Subscription P) (d : Delivery P) (offer : Offer)
    (s' : Subscription P) : Prop where
  items : s'.queue.items = s.queue.items ++ if offer = .delivered then [d] else []
  delivered : offer = .delivered ↔ s.accepts = true ∧ s.queue.items.length < room
  closed : offer = .closed ↔ s.accepts = false
  timedOut : offer = .timedOut → s.population.isWaiting = true

/-- An offer is refused where nothing is accepted. -/
lemma Settles.of_refusal {s' : Subscription P} (haccepts : s.accepts = false)
    (hitems : s'.queue.items = s.queue.items) : Settles room s d .closed s' where
  items := by simpa using hitems
  delivered := by simp [haccepts]
  closed := by simp [haccepts]
  timedOut h := nomatch h

/-- An offer is delivered where there is room. -/
lemma Settles.of_room {s' : Subscription P} (haccepts : s.accepts = true)
    (hroom : s.queue.items.length < room) (hitems : s'.queue.items = s.queue.items ++ [d]) :
    Settles room s d .delivered s' where
  items := by simpa using hitems
  delivered := by simp [haccepts, hroom]
  closed := by simp [haccepts]
  timedOut h := nomatch h

/-- An offer times out where there was no room while it waited. -/
lemma Settles.of_wait {s' : Subscription P} (haccepts : s.accepts = true)
    (hwaits : s.population.isWaiting = true) (hfull : room ≤ s.queue.items.length)
    (hitems : s'.queue.items = s.queue.items) : Settles room s d .timedOut s' where
  items := by simpa using hitems
  delivered := by simp [Nat.not_lt.2 hfull]
  closed := by simp [haccepts]
  timedOut _ := hwaits

/-- Every offer of a population comes to its end in one of these ways, and leaves the log as it is. -/
lemma Populates.settles (hp : Populates key handle log s move out) (hr : s.Ready room)
    (hd : .offered key handle d offer ∈ out.facts) :
    Settles room s d offer out.subscription ∧ out.log = log := by
  have hslots := hr.balanced.slots
  have hcapacity := hr.balanced.capacity_eq
  cases hp with
  | offerRefused _ hclosed =>
    cases List.mem_singleton.1 hd
    have hgone : s.closed = true := by simpa [hr.closed_eq] using hclosed
    exact ⟨.of_refusal (by simp [accepts, hgone]) (by rw [queue_settle]), rfl⟩
  | @offerAccepted d' _ _ hopen hpush =>
    cases List.mem_singleton.1 hd
    rw [Bool.or_eq_false_iff] at hopen
    rcases s.queue.push_cases d with ⟨hreceiving, hfree, h⟩ | ⟨-, -, h⟩ | ⟨-, h⟩
    · refine ⟨.of_room (by simp [accepts, hopen.1, hreceiving]) (by omega) ?_, rfl⟩
      rw [queue_settle, h]
    · rw [h] at hpush
      cases hpush
    · rw [h] at hpush
      cases hpush
  | @offerGone d' _ _ _ hpush =>
    cases List.mem_singleton.1 hd
    rcases s.queue.push_cases d with ⟨-, -, h⟩ | ⟨-, -, h⟩ | ⟨hgone, -⟩
    · rw [h] at hpush
      cases hpush
    · rw [h] at hpush
      cases hpush
    · exact ⟨.of_refusal (by simp [accepts, hgone]) (by rw [queue_settle]), rfl⟩
  | fill _ haccepts hwaiter =>
    cases List.mem_singleton.1 hd
    have hgranted := Queue.granted_of_eq hwaiter
    refine ⟨.of_room haccepts (by omega) ?_, rfl⟩
    rw [queue_settle]
    rfl
  | timeOut hstage haccepts hwaiter =>
    cases List.mem_singleton.1 hd
    -- A slot that had become free would have been granted to the offer.
    have hfree := hr.balanced.queued hwaiter (Bool.and_eq_true_iff.1 haccepts).2
    have hgranted := Queue.granted_of_ne (q := s.queue) (by simp [hwaiter])
    refine ⟨.of_wait haccepts ?_ (by omega) ?_, rfl⟩
    · simp [Population.isWaiting, hstage]
    · rw [queue_settle]
      rfl
  | giveUp _ haccepts =>
    cases List.mem_singleton.1 hd
    refine ⟨.of_refusal haccepts ?_, rfl⟩
    rw [queue_settle]
    rfl
  | locate => cases Fact.mem_ofLocate hd
  | _ => simp at hd

/-- What a population adds becomes the newest entry of the log that it has found. -/
lemma Populates.last_entry (hp : Populates key handle log s move out) {id : LogId} {event : Event P}
    {version : Version} (hid : id < log.store.length)
    (hx : .logged key (.population handle) id event version ∈ out.facts) :
    (out.log.logAt id).entries.getLast? = some ⟨event, version⟩ := by
  cases hp with
  | record =>
    cases List.mem_singleton.1 hx
    rw [EventLog.logAt_record_self hid, KeyLog.getLast?_append, EventLog.fst_record]
  | locate => cases Fact.mem_ofLocate hx
  | _ => simp at hx

end Subscription

namespace Hub

open Population.Stage (Performs)

variable {config : HubConfig} {actions more : List (Action P)} {facts told : List (Fact P)}
  {h h' : Hub P} {action : Action P} {key : Key} {handle : Handle} {s : Subscription P}

/-- A step that tells of the work of a population is its own. -/
lemma Changes.populated_of_told (hc : Changes h action told h') {x : Fact P} (hx : x ∈ told)
    (hteller : x.teller? = some .population) (hwork : x.isWork key handle = true) :
    ∃ move s out, h.subscription? key handle = some s ∧ s.Populates key handle h.log move out ∧
      told = out.facts ∧ h'.subscription? key handle = some out.subscription ∧
      h'.log = out.log := by
  have hby := hc.told_by hx
  rw [hteller] at hby
  obtain ⟨key₀, handle₀, move, -, -, -, rfl, -⟩ := hby
  cases hc with
  | aside _ _ _ _ _ _ hcall => cases hcall
  | @populated _ _ _ r s out hr hget hp =>
    obtain ⟨rfl, rfl⟩ := Fact.eq_of_isWork hp hx hwork
    refine ⟨move, s, out, (subscription?_of_registration? hr _).trans hget, hp, rfl, ?_, rfl⟩
    rw [subscription?_of_put rfl, if_pos rfl, Audience.get?_put_self]

/-- How the offers of a population come to their ends. -/
lemma Reached.settled (hr : Reached config actions facts h)
    (hstep : h.step action = some (h', told)) {d : Delivery P} {offer : Offer}
    (hd : .offered key handle d offer ∈ told) :
    ∃ s s', h.subscription? key handle = some s ∧ h'.subscription? key handle = some s' ∧
      s.Settles config.queueRoom d offer s' ∧ h'.log = h.log := by
  have hchanges : Changes h action told h' := hr.sound.changes hstep
  have hwork : (Fact.offered key handle d offer).isWork key handle = true := by simp [Fact.isWork]
  obtain ⟨move, s, out, hsub, hp, rfl, hsub', hlog⟩ := hchanges.populated_of_told hd rfl hwork
  obtain ⟨hsettles, hkept⟩ := hp.settles (hr.ready hsub) hd
  exact ⟨s, out.subscription, hsub, hsub', hsettles, hlog.trans hkept⟩

/-- What becomes of the items that a population adds. -/
lemma Reached.last_entry (hr : Reached config actions facts h)
    (hstep : h.step action = some (h', told)) {id : LogId} {event : Event P} {version : Version}
    (hx : .logged key (.population handle) id event version ∈ told) :
    (h'.log.logAt id).entries.getLast? = some ⟨event, version⟩ := by
  have hchanges : Changes h action told h' := hr.sound.changes hstep
  have hwork : (Fact.logged key (.population handle) id event version).isWork key handle =
      true := by
    simp [Fact.isWork]
  obtain ⟨move, s, out, hsub, hp, rfl, -, hlog⟩ := hchanges.populated_of_told hx rfl hwork
  have hid : id < h.log.store.length := by
    cases hp with
    | record hstage =>
      cases List.mem_singleton.1 hx
      exact hr.booked.ledger.lt_of_owns
        (hr.booked.populations hsub (by rw [Population.log?, hstage]))
    | locate => cases Fact.mem_ofLocate hx
    | _ => simp at hx
  rw [hlog]
  exact hp.last_entry hid hx

/-- Nothing that a closed subscription is offered is accepted. -/
lemma Reached.refused (hr : Reached config actions facts h)
    (hsub : h.subscription? key handle = some s) (hclosed : s.closed = true)
    (hmore : h.run more = some (h', told)) {d : Delivery P} {offer : Offer}
    (hd : .offered key handle d offer ∈ told) : offer = .closed := by
  obtain ⟨actions₀, action, actions₁, h₀, told₀, h₁, told₁, rfl, hrun, hstep, hd⟩ :=
    step_of_told hmore hd
  obtain ⟨s₀, hsub₀, hclosed₀, -⟩ := hr.leftover hsub hclosed hrun
  obtain ⟨s₁, s₂, hsub₁, -, hsettles, -⟩ := (hr.run hrun).settled hstep hd
  cases hsub₀.symm.trans hsub₁
  exact hsettles.closed.2 (by simp [Subscription.accepts, hclosed₀])

/-- A population ends as closed only if its subscription was closed or its consumer has let go. -/
lemma Reached.closed_or_gone (hr : Reached config actions facts h)
    (hsub : h.subscription? key handle = some s)
    (hstage : s.population.stage = .finished .closed) :
    s.closed = true ∨ s.queue.receiving = false := by
  obtain ⟨before, checkpoint, after, hfacts⟩ := hr.subscribed hsub
  obtain ⟨s', hsub', hlived⟩ := hr.lived hfacts
  cases hsub.symm.trans hsub'
  cases hreceiving : s.queue.receiving with
  | false => exact .inr rfl
  | true =>
    refine .inl ?_
    rw [hlived.ready.closed_eq, Bool.not_eq_true', ← Bool.not_eq_true]
    intro hmember
    exact (hlived.not_closed ⟨hmember, hreceiving⟩).2 hstage

/-- A snapshot that is closed before its list comes adds nothing, and offers nothing but a failure that
comes all the same and is refused. -/
lemma Reached.withheld (hr : Reached config actions facts h)
    (hsub : h.subscription? key handle = some s) (hclosed : s.closed = true)
    (hearly : s.population.stage = .spawned none ∨ s.population.stage = .listing)
    (hmore : h.run more = some (h', told)) {stage : Population.Stage P}
    {answers : List (Answer (List P))}
    (hperforms : stage.Performs answers (told.filterMap (deed? key handle))) :
    told.filterMap (deed? key handle) = [] ∨ ∃ failure, answers = [.failed failure] ∧
      told.filterMap (deed? key handle) =
        [.offered (.unversioned failure.message) .closed] := by
  rcases hperforms.answered with ⟨-, hnone⟩ | ⟨answer, rfl⟩
  · exact .inl hnone
  cases answer with
  | crashed => exact .inl hperforms.of_crashed
  | failed failure =>
    rcases hperforms.of_failed with ⟨hnone, -⟩ | ⟨offer, hoffered⟩
    · exact .inl hnone
    · have hmem : (.unversioned failure.message, offer) ∈ told.filterMap (offer? key handle) := by
        rw [← Fact.offers_of_deeds, hoffered]
        exact List.mem_singleton.2 rfl
      cases hr.refused hsub hclosed hmore (Fact.mem_offer.1 hmem)
      exact .inr ⟨failure, rfl, hoffered⟩
  | ok items =>
    obtain ⟨dealt, pending, hdeeds, -⟩ := hperforms.of_ok
    -- Nothing is in hand before the list has come, so nothing is added after the closing.
    obtain ⟨s', -, -, hlisted, -⟩ := hr.leftover hsub hclosed hmore
    have hhand : s.population.stage.inHand = [] := by
      rcases hearly with hstage | hstage <;> rw [hstage] <;> rfl
    rw [hhand, List.prefix_nil, List.append_eq_nil_iff, ← Fact.listings_of_deeds, hdeeds,
      List.filterMap_append, entries_script, entries_added] at hlisted
    have hnone := hlisted.1
    simp only [List.map_eq_nil_iff, List.append_eq_nil_iff] at hnone
    rw [hdeeds, hnone.1, hnone.2]
    exact .inl rfl

/-- What a snapshot delivers are its items whose offers were accepted. -/
lemma delivered_of_deeds {dealt : List (Entry P × Offer)} {pending : List (Entry P)}
    (hdeeds : told.filterMap (deed? key handle) = script dealt ++ pending.map .added) :
    told.filterMap (delivery? key handle) =
      (dealt.filter fun x => x.2 = .delivered).map fun x => x.1.delivery := by
  rw [Subscription.deliveries_eq_filterMap, ← Fact.offers_of_deeds, hdeeds, List.filterMap_append,
    offers_script, offers_added, List.append_nil, List.filterMap_map, ← List.filterMap_eq_map,
    List.filterMap_filter]
  refine List.filterMap_congr fun x _ => ?_
  by_cases hx : x.2 = .delivered <;> simp [hx]

/-- What a snapshot has made of the items that its observer listed: those that it has dealt with were
added and offered, the pending one was added. The hub and the subscription are those after a run. -/
structure Deals (h : Hub P) (s : Subscription P) (key : Key) (handle : Handle)
    (more : List (Action P)) (told : List (Fact P)) (items : List P)
    (dealt : List (Entry P × Offer)) (pending : List (Entry P)) : Prop where
  deeds : told.filterMap (deed? key handle) = script dealt ++ pending.map .added
  pending_le_one : pending.length ≤ 1
  isPrefix : (dealt.map Prod.fst ++ pending).map Entry.event <+: items.map .added
  /-- As long as nobody clears the logs, all are added to one log. -/
  one_log : .clear ∉ more → (∀ n, .stopped n ∉ told) → ∀ id event version,
    .logged key (.population handle) id event version ∈ told → h.log.find? key = some id
  ascending : .clear ∉ more → (∀ n, .stopped n ∉ told) →
    ((dealt.map Prod.fst ++ pending).map Entry.version).Pairwise fun v w => compare v w = .lt
  delivered : told.filterMap (delivery? key handle) =
    (dealt.filter fun x => x.2 = .delivered).map fun x => x.1.delivery
  refused_last : ∀ x ∈ dealt.dropLast, x.2 ≠ .closed
  refused_ends : (∃ x ∈ dealt, x.2 = .closed) → s.population.stage = .finished .closed
  complete : s.population.isFinished = true → pending = [] ∧
    (dealt.length = items.length ∨ s.closed = true ∨ s.queue.receiving = false)

/-- Once the list has come, the snapshot deals with its items in this way. -/
lemma Reached.dealt (hr : Reached config actions facts h)
    (hsub : h.subscription? key handle = some s) (hearly : s.population.stage.isEarly = true)
    (hmore : h.run more = some (h', told)) {s' : Subscription P}
    (hsub' : h'.subscription? key handle = some s') {items : List P}
    (hperforms : s'.population.stage.Performs [.ok items] (told.filterMap (deed? key handle))) :
    ∃ dealt pending, h'.Deals s' key handle more told items dealt pending := by
  have hr' := hr.run hmore
  obtain ⟨dealt, pending, hdeeds, hprefix, hone, hopen, hlast, hend⟩ := hperforms.of_ok
  have hunheld : Steady key handle [] h := by
    refine ⟨fun p id hp hid => ?_, fun id event version hx => absurd hx List.not_mem_nil⟩
    rw [population?, hsub] at hp
    cases hp
    rw [Population.log?_of_isEarly hearly] at hid
    cases hid
  refine ⟨dealt, pending, hdeeds, hone, hprefix, fun hclear hstopped => ?_,
    fun hclear hstopped => ?_, delivered_of_deeds hdeeds, hopen, hlast, fun hfinished => ?_⟩
  · exact (hr.steady hunheld hmore hclear hstopped).added
  · have hentries : (told.filterMap (deed? key handle)).filterMap Deed.entry? =
        dealt.map Prod.fst ++ pending := by
      rw [hdeeds, List.filterMap_append, entries_script, entries_added]
    rw [← hentries]
    exact hr'.booked.ledger.pairwise_entries (List.sublist_append_right _ _)
      (hr.steady hunheld hmore hclear hstopped).added
  · obtain ⟨ending, hending⟩ := Population.stage_of_isFinished hfinished
    obtain ⟨hpending, hall⟩ := hend ending hending
    exact ⟨hpending, hall.imp_right fun hclosed => hr'.closed_or_gone hsub' hclosed⟩

/-- A snapshot adds its items to the log and offers them, one after the other, until no item is left or
an offer is refused; it offers nothing but a failure if its list fails, and nothing at all if it is
closed before the list comes. -/
theorem snapshot_of_run (hrun : (Hub.new config).run actions = some (h, facts))
    (hsub : h.subscription? key handle = some s)
    (hearly : s.population.stage = .spawned none ∨ s.population.stage = .listing)
    (hmore : h.run more = some (h', told)) :
    facts.filterMap (deed? key handle) = [] ∧
    ∃ s' replies deeds, h'.subscription? key handle = some s' ∧
      replies = more.filterMap (Action.reply? key handle) ∧
      deeds = told.filterMap (deed? key handle) ∧
      (replies = [] ∨ ∃ answer, replies = [answer]) ∧
      (replies = [] ∨ replies = [.crashed] → deeds = []) ∧
      -- the list fails
      (∀ failure, replies = [.failed failure] →
        (deeds = [] ∧ s'.population.isFinished = false) ∨
          ∃ offer, deeds = [.offered (.unversioned failure.message) offer]) ∧
      -- the subscription was closed before the list came
      (s.closed = true → deeds = [] ∨ ∃ failure, replies = [.failed failure] ∧
        deeds = [.offered (.unversioned failure.message) .closed]) ∧
      -- the first items are added one after the other, each offered right after that
      (∀ items, replies = [.ok items] →
        ∃ dealt pending, h'.Deals s' key handle more told items dealt pending) ∧
      -- it comes to its end
      (s'.population.isFinished = false →
        (s'.population.stage = .listing ∧ s'.closed = false) ∨
          ∃ move, (∀ answer, move ≠ .answer answer) ∧
            (h'.step (.populate key handle move)).isSome = true) ∧
      (more.filterMap (Action.move? key handle)).length ≤ 5 * (replies.flatMap Answer.items).length + 4 ∧
      -- what is added is the newest entry, and an offer succeeds exactly if there is room for it
      ∀ past action future h₁ told₁ h₂ told₂, more = past ++ action :: future →
        h.run past = some (h₁, told₁) → h₁.step action = some (h₂, told₂) →
        (∀ id event version, .logged key (.population handle) id event version ∈ told₂ →
          (h₂.log.logAt id).entries.getLast? = some ⟨event, version⟩) ∧
        ∀ d offer, .offered key handle d offer ∈ told₂ → ∃ s₁ s₂,
          h₁.subscription? key handle = some s₁ ∧ h₂.subscription? key handle = some s₂ ∧
          s₁.Settles config.queueRoom d offer s₂ ∧ h₂.log = h₁.log := by
  have hr : Reached config actions facts h := .of_run hrun
  have hr' : Reached config (actions ++ more) (facts ++ told) h' := hr.run hmore
  have hawaits : s.population.stage.isEarly = true := by
    rcases hearly with hstage | hstage <;> rw [hstage] <;> rfl
  have hbegun : s.population.stage.Performs [] [] := by
    rcases hearly with hstage | hstage <;> rw [hstage]
    · exact .spawned
    · exact .listing
  have hundone : facts.filterMap (deed? key handle) = [] := by
    refine hr.undone fun p hp => ?_
    rw [population?, hsub] at hp
    cases hp
    exact hawaits
  obtain ⟨s', hsub', hperforms⟩ := hr.performs hsub hbegun hmore
  obtain ⟨s'', hsub'', hpace⟩ := hr.paced hsub hbegun hmore
  cases hsub'.symm.trans hsub''
  rw [List.nil_append, List.nil_append] at hperforms
  refine ⟨hundone, s', _, _, hsub', rfl, rfl, ?_, ?_, ?_, ?_, ?_, ?_, ?_, ?_⟩
  · exact hperforms.answered.imp_left And.left
  · rintro (hnone | hcrashed)
    · rcases hperforms.answered with ⟨-, hdeeds⟩ | ⟨answer, hanswer⟩
      · exact hdeeds
      · cases hnone.symm.trans hanswer
    · rw [hcrashed] at hperforms
      exact hperforms.of_crashed
  · intro failure hfailed
    rw [hfailed] at hperforms
    rcases hperforms.of_failed with ⟨hnone, hgoing⟩ | hoffered
    · refine .inl ⟨hnone, eq_false_of_ne_true fun hfinished => ?_⟩
      obtain ⟨ending, hending⟩ := Population.stage_of_isFinished hfinished
      exact hgoing ending hending
    · exact .inr hoffered
  · exact fun hclosed => hr.withheld hsub hclosed hearly hmore hperforms
  · intro items hlisted
    rw [hlisted] at hperforms
    exact hr.dealt hsub hawaits hmore hsub' hperforms
  · intro hgoing
    refine (Subscription.exists_step key handle h'.log (hr'.ready hsub') hperforms hgoing).imp_right
      ?_
    rintro ⟨move, out, hmove, hp⟩
    exact ⟨move, hmove, hr'.sound.step_of_populates hsub' hp⟩
  · have hfirst : s.population.stage.stepsLeft ≤ 4 := by
      rcases hearly with hstage | hstage <;> simp [hstage, Population.Stage.stepsLeft]
    omega
  · intro past action future h₁ told₁ h₂ told₂ _ hpast hstep
    have hr₁ := hr.run hpast
    refine ⟨fun id event version hx => hr₁.last_entry hstep hx, fun d offer hd => ?_⟩
    exact hr₁.settled hstep hd

/-- A consumer opens a subscription of an observed key. -/
def opened : List (Action Nat) :=
  [.start (.register default ⟨1, "o"⟩), .resume 0,
    .start (.subscribe default none), .resume 1, .resume 1]

/-- Of three items the first fills the queue and the second finds no room in time; the consumer takes an
event while the third one waits. -/
def populated : List (Action Nat) :=
  [.populate default ⟨1⟩ .start, .populate default ⟨1⟩ (.answer (.ok [1, 2, 3])),
    .populate default ⟨1⟩ .next, .populate default ⟨1⟩ (.locate 7), .populate default ⟨1⟩ .record,
    .populate default ⟨1⟩ .offer,
    .populate default ⟨1⟩ .next, .populate default ⟨1⟩ (.locate 7), .populate default ⟨1⟩ .record,
    .populate default ⟨1⟩ .offer, .populate default ⟨1⟩ .timeOut,
    .populate default ⟨1⟩ .next, .populate default ⟨1⟩ (.locate 7), .populate default ⟨1⟩ .record,
    .populate default ⟨1⟩ .offer, .receive default ⟨1⟩, .populate default ⟨1⟩ .fill,
    .populate default ⟨1⟩ .next]

theorem snapshot_of_populated :
    ∃ h facts s h' told dealt,
      (new { HubConfig.standard with queueCapacity := 1 }).run opened = some (h, facts) ∧
      h.subscription? default ⟨1⟩ = some s ∧ s.population.stage = .spawned none ∧
      h.run populated = some (h', told) ∧
      told.filterMap (deed? default ⟨1⟩) = script dealt ∧
      (dealt.map Prod.fst).map Entry.event = [.added 1, .added 2, .added 3] ∧
      ((dealt.map Prod.fst).map Entry.version).Pairwise (fun v w => compare v w = .lt) ∧
      ((dealt.filter fun x => x.2 = .delivered).map fun x => x.1.delivery) =
        [.versioned (.added 1) ⟨7, 1⟩, .versioned (.added 3) ⟨7, 3⟩] := by
  have hrun : (new { HubConfig.standard with queueCapacity := 1 }).run opened = some (_, _) := rfl
  have hreached := @Reached.run Nat _ _ _ _ (.of_run hrun) populated _ _ rfl
  obtain ⟨-, s', _, _, hsub', rfl, rfl, -, -, -, -, hitems, -⟩ :=
    @snapshot_of_run Nat _ _ populated _ _ _ _ default ⟨1⟩ _ hrun rfl (.inl rfl) rfl
  obtain ⟨dealt, pending, hdeals⟩ := hitems [1, 2, 3] rfl
  obtain rfl : _ = s' := Option.some.inj hsub'
  obtain ⟨rfl, hdone⟩ := hdeals.complete rfl
  have hlength : dealt.length = 3 := by
    rcases hdone with hlength | hclosed | hgone
    · exact hlength
    · cases hclosed
    · cases hgone
  -- The hub still runs, so no shutdown has come to its end.
  have hascending := hdeals.ascending (by decide) fun n hn =>
    Bool.false_ne_true (hreached.stopped_of_told (List.mem_append_right _ hn))
  have hprefix := hdeals.isPrefix
  rw [List.append_nil] at hascending hprefix
  exact ⟨_, _, _, _, _, dealt, hrun, rfl, rfl, rfl, hdeals.deeds.trans (List.append_nil _),
    hprefix.eq_of_length (by simp [hlength]), hascending, hdeals.delivered.symm⟩

/-- The consumer lets go of its end while the observer lists its items. -/
def departing : List (Action Nat) :=
  [.populate default ⟨1⟩ .start, .hangUp default ⟨1⟩,
    .populate default ⟨1⟩ (.answer (.ok [1, 2, 3])),
    .populate default ⟨1⟩ .next, .populate default ⟨1⟩ (.locate 7), .populate default ⟨1⟩ .record,
    .populate default ⟨1⟩ .offer]

/-- A shutdown clears the logs while the second item is in hand. -/
def clearing : List (Action Nat) :=
  [.populate default ⟨1⟩ .start, .populate default ⟨1⟩ (.answer (.ok [1, 2])),
    .populate default ⟨1⟩ .next, .populate default ⟨1⟩ (.locate 9), .populate default ⟨1⟩ .record,
    .populate default ⟨1⟩ .offer, .populate default ⟨1⟩ .next] ++
  shutDown ++ [.resume 2] ++ addItem

/-- The consumer unsubscribes while the observer is about to fail. -/
def tooLate : List (Action Nat) :=
  [.populate default ⟨1⟩ .start, .start (.unsubscribe default ⟨1⟩), .resume 2, .resume 2,
    .populate default ⟨1⟩ (.answer (.failed default)), .populate default ⟨1⟩ .offer]

/-- A snapshot ends after its first item though nobody closed its subscription, adds its second item
under a lower version than the first, and offers a failure though it was closed before. -/
theorem snapshot_cut_short :
    (∃ h facts s h' told s', (new .standard).run opened = some (h, facts) ∧
      h.subscription? default ⟨1⟩ = some s ∧ s.population.stage = .spawned none ∧
      h.run departing = some (h', told) ∧ h'.subscription? default ⟨1⟩ = some s' ∧
      s'.closed = false ∧ s'.population.stage = .finished .closed ∧
      told.filterMap (deed? default ⟨1⟩) = script [(⟨.added 1, ⟨7, 1⟩⟩, .closed)]) ∧
    (∃ h facts h' told, (new .standard).run (opened ++ [.ingest default .start]) = some (h, facts) ∧
      h.run clearing = some (h', told) ∧ .clear ∉ clearing ∧
      told.filterMap (deed? default ⟨1⟩) =
        script [(⟨.added 1, ⟨9, 1⟩⟩, .delivered)] ++ [.added ⟨.added 2, ⟨7, 1⟩⟩] ∧
      compare (⟨7, 1⟩ : Version) ⟨9, 1⟩ = .lt) ∧
    ∃ h facts h₁ told₁ s₁ h' told, (new .standard).run opened = some (h, facts) ∧
      h.run (tooLate.take 4) = some (h₁, told₁) ∧ h₁.subscription? default ⟨1⟩ = some s₁ ∧
      s₁.closed = true ∧ s₁.population.stage = .listing ∧ h.run tooLate = some (h', told) ∧
      told.filterMap (deed? default ⟨1⟩) =
        [.offered (.unversioned (default : ObserverFailure).message) .closed] :=
  ⟨⟨_, _, _, _, _, _, rfl, rfl, rfl, rfl, rfl, rfl, rfl, rfl⟩,
    ⟨_, _, _, _, rfl, rfl, by decide, rfl, rfl⟩,
    _, _, _, _, _, _, _, rfl, rfl, rfl, rfl, rfl, rfl, rfl⟩

end Hub

end WatchHub
