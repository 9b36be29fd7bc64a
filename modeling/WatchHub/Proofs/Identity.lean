import WatchHub.Proofs.Hub.Cargo
import WatchHub.Proofs.Hub.Listing

/-!
# What a version stands for

A version is issued once, to one event of one key, and it stays with this event wherever the event
goes: through the fan-out, a snapshot or a replay, and in what the logs answer. An error that has no
version was made for one subscription only.
-/

namespace WatchHub

variable {P : Type}

namespace Fact

/-- The event that was added to a log under a version, and the key of the log. -/
def issue? (v : Version) : Fact P → Option (Key × Event P)
  | logged key _ _ event version => if version = v then some (key, event) else none
  | _ => none

end Fact

open WatchHub.Fact (Known Owns opening? record? issue? receipt? listing?)

/-- A version is in a history once. -/
lemma filterMap_numbered {A : Type} {epoch : UInt64} {events : List (Event P)} {e : Entry P}
    (he : e ∈ numbered epoch events) (f : Event P → A) :
    ((numbered epoch events).filterMap fun e' =>
      if e'.version = e.version then some (f e'.event) else none) = [f e.event] := by
  obtain ⟨older, newer, hsplit⟩ := List.append_of_mem he
  have hpairwise := pairwise_numbered epoch events
  rw [hsplit, List.map_append, List.map_cons, List.pairwise_append, List.pairwise_cons] at hpairwise
  obtain ⟨-, ⟨hnewer, -⟩, holder⟩ := hpairwise
  have hne : ∀ {v w : Version}, compare v w = .lt → v ≠ w := by
    rintro v _ hlt rfl
    rw [Version.compare_of_epoch_eq rfl, Nat.compare_eq_lt] at hlt
    exact Nat.lt_irrefl _ hlt
  rw [hsplit, List.filterMap_append, List.filterMap_cons, if_pos rfl]
  have hbefore : (older.filterMap fun e' =>
      if e'.version = e.version then some (f e'.event) else none) = [] := by
    apply List.filterMap_eq_nil_iff.2
    intro e' he'
    exact if_neg (hne (holder _ (List.mem_map_of_mem he') _ List.mem_cons_self))
  have hafter : (newer.filterMap fun e' =>
      if e'.version = e.version then some (f e'.event) else none) = [] := by
    apply List.filterMap_eq_nil_iff.2
    intro e' he'
    exact if_neg (hne (hnewer _ (List.mem_map_of_mem he'))).symm
  rw [hbefore, hafter]
  rfl

namespace EventLog

variable {facts : List (Fact P)} {l : EventLog P}

/-- No two logs, of whatever keys, were opened under the same epoch. -/
def Distinct (facts : List (Fact P)) : Prop :=
  ((facts.filterMap opening?).map Prod.snd).Nodup

lemma Distinct.id_eq (hd : Distinct facts) {id id' : LogId} {key key' : Key} {epoch : UInt64}
    (h : (facts.filterMap opening?)[id]? = some (key, epoch))
    (h' : (facts.filterMap opening?)[id']? = some (key', epoch)) : id = id' := by
  have hepoch : ((facts.filterMap opening?).map Prod.snd)[id]? = some epoch := by
    rw [List.getElem?_map, h, Option.map_some]
  have hepoch' : ((facts.filterMap opening?).map Prod.snd)[id']? = some epoch := by
    rw [List.getElem?_map, h', Option.map_some]
  have hlt := (List.getElem?_eq_some_iff.1 hepoch).1
  exact (List.getElem?_inj hlt hd).1 (hepoch.trans hepoch'.symm)

/-- Whatever was added under a version was added once. -/
theorem Ledger.issue_eq (hl : l.Ledger facts) (hd : Distinct facts) {key : Key} {writer : Writer}
    {id : LogId} {event : Event P} {v : Version} (h : .logged key writer id event v ∈ facts) :
    facts.filterMap (issue? v) = [(key, event)] := by
  obtain ⟨hopening, hrecord⟩ := hl.logged_at h
  obtain ⟨epoch, events, -, -, hrecords⟩ := hl.records (hl.logged h)
  -- All that was added under the version is among the records of the log with its epoch.
  have hview : facts.filterMap (issue? v) = (facts.filterMap (record? id)).filterMap fun e =>
      if e.version = v then some (key, e.event) else none := by
    rw [List.filterMap_filterMap]
    apply List.filterMap_congr
    intro x hx
    cases x with
    | logged key' writer' id' event' w =>
      by_cases hw : w = v
      · subst hw
        have hopening' := (hl.logged_at hx).1
        obtain rfl : id' = id := hd.id_eq hopening' hopening
        obtain rfl : key' = key :=
          congrArg Prod.fst (Option.some.inj (hopening'.symm.trans hopening))
        simp [issue?, record?]
      · by_cases hid : id' = id <;> simp [issue?, record?, hid, hw]
    | _ => rfl
  rw [hview, hrecords]
  rw [hrecords] at hrecord
  exact filterMap_numbered hrecord fun event => (key, event)

end EventLog

namespace Population.Stage

variable {readings : List (List (Delivery P))} {failures : List String}
  {offers : List (Delivery P × Offer)} {stage : Stage P}

/-- A population that has failed offers its error and nothing else; any other offers what is logged. -/
lemma Course.offers_cases (h : stage.Course readings failures offers) :
    Logged (offers.map Prod.fst) ∨
      stage = .finished .failed ∧ ∃ reason offer, offers = [(.unversioned reason, offer)] := by
  have hnone : offers = [] → Logged (offers.map Prod.fst) := by
    rintro rfl d hd
    cases hd
  have hpart : ∀ {ds : List (Delivery P)}, Logged (offers.map Prod.fst ++ ds) →
      Logged (offers.map Prod.fst) := fun h d hd => h d (List.mem_append_left _ hd)
  cases stage with
  | spawned | listing | seeking | reading => exact .inl (hnone h.2.2)
  | locating | recording => exact .inl h.2.2
  | between rest =>
    cases rest with
    | items => exact .inl h.2.2
    | history => exact .inl (hpart h.2.2)
    | nothing => exact h.elim
  | offering d rest | waiting d rest =>
    cases rest with
    | items | history => exact .inl (hpart h.2.2)
    | nothing => exact .inl (hnone h.2.1)
  | finished ending =>
    cases ending with
    | complete | crashed => exact .inl h.2.2
    | closed => exact .inl h.2
    | failed =>
      obtain ⟨-, reason, offer, -, hoffers⟩ := h
      exact .inr ⟨rfl, reason, offer, hoffers⟩

end Population.Stage

namespace Hub

/-- Where a delivery for a key may be seen. -/
inductive Shows (facts : List (Fact P)) (h : Hub P) (key : Key) : Delivery P → Prop where
  | emitted {d} : .emitted key d ∈ facts → Shows facts h key d
  | offered {d offer} (handle : Handle) : .offered key handle d offer ∈ facts → Shows facts h key d
  | received {d} (handle : Handle) : .received key handle d ∈ facts → Shows facts h key d
  | queued {d s} (handle : Handle) :
    h.subscription? key handle = some s → d ∈ s.queue.items → Shows facts h key d
  /-- A population is about to offer it. -/
  | carried {d p} (handle : Handle) :
    h.population? key handle = some p → d ∈ p.stage.cargo → Shows facts h key d
  /-- The log answers with it. -/
  | replayed {after entries e} :
    h.log.replayAfter key after = .ok entries → e ∈ entries → Shows facts h key e.delivery

variable {config : HubConfig} {actions : List (Action P)} {facts told : List (Fact P)}
  {h h' : Hub P} {key : Key} {handle : Handle} {d : Delivery P} {s : Subscription P}

/-- What was received was in the queue. -/
lemma Changes.received_mem {action : Action P} (hc : Changes h action told h')
    (hd : .received key handle d ∈ told) :
    ∃ s, h.subscription? key handle = some s ∧ d ∈ s.queue.items := by
  obtain ⟨key₀, handle₀, r, s, d₀, s', -, rfl, hr, hget, hreceive⟩ := hc.told_by hd
  cases List.mem_singleton.1 hd
  obtain ⟨queue, hqueue, -⟩ := Subscription.queue_receive hreceive
  obtain ⟨items, hitems, -⟩ := Queue.receive?_eq_some hqueue
  refine ⟨s, (subscription?_of_registration? hr handle).trans hget, ?_⟩
  rw [hitems]
  exact List.mem_cons_self

/-- Whatever is seen for a key is known. -/
theorem Reached.known_of_shows (hr : Reached config actions facts h) (hd : Shows facts h key d) :
    Known facts key d := by
  cases hd with
  | emitted hd => exact hr.emitted_known hd
  | offered handle hd => exact hr.offered_known hd
  | queued handle hsub hd => exact hr.queued_known hsub hd
  | carried handle hpop hd => exact hr.cargo_known hpop hd
  | received handle hd =>
    obtain ⟨before, after, rfl⟩ := List.append_of_mem hd
    obtain ⟨_, past, h₀, _, _, told, told', hr₀, hstep, rfl, -, -⟩ := hr.moment rfl
    obtain ⟨s, hsub, hitem⟩ := (hr₀.sound.changes hstep).received_mem (List.mem_append_right told
      List.mem_cons_self)
    apply (hr₀.queued_known hsub hitem).mono
    intro x hx
    simp [hx]
  | replayed hreplay he =>
    unfold EventLog.replayAfter EventLog.get? at hreplay
    cases hfind : h.log.find? key with
    | none => simp [hfind] at hreplay
    | some id =>
      simp only [hfind, Option.map_some, EventLog.replayOf] at hreplay
      split at hreplay
      · cases hreplay
        have hown := hr.booked.ledger.current hfind
        obtain ⟨writer, hlogged⟩ := hr.booked.known_of_after? hown ‹_› he
        exact .logged hlogged
      · cases hreplay

/-- What a subscription gets without a version was offered by its population. -/
lemma Reached.unversioned_sublist (hr : Reached config actions facts h) {before after : List (Fact P)}
    {checkpoint : Option Version}
    (hfacts : facts = before ++ .subscribed key handle checkpoint :: after)
    (hsub : h.subscription? key handle = some s) :
    ((after.filterMap (receipt? key handle) ++ s.queue.items).filter
        fun d => d.version.isNone).Sublist
      (((after.filterMap (Fact.offer? key handle)).map Prod.fst).filter
        fun d => d.version.isNone) := by
  obtain ⟨s', hsub', hlived⟩ := hr.lived hfacts
  cases hsub.symm.trans hsub'
  obtain ⟨stream, hstream, (hfirst : _ <+: stream), -, -⟩ := hlived.gathers
  have haccepted := hlived.accepted_sublist
  simp only [Fact.receipt?_concerns, Fact.acceptance?_concerns, Fact.delivery?_concerns,
    Fact.emission?_concerns] at hstream hfirst haccepted
  -- Live events have versions, so only the deliveries of the population may have none.
  have hlive : (after.filterMap (Fact.acceptance? key handle)).filter
      (fun d => d.version.isNone) = [] := by
    apply List.filter_eq_nil_iff.2
    intro d hd
    have hemitted : .emitted key d ∈ facts := by
      rw [hfacts]
      exact List.mem_append_right _ (List.mem_cons_of_mem _
        (Fact.mem_emission.1 (haccepted.subset hd)))
    obtain ⟨id, event, version, rfl, -⟩ := hr.published.logged hemitted
    simp [Delivery.versioned]
  have hsublist := hfirst.sublist.filter fun d => d.version.isNone
  rw [(hstream.filter fun d => d.version.isNone).eq_of_left_nil hlive] at hsublist
  have hdelivered : (after.filterMap (Fact.delivery? key handle)).Sublist
      ((after.filterMap (Fact.offer? key handle)).map Prod.fst) := by
    rw [Subscription.deliveries_eq_filterMap, ← List.filterMap_eq_map]
    apply filterMap_sublist_filterMap
    intro o _ d hd
    simp only [Option.ite_none_right_eq_some, Option.some.injEq] at hd
    exact congrArg some hd.2
  exact hsublist.trans (hdelivered.filter _)

/-- A subscription gets one delivery without a version at most, and only if its population has failed
before it added anything to the log. -/
lemma Reached.unversioned_le (hr : Reached config actions facts h) {before after : List (Fact P)}
    {checkpoint : Option Version}
    (hfacts : facts = before ++ .subscribed key handle checkpoint :: after)
    (hsub : h.subscription? key handle = some s) :
    ((after.filterMap (receipt? key handle) ++ s.queue.items).filter
        fun d => d.version.isNone).length ≤ 1 ∧
      ((∃ d ∈ after.filterMap (receipt? key handle) ++ s.queue.items, d.version = none) →
        facts.filterMap (listing? key handle) = []) := by
  have hall := hr.unversioned_sublist hfacts hsub
  obtain ⟨s', hsub', hlived⟩ := hr.lived hfacts
  cases hsub.symm.trans hsub'
  have hcourse := hlived.course
  simp only [Fact.reading?_concerns, Fact.failure?_concerns, Fact.offer?_concerns] at hcourse
  rcases hcourse.offers_cases with hlogged | ⟨hstage, reason, offer, hoffers⟩
  · -- Nothing without a version was ever offered.
    have hnone : ((after.filterMap (Fact.offer? key handle)).map Prod.fst).filter
        (fun d => d.version.isNone) = [] := by
      apply List.filter_eq_nil_iff.2
      intro d hd
      simpa [Option.isSome_iff_ne_none] using hlogged d hd
    rw [hnone, List.sublist_nil] at hall
    rw [hall]
    refine ⟨Nat.zero_le 1, ?_⟩
    rintro ⟨d, hd, hversion⟩
    have hmem : d ∈ (after.filterMap (receipt? key handle) ++ s.queue.items).filter
        fun d => d.version.isNone := List.mem_filter.2 ⟨hd, Option.isNone_iff_eq_none.2 hversion⟩
    rw [hall] at hmem
    cases hmem
  · refine ⟨?_, fun _ => ?_⟩
    · rw [hoffers] at hall
      exact hall.length_le
    · have hlists := hr.lists key handle
      unfold Lists at hlists
      rw [population?, hsub, Option.map_some] at hlists
      obtain ⟨checkpoint, -, hlisted⟩ := hlists
      rw [hstage] at hlisted
      exact hlisted.2

/-- If no two logs have the same epoch, then all that is ever seen under one version is the event that
was added to a log under this version, for the key of this log; and what is seen without a version is
an error that a single subscription got instead of its items. -/
theorem identified_of_run (hrun : (Hub.new config).run actions = some (h, facts))
    (hepochs : EventLog.Distinct facts) :
    (∀ past told h₀ past' told' h₀' key key' d d' v,
      past <+: actions → (Hub.new config).run past = some (h₀, told) → Shows told h₀ key d →
      past' <+: actions → (Hub.new config).run past' = some (h₀', told') →
      Shows told' h₀' key' d' → d.version = some v → d'.version = some v →
      key = key' ∧ d = d' ∧ facts.filterMap (issue? v) = [(key, d.event)]) ∧
    (∀ past told h₀ key d,
      past <+: actions → (Hub.new config).run past = some (h₀, told) → Shows told h₀ key d →
      d.version = none → d.event.kind = .error ∧ d.event.payload = none ∧
        (∀ key', .emitted key' d ∉ told) ∧
        ∀ key' after entries, h₀.log.replayAfter key' after = .ok entries →
          d ∉ entries.map Entry.delivery) ∧
    ∀ key handle before checkpoint after,
      facts = before ++ .subscribed key handle checkpoint :: after →
      ∃ s, h.subscription? key handle = some s ∧
        let stream := after.filterMap (receipt? key handle) ++ s.queue.items
        (stream.filter fun d => d.version.isNone).length ≤ 1 ∧
          ((∃ d ∈ stream, d.version = none) → facts.filterMap (listing? key handle) = []) := by
  have hr : Reached config actions facts h := .of_run hrun
  have hknown : ∀ {past told h₀ key d}, past <+: actions →
      (Hub.new config).run past = some (h₀, told) → Shows told h₀ key d → Known facts key d := by
    rintro past told h₀ key d ⟨future, rfl⟩ hpast hd
    obtain ⟨rest, -, rfl⟩ := run_append hpast hrun
    exact ((Reached.of_run hpast).known_of_shows hd).mono (List.subset_append_left _ _)
  have hissued : ∀ {key d v}, Known facts key d → d.version = some v →
      facts.filterMap (issue? v) = [(key, d.event)] := by
    intro key d v hd hv
    cases hd with
    | logged hlogged =>
      cases hv
      exact hr.booked.ledger.issue_eq hepochs hlogged
    | error => cases hv
  refine ⟨?_, ?_, ?_⟩
  · intro past told h₀ past' told' h₀' key key' d d' v hpast hrun₀ hd hpast' hrun₀' hd' hv hv'
    have hissue := hissued (hknown hpast hrun₀ hd) hv
    have hissue' := hissued (hknown hpast' hrun₀' hd') hv'
    rw [hissue] at hissue'
    obtain ⟨rfl, hevent⟩ := Prod.mk.inj (List.cons.inj hissue').1
    obtain ⟨event, version⟩ := d
    obtain ⟨event', version'⟩ := d'
    cases hv
    cases hv'
    cases hevent
    exact ⟨rfl, rfl, hissue⟩
  · intro past told h₀ key d hpast hrun₀ hd hv
    cases hknown hpast hrun₀ hd with
    | logged => cases hv
    | error reason =>
      refine ⟨rfl, rfl, fun key' hemitted => ?_, fun key' after entries _ hmem => ?_⟩
      · obtain ⟨id, event, version, heq, -⟩ := (Reached.of_run hrun₀).published.logged hemitted
        cases heq
      · have hversion := logged_entries entries _ hmem
        cases hversion
  · intro key handle before checkpoint after hfacts
    obtain ⟨s, hsub, -⟩ := hr.lived hfacts
    exact ⟨s, hsub, hr.unversioned_le hfacts hsub⟩

/-- An event that one consumer gets live and another from the log. The log is cleared before the first
one reads it, so all that it gets besides is an error. -/
def visits : List (Action Nat) :=
  [.start (.register default ⟨1, "o"⟩), .resume 0,
    .ingest default .start, .ingest default (.answer (.ok ())),
    .start (.subscribe default (some ⟨7, 1⟩)), .resume 1, .resume 1,
    .locate default 7 (.added 1), .record 0, .send default (.added 2),
    .ingest default .take, .ingest default (.locate 8), .ingest default .record,
    .ingest default .emit,
    .start (.subscribe default (some ⟨7, 1⟩)), .resume 2, .resume 2,
    .populate default ⟨2⟩ .start, .populate default ⟨2⟩ .seek, .populate default ⟨2⟩ .read,
    .clear, .locate default 8 (.added 3), .record 0,
    .populate default ⟨2⟩ .next, .populate default ⟨2⟩ .offer,
    .populate default ⟨1⟩ .start, .populate default ⟨1⟩ .seek, .populate default ⟨1⟩ .read,
    .populate default ⟨1⟩ .offer,
    .receive default ⟨1⟩, .receive default ⟨1⟩, .receive default ⟨2⟩]

theorem identified_of_visits :
    ∃ h facts, (new .standard).run visits = some (h, facts) ∧ EventLog.Distinct facts ∧
      .received default ⟨1⟩ (.versioned (.added 2) ⟨7, 2⟩) ∈ facts ∧
      .received default ⟨2⟩ (.versioned (.added 2) ⟨7, 2⟩) ∈ facts ∧
      facts.filterMap (issue? ⟨7, 2⟩) = [(default, .added 2)] := by
  have hrun : (new .standard).run visits = some (_, _) := rfl
  have hidentified := @identified_of_run Nat _ _ _ _ hrun (by unfold EventLog.Distinct; decide)
  have hsame := fun hlive hreplayed => hidentified.1 visits _ _ visits _ _ default default
    (.versioned (.added 2) ⟨7, 2⟩) (.versioned (.added 2) ⟨7, 2⟩) ⟨7, 2⟩ List.prefix_rfl hrun
    (.received ⟨1⟩ hlive) List.prefix_rfl hrun (.received ⟨2⟩ hreplayed) rfl rfl
  refine ⟨_, _, hrun, by unfold EventLog.Distinct; decide, by decide, by decide, ?_⟩
  exact (hsame (by decide) (by decide)).2.2

end Hub

end WatchHub
