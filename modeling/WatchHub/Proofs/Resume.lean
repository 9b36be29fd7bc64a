import WatchHub.Proofs.Hub.Cargo

/-!
# Resuming from a checkpoint

A subscription is inserted before its population reads the log, and an event is logged before it is
fanned out. So an event after the checkpoint that was fanned out too early to reach the subscription
was in the log when it was read: nothing is missed, and what was logged before the read and fanned out
after the insertion comes twice.
-/

namespace WatchHub

variable {P : Type}

namespace Hub

open WatchHub.Fact (Owns opening? record? ingestion? emission? acceptance? delivery? receipt?)
open EventLog (Apart)

variable {config : HubConfig} {actions : List (Action P)} {facts told : List (Fact P)} {h h' : Hub P}
  {key : Key} {handle : Handle} {s : Subscription P} {v : Version} {entries : List (Entry P)}

/-- A history is told to be read by the step that reads it, which tells nothing else. -/
lemma Changes.historyRead (hs : h.Sound) {action : Action P} (hc : Changes h action told h')
    {before after : List (Fact P)}
    (htold : told = before ++ .historyRead key handle v entries :: after) :
    before = [] ∧ ∃ id s, h.subscription? key handle = some s ∧
      s.population.stage = .reading v id ∧ (h.log.logAt id).after? v = some entries := by
  have hmem : .historyRead key handle v entries ∈ told := by simp [htold]
  obtain ⟨key₀, handle₀, move, r, s, out, -, rfl, hr, hget, hp⟩ := hc.told_by hmem
  obtain rfl : r.key = key₀ := hs.keyed hr
  cases hp with
  | readHistory hstage hafter =>
    cases List.mem_singleton.1 hmem
    obtain rfl : before = [] := by
      cases before with
      | nil => rfl
      | cons y before => simp at htold
    exact ⟨rfl, _, s, (subscription?_of_registration? hr handle).trans hget, hstage, hafter⟩
  | locate _ => cases Fact.mem_ofLocate hmem
  | _ => simp at hmem

/-- What a replay reads is the end of the history of one log of its key, from the checkpoint on. -/
lemma Reached.historyRead (hr : Reached config actions facts h) {past after : List (Fact P)}
    (hfacts : facts = past ++ .historyRead key handle v entries :: after) :
    ∃ actions₀ h₀ id events, Reached config actions₀ past h₀ ∧ actions₀ <+: actions ∧
      (∃ s, h₀.subscription? key handle = some s ∧ s.population.stage = .reading v id) ∧
      (past.filterMap opening?)[id]? = some (key, v.epoch) ∧
      past.filterMap (record? id) = numbered v.epoch events ∧
      1 ≤ v.seq ∧ v.seq ≤ events.length ∧ entries = (numbered v.epoch events).drop v.seq := by
  obtain ⟨actions₀, past₀, h₀, action, h₁, told, told', hr₀, hstep, rfl, -, hearlier⟩ :=
    hr.moment hfacts
  obtain ⟨rfl, id, s, hsub, hstage, hafter⟩ :=
    (hr₀.sound.changes hstep).historyRead hr₀.sound rfl
  have hown : Owns past₀ key id := hr₀.booked.populations hsub (by rw [Population.log?, hstage])
  obtain ⟨epoch, events, hopening, hlog, hrecords⟩ := hr₀.booked.ledger.records hown
  rw [hlog, KeyLog.after?_retaining] at hafter
  split at hafter
  · rename_i hretains
    obtain ⟨rfl, hpos, hle, -⟩ := hretains
    rw [List.append_nil]
    exact ⟨actions₀, h₀, id, events, hr₀, (List.prefix_append _ _).trans hearlier,
      ⟨s, hsub, hstage⟩, hopening, hrecords, hpos, hle, (Option.some.inj hafter).symm⟩
  · cases hafter

/-- Whoever is told to have subscribed did so while the hub was running, after all that was logged
and fanned out before. -/
lemma Reached.insertion (hr : Reached config actions facts h) {before since : List (Fact P)}
    {checkpoint : Option Version}
    (hfacts : facts = before ++ .subscribed key handle checkpoint :: since) :
    ∃ actions₀ past h₀, Reached config actions₀ past h₀ ∧ actions₀ <+: actions ∧
      past <+: before ∧ (∀ n, .stopped n ∉ past) ∧
      ∀ x ∈ before, x.isWriting = true ∨ x.isPublishing = true → x ∈ past := by
  obtain ⟨actions₀, past, h₀, action, h₁, told, told', hr₀, hstep, rfl, -, hearlier⟩ :=
    hr.moment hfacts
  obtain ⟨hrunning, -, -, htold, -⟩ := (hr₀.sound.changes hstep).subscribed hr₀.sound rfl
  refine ⟨actions₀, past, h₀, hr₀, (List.prefix_append _ _).trans hearlier,
    List.prefix_append _ _, fun n hn => ?_, fun x hx hkind => ?_⟩
  · cases hrunning.symm.trans (hr₀.stopped_of_told hn)
  · rcases List.mem_append.1 hx with hx | hx
    · exact hx
    · obtain ⟨_, rfl⟩ | ⟨_, rfl⟩ := htold x hx <;> rcases hkind with h | h <;> cases h

/-- The logs of a key are told apart by their epochs, if need be as it is assumed. -/
lemma Reached.apart (hr : Reached config actions facts h) (hclear : .clear ∉ actions)
    (hwiped : ∀ n, .stopped n ∈ facts → Apart facts key) : Apart facts key := by
  by_cases hstopped : ∃ n, .stopped n ∈ facts
  · obtain ⟨n, hn⟩ := hstopped
    exact hwiped n hn
  · exact (hr.undivided hclear fun n hn => hstopped ⟨n, hn⟩).apart key

/-- What was logged before the subscription was inserted is in the log that its replay reads. -/
lemma Reached.same_log (hr : Reached config actions facts h) (hclear : .clear ∉ actions)
    {before since between after : List (Fact P)} {checkpoint : Option Version}
    (hfacts : facts = before ++ .subscribed key handle checkpoint :: since)
    (hread : since = between ++ .historyRead key handle v entries :: after)
    (hwiped : ∀ n, .stopped n ∈ facts →
      Apart facts key ∧ ∃ writer id event, .logged key writer id event v ∈ before)
    {id : LogId} (hid : ((before ++ .subscribed key handle checkpoint :: between).filterMap
      opening?)[id]? = some (key, v.epoch))
    {writer : Writer} {id' : LogId} {event : Event P} {w : Version}
    (hlogged : .logged key writer id' event w ∈ before) : id' = id := by
  have hsplit : facts = (before ++ .subscribed key handle checkpoint :: between) ++
      .historyRead key handle v entries :: after := by
    rw [hfacts, hread]
    simp
  by_cases hstopped : ∃ n, .stopped n ∈ facts
  · -- The checkpoint and the event were logged while the key had one log, and only the log with
    -- the epoch of the checkpoint can be read after it.
    obtain ⟨n, hn⟩ := hstopped
    obtain ⟨hapart, _, idv, _, hv⟩ := hwiped n hn
    obtain ⟨actions₀, past, h₀, hr₀, hearlier, ⟨rest, rfl⟩, hrunning, hkept⟩ := hr.insertion hfacts
    have hu := hr₀.undivided (fun hmem => hclear (hearlier.subset hmem)) hrunning
    have hledger := hr₀.booked.ledger
    have hv' := hkept _ hv (.inl rfl)
    have hcurrent := hu key idv (hledger.logged hv')
    rw [hu key id' (hledger.logged (hkept _ hlogged (.inl rfl)))] at hcurrent
    have hidv := Fact.opening?_append (hledger.logged_at hv').1
      (rest ++ .subscribed key handle checkpoint :: since)
    rw [← List.append_assoc, ← hfacts] at hidv
    have hid' := Fact.opening?_append hid (.historyRead key handle v entries :: after)
    rw [← hsplit] at hid'
    exact (Option.some.inj hcurrent).trans (hapart _ _ _ hidv hid')
  · obtain ⟨actions₀, h₀, id₀, _, hr₀, hearlier, -, -, -, -, -, -⟩ := hr.historyRead hsplit
    have hu := hr₀.undivided (fun hmem => hclear (hearlier.subset hmem)) fun n hn =>
      hstopped ⟨n, by rw [hsplit]; exact List.mem_append_left _ hn⟩
    have hcurrent := hu key id ⟨_, hid⟩
    rw [hu key id' (hr₀.booked.ledger.logged (List.mem_append_left _ hlogged))] at hcurrent
    exact Option.some.inj hcurrent

/-- An event after the checkpoint that was fanned out is fanned out after the insertion or read. -/
lemma Reached.emitted_or_read (hr : Reached config actions facts h) (hclear : .clear ∉ actions)
    {before since between after : List (Fact P)} {checkpoint : Option Version}
    (hfacts : facts = before ++ .subscribed key handle checkpoint :: since)
    (hread : since = between ++ .historyRead key handle v entries :: after)
    (hwiped : ∀ n, .stopped n ∈ facts →
      Apart facts key ∧ ∃ writer id event, .logged key writer id event v ∈ before)
    {d : Delivery P} {w : Version} (hd : .emitted key d ∈ facts) (hw : d.version = some w)
    (hlt : compare v w = .lt) :
    .emitted key d ∈ since ∨ d ∈ entries.map Entry.delivery := by
  have hsplit : facts = (before ++ .subscribed key handle checkpoint :: between) ++
      .historyRead key handle v entries :: after := by
    rw [hfacts, hread]
    simp
  rw [hfacts, List.mem_append, List.mem_cons] at hd
  rcases hd with hd | hd | hd
  · -- What was fanned out before the insertion was logged before it, in the log that is read.
    obtain ⟨_, past, h₁, hr₁, -, hpast, -, hkept⟩ := hr.insertion hfacts
    obtain ⟨id', event, w', rfl, hlogged⟩ := hr₁.published.logged (hkept _ hd (.inr rfl))
    cases hw
    have hlogged := hpast.subset hlogged
    obtain ⟨_, h₀, id, events, hr₀, -, -, hid, hrecords, -, -, rfl⟩ := hr.historyRead hsplit
    obtain rfl := hr.same_log hclear hfacts hread hwiped hid hlogged
    obtain ⟨hopening, hrecord⟩ := hr₀.booked.ledger.logged_at (List.mem_append_left _ hlogged)
    have hepoch : v.epoch = w.epoch :=
      congrArg Prod.snd (Option.some.inj (hid.symm.trans hopening))
    rw [Version.compare_of_epoch_eq hepoch, Nat.compare_eq_lt] at hlt
    exact .inr (List.mem_map.2 ⟨⟨event, w⟩, mem_drop_numbered.2 ⟨hrecords ▸ hrecord, hlt⟩, rfl⟩)
  · cases hd
  · exact .inl hd

/-- What was read had been logged before the read. -/
lemma Reached.logged_of_read (hr : Reached config actions facts h) {past after : List (Fact P)}
    (hfacts : facts = past ++ .historyRead key handle v entries :: after) {e : Entry P}
    (he : e ∈ entries) : ∃ writer id, .logged key writer id e.event e.version ∈ past := by
  obtain ⟨_, h₀, id, events, hr₀, -, -, hid, hrecords, -, -, rfl⟩ := hr.historyRead hfacts
  have hrecord : e ∈ past.filterMap (record? id) := hrecords ▸ List.mem_of_mem_drop he
  obtain ⟨writer, hlogged⟩ := hr₀.booked.ledger.logged_of_record ⟨_, hid⟩ hrecord
  exact ⟨writer, id, hlogged⟩

/-- Nothing is read twice. -/
lemma Reached.nodup_read (hr : Reached config actions facts h) {past after : List (Fact P)}
    (hfacts : facts = past ++ .historyRead key handle v entries :: after) :
    (entries.map Entry.delivery).Nodup := by
  obtain ⟨_, _, _, events, _, -, -, -, -, -, -, rfl⟩ := hr.historyRead hfacts
  exact (nodup_numbered v.epoch events).sublist ((List.drop_sublist _ _).map _)

/-- What an open subscription has got, or its replay is still to offer, if nothing was dropped and no
offer timed out: the live events since its insertion and what the replay has read. -/
lemma Reached.resumed_stream (hr : Reached config actions facts h) {before since : List (Fact P)}
    {checkpoint : Option Version}
    (hfacts : facts = before ++ .subscribed key handle checkpoint :: since)
    (hread : .historyRead key handle v entries ∈ since)
    (hsub : h.subscription? key handle = some s) (hopen : s.closed = false)
    (hreceiving : s.queue.receiving = true) (hdropped : s.dropped = 0)
    (htimely : ∀ d, .offered key handle d .timedOut ∉ since) :
    since.filterMap (delivery? key handle) ++ s.population.stage.cargo =
        entries.map Entry.delivery ∧
      Interleaving (since.filterMap (emission? key)) (since.filterMap (delivery? key handle))
        (since.filterMap (receipt? key handle) ++ s.queue.items) := by
  obtain ⟨s', hsub', hlived⟩ := hr.lived hfacts
  cases hsub.symm.trans hsub'
  have ho : s.IsOpen := by
    have hclosed := hlived.ready.closed_eq
    rw [hopen] at hclosed
    exact ⟨by simpa using hclosed.symm, hreceiving⟩
  have hmem : .historyRead key handle v entries ∈ since.filter (Fact.concerns key handle) :=
    List.mem_filter.2 ⟨hread, by simp [Fact.concerns]⟩
  have haccepted : since.filterMap (acceptance? key handle) = since.filterMap (emission? key) := by
    simpa using hlived.accounts.accepted_eq ho hdropped
  constructor
  · rw [← Fact.delivery?_concerns]
    exact hlived.replaying ho (fun d hd => htimely d (List.mem_of_mem_filter hd)) hmem
  · simpa [haccepted] using hlived.accounts.merged hreceiving

/-- A subscription that was opened after a checkpoint, and whose replay has come to its end with
nothing dropped or timed out, has every event that was fanned out after the checkpoint once or twice;
and its replay is what was logged after the checkpoint. If a shutdown has wiped the logs in the
meantime, the checkpoint is to be one that was issued, and the logs are to have epochs of their own. -/
theorem no_gap_of_run [DecidableEq P] (hrun : (Hub.new config).run actions = some (h, facts))
    (hclear : .clear ∉ actions) {before since between after : List (Fact P)}
    (hfacts : facts = before ++ .subscribed key handle (some v) :: since)
    (hread : since = between ++ .historyRead key handle v entries :: after)
    (hwiped : ∀ n, .stopped n ∈ facts →
      Apart facts key ∧ ∃ writer id event, .logged key writer id event v ∈ before)
    (hsub : h.subscription? key handle = some s) (hopen : s.closed = false)
    (hreceiving : s.queue.receiving = true) (hfinished : s.population.isFinished = true)
    (hdropped : s.dropped = 0) (htimely : ∀ d, .offered key handle d .timedOut ∉ since) :
    (∀ d w, .emitted key d ∈ facts → d.version = some w → compare v w = .lt →
      let stream := since.filterMap (receipt? key handle) ++ s.queue.items
      1 ≤ stream.count d ∧ stream.count d ≤ 2 ∧
        (stream.count d = 2 →
          (∃ writer id, .logged key writer id d.event w ∈ before ++ between) ∧
            .emitted key d ∈ since)) ∧
    since.filterMap (delivery? key handle) = entries.map Entry.delivery ∧
    ∃ id older last, Owns facts key id ∧
      (before ++ between).filterMap (record? id) = older ++ last :: entries ∧
        last.version = v := by
  have hr : Reached config actions facts h := .of_run hrun
  have hsplit : facts = (before ++ .subscribed key handle (some v) :: between) ++
      .historyRead key handle v entries :: after := by
    rw [hfacts, hread]
    simp
  -- What was delivered is what was read, and what was accepted is all that was fanned out.
  have hmem : .historyRead key handle v entries ∈ since := by simp [hread]
  obtain ⟨hdelivered, hmerged⟩ := hr.resumed_stream hfacts hmem hsub hopen hreceiving hdropped
    htimely
  rw [Population.cargo_of_finished hfinished, List.append_nil] at hdelivered
  rw [hdelivered] at hmerged
  refine ⟨fun d w hd hw hlt => ?_, hdelivered, ?_⟩
  · intro stream
    have hcount : stream.count d = (since.filterMap (emission? key)).count d +
        (entries.map Entry.delivery).count d := hmerged.count_eq d
    have hsince : since.Sublist facts := by
      rw [hfacts]
      exact (List.sublist_cons_self _ since).trans (List.sublist_append_right _ _)
    have hapart : Apart facts key := hr.apart hclear fun n hn => (hwiped n hn).1
    -- Nothing is fanned out twice, and nothing is read twice.
    have hlive : (since.filterMap (emission? key)).count d ≤ 1 :=
      List.nodup_iff_count_le_one.1 ((hr.nodup_emission hapart).sublist (hsince.filterMap _)) d
    have hreplayed : (entries.map Entry.delivery).count d ≤ 1 :=
      List.nodup_iff_count_le_one.1 (hr.nodup_read hsplit) d
    refine ⟨?_, by omega, fun htwo => ⟨?_, ?_⟩⟩
    · rcases hr.emitted_or_read hclear hfacts hread hwiped hd hw hlt with hmem | hmem
      · have := List.count_pos_iff.2 (Fact.mem_emission.2 hmem)
        omega
      · have := List.count_pos_iff.2 hmem
        omega
    · have hmem : d ∈ entries.map Entry.delivery := List.count_pos_iff.1 (by omega)
      obtain ⟨e, he, rfl⟩ := List.mem_map.1 hmem
      cases hw
      obtain ⟨writer, id, hlogged⟩ := hr.logged_of_read hsplit he
      refine ⟨writer, id, ?_⟩
      rw [List.mem_append, List.mem_cons] at hlogged
      rcases hlogged with hlogged | hlogged | hlogged
      · exact List.mem_append_left _ hlogged
      · cases hlogged
      · exact List.mem_append_right _ hlogged
    · exact Fact.mem_emission.1 (List.count_pos_iff.1 (by omega))
  · obtain ⟨_, _, id, events, _, -, -, hid, hrecords, hpos, hle, rfl⟩ := hr.historyRead hsplit
    obtain ⟨older, last, heq, hversion⟩ := numbered_split v.epoch hpos hle
    have hhistory : (before ++ between).filterMap (record? id) = numbered v.epoch events := by
      rw [← hrecords]
      simp [List.filterMap_cons, record?]
    exact ⟨id, older, last, hsplit ▸ Owns.append ⟨_, hid⟩ _, hhistory.trans heq, hversion⟩

/-- A second event, logged before the replay reads the log and fanned out after it. -/
def overlap : List (Action Nat) :=
  [.start (.register default ⟨1, "o"⟩), .resume 0,
    .ingest default .start, .ingest default (.answer (.ok ())), .send default (.added 1),
    .ingest default .take, .ingest default (.locate 7), .ingest default .record,
    .ingest default .emit,
    .start (.subscribe default (some ⟨7, 1⟩)), .resume 1, .resume 1,
    .send default (.added 2), .ingest default .take, .ingest default (.locate 7),
    .ingest default .record,
    .populate default ⟨1⟩ .start, .populate default ⟨1⟩ .seek, .populate default ⟨1⟩ .read,
    .ingest default .emit,
    .populate default ⟨1⟩ .next, .populate default ⟨1⟩ .offer, .populate default ⟨1⟩ .next]

/-- What is told until the subscription is inserted. -/
def beforeOverlap : List (Fact Nat) :=
  [.registered default "o", .returned 0 .registered, .watched default, .running default "o",
    .taken default (.added 1), .opened default 7, .logged default .ingest 0 (.added 1) ⟨7, 1⟩,
    .emitted default (.versioned (.added 1) ⟨7, 1⟩)]

/-- What is told from the insertion to the read. -/
def inOverlap : List (Fact Nat) :=
  [.returned 1 (.subscribed ⟨1⟩), .taken default (.added 2),
    .logged default .ingest 0 (.added 2) ⟨7, 2⟩]

/-- What is told after the read. -/
def afterOverlap : List (Fact Nat) :=
  [.emitted default (.versioned (.added 2) ⟨7, 2⟩),
    .reached default ⟨1⟩ (.versioned (.added 2) ⟨7, 2⟩) .accepted,
    .offered default ⟨1⟩ (.versioned (.added 2) ⟨7, 2⟩) .delivered,
    .replayDelivered default ⟨1⟩ ⟨7, 1⟩ 1 0]

theorem no_gap_of_overlap :
    ∃ h s, (new .standard).run overlap = some (h, beforeOverlap ++
        .subscribed default ⟨1⟩ (some ⟨7, 1⟩) :: (inOverlap ++
          .historyRead default ⟨1⟩ ⟨7, 1⟩ [⟨.added 2, ⟨7, 2⟩⟩] :: afterOverlap)) ∧
      h.subscription? default ⟨1⟩ = some s ∧ s.closed = false ∧ s.queue.receiving = true ∧
      s.population.isFinished = true ∧ s.dropped = 0 ∧
      1 ≤ s.queue.items.count (.versioned (.added 2) ⟨7, 2⟩) ∧
      s.queue.items.count (.versioned (.added 2) ⟨7, 2⟩) ≤ 2 := by
  have hrun : (new .standard).run overlap = some (_, beforeOverlap ++ .subscribed default ⟨1⟩
    (some ⟨7, 1⟩) :: (inOverlap ++ .historyRead default ⟨1⟩ ⟨7, 1⟩ [⟨.added 2, ⟨7, 2⟩⟩] ::
      afterOverlap)) := rfl
  have hclear : Action.clear ∉ overlap := by decide
  have hgap := @no_gap_of_run Nat _ _ _ _ default ⟨1⟩ _ _ _ _ hrun hclear _ _ _ _ rfl rfl
    (by simp [beforeOverlap, inOverlap, afterOverlap]) rfl rfl rfl rfl rfl
    (by simp [inOverlap, afterOverlap])
  obtain ⟨hlow, hhigh, -⟩ := hgap.1 (.versioned (.added 2) ⟨7, 2⟩) ⟨7, 2⟩
    (by simp [afterOverlap]) rfl rfl
  exact ⟨_, _, hrun, rfl, rfl, rfl, rfl, rfl, hlow, hhigh⟩

end Hub

end WatchHub
