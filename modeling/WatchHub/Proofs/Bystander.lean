import WatchHub.Proofs.Beside.Runs

/-!
# Nobody is affected by another consumer

A run is compared with the one in which a subscription was never opened: all its steps are left out,
the others are made in their order. Every bystander, a subscription whose population had finished by
then and whose consumer is still there, is shown the same live events, finds the same in its queue and
misses as many of them. If the subscription was opened from a checkpoint, the versions of these events and
the logs are the same too; a snapshot adds to the log of its key the items that it logged, and puts the
versions ahead by as many at most.
-/

namespace WatchHub

variable {P : Type}

open WatchHub.Fact (acceptance? listing?)

namespace Hub

/-- A subscription is there and its population has come to its end. -/
def PopulationOver (h : Hub P) (key : Key) (handle : Handle) : Prop :=
  ∃ s, h.subscription? key handle = some s ∧ s.population.isFinished = true

variable {config : HubConfig} {past past' rest more : List (Action P)}
  {facts facts' told : List (Fact P)} {h h' h₀ h₁ : Hub P} {n : CallId} {m : Handle} {key : Key}
  {checkpoint : Option Version} {bystander : Key → Handle → Prop} {like : Key → Likeness P}
  {same : Key → LogId → LogId → Prop}

/-- Where a guest that joins a key changes no log: a replay logs nothing, and a snapshot nothing of
another key. -/
def Unaltered (key : Key) (checkpoint : Option Version) (key' : Key) : Prop :=
  checkpoint.isSome = true ∨ key' ≠ key

/-- Until the subscription of the guest is opened, the guest is nowhere. -/
lemma Reached.settled_before (hr : Reached config past facts h)
    (hrun : h.run more = some (h₀, told))
    (hjoining : h₀.calls.get? n = some (.joining key m checkpoint))
    (hn : (requests (past ++ rest))[n]? = some (.subscribe key checkpoint)) :
    (Guest.ofRun (past ++ rest) n m).Settled like h := by
  have hroom := (hr.run hrun).breakdown_eq_none hjoining
  refine ⟨hr.config_eq ▸ hroom, hr.known_before hn (Awaits.of_run hrun (.inl hjoining)),
    fun {key' s} hsub => ?_⟩
  obtain ⟨s₀, hsub₀, -⟩ := hr.later hrun hsub
  cases ((hr.run hrun).sound.fresh hjoining key').symm.trans hsub₀

/-- Where the guest has nothing to log when it joins, it goes on not to. -/
lemma Reached.settled_after (hr : Reached config past facts h₁)
    (hroom : Room.breakdown? config.queueRoom = none)
    (hrun : h₁.run more = some (h, told)) (hover : h₁.calls.get? n = none)
    (hn : (requests past)[n]? = some (.subscribe key checkpoint)) {s : Subscription P}
    (hsub : h₁.subscription? key m = some s)
    (hquiet : ∀ {key' s'}, h₁.subscription? key' m = some s' → (like key').exact →
      s'.population.stage.isQuiet = true) :
    (Guest.ofRun (past ++ more ++ rest) n m).Settled like h := by
  obtain ⟨s', hsub', -⟩ := hr.later hrun hsub
  have hover' : h.calls.get? n = none := by
    rcases hr.served.progress hn with ⟨call, hcall, -⟩ | ⟨reply, hreply⟩
    · cases hover.symm.trans hcall
    · obtain ⟨-, -, -, hover', -⟩ := (hr.run hrun).served.answered (List.mem_append_left _ hreply)
      exact hover'
  have hn' := getElem?_requests (getElem?_requests hn more) rest
  refine ⟨(hr.run hrun).config_eq ▸ hroom, (hr.run hrun).known_after hn' hover' hsub',
    fun {key' s'} hsub'' hexact => ?_⟩
  exact hr.quiet_of_quiet hrun (hr.not_subscribed hrun hsub key')
    (fun hsub₁ => hquiet hsub₁ hexact) hsub''

/-- The step that opens a subscription ends the call for it; there is no other one under its handle. -/
lemma Reached.joined (hr : Reached config past facts h₀)
    (hstep : h₀.step (.resume n) = some (h₁, told)) (htold : .subscribed key m checkpoint ∈ told) :
    h₀.calls.get? n = some (.joining key m checkpoint) ∧ h₁.calls.get? n = none ∧
      h₁.subscription? key m = some (.new h₀.config.queueRoom checkpoint) ∧
      (∀ {key' s}, h₁.subscription? key' m = some s →
        key' = key ∧ s = .new h₀.config.queueRoom checkpoint) ∧
      ∃ r, h₀.registration? key = some r ∧
        h₁ = (h₀.putRegistration key { r with audience :=
          (r.audience.insert m (.new h₀.config.queueRoom checkpoint)).1 }).dismiss n := by
  have hc := Conducts.of_step hstep rfl
  have hchanges := hr.sound.changes hstep
  obtain ⟨id, r, hid, hcall, hreg, -, hh₁⟩ := hc.joined_of_told htold
  cases hid
  obtain ⟨told₀, told₁, htold'⟩ := List.append_of_mem htold
  obtain ⟨-, -, hsub, -⟩ := hchanges.subscribed hr.sound htold'
  refine ⟨hcall, ?_, hsub, fun {key' s} hsub' => ?_, r, hreg, hh₁⟩
  · obtain rfl : h₁ = _ := hh₁
    exact (Table.get?_erase ..).trans (if_pos rfl)
  · rcases hchanges.absent (hr.sound.fresh hcall key') with hnone |
      ⟨told₂, checkpoint', told₃, htold₂⟩
    · cases hnone.symm.trans hsub'
    · obtain ⟨-, -, hsub₂, -⟩ := hchanges.subscribed hr.sound htold₂
      have hmem : .subscribed key' m checkpoint' ∈ told := by
        rw [show told = _ from htold₂]
        simp
      obtain ⟨id, -, hid, hcall', -⟩ := hc.joined_of_told hmem
      cases hid
      cases hcall.symm.trans hcall'
      exact ⟨rfl, Option.some.inj (hsub'.symm.trans hsub₂)⟩

/-- Before a subscription is opened nothing differs. -/
lemma parallel_before (bystander : Key → Handle → Prop)
    (hrun : (Hub.new config).run past = some (h₀, facts))
    (hjoining : h₀.calls.get? n = some (.joining key m checkpoint))
    (hn : (requests (past ++ rest))[n]? = some (.subscribe key checkpoint)) :
    ∃ h' told', Parallel (Guest.ofRun (past ++ rest) n m) (fun _ => .initial True) bystander [] []
      (.new config) (.new config) past facts h₀ h' told' := by
  have hr : Reached config past facts h₀ := .of_run hrun
  have hdrawn : 0 < m.number := by
    rcases Awaits.of_run hrun (.inl hjoining) with hcall | ⟨hlt, -⟩
    · cases hcall
    · exact hlt
  refine Parallel.of_run .new .new (.new _ hdrawn _ config) hrun
    (fun {part told₀ h₁} hpart hrun₀ => ?_) (fun key' checkpoint' hmem => ?_)
    fun hnot => absurd trivial hnot
  · obtain ⟨others, rfl⟩ := hpart
    obtain ⟨more, hmore, -⟩ := run_append hrun₀ hrun
    rw [List.append_assoc] at hn ⊢
    exact (Reached.of_run hrun₀).settled_before hmore hjoining hn
  · obtain ⟨_, _, hfacts⟩ := List.append_of_mem hmem
    obtain ⟨s, hsub, -⟩ := hr.lived hfacts
    cases (hr.sound.fresh hjoining key').symm.trans hsub

/-- After a subscription was opened, the one run goes on with it and the other one without it. -/
lemma parallel_after {all : List (Action P)} (hall : all = past ++ more)
    (hr : Reached config past facts h₁) (hr' : Reached config past' facts' h')
    (hroom : Room.breakdown? config.queueRoom = none)
    (hb : Beside (Guest.ofRun all n m) like same bystander facts facts' h₁ h')
    (hrun : h₁.run more = some (h, told)) (hover : h₁.calls.get? n = none)
    (hn : (requests past)[n]? = some (.subscribe key checkpoint)) {s : Subscription P}
    (hsub : h₁.subscription? key m = some s)
    (hquiet : ∀ {key' s'}, h₁.subscription? key' m = some s' → (like key').exact →
      s'.population.stage.isQuiet = true)
    (hby : ∀ {key handle}, bystander key handle → (h₁.subscription? key handle).isSome) :
    ∃ h₂' told', Parallel (Guest.ofRun all n m) like bystander facts facts' h₁ h' more told h h₂'
      told' := by
  refine Parallel.of_run hr hr' hb hrun (fun {part told₀ h₂} hpart hrun₀ => ?_)
    (hr.not_subscribed hrun hsub) fun _ hbystander => hby hbystander
  obtain ⟨others, rfl⟩ := hpart
  rw [hall, ← List.append_assoc]
  exact hr.settled_after hroom hrun₀ hover hn hsub hquiet

/-- A run in which a subscription is opened, and the same steps without those of this subscription. -/
lemma parallel_of_run {before after : List (Action P)} {facts₀ facts₁ : List (Fact P)}
    (hbefore : (Hub.new config).run before = some (h₀, facts₀))
    (hstep : h₀.step (.resume n) = some (h₁, told))
    (hjoined : .subscribed key m checkpoint ∈ told)
    (hafter : h₁.run after = some (h, facts₁)) :
    ∃ h' facts', Parallel (Guest.ofRun (before ++ .resume n :: after) n m)
      (fun key' => .initial (Unaltered key checkpoint key')) h₀.PopulationOver [] [] (.new config)
      (.new config) (before ++ .resume n :: after) (facts₀ ++ (told ++ facts₁)) h h' facts' := by
  have hr₀ : Reached config before facts₀ h₀ := .of_run hbefore
  have hone := run_singleton hstep
  obtain ⟨hjoining, hover, hsub, honly, r, hreg, hh₁⟩ := hr₀.joined hstep hjoined
  obtain ⟨request, hn, hserves, -⟩ := hr₀.served.serves hjoining
  obtain rfl : request = .subscribe key checkpoint := hserves
  obtain ⟨h₀', facts₀', hfirst⟩ := parallel_before h₀.PopulationOver hbefore hjoining
    (getElem?_requests hn (.resume n :: after))
  have hown : (Guest.ofRun (before ++ .resume n :: after) n m).made n = true :=
    made_ofRun_iff.2 (.inl rfl)
  have hfirst := hfirst.weaken
    (fun key' => Likeness.initial_le fun _ : Unaltered key checkpoint key' => trivial)
    (fun _ => trivial) fun ⟨s₀, hsub₀, hfinished⟩ hsub =>
      Option.some.inj (hsub₀.symm.trans hsub) ▸ hfinished
  obtain ⟨same, hbeside⟩ := hfirst.beside
  have hbeside := hh₁ ▸ hbeside.join_guest hown hreg
  have hsecond := Parallel.of_guest hr₀ hstep (if_pos hown)
    (hbeside.weaken (h₀.le_trace _ _ _ _) (.inl id))
  obtain ⟨past', hr₀'⟩ := Reached.new.play hfirst.play
  obtain ⟨same', hbeside'⟩ := hsecond.beside
  obtain ⟨h', facts₁', hthird⟩ := parallel_after (List.append_cons before (.resume n) after)
    (hr₀.step hstep) (List.append_nil facts₀' ▸ hr₀') (hr₀.breakdown_eq_none hjoining) hbeside'
    hafter hover
    (getElem?_requests hn [.resume n]) hsub
    (fun hsub' hexact => by
      obtain ⟨rfl, rfl⟩ := honly hsub'
      obtain ⟨v, rfl⟩ := Option.isSome_iff_exists.1 (hexact.resolve_right fun hne => hne rfl)
      rfl)
    fun ⟨s₀, hsub₀, _⟩ => by
      obtain ⟨s₁, hsub₁, -⟩ := hr₀.later hone hsub₀
      rw [hsub₁, Option.isSome_some]
  exact ⟨h', _, hfirst.trans .new hbefore (run_of_step hstep hafter)
    (hsecond.trans hr₀ hone hafter hthird)⟩

/-- Whatever the consumer and the population of a subscription do, a bystander sees the same live
events, finds the same in its queue and misses as many of them as in the run without this subscription.
All steps of others are made there, but for those of populations that need not go on: their consumer is
gone, or they were still at work on the same key when the subscription was opened from a snapshot. If it
was opened from a checkpoint, and for all other keys, the versions and the logs are the same as well; a
snapshot puts the versions of its key ahead by no more than the items that it logged, and these are all
that its log holds more. -/
theorem undisturbed_of_run {before after : List (Action P)} {facts₀ facts₁ : List (Fact P)}
    (hbefore : (Hub.new config).run before = some (h₀, facts₀))
    (hstep : h₀.step (.resume n) = some (h₁, told))
    (hjoined : .subscribed key m checkpoint ∈ told)
    (hafter : h₁.run after = some (h, facts₁)) :
    let actions := before ++ .resume n :: after
    let facts := facts₀ ++ (told ++ facts₁)
    let g := Guest.ofRun actions n m
    let like (k : Key) : Likeness P :=
      ⟨Unaltered key checkpoint k, (Hub.new config).Opens k m actions, facts.filterMap (listing? k m)⟩
    ∃ h' facts', (Hub.new config).play (g.without 0 actions) = some (h', facts') ∧
      (∀ action ∈ (Hub.new config).skipped (g.without 0 actions), ∃ k handle move s,
        action = .populate k (g.rename handle) move ∧ handle ≠ m ∧
          h.subscription? k handle = some s ∧
          (s.queue.receiving = true →
            ¬ Unaltered key checkpoint k ∧ ¬ h₀.PopulationOver k handle)) ∧
      (∀ k handle s, h₀.PopulationOver k handle → h.subscription? k handle = some s →
        s.queue.receiving = true →
        ∃ s', h'.subscription? k (g.rename handle) = some s' ∧ s'.dropped = s.dropped ∧
          SeenAlike (like k) (facts.filterMap (acceptance? k handle))
            (facts'.filterMap (acceptance? k (g.rename handle)))
            ((Hub.new config).finds k handle actions)
            ((Hub.new config).finds k (g.rename handle) (g.without 0 actions))) ∧
      (∀ k, Unaltered key checkpoint k → h'.log.get? k = h.log.get? k) ∧
      ∀ k, EventLog.AlikeAt (like k) h.log.capacity (h.log.get? k) (h'.log.get? k) := by
  intro actions facts g like
  obtain ⟨h', facts', hp⟩ := parallel_of_run hbefore hstep hjoined hafter
  have hr₀ : Reached config before facts₀ h₀ := .of_run hbefore
  obtain ⟨hjoining, -⟩ := hr₀.joined hstep hjoined
  obtain ⟨same, hbeside⟩ := hp.beside
  have hlike : ∀ k, (Hub.new config).trace g (fun k => .initial (Unaltered key checkpoint k)) actions
      facts k = like k := trace_initial _ g _ actions facts
  refine ⟨h', facts', hp.play, fun action hmem => ?_, fun k handle s hover hsub hreceiving => ?_,
    fun k hexact => hbeside.logs.get?_eq hexact, fun k => hlike k ▸ hbeside.logs.alikeAt k⟩
  · obtain ⟨k, handle, move, haction, hne, s, hsub, hspare⟩ := hp.skipped action hmem
    exact ⟨k, handle, move, s, haction, hne, hsub, hspare⟩
  · have hne : handle ≠ g.handle := by
      rintro rfl
      obtain ⟨s₀, hsub₀, -⟩ := hover
      cases (hr₀.sound.fresh hjoining k).symm.trans hsub₀
    obtain ⟨s', hsub', hpair⟩ := exists_of_rel_some (hsub ▸ hbeside.subscription? k hne)
    have hlively := (hpair.twins_of_bystander hover hreceiving).lively hreceiving
    refine ⟨s', hsub', hlively.dropped_eq, hlike k ▸ hp.seen hne fun {s₁} hsub₁ => ?_⟩
    cases hsub.symm.trans hsub₁
    exact ⟨hover, hreceiving⟩

/-- One consumer has got the present state, which is empty, and another one is about to join. -/
def arrival : List (Action Nat) :=
  [.start (.register default ⟨1, "o"⟩), .resume 0,
    .ingest default .start, .ingest default (.answer (.ok ())),
    .start (.subscribe default none), .resume 1, .resume 1,
    .populate default ⟨1⟩ .start, .populate default ⟨1⟩ (.answer (.ok [])),
    .populate default ⟨1⟩ .next, .start (.subscribe default none), .resume 2]

/-- The first of its two items fills the queue of the second consumer. A live event finds the queue
full, the offer of the other item waits in vain, and the consumer leaves. -/
def visit : List (Action Nat) :=
  [.populate default ⟨2⟩ .start, .populate default ⟨2⟩ (.answer (.ok [7, 8])),
    .populate default ⟨2⟩ .next, .populate default ⟨2⟩ (.locate 5), .populate default ⟨2⟩ .record,
    .populate default ⟨2⟩ .offer,
    .send default (.added 1), .ingest default .take, .ingest default (.locate 9),
    .ingest default .record, .ingest default .emit, .receive default ⟨1⟩,
    .populate default ⟨2⟩ .next, .populate default ⟨2⟩ (.locate 5), .populate default ⟨2⟩ .record,
    .populate default ⟨2⟩ .offer,
    .send default (.added 2), .ingest default .take, .ingest default (.locate 9),
    .ingest default .record, .ingest default .emit,
    .start (.unsubscribe default ⟨2⟩), .resume 3, .resume 3, .receive default ⟨1⟩]

theorem undisturbed_of_visit :
    ∃ h₀ facts₀ h₁ told h facts₁ h' facts' s',
      (new { HubConfig.standard with queueCapacity := 1 }).run arrival = some (h₀, facts₀) ∧
      h₀.step (.resume 2) = some (h₁, told) ∧ .subscribed default ⟨2⟩ none ∈ told ∧
      h₁.run visit = some (h, facts₁) ∧ h.log.get? default =
        some (.retaining 1000 5 [.added 7, .added 1, .added 8, .added 2]) ∧
      (new { HubConfig.standard with queueCapacity := 1 }).play
        ((Guest.ofRun (arrival ++ .resume 2 :: visit) 2 ⟨2⟩).without 0
          (arrival ++ .resume 2 :: visit)) = some (h', facts') ∧
      h'.log.get? default = some (.retaining 1000 9 [.added 1, .added 2]) ∧
      h'.subscription? default ⟨1⟩ = some s' ∧ s'.dropped = 0 ∧
      SeenAlike ⟨False, True, [.added 7, .added 8]⟩
        [.versioned (.added 1) ⟨5, 2⟩, .versioned (.added 2) ⟨5, 4⟩]
        [.versioned (.added 1) ⟨9, 1⟩, .versioned (.added 2) ⟨9, 2⟩]
        [.event (.versioned (.added 1) ⟨5, 2⟩), .event (.versioned (.added 2) ⟨5, 4⟩)]
        [.event (.versioned (.added 1) ⟨9, 1⟩), .event (.versioned (.added 2) ⟨9, 2⟩)] := by
  have hbefore : (new { HubConfig.standard with queueCapacity := 1 }).run arrival = some (_, _) := rfl
  have hjoined : .subscribed default ⟨2⟩ none ∈
      ([.subscribed default ⟨2⟩ none, .returned 2 (.subscribed ⟨2⟩)] : List (Fact Nat)) :=
    List.mem_cons_self ..
  obtain ⟨h', facts', hplay, -, hseen, -⟩ :=
    @undisturbed_of_run Nat _ _ _ _ _ 2 ⟨2⟩ default none arrival visit _ _ hbefore rfl hjoined rfl
  have hplayed : (new { HubConfig.standard with queueCapacity := 1 }).play
      ((Guest.ofRun (arrival ++ .resume 2 :: visit) 2 ⟨2⟩).without 0
        (arrival ++ .resume 2 :: visit)) = some (_, _) := rfl
  cases hplay.symm.trans hplayed
  obtain ⟨s', hsub', hdropped, halike⟩ := hseen default ⟨1⟩ _ ⟨_, rfl, rfl⟩ rfl rfl
  exact ⟨_, _, _, _, _, _, _, _, s', hbefore, rfl, hjoined, rfl, rfl, hplayed, rfl, hsub', hdropped,
    halike.weaken ⟨False.elim, fun _ => trivial, List.Sublist.refl _⟩⟩

end Hub

end WatchHub
