import WatchHub.Proofs.Hub.Intake
import WatchHub.Proofs.Hub.Later
import WatchHub.Proofs.Hub.Listing
import WatchHub.Proofs.Hub.Order

/-!
# The chronicle of a key

Everything that is ever added to the log of a key, by writer: the ingest adds what it takes from its
stream or, if it gets none, the error; a snapshot adds the first ones of its items; and nobody else
adds anything, as long as the owner does not.
-/

namespace WatchHub

variable {P : Type}

namespace Fact

/-- What was added to the logs of a key, and by whom. -/
def append? (key : Key) : Fact P → Option (Writer × Entry P)
  | logged k writer _ event version => if k = key then some (writer, ⟨event, version⟩) else none
  | _ => none

/-- The part of what was added that is by one writer. -/
def part (writer : Writer) (appends : List (Writer × Entry P)) : List (Entry P) :=
  appends.filterMap fun a => if a.1 = writer then some a.2 else none

variable {key : Key} {facts : List (Fact P)}

lemma append?_eq_some {x : Fact P} {a : Writer × Entry P} (h : append? key x = some a) :
    ∃ id, x = .logged key a.1 id a.2.event a.2.version := by
  cases x with
  | logged k writer id event version =>
    simp only [append?, Option.ite_none_right_eq_some, Option.some.injEq] at h
    obtain ⟨rfl, rfl⟩ := h
    exact ⟨id, rfl⟩
  | _ => cases h

lemma mem_append {a : Writer × Entry P} :
    a ∈ facts.filterMap (append? key) ↔ ∃ id, .logged key a.1 id a.2.event a.2.version ∈ facts := by
  constructor
  · intro h
    obtain ⟨x, hx, hview⟩ := List.mem_filterMap.1 h
    obtain ⟨id, rfl⟩ := append?_eq_some hview
    exact ⟨id, hx⟩
  · rintro ⟨id, h⟩
    exact List.mem_filterMap.2 ⟨_, h, if_pos rfl⟩

/-- The part of the ingest is what it was seen to publish. -/
lemma part_ingest (key : Key) (facts : List (Fact P)) :
    (part .ingest (facts.filterMap (append? key))).map Entry.delivery =
      facts.filterMap (ingestion? key) := by
  rw [part, List.filterMap_filterMap, List.map_filterMap]
  refine List.filterMap_congr fun x _ => ?_
  cases x with
  | logged k writer id event version =>
    by_cases hk : k = key <;> cases writer <;> simp [append?, ingestion?, hk, Entry.delivery]
  | _ => rfl

/-- The part of a population is what it was seen to list. -/
lemma part_population (key : Key) (handle : Handle) (facts : List (Fact P)) :
    (part (.population handle) (facts.filterMap (append? key))).map Entry.event =
      facts.filterMap (listing? key handle) := by
  rw [part, List.filterMap_filterMap, List.map_filterMap]
  refine List.filterMap_congr fun x _ => ?_
  cases x with
  | logged k writer id event version =>
    by_cases hk : k = key <;> cases writer <;> simp [append?, listing?, hk]
  | _ => rfl

end Fact

namespace Subscription

/-- What becomes of a live event at a member, and of the member. -/
inductive Meets (s : Subscription P) (d : Delivery P) : Reception → Subscription P → Prop where
  /-- There is a free slot, and the event comes to the end of the queue. -/
  | accepted :
    s.queue.receiving = true → 0 < s.queue.free →
    Meets s d .accepted { s with queue := { s.queue with
      items := s.queue.items ++ [d], free := s.queue.free - 1 } }
  /-- The queue is full, and one more event counts as dropped. -/
  | overflowed :
    s.queue.receiving = true → s.queue.free = 0 →
    Meets s d (.overflowed (s.dropped + 1)) { s with dropped := s.dropped + 1 }
  /-- The consumer has let go of the queue. -/
  | gone : s.queue.receiving = false → Meets s d .gone s

lemma meets_live (s : Subscription P) (d : Delivery P) : s.Meets d (s.live d).1 (s.live d).2 := by
  rcases s.live_cases d with ⟨hr, hf, h⟩ | ⟨hr, hf, h⟩ | ⟨hr, h⟩ <;> rw [h]
  · exact .accepted hr hf
  · exact .overflowed hr hf
  · exact .gone hr

end Subscription

/-- The error with which the observer of a key answered instead of a stream. -/
def Action.refusal? (key : Key) : Action P → Option ObserverFailure
  | .ingest k (.answer (.failed failure)) => if k = key then some failure else none
  | _ => none

open WatchHub.Fact (append? part take? setupFailure? emission? ingestion? listing? record? reach?
  checkpoint?)

/-- If a key has one log, what was added for the key is what this log was given. -/
lemma EventLog.Undivided.appends_eq {facts : List (Fact P)} {l : EventLog P}
    (hu : l.Undivided facts) (hl : l.Ledger facts) {key : Key} {id : LogId}
    (hfind : l.find? key = some id) :
    (facts.filterMap (append? key)).map Prod.snd = facts.filterMap (record? id) := by
  rw [List.map_filterMap]
  refine List.filterMap_congr fun x hx => ?_
  cases x with
  | logged k writer i event version =>
    have hown := hl.logged hx
    by_cases hk : k = key
    · subst hk
      obtain rfl : id = i := Option.some.inj (hfind.symm.trans (hu _ _ hown))
      simp [append?, record?]
    · have hi : i ≠ id := by
        rintro rfl
        exact hk (hown.key_eq (hl.current hfind))
      simp [append?, record?, hk, hi]
  | _ => rfl

namespace Hub

variable {config : HubConfig} {actions : List (Action P)} {facts told : List (Fact P)} {h h' : Hub P}
  {action : Action P} {key : Key} {handle : Handle}

/-- What the owner is adding it was asked to add. -/
lemma Reached.locate_of_appending (hr : Reached config actions facts h) {a : Appending P}
    (ha : a ∈ h.appending) : ∃ epoch, .locate a.key epoch a.event ∈ actions := by
  induction hr with
  | new => cases ha
  | step hr hstep ih =>
    rcases (hr.sound.changes hstep).appending_cases ha with hold | ⟨epoch, rfl⟩
    · obtain ⟨epoch, h⟩ := ih hold
      exact ⟨epoch, List.mem_append_left _ h⟩
    · exact ⟨epoch, by simp⟩

/-- Only the owner adds as the owner. -/
lemma Reached.locate_of_owner (hr : Reached config actions facts h) {id : LogId}
    {event : Event P} {version : Version} (hmem : .logged key .owner id event version ∈ facts) :
    ∃ epoch, .locate key epoch event ∈ actions := by
  induction hr with
  | new => cases hmem
  | step hr hstep ih =>
    rcases List.mem_append.1 hmem with hmem | hmem
    · obtain ⟨epoch, h⟩ := ih hmem
      exact ⟨epoch, List.mem_append_left _ h⟩
    · obtain ⟨place, a, rfl, ha, heq⟩ := (hr.sound.changes hstep).told_by hmem
      cases heq
      obtain ⟨epoch, h⟩ := hr.locate_of_appending (List.mem_of_getElem? ha)
      exact ⟨epoch, List.mem_append_left _ h⟩

/-- The observer of a key failed where it said so and nowhere else. -/
lemma Changes.refusals (hs : h.Sound) (hc : Changes h action told h') (key : Key) :
    told.filterMap (setupFailure? key) = (action.refusal? key).toList := by
  by_cases hother : ∀ move, action ≠ .ingest key move
  · -- The other steps tell nothing of an intake at all.
    have hnone : action.refusal? key = none := by
      cases action with
      | ingest key₀ move =>
        have hkey : key₀ ≠ key := by
          rintro rfl
          exact hother move rfl
        cases move with
        | answer stream => cases stream <;> simp [Action.refusal?, hkey]
        | _ => rfl
      | _ => rfl
    rw [hnone]
    exact (Fact.Intakeless.of_not_isIntake (hc.not_isIntake hs hother)).failures
  · push Not at hother
    obtain ⟨move, rfl⟩ := hother
    cases hc with
    | @ingested _ _ r _ hr hi =>
      obtain rfl := hs.keyed hr
      cases hi with
      | answerFailed _ => simp [setupFailure?, Action.refusal?]
      | locate _ => exact Fact.filterMap_ofLocate rfl h.log
      | emit _ =>
        refine List.filterMap_eq_nil_iff.2 fun x hx => ?_
        rcases Audience.mem_emit hx with rfl | ⟨_, _, rfl⟩ <;> rfl
      | _ => rfl
    | aside _ _ _ _ _ _ hcall => cases hcall

lemma Reached.refusals (hr : Reached config actions facts h) (key : Key) :
    facts.filterMap (setupFailure? key) = actions.filterMap (Action.refusal? key) := by
  induction hr with
  | new => rfl
  | @step actions past h action h' told hr hstep ih =>
    rw [List.filterMap_append, List.filterMap_append, ih,
      (hr.sound.changes hstep).refusals hr.sound key]
    cases hsome : action.refusal? key <;> simp [hsome]

/-- A fan-out reaches every member, once, and leaves everybody else as it was. -/
lemma Reached.fanned_out (hr : Reached config actions facts h) {s : Subscription P}
    (hsub : h.subscription? key handle = some s) (hstep : h.step action = some (h', told))
    {d : Delivery P} (hd : .emitted key d ∈ told) :
    ∃ s', h'.subscription? key handle = some s' ∧
      if s.member then
        ∃ reception, told.filterMap (reach? key handle) = [(d, reception)] ∧ s.Meets d reception s'
      else told.filterMap (reach? key handle) = [] ∧ s' = s := by
  obtain ⟨s', hsub', hturn⟩ := (hr.sound.changes hstep).turn hr.sound hsub
  refine ⟨s', hsub', ?_⟩
  have hd' : .emitted key d ∈ told.filter (Fact.concerns key handle) :=
    List.mem_filter.2 ⟨hd, by simp [Fact.concerns]⟩
  rw [← Fact.reach?_concerns]
  generalize told.filter (Fact.concerns key handle) = about at hturn hd'
  cases hturn with
  | passed hm =>
    rw [if_neg (by simp [hm])]
    exact ⟨rfl, rfl⟩
  | @live d' hm =>
    obtain rfl : d = d' := by simpa using hd'
    rw [if_pos hm]
    exact ⟨(s.live d).1, by simp [reach?, List.filterMap_cons], s.meets_live d⟩
  | populated hp =>
    have hnone := List.filterMap_eq_nil_iff.1 hp.silent.emissions _ (List.mem_of_mem_filter hd')
    simp [emission?] at hnone
  | _ => simp at hd'

/-- A population adds the first ones of the items that it got for a subscription without a
checkpoint, and nothing for any other. -/
lemma Reached.listing_isPrefix (hr : Reached config actions facts h) (key : Key) (handle : Handle) :
    facts.filterMap (listing? key handle) = [] ∨
      (facts.filterMap (checkpoint? key handle) = [none] ∧
        ∃ items, actions.filterMap (Action.answer? key handle) = [items] ∧
          facts.filterMap (listing? key handle) <+: items.map Event.added) := by
  have hlists := hr.lists key handle
  unfold Lists at hlists
  split at hlists
  · obtain ⟨checkpoint, hcheckpoint, hstage⟩ := hlists
    rcases hstage.isPrefix with ⟨-, hnone⟩ | ⟨rfl, items, hitems, hprefix⟩
    · exact .inl hnone
    · exact .inr ⟨hcheckpoint, items, hitems, hprefix⟩
  · exact .inl hlists.2.2

lemma mem_checkpoint {checkpoint : Option Version} :
    checkpoint ∈ facts.filterMap (checkpoint? key handle) ↔
      .subscribed key handle checkpoint ∈ facts := by
  constructor
  · intro h
    obtain ⟨x, hx, hview⟩ := List.mem_filterMap.1 h
    cases x with
    | subscribed k handle' c =>
      simp only [checkpoint?, Option.ite_none_right_eq_some, Option.some.injEq] at hview
      obtain ⟨⟨rfl, rfl⟩, rfl⟩ := hview
      exact hx
    | _ => cases hview
  · exact fun h => List.mem_filterMap.2 ⟨_, h, if_pos ⟨rfl, rfl⟩⟩

/-- If a key has one log, this log holds what was added for the key, numbered from one. -/
lemma Reached.log_of_undivided (hr : Reached config actions facts h) (hu : h.log.Undivided facts)
    (key : Key) :
    match h.log.find? key with
    | some id => ∃ epoch events,
        (facts.filterMap (append? key)).map Prod.snd = numbered epoch events ∧
          h.log.logAt id = .retaining h.log.capacity epoch events
    | none => facts.filterMap (append? key) = [] := by
  have hledger := hr.booked.ledger
  cases hfind : h.log.find? key with
  | some id =>
    obtain ⟨epoch, events, -, hlog, hrecords⟩ := hledger.records (hledger.current hfind)
    exact ⟨epoch, events, (hu.appends_eq hledger hfind).trans hrecords, hlog⟩
  | none =>
    refine List.eq_nil_iff_forall_not_mem.2 fun a ha => ?_
    obtain ⟨id, hmem⟩ := Fact.mem_append.1 ha
    cases hfind.symm.trans (hu _ _ (hledger.logged hmem))

/-- What a snapshot has added, it added for a subscription without a checkpoint, item by item. -/
lemma Reached.part_population_cases (hr : Reached config actions facts h) (key : Key)
    (handle : Handle) :
    part (.population handle) (facts.filterMap (append? key)) = [] ∨
      ((∀ checkpoint, .subscribed key handle checkpoint ∈ facts ↔ checkpoint = none) ∧
        ∃ items, actions.filterMap (Action.answer? key handle) = [items] ∧
          (part (.population handle) (facts.filterMap (append? key))).map Entry.event <+:
            items.map Event.added) := by
  rw [Fact.part_population]
  rcases hr.listing_isPrefix key handle with hnone | ⟨hcheckpoint, hitems⟩
  · rw [← Fact.part_population, List.map_eq_nil_iff] at hnone
    exact .inl hnone
  · refine .inr ⟨fun checkpoint => ?_, hitems⟩
    rw [← mem_checkpoint, hcheckpoint, List.mem_singleton]

/-- Whoever adds to the log of a key is its ingest, its owner or a snapshot. -/
lemma Reached.writer_cases (hr : Reached config actions facts h) {a : Writer × Entry P}
    (ha : a ∈ facts.filterMap (append? key)) :
    a.1 = .ingest ∨ (∃ epoch, .locate key epoch a.2.event ∈ actions) ∨
      ∃ handle, a.1 = .population handle ∧ .subscribed key handle none ∈ facts := by
  obtain ⟨writer, entry⟩ := a
  obtain ⟨id, hmem⟩ := Fact.mem_append.1 ha
  cases writer with
  | ingest => exact .inl rfl
  | owner => exact .inr (.inl (hr.locate_of_owner hmem))
  | population handle =>
    refine .inr (.inr ⟨handle, rfl, ?_⟩)
    rcases hr.part_population_cases key handle with hnone | ⟨hcheckpoint, -⟩
    · have hpart : entry ∈ part (.population handle) (facts.filterMap (append? key)) :=
        List.mem_filterMap.2 ⟨_, ha, if_pos rfl⟩
      rw [hnone] at hpart
      cases hpart
    · exact (hcheckpoint none).2 rfl

/-- As long as nobody shuts the hub down, clears the logs or adds to them from outside, the log of a
key consists of what its ingest took and of the items of its snapshots; and what the ingest took it
fans out to all members, in the order in which it came. A member with a free slot has the event at the
end of its queue after the fan-out, and one without counts it as dropped. -/
theorem chronicle_of_run (hrun : (Hub.new config).run actions = some (h, facts))
    (hrunning : h.stopped = false) (hclear : .clear ∉ actions)
    (houtside : ∀ epoch event, .locate key epoch event ∉ actions) {r : Registration P}
    (hreg : h.registration? key = some r) :
    let appends := facts.filterMap (append? key)
    let taken := facts.filterMap (take? key)
    let failures := actions.filterMap (Action.refusal? key)
    (match h.log.find? key with
      | some id => ∃ epoch events, appends.map Prod.snd = numbered epoch events ∧
          h.log.logAt id = .retaining h.log.capacity epoch events
      | none => appends = []) ∧
    (∀ a ∈ appends, a.1 = .ingest ∨
      ∃ handle, a.1 = .population handle ∧ .subscribed key handle none ∈ facts) ∧
    -- the part of the ingest
    (part .ingest appends).map Entry.event ++ r.ingest.inHand =
      taken ++ failures.map (fun failure => .error failure.message) ∧
    taken <+: Action.stream key actions ∧
    (failures = [] ∨ (taken = [] ∧ ∃ failure, failures = [failure])) ∧
    facts.filterMap (emission? key) ++ r.ingest.onWay =
      (part .ingest appends).map Entry.delivery ∧
    (∀ past action future h₀ told₀ h₁ told d, actions = past ++ action :: future →
      (Hub.new config).run past = some (h₀, told₀) → h₀.step action = some (h₁, told) →
      .emitted key d ∈ told → ∀ handle s₀, h₀.subscription? key handle = some s₀ →
      ∃ s₁, h₁.subscription? key handle = some s₁ ∧
        if s₀.member then
          ∃ reception, told.filterMap (reach? key handle) = [(d, reception)] ∧
            s₀.Meets d reception s₁
        else told.filterMap (reach? key handle) = [] ∧ s₁ = s₀) ∧
    -- the parts of the snapshots
    (∀ handle, part (.population handle) appends = [] ∨
      ∃ items, actions.filterMap (Action.answer? key handle) = [items] ∧
        (part (.population handle) appends).map Entry.event <+: items.map Event.added) ∧
    ∀ handle v, .subscribed key handle (some v) ∈ facts →
      part (.population handle) appends = [] := by
  intro appends taken failures
  have hr : Reached config actions facts h := .of_run hrun
  have hu : h.log.Undivided facts := by
    refine hr.undivided hclear fun n hn => ?_
    cases hrunning.symm.trans (hr.stopped_of_told hn)
  have hintake : Intake actions facts key r.ingest := by
    rcases hr.intake hrunning key with ⟨hnone, -⟩ | ⟨i, hi, hintake⟩
    · simp [ingest?, hreg] at hnone
    · obtain rfl : r.ingest = i := by simpa [ingest?, hreg] using hi
      exact hintake
  obtain ⟨⟨hlogged, hemitted, hfailed, -⟩, htakes⟩ := hintake
  rw [hr.refusals] at hlogged hfailed
  rw [← Fact.part_ingest] at hlogged hemitted
  refine ⟨hr.log_of_undivided hu key, fun a ha => ?_, ?_, htakes.isPrefix, ?_, hemitted, ?_,
    fun handle => ?_, ?_⟩
  · rcases hr.writer_cases ha with hingest | ⟨epoch, howner⟩ | hpopulation
    · exact .inl hingest
    · exact absurd howner (houtside _ _)
    · exact .inr hpopulation
  · rw [List.map_map] at hlogged
    exact hlogged
  · rcases hfailed with hnone | ⟨hnone, -, hone⟩
    · exact .inl hnone
    · exact .inr ⟨hnone, hone⟩
  · intro past action future h₀ told₀ h₁ told d _ hpast hstep hd handle s₀ hsub₀
    exact (Reached.of_run hpast).fanned_out hsub₀ hstep hd
  · rcases hr.part_population_cases key handle with hnone | ⟨-, hitems⟩
    · exact .inl hnone
    · exact .inr hitems
  · intro handle v hv
    rcases hr.part_population_cases key handle with hnone | ⟨hcheckpoint, -⟩
    · exact hnone
    · cases (hcheckpoint _).1 hv

/-- A snapshot of two items and a stream of two events, added to the log in turns. -/
def turns : List (Action Nat) :=
  [.start (.register default ⟨1, "o"⟩), .resume 0,
    .ingest default .start, .ingest default (.answer (.ok ())),
    .start (.subscribe default none), .resume 1, .resume 1,
    .populate default ⟨1⟩ .start, .populate default ⟨1⟩ (.answer (.ok [1, 2])),
    .send default (.added 3), .send default (.modified 4),
    .populate default ⟨1⟩ .next, .populate default ⟨1⟩ (.locate 7), .ingest default .take,
    .ingest default (.locate 8), .populate default ⟨1⟩ .record, .ingest default .record,
    .ingest default .emit, .populate default ⟨1⟩ .offer,
    .ingest default .take, .ingest default (.locate 9), .ingest default .record,
    .populate default ⟨1⟩ .next, .populate default ⟨1⟩ (.locate 9),
    .populate default ⟨1⟩ .record]

theorem chronicle_of_turns :
    ∃ h facts r s, (new .standard).run turns = some (h, facts) ∧ h.stopped = false ∧
      .clear ∉ turns ∧ h.registration? default = some r ∧
      h.subscription? default ⟨1⟩ = some s ∧
      s.queue.items = [.versioned (.added 3) ⟨7, 2⟩, .versioned (.added 1) ⟨7, 1⟩] ∧
      (part .ingest (facts.filterMap (append? default))).map Entry.event ++ r.ingest.inHand =
        facts.filterMap (take? default) ∧
      facts.filterMap (take? default) = [.added 3, .modified 4] ∧
      Action.stream default turns = [.added 3, .modified 4] ∧
      r.ingest.onWay = [.versioned (.modified 4) ⟨7, 3⟩] := by
  have hrun : (new .standard).run turns = some (_, _) := rfl
  have hclear : Action.clear ∉ turns := by decide
  have houtside : ∀ epoch event, Action.locate default epoch event ∉ turns := by
    simp [turns]
  have hchronicle := @chronicle_of_run Nat _ _ _ _ default hrun rfl hclear houtside _ rfl
  obtain ⟨-, -, hlogged, -⟩ := hchronicle
  exact ⟨_, _, _, _, hrun, rfl, hclear, rfl, rfl, rfl, hlogged.trans (List.append_nil _), rfl, rfl,
    rfl⟩

end Hub

end WatchHub
