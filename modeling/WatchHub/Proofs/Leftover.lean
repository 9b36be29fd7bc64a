import WatchHub.Proofs.Hub.Dismissal
import WatchHub.Proofs.Hub.Halt
import WatchHub.Proofs.Hub.Ledger
import WatchHub.Proofs.Hub.Listing

/-!
# What is logged after an end

A population looks at whether its subscription is closed before it turns to an item, and adds the item to
the log by later steps. So a closed subscription adds at most the one item that its population had in
hand when it was closed. After a shutdown nothing is added to any log but such items, and what an ingest
takes that is still in the turn in the middle of which it was told to end (`leftover_of_closed`).
-/

namespace WatchHub

variable {P : Type}

open WatchHub.Fact (listing?)

namespace Population.Stage

/-- The item that a population is about to add to the log. -/
def inHand : Stage P → List (Event P)
  | locating event _ | recording _ event _ => [event]
  | _ => []

/-- Whether a population has still to look for the log of its item. -/
def isLocating : Stage P → Bool
  | locating _ _ => true
  | _ => false

end Population.Stage

/-- Whether a step is one by which the owner adds an event to a log. -/
def Action.isAppend : Action P → Bool
  | locate .. | record _ => true
  | _ => false

namespace Subscription

variable {key : Key} {handle : Handle} {log : EventLog P} {s : Subscription P}
  {move : Population.Move P} {out : Populated P}

/-- Once an offer has come to its end, no item is in hand. -/
lemma inHand_settle (s : Subscription P) (offer : Offer) (rest : Population.Rest P) :
    (s.settle offer rest).population.stage.inHand = [] ∧
      (s.settle offer rest).population.stage.isLocating = false := by
  cases rest <;> cases offer <;> exact ⟨rfl, rfl⟩

/-- A population whose subscription is closed takes no further item in hand. -/
lemma Populates.leftover (hp : Populates key handle log s move out) (hclosed : s.closed = true) :
    out.facts.filterMap (listing? key handle) ++ out.subscription.population.stage.inHand <+:
        s.population.stage.inHand ∧
      (out.subscription.population.stage.isLocating = true →
        s.population.stage.isLocating = true) := by
  cases hp with
  | startListing _ hopen | snapshotNext _ hopen => cases hclosed.symm.trans hopen
  | locate hstage =>
    rw [hstage, Fact.filterMap_ofLocate rfl]
    exact ⟨List.prefix_rfl, fun _ => rfl⟩
  | record hstage =>
    rw [hstage]
    refine ⟨?_, fun hlocating => by cases hlocating⟩
    simp [listing?, Population.Stage.inHand, moveTo]
  | offerRefused | offerAccepted | offerGone | fill | timeOut | giveUp =>
    simp only [inHand_settle, List.append_nil]
    exact ⟨List.nil_prefix, fun hlocating => by cases hlocating⟩
  | _ => exact ⟨List.nil_prefix, fun hlocating => by cases hlocating⟩

end Subscription

namespace Hub

variable {h h' : Hub P} {action : Action P} {told : List (Fact P)} {key : Key} {handle : Handle}
  {s : Subscription P}

/-- What a step makes of a subscription that was closed: it stays closed, and adds to the log at most
what its population had in hand. -/
lemma Sound.leftover (hs : h.Sound) (hstep : h.step action = some (h', told))
    (hsub : h.subscription? key handle = some s) (hclosed : s.closed = true) :
    ∃ s', h'.subscription? key handle = some s' ∧ s'.closed = true ∧
      told.filterMap (listing? key handle) ++ s'.population.stage.inHand <+:
        s.population.stage.inHand ∧
      (s'.population.stage.isLocating = true → s.population.stage.isLocating = true) := by
  obtain ⟨s', hsub', hturn⟩ := (hs.changes hstep).turn hs hsub
  refine ⟨s', hsub', hturn.closed_of hclosed, ?_⟩
  obtain ⟨s'', hsub'', hwork⟩ := hs.own_or_other hstep hsub
  cases hsub'.symm.trans hsub''
  rcases hwork with ⟨hpop, -, htold⟩ | ⟨move, out, -, rfl, hp, hpop⟩
  · have hlisted : told.filterMap (listing? key handle) = [] :=
      Fact.filterMap_of_kind (fun _ => Fact.isWork_of_listing?) htold
    rw [hlisted, hpop]
    exact ⟨List.prefix_rfl, id⟩
  · rw [hpop]
    exact hp.leftover hclosed

variable {config : HubConfig} {actions more : List (Action P)} {facts : List (Fact P)}

/-- A closed subscription adds at most what was in hand, whatever happens. -/
theorem Reached.leftover (hr : Reached config actions facts h)
    (hsub : h.subscription? key handle = some s) (hclosed : s.closed = true)
    (hrun : h.run more = some (h', told)) :
    ∃ s', h'.subscription? key handle = some s' ∧ s'.closed = true ∧
      told.filterMap (listing? key handle) ++ s'.population.stage.inHand <+:
        s.population.stage.inHand ∧
      (s'.population.stage.isLocating = true → s.population.stage.isLocating = true) := by
  induction more generalizing actions facts h told s with
  | nil =>
    cases hrun
    exact ⟨s, hsub, hclosed, List.prefix_rfl, id⟩
  | cons action more ih =>
    obtain ⟨h₁, told₁, told₂, hstep, hrest, rfl⟩ := run_cons hrun
    obtain ⟨s₁, hsub₁, hclosed₁, hlisted₁, hlocating₁⟩ := hr.sound.leftover hstep hsub hclosed
    obtain ⟨s₂, hsub₂, hclosed₂, hlisted₂, hlocating₂⟩ := ih (hr.step hstep) hsub₁ hclosed₁ hrest
    refine ⟨s₂, hsub₂, hclosed₂, ?_, fun hl => hlocating₁ (hlocating₂ hl)⟩
    rw [List.filterMap_append, List.append_assoc]
    exact ((List.prefix_append_right_inj _).2 hlisted₂).trans hlisted₁

/-- A hub that was stopped and in which everything is down. -/
structure Over (h : Hub P) : Prop where
  stopped : h.stopped = true
  down : ∀ {key r}, h.registration? key = some r → r.IsDown

/-- Everything stays down. -/
lemma Over.step (ho : h.Over) (hs : h.Sound) (hstep : h.step action = some (h', told)) :
    h'.Over where
  stopped := (Follows.of_step hstep).stopped ho.stopped
  down {key r'} hr' := by
    cases hr : h.registration? key with
    | some r =>
      obtain ⟨r'', hr'', hages⟩ := hs.ages hstep hr
      cases hr'.symm.trans hr''
      exact (ho.down hr).ages hages (hs.allClosed ho.stopped hstep hr hr')
    | none =>
      rcases hs.unregistered hstep hr with hnone | ⟨_, _, -, hrunning, -⟩
      · cases hnone.symm.trans hr'
      · cases hrunning.symm.trans ho.stopped

/-- Where everything is down, every subscription is closed. -/
lemma Over.closed (ho : h.Over) (hsub : h.subscription? key handle = some s) : s.closed = true := by
  obtain ⟨r, hreg, hget⟩ := exists_registration hsub
  exact (ho.down hreg).closed handle s hget

/-- Whoever opens a log is an ingest, a population or the owner. -/
lemma Changes.opened_by (hc : Changes h action told h') (hs : h.Sound) {epoch : UInt64}
    (hx : .opened key epoch ∈ told) :
    (∃ r epoch out, h.registration? key = some r ∧ r.Ingests h.stopped h.log (.locate epoch) out) ∨
      (∃ key' handle move s out, h.subscription? key' handle = some s ∧
        s.Populates key' handle h.log move out ∧ .opened key epoch ∈ out.facts) ∨
      ∃ key epoch event, action = .locate key epoch event := by
  cases hc with
  | aside _ _ _ hasides => cases (hasides _ hx).1
  | joined => cases isMembership_joined hx
  | left => cases isMembership_left hx
  | closed => cases Audience.isMembership_closeAll hx
  | @ingested key₀ move r out hr hi =>
    have hkey : key = r.key := Option.some.inj (hi.key?_of_mem hx)
    cases (hs.keyed hr).symm.trans hkey.symm
    cases hi with
    | @locate _ _ epoch₀ hstage => exact .inl ⟨r, epoch₀, _, hr, .locate hstage⟩
    | emit => rcases Audience.mem_emit hx with hx | ⟨_, _, hx⟩ <;> cases hx
    | _ => simp at hx
  | populated hr hget hp =>
    exact .inr (.inl ⟨_, _, _, _, _, (subscription?_of_registration? hr _).trans hget, hp, hx⟩)
  | located => exact .inr (.inr ⟨_, _, _, rfl⟩)
  | _ => simp at hx

/-- What a population adds to the log it had in hand, and a log that it opens it had to look for. -/
lemma written_of_populates {key' : Key} {log : EventLog P} {move : Population.Move P}
    {out : Populated P} (hp : s.Populates key' handle log move out) :
    (∀ writer id event version, .logged key writer id event version ∈ out.facts →
      writer = .population handle ∧ key' = key ∧ event ∈ s.population.stage.inHand) ∧
    ∀ epoch, .opened key epoch ∈ out.facts →
      key' = key ∧ s.population.stage.isLocating = true := by
  cases hp with
  | locate hstage =>
    refine ⟨fun writer id event version hx => ?_, fun epoch hx => ?_⟩
    · cases Fact.mem_ofLocate hx
    · cases Fact.mem_ofLocate hx
      rw [hstage]
      exact ⟨rfl, rfl⟩
  | record hstage =>
    refine ⟨fun writer id event version hx => ?_, fun epoch hx => ?_⟩
    · cases List.mem_singleton.1 hx
      rw [hstage]
      exact ⟨rfl, rfl, List.mem_singleton.2 rfl⟩
    · cases List.mem_singleton.1 hx
  | _ => exact ⟨by simp, by simp⟩

/-- Where everything is down, only the owner, ingests that linger and populations write: these add what
they have in hand, and open a log only if they have still to look for it. -/
lemma Over.written (ho : h.Over) (hr : Reached config actions facts h)
    (hstep : h.step action = some (h', told)) (howner : action.isAppend = false) :
    (∀ key writer id event version, .logged key writer id event version ∈ told →
      (writer = .ingest ∧ h.Lingers key) ∨
        ∃ handle s, writer = .population handle ∧ h.subscription? key handle = some s ∧
          event ∈ s.population.stage.inHand) ∧
    ∀ key epoch, .opened key epoch ∈ told →
      h.Lingers key ∨ ∃ handle s, h.subscription? key handle = some s ∧
        s.population.stage.isLocating = true := by
  have hchanges := hr.sound.changes hstep
  have hlingers : ∀ {key move r out}, h.registration? key = some r →
      r.Ingests h.stopped h.log move out → move ≠ .drop → h.Lingers key := fun hreg hi hmove =>
    ⟨_, hreg, hi.lingers hmove (hr.isCaught hreg) (ho.down hreg).dismissed⟩
  refine ⟨fun key writer id event version hx => ?_, fun key epoch hx => ?_⟩
  · have hby := hchanges.told_by hx
    cases writer with
    | ingest =>
      obtain ⟨key', move, r, out, -, rfl, hreg, hi⟩ := hby
      have hkey : key = r.key := Option.some.inj (hi.key?_of_mem hx)
      cases (hr.sound.keyed hreg).symm.trans hkey.symm
      refine .inl ⟨rfl, hlingers hreg hi ?_⟩
      rintro rfl
      cases hi
      cases hx
    | owner =>
      obtain ⟨place, a, rfl, -⟩ := hby
      cases howner
    | population handle =>
      obtain ⟨key', handle', move, r, s, out, -, rfl, hreg, hget, hp⟩ := hby
      obtain ⟨hwriter, rfl, hmem⟩ := (written_of_populates hp).1 _ _ _ _ hx
      cases hwriter
      exact .inr ⟨handle, s, rfl, (subscription?_of_registration? hreg _).trans hget, hmem⟩
  · rcases hchanges.opened_by hr.sound hx with ⟨r, epoch, out, hreg, hi⟩ |
      ⟨key', handle, _, s, _, hsub, hp, hx⟩ | ⟨key', epoch', event, rfl⟩
    · exact .inl (hlingers hreg hi nofun)
    · obtain ⟨rfl, hlocating⟩ := (written_of_populates hp).2 _ hx
      exact .inr ⟨handle, s, hsub, hlocating⟩
    · cases howner

/-- A key without a log has none until somebody tells that it was opened. -/
lemma find?_of_writes {wiped : Prop} {facts : List (Fact P)} {l l' : EventLog P}
    (hw : l.Writes wiped facts told l') (hnone : l.find? key = none)
    (hopened : ∀ epoch, .opened key epoch ∉ told) : l'.find? key = none := by
  have hlocate : ∀ {key' epoch}, (∀ epoch', .opened key epoch' ∉ Fact.ofLocate l key' epoch) →
      (l.locate key' epoch).2.find? key = none := by
    intro key' epoch hquiet
    rw [EventLog.find?_locate]
    split
    · rename_i heq
      subst heq
      exact absurd (by simp [Fact.ofLocate, hnone]) (hquiet epoch)
    · exact hnone
  cases hw with
  | idle => exact hnone
  | located key' epoch => exact hlocate hopened
  | recorded => exact hnone
  | cleared => rfl

/-- What is added to the logs after everything went down. -/
theorem Over.leftover (ho : h.Over) (hr : Reached config actions facts h)
    (hrun : h.run more = some (h', told)) (howner : ∀ action ∈ more, action.isAppend = false) :
    (∀ key writer id event version, .logged key writer id event version ∈ told →
      (writer = .ingest ∧ h.Lingers key) ∨
        ∃ handle s, writer = .population handle ∧ h.subscription? key handle = some s ∧
          event ∈ s.population.stage.inHand) ∧
    ∀ key, h.log.find? key = none → ¬ h.Lingers key →
      (∀ handle s, h.subscription? key handle = some s →
        s.population.stage.isLocating = false) → h'.log.find? key = none := by
  induction more generalizing actions facts h told with
  | nil =>
    cases hrun
    exact ⟨fun _ _ _ _ _ hx => absurd hx List.not_mem_nil, fun _ hnone _ _ => hnone⟩
  | cons action more ih =>
    obtain ⟨h₁, told₁, told₂, hstep, hrest, rfl⟩ := run_cons hrun
    obtain ⟨hlogged, hopened⟩ := ho.written hr hstep (howner action (List.mem_cons_self ..))
    obtain ⟨hlogged', hnone'⟩ := ih (ho.step hr.sound hstep) (hr.step hstep) hrest
      fun action hmem => howner action (List.mem_cons_of_mem _ hmem)
    have hlingered : ∀ {key}, h₁.Lingers key → h.Lingers key :=
      hr.lingers_before ho.stopped (fun _ _ hreg => (ho.down hreg).dismissed) hstep
    -- A subscription that is there after the step was there before, and held what it holds.
    have hback : ∀ {key handle s₁}, h₁.subscription? key handle = some s₁ →
        ∃ s, h.subscription? key handle = some s ∧
          (∀ event ∈ s₁.population.stage.inHand, event ∈ s.population.stage.inHand) ∧
          (s₁.population.stage.isLocating = true → s.population.stage.isLocating = true) := by
      intro key handle s₁ hsub₁
      cases hsub : h.subscription? key handle with
      | some s =>
        obtain ⟨s', hsub', -, hlisted, hlocating⟩ := hr.sound.leftover hstep hsub (ho.closed hsub)
        cases hsub₁.symm.trans hsub'
        exact ⟨s, rfl, fun event hx => hlisted.subset (List.mem_append_right _ hx), hlocating⟩
      | none =>
        rcases (hr.sound.changes hstep).absent hsub with hnone | ⟨before, checkpoint, after, htold⟩
        · cases hnone.symm.trans hsub₁
        · obtain ⟨hrunning, -⟩ := (hr.sound.changes hstep).subscribed hr.sound htold
          cases hrunning.symm.trans ho.stopped
    refine ⟨fun key writer id event version hx => ?_, fun key hnone hidle hsubs => ?_⟩
    · rcases List.mem_append.1 hx with hx | hx
      · exact hlogged key writer id event version hx
      · refine (hlogged' key writer id event version hx).imp (fun h => ⟨h.1, hlingered h.2⟩) ?_
        rintro ⟨handle, s₁, hwriter, hsub₁, hmem⟩
        obtain ⟨s, hsub, hinHand, -⟩ := hback hsub₁
        exact ⟨handle, s, hwriter, hsub, hinHand event hmem⟩
    · have hwrites := hr.booked.writes hr.sound (hr.sound.changes hstep)
      refine hnone' key (find?_of_writes hwrites hnone fun epoch hx => ?_)
        (fun hlingers => hidle (hlingered hlingers)) fun handle s₁ hsub₁ => ?_
      · rcases hopened key epoch hx with hlingers | ⟨handle, s, hsub, hlocating⟩
        · exact hidle hlingers
        · cases (hsubs handle s hsub).symm.trans hlocating
      · obtain ⟨s, hsub, -, hlocating⟩ := hback hsub₁
        exact eq_false_of_ne_true fun hl => by
          cases (hsubs handle s hsub).symm.trans (hlocating hl)

/-- A shutdown that comes to its end leaves every key without a log. -/
lemma Changes.cleared_of_told (hc : Changes h action told h') {n : Nat} (hn : .stopped n ∈ told) :
    h'.log = h.log.clear := by
  cases hc with
  | aside _ _ _ hasides => exact absurd rfl ((hasides _ hn).2 n)
  | joined => cases isMembership_joined hn
  | left => cases isMembership_left hn
  | closed => cases Audience.isMembership_closeAll hn
  | stopped _ hlog => exact hlog
  | ingested _ hi => cases hi.key?_of_mem hn
  | populated _ _ hp => cases hp.key?_of_mem hn
  | located => cases Fact.mem_ofLocate hn
  | _ => simp at hn

/-- From the moment a subscription is closed, its population adds at most the item that it had in hand.
Once the last shutdown has ended, nothing is added to any log, unless the owner adds it, but such items
and the events of ingests that are still in the turn in the middle of which they were told to end; so a
key stays without entries if it has no such ingest and no population had still to look for its log. -/
theorem leftover_of_closed (hrun : (Hub.new config).run actions = some (h, facts)) :
    (∀ key handle s, h.subscription? key handle = some s → s.closed = true →
      ∀ more h' told, h.run more = some (h', told) →
        told.filterMap (listing? key handle) <+: s.population.stage.inHand) ∧
    ∀ action h' told n, h.step action = some (h', told) → .stopped n ∈ told →
      (∀ id call, h'.calls.get? id = some call → call.isStopping = false) →
      ∀ more h'' later, h'.run more = some (h'', later) →
        (∀ action ∈ more, action.isAppend = false) →
        (∀ key writer id event version, .logged key writer id event version ∈ later →
          (writer = .ingest ∧ h'.Lingers key) ∨
            ∃ handle s, writer = .population handle ∧ h'.subscription? key handle = some s ∧
              event ∈ s.population.stage.inHand) ∧
        h'.Ebbs ∧
        ∀ key, ¬ h'.Lingers key → (∀ handle s, h'.subscription? key handle = some s →
            s.population.stage.isLocating = false) →
          h''.log.length key = 0 ∧ h''.log.latest? key = none := by
  have hr : Reached config actions facts h := .of_run hrun
  refine ⟨fun key handle s hsub hclosed more h' told hmore => ?_,
    fun action h' told n hstep hn hidle more h'' later hlater howner => ?_⟩
  · obtain ⟨s', -, -, hlisted, -⟩ := hr.leftover hsub hclosed hmore
    exact (List.prefix_append _ _).trans hlisted
  · have hr' := hr.step hstep
    have hstopped : h'.stopped = true := hr'.stopped_of_told (List.mem_append_right facts hn)
    have hover : h'.Over := ⟨hstopped, hr'.isDown hstopped hidle⟩
    obtain ⟨hlogged, hnone⟩ := hover.leftover hr' hlater howner
    refine ⟨hlogged, hr'.ebbs hstopped fun _ _ hreg => (hover.down hreg).dismissed,
      fun key hlingers hlocating => ?_⟩
    have hempty : h'.log.find? key = none := by
      rw [(hr.sound.changes hstep).cleared_of_told hn]
      rfl
    simp [EventLog.length, EventLog.latest?, EventLog.get?, hnone key hempty hlingers hlocating]

/-- The population of a subscription has got an item. -/
def handed : List (Action Nat) :=
  [.start (.register default ⟨1, "o"⟩), .resume 0, .ingest default .start,
    .start (.subscribe default none), .resume 1, .resume 1,
    .populate default ⟨1⟩ .start, .populate default ⟨1⟩ (.answer (.ok [1, 2])),
    .populate default ⟨1⟩ .next]

/-- The hub is shut down; the ingest is about to stop. -/
def shutDown : List (Action Nat) :=
  [.start .shutdown, .resume 2, .ingest default .stop, .resume 2, .resume 2, .resume 2]

/-- The population adds the item that it has in hand. -/
def addItem : List (Action Nat) :=
  [.populate default ⟨1⟩ (.locate 7), .populate default ⟨1⟩ .record]

theorem leftover_of_handed :
    ∃ h facts h' s h'' later, (new .standard).run (handed ++ shutDown) = some (h, facts) ∧
      h.step (.resume 2) = some (h', [.stopped 1, .returned 2 .stopped]) ∧
      h'.subscription? default ⟨1⟩ = some s ∧ s.closed = true ∧
      s.population.stage.inHand = [.added 1] ∧ h'.run addItem = some (h'', later) ∧
      later.filterMap (listing? default ⟨1⟩) <+: [.added 1] ∧
      (∀ key writer id event version, .logged key writer id event version ∈ later →
        (writer = .ingest ∧ h'.Lingers key) ∨
          ∃ handle s, writer = .population handle ∧ h'.subscription? key handle = some s ∧
            event ∈ s.population.stage.inHand) ∧
      h'.Ebbs ∧ h''.log.length ⟨"g", "v1", "r", "s", "n"⟩ = 0 := by
  have hall : (new .standard).run (handed ++ shutDown ++ [.resume 2]) = some (_, _) := rfl
  obtain ⟨hclosed, -⟩ := leftover_of_closed hall
  have hlisted := hclosed default ⟨1⟩ _ rfl rfl addItem _ _ rfl
  obtain ⟨h, facts, h', s, h'', later, hrun, hstep, hsub, hends, hhand, hmore, hidle, hother, hlater⟩ :
      ∃ h facts h' s h'' later, (new .standard).run (handed ++ shutDown) = some (h, facts) ∧
        h.step (.resume 2) = some (h', [.stopped 1, .returned 2 .stopped]) ∧
        h'.subscription? default ⟨1⟩ = some s ∧ s.closed = true ∧
        s.population.stage.inHand = [.added 1] ∧ h'.run addItem = some (h'', later) ∧
        h'.calls = .empty ∧ h'.registration? ⟨"g", "v1", "r", "s", "n"⟩ = none ∧
        later.filterMap (listing? default ⟨1⟩) <+: [.added 1] :=
    ⟨_, _, _, _, _, _, rfl, rfl, rfl, rfl, rfl, rfl, rfl, rfl, hlisted⟩
  have howner : ∀ action ∈ addItem, action.isAppend = false := by
    simp [addItem, Action.isAppend]
  obtain ⟨-, hended⟩ := leftover_of_closed hrun
  obtain ⟨hlogged, hebbs, hempty⟩ := hended (.resume 2) h' _ 1 hstep (List.mem_cons_self ..)
    (fun id call hcall => by rw [hidle] at hcall; cases hcall) addItem h'' later hmore howner
  obtain ⟨hnone, -⟩ := hempty ⟨"g", "v1", "r", "s", "n"⟩
    (fun ⟨r, hreg, _⟩ => by cases hother.symm.trans hreg)
    fun handle s hsub => by simp [subscription?, hother] at hsub
  exact ⟨h, facts, h', s, h'', later, hrun, hstep, hsub, hends, hhand, hmore, hlater, hlogged, hebbs,
    hnone⟩

/-- The hub is shut down while the ingest is in the middle of a turn. -/
def cutShort : List (Action Nat) :=
  [.start (.register default ⟨1, "o"⟩), .resume 0, .ingest default .start,
    .ingest default (.answer (.ok ())), .send default (.added 3), .ingest default .take,
    .start .shutdown, .resume 1]

/-- A consumer leaves, or the hub is shut down, while an item is in hand: the item is logged after that,
and the log of its key is opened again after it was cleared. So is the log of a key whose ingest was told
to end in the middle of a turn. -/
theorem logged_after_end :
    (∃ h facts s h' told, (new .standard).run
        (handed ++ [.start (.unsubscribe default ⟨1⟩), .resume 2, .resume 2]) = some (h, facts) ∧
      h.subscription? default ⟨1⟩ = some s ∧ s.closed = true ∧ h.run addItem = some (h', told) ∧
      told.filterMap (listing? default ⟨1⟩) = [.added 1]) ∧
    (∃ h facts h' h'', (new .standard).run (handed ++ shutDown) = some (h, facts) ∧
      h.step (.resume 2) = some (h', [.stopped 1, .returned 2 .stopped]) ∧
      h'.log.length default = 0 ∧ h'.run addItem = some (h'', [.opened default 7,
        .logged default (.population ⟨1⟩) 0 (.added 1) ⟨7, 1⟩]) ∧
      h''.log.length default = 1 ∧ h''.log.latest? default = some ⟨7, 1⟩) ∧
    ∃ h facts h₁ told₁ h' h'', (new .standard).run cutShort = some (h, facts) ∧
      h.run [.expire 1 1, .resume 1] = some (h₁, told₁) ∧
      h₁.step (.resume 1) = some (h', [.stopped 1,
        .returned 1 (.failed (.graceExceeded HubConfig.standard.grace [default]))]) ∧
      h'.log.length default = 0 ∧
      h'.run [.ingest default (.locate 7), .ingest default .record] = some (h'',
        [.opened default 7, .logged default .ingest 0 (.added 3) ⟨7, 1⟩]) ∧
      h''.log.length default = 1 := by
  refine ⟨⟨_, _, _, _, _, rfl, rfl, rfl, rfl, rfl⟩, ⟨_, _, _, _, rfl, rfl, rfl, rfl, rfl, rfl⟩, ?_⟩
  exact ⟨_, _, _, _, _, _, rfl, run_of_step (expire_singleton 1 rfl rfl) (run_singleton rfl), rfl, rfl,
    rfl, rfl⟩

end Hub

end WatchHub
