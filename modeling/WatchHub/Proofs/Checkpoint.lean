import WatchHub.Proofs.Hub.Lineage
import WatchHub.Proofs.Resume

/-!
# Leaving and coming back

A consumer leaves a subscription and opens another one after a version that it has received. The new
one gets what was logged after this version and what is fanned out from then on. So it gets what the
old one had still to come, except for what was logged before the version and overtaken by it, and for
what was not logged at all: a population adds no further item once its subscription is closed, and an
error is in no log. A consumer that had caught up once, and has received the version since, misses
nothing.
-/

namespace WatchHub

variable {P : Type}

namespace Fact

/-- The deliveries of one population whose offer timed out. -/
def overdue? (key : Key) (handle : Handle) : Fact P → Option (Delivery P)
  | offered k h d .timedOut => if k = key ∧ h = handle then some d else none
  | _ => none

end Fact

open WatchHub.Fact (Known Owns opening? record? emission? acceptance? delivery? receipt? overdue?)
open EventLog (Apart Earlier)

namespace Subscription

variable {key : Key} {handle : Handle} {s s' : Subscription P} {told : List (Fact P)}

lemma Turns.gathers (h : Turns key handle s told s') : ∃ fed, Gathers key handle s told s' fed := by
  induction h with
  | nil => exact ⟨[], .refl _⟩
  | cons hturn _ ih =>
    obtain ⟨fed, hg⟩ := hturn.gathers
    obtain ⟨fed', hg'⟩ := ih
    exact ⟨fed ++ fed', hg.trans hg'⟩

lemma Turns.accepted_sublist (h : Turns key handle s told s') :
    (told.filterMap (acceptance? key handle)).Sublist (told.filterMap (emission? key)) := by
  induction h with
  | nil => exact .slnil
  | cons hturn _ ih =>
    rw [List.filterMap_append, List.filterMap_append]
    exact (hturn.accepted_sublist.trans hturn.reached_sublist).append ih

end Subscription

namespace Hub

variable {config : HubConfig} {actions : List (Action P)} {facts told : List (Fact P)} {h h' : Hub P}
  {key : Key} {handle : Handle} {s : Subscription P} {v : Version} {entries : List (Entry P)}

/-- What a subscription has still to come at some moment: what is in its queue or with its population,
the items that its population adds to the log later, and the live events that come later. -/
inductive Outstanding (h : Hub P) (added live : List (Fact P)) (key : Key) (handle : Handle) :
    Delivery P → Prop where
  | queued {d s} :
    h.subscription? key handle = some s → d ∈ s.queue.items → Outstanding h added live key handle d
  | carried {d s} :
    h.subscription? key handle = some s → d ∈ s.population.stage.cargo →
    Outstanding h added live key handle d
  | listed {id event version} :
    .logged key (.population handle) id event version ∈ added →
    Outstanding h added live key handle (.versioned event version)
  | live {d} : .emitted key d ∈ live → Outstanding h added live key handle d

/-- What a subscription is to get that is opened after a version: what is fanned out since, and what is
known to have been added after the version to its log. -/
def Regains (known since : List (Fact P)) (key : Key) (v : Version) (d : Delivery P) : Prop :=
  .emitted key d ∈ since ∨ ∃ writer id w, d.version = some w ∧
    .logged key writer id d.event w ∈ known ∧ w.epoch = v.epoch ∧ v.seq < w.seq

/-- The logs of a key are told apart by their epochs, also after a wipe. -/
lemma Reached.apart_of_wiped (hr : Reached config actions facts h)
    (hwiped : (.clear ∈ actions ∨ ∃ n, .stopped n ∈ facts) → Apart facts key) : Apart facts key := by
  by_cases hclear : .clear ∈ actions
  · exact hwiped (.inl hclear)
  · exact hr.apart hclear fun n hn => hwiped (.inr ⟨n, hn⟩)

/-- A replay reads what was added after its checkpoint to the log of the checkpoint. -/
lemma Reached.mem_read_iff (hr : Reached config actions facts h) (hapart : Apart facts key)
    {past after : List (Fact P)}
    (hfacts : facts = past ++ .historyRead key handle v entries :: after) {d : Delivery P} :
    d ∈ entries.map Entry.delivery ↔
      ∃ writer id w, d.version = some w ∧ .logged key writer id d.event w ∈ past ∧
        w.epoch = v.epoch ∧ v.seq < w.seq := by
  obtain ⟨_, h₀, id, events, hr₀, -, -, hid, hrecords, -, -, rfl⟩ := hr.historyRead hfacts
  constructor
  · intro hd
    obtain ⟨e, he, rfl⟩ := List.mem_map.1 hd
    obtain ⟨hmem, hseq⟩ := mem_drop_numbered.1 he
    obtain ⟨writer, hlogged⟩ := hr₀.booked.ledger.logged_of_record ⟨_, hid⟩ (hrecords ▸ hmem)
    exact ⟨writer, id, e.version, rfl, hlogged, (mem_numbered.1 hmem).1, hseq⟩
  · rintro ⟨writer, id', w, hw, hlogged, hepoch, hseq⟩
    obtain ⟨hopening, hrecord⟩ := hr₀.booked.ledger.logged_at hlogged
    -- The log with the epoch of the checkpoint is the one that is read.
    have hlog : id' = id := by
      rw [hepoch] at hopening
      apply hapart id' id v.epoch
      · rw [hfacts]
        exact Fact.opening?_append hopening _
      · rw [hfacts]
        exact Fact.opening?_append hid _
    subst hlog
    rw [hrecords] at hrecord
    refine List.mem_map.2 ⟨⟨d.event, w⟩, mem_drop_numbered.2 ⟨hrecord, hseq⟩, ?_⟩
    obtain ⟨event, version⟩ := d
    cases hw
    rfl

/-- What comes live after an event with the version, and before the subscription is inserted, was added
to the log of the version, and after it. -/
lemma Reached.logged_after (hr : Reached config actions facts h) (hapart : Apart facts key)
    {before since between after : List (Fact P)} {checkpoint : Option Version}
    (hfacts : facts = before ++ .subscribed key handle checkpoint :: since)
    (hread : since = between ++ .historyRead key handle v entries :: after) {d₀ d : Delivery P}
    (hsub : [d₀, d].Sublist (facts.filterMap (emission? key))) (hv : d₀.version = some v)
    (hd : .emitted key d ∈ before) :
    ∃ writer id w, d.version = some w ∧ .logged key writer id d.event w ∈ before ++ between ∧
      w.epoch = v.epoch ∧ v.seq < w.seq := by
  obtain ⟨a, b, hearlier, rfl, rfl, ha, hb⟩ := hr.earlier_of_emission hsub
  cases hv
  have hsplit : facts = (before ++ .subscribed key handle checkpoint :: between) ++
      .historyRead key handle a.2.version entries :: after := by
    rw [hfacts, hread]
    simp
  obtain ⟨_, h₀, id, events, hr₀, -, ⟨s₀, hsub₀, hstage⟩, hid, -, -, -, -⟩ := hr.historyRead hsplit
  -- The event with the checkpoint is in the log that is read.
  have ha' : a.1 = id := by
    apply hapart a.1 id a.2.version.epoch (hr.booked.ledger.logged_at ha).1
    rw [hsplit]
    exact Fact.opening?_append hid _
  -- The other one is in a log that was there before the insertion, so in none that is newer.
  obtain ⟨_, past, h₁, hr₁, -, hpast, -, hkept⟩ := hr.insertion hfacts
  obtain ⟨id', event, w, heq, hlogged⟩ := hr₁.published.logged (hkept _ hd (.inr rfl))
  obtain ⟨rfl, hw⟩ := Delivery.mk.inj heq
  cases hw
  have hlogged' : .logged key .ingest id' b.2.event b.2.version ∈ facts := by
    rw [hfacts]
    exact List.mem_append_left _ (hpast.subset hlogged)
  obtain rfl : id' = b.1 := hapart id' b.1 b.2.version.epoch
    (hr.booked.ledger.logged_at hlogged').1 (hr.booked.ledger.logged_at hb).1
  have hown : Owns before key b.1 := by
    obtain ⟨rest, rfl⟩ := hpast
    exact (hr₁.booked.ledger.logged hlogged).append rest
  have hpop₀ : h₀.population? key handle = some s₀.population :=
    congrArg (Option.map Subscription.population) hsub₀
  have hle : b.1 ≤ id := hr₀.le_of_reading rfl hpop₀ hstage hown
  rcases hearlier with hlt | ⟨-, hepoch, hseq⟩
  · exact absurd (ha' ▸ hlt) (Nat.not_lt.2 hle)
  · exact ⟨.ingest, b.1, b.2.version, rfl, List.mem_append_left _ (hpast.subset hlogged),
      hepoch.symm, hseq⟩

/-- What comes live after an event with the version is regained: if it comes before the subscription is
inserted, it was added to the log of the version, and after it. -/
lemma Reached.regains_of_emission (hr : Reached config actions facts h) (hapart : Apart facts key)
    {before since between after : List (Fact P)} {checkpoint : Option Version}
    (hfacts : facts = before ++ .subscribed key handle checkpoint :: since)
    (hread : since = between ++ .historyRead key handle v entries :: after) {d₀ d : Delivery P}
    (hsub : [d₀, d].Sublist (facts.filterMap (emission? key))) (hv : d₀.version = some v) :
    Regains (before ++ between) since key v d := by
  have hemitted : .emitted key d ∈ facts := Fact.mem_emission.1 (hsub.subset (by simp))
  rw [hfacts, List.mem_append, List.mem_cons] at hemitted
  rcases hemitted with hd | hd | hd
  · exact .inr (hr.logged_after hapart hfacts hread hsub hv hd)
  · cases hd
  · exact .inl hd

/-- A population that has finished adds nothing more to the log. -/
lemma Reached.not_logged_of_finished (hr : Reached config actions facts h) {p : Population P}
    (hpop : h.population? key handle = some p) (hfinished : p.isFinished = true)
    {more : List (Action P)} (hrun : h.run more = some (h', told)) (id : LogId) (event : Event P)
    (w : Version) : .logged key (.population handle) id event w ∉ told := by
  intro hmem
  obtain ⟨-, hidle⟩ := hr.finished_rests hpop hfinished hrun
  have hwork := hidle _ hmem
  simp [Fact.isWork] at hwork

/-- What a population that has finished, and whose queue was empty, leaves in the queue comes live
after what was received meanwhile. -/
lemma Reached.caught_up (hr : Reached config actions facts h) (hsub : h.subscription? key handle = some s)
    (hfinished : s.population.isFinished = true) (hempty : s.queue.items = [])
    {more : List (Action P)} (hrun : h.run more = some (h', told)) {d₀ : Delivery P}
    (hd₀ : .received key handle d₀ ∈ told) :
    d₀ ∈ told.filterMap (emission? key) ∧ ∃ s', h'.subscription? key handle = some s' ∧
      ∀ d ∈ s'.queue.items, [d₀, d].Sublist (told.filterMap (emission? key)) := by
  have hpop : h.population? key handle = some s.population :=
    congrArg (Option.map Subscription.population) hsub
  obtain ⟨-, hidle⟩ := hr.finished_rests hpop hfinished hrun
  obtain ⟨s', hsub', hturns⟩ := hr.turns hrun hsub
  obtain ⟨fed, hmerged, hitems, -, -⟩ := hturns.gathers
  have haccepted := hturns.accepted_sublist
  simp only [Fact.acceptance?_concerns, Fact.delivery?_concerns, Fact.receipt?_concerns,
    Fact.emission?_concerns] at hmerged hitems haccepted
  have hdelivered : told.filterMap (delivery? key handle) = [] := by
    refine Fact.filterMap_of_kind (fun x => ?_) hidle
    cases x with
    | offered k h d offer => cases offer <;> simp [delivery?, Fact.isWork]
    | _ => simp [delivery?]
  rw [hmerged.eq_of_right_nil hdelivered, hempty, List.nil_append] at hitems
  have hstream := hitems.sublist.trans haccepted
  have hreceived : d₀ ∈ told.filterMap (receipt? key handle) :=
    List.mem_filterMap.2 ⟨_, hd₀, if_pos ⟨rfl, rfl⟩⟩
  refine ⟨hstream.subset (List.mem_append_left _ hreceived), s', hsub', fun d hd => ?_⟩
  exact ((List.singleton_sublist.2 hreceived).append (List.singleton_sublist.2 hd)).trans hstream

section Return

variable {past future : List (Action P)} {h₁ : Hub P} {handle' : Handle} {checkpoint : Option Version}
  {left since between after : List (Fact P)} {d : Delivery P}

/-- A subscription that was opened after a version gets what it is to get, and nothing else. -/
lemma Reached.mem_resumed_iff (hr : Reached config actions facts h) (hapart : Apart facts key)
    {before : List (Fact P)} (hfacts : facts = before ++ .subscribed key handle' (some v) :: since)
    (hread : since = between ++ .historyRead key handle' v entries :: after)
    (hsub : h.subscription? key handle' = some s) (hopen : s.closed = false)
    (hreceiving : s.queue.receiving = true) (hdropped : s.dropped = 0)
    (htimely : ∀ d, .offered key handle' d .timedOut ∉ since) :
    d ∈ since.filterMap (receipt? key handle') ++ s.queue.items ++ s.population.stage.cargo ↔
      Regains (before ++ between) since key v d := by
  have hsplit : facts = (before ++ .subscribed key handle' (some v) :: between) ++
      .historyRead key handle' v entries :: after := by
    rw [hfacts, hread]
    simp
  have hmem : .historyRead key handle' v entries ∈ since := by simp [hread]
  obtain ⟨hdelivered, hmerged⟩ := hr.resumed_stream hfacts hmem hsub hopen hreceiving hdropped htimely
  -- What was delivered, with what is still to be offered, is what was read.
  have hgot : d ∈ since.filterMap (receipt? key handle') ++ s.queue.items ++
      s.population.stage.cargo ↔
        d ∈ since.filterMap (emission? key) ∨ d ∈ entries.map Entry.delivery := by
    rw [List.mem_append, hmerged.mem_iff, ← hdelivered, List.mem_append, or_assoc]
  rw [hgot, Fact.mem_emission, hr.mem_read_iff hapart hsplit, Regains]
  simp

/-- What was outstanding is regained if it was added after the version. -/
lemma Outstanding.regains (hd : Outstanding h₁ (left ++ between) (left ++ since) key handle d)
    (hr₁ : Reached config past told h₁) (hr : Reached config actions facts h)
    (hfacts : facts = (told ++ left) ++ .subscribed key handle' checkpoint :: since) {w : Version}
    (hw : d.version = some w) (hepoch : w.epoch = v.epoch) (hseq : v.seq < w.seq) :
    Regains ((told ++ left) ++ between) since key v d := by
  have hlogged : ∀ {writer id}, .logged key writer id d.event w ∈ (told ++ left) ++ between →
      Regains ((told ++ left) ++ between) since key v d := fun h =>
    .inr ⟨_, _, w, hw, h, hepoch, hseq⟩
  have hknown : Known told key d → Regains ((told ++ left) ++ between) since key v d := by
    intro hknown
    cases hknown with
    | logged h =>
      cases hw
      exact hlogged (List.mem_append_left _ (List.mem_append_left _ h))
    | error => cases hw
  cases hd with
  | queued hsub hd => exact hknown (hr₁.queued_known hsub hd)
  | carried hsub hd =>
    exact hknown (hr₁.cargo_known (congrArg (Option.map Subscription.population) hsub) hd)
  | listed hd =>
    cases hw
    apply hlogged
    rw [List.append_assoc]
    exact List.mem_append_right told hd
  | live hd =>
    rcases List.mem_append.1 hd with hd | hd
    · -- What was fanned out before the insertion was logged before it.
      obtain ⟨_, past₀, h₀, hr₀, -, hpast₀, -, hold⟩ := hr.insertion hfacts
      obtain ⟨id, event, w', rfl, h⟩ :=
        hr₀.published.logged (hold _ (List.mem_append_right told hd) (.inr rfl))
      cases hw
      exact hlogged (List.mem_append_left _ (hpast₀.subset h))
    · exact .inl hd

/-- Whatever was outstanding is regained by a consumer that had caught up before it received the
version. -/
lemma Outstanding.regains_of_caught_up {earlier later : List (Action P)} {h₀ : Hub P}
    {told₀ seen : List (Fact P)} {s₀ : Subscription P} {d₀ : Delivery P}
    (hd : Outstanding h₁ (left ++ between) (left ++ since) key handle d)
    (hrun : (Hub.new config).run ((earlier ++ later) ++ future) = some (h, facts))
    (hleave : (Hub.new config).run (earlier ++ later) = some (h₁, told₀ ++ seen))
    (hearlier : (Hub.new config).run earlier = some (h₀, told₀))
    (hfacts : facts = ((told₀ ++ seen) ++ left) ++ .subscribed key handle' checkpoint :: since)
    (hread : since = between ++ .historyRead key handle' v entries :: after)
    (hapart : Apart facts key) (hsub₀ : h₀.subscription? key handle = some s₀)
    (hfinished : s₀.population.isFinished = true) (hempty : s₀.queue.items = [])
    (hd₀ : .received key handle d₀ ∈ seen) (hv : d₀.version = some v) :
    Regains (((told₀ ++ seen) ++ left) ++ between) since key v d := by
  have hr : Reached config ((earlier ++ later) ++ future) facts h := .of_run hrun
  have hr₀ : Reached config earlier told₀ h₀ := .of_run hearlier
  obtain ⟨seen', hlater, heq⟩ := run_append hearlier hleave
  obtain rfl := List.append_cancel_left heq
  obtain ⟨hlive₀, s₁, hsub₁, hbehind⟩ := hr₀.caught_up hsub₀ hfinished hempty hlater hd₀
  have hpop₀ : h₀.population? key handle = some s₀.population :=
    congrArg (Option.map Subscription.population) hsub₀
  have hfrom : facts = told₀ ++ (seen ++ left ++ .subscribed key handle' checkpoint :: since) := by
    rw [hfacts]
    simp
  have hlast : [d₀, d].Sublist ((seen ++ left ++ since).filterMap (emission? key)) →
      Regains (((told₀ ++ seen) ++ left) ++ between) since key v d := by
    intro hsublist
    have hpart : (seen ++ left ++ since).Sublist facts := by
      rw [hfrom]
      exact ((List.sublist_cons_self _ since).append_left _).trans (List.sublist_append_right _ _)
    exact hr.regains_of_emission hapart hfacts hread (hsublist.trans (hpart.filterMap _)) hv
  cases hd with
  | queued hsub' hd =>
    cases hsub₁.symm.trans hsub'
    apply hlast
    rw [List.append_assoc, List.filterMap_append]
    exact (hbehind d hd).trans (List.sublist_append_left _ _)
  | carried hsub' hd =>
    cases hsub₁.symm.trans hsub'
    obtain ⟨hpop₁, -⟩ := hr₀.finished_rests hpop₀ hfinished hlater
    rw [population?, hsub₁, Option.map_some, Option.some.injEq] at hpop₁
    rw [hpop₁, Population.cargo_of_finished hfinished] at hd
    cases hd
  | @listed id event w hlogged =>
    rw [List.append_assoc] at hrun
    obtain ⟨rest, hrest, heq⟩ := run_append hearlier hrun
    obtain rfl := List.append_cancel_left (hfrom.symm.trans heq)
    refine absurd ?_ (hr₀.not_logged_of_finished hpop₀ hfinished hrest id event w)
    rw [hread]
    rcases List.mem_append.1 hlogged with hlogged | hlogged <;> simp [hlogged]
  | live hd =>
    apply hlast
    rw [List.append_assoc, List.filterMap_append]
    exact (List.singleton_sublist.2 hlive₀).append
      (List.singleton_sublist.2 (Fact.mem_emission.2 hd))

/-- A consumer that comes back after a version gets what was logged after it and what is fanned out
from then on. So it gets what it had still to come, if this was logged after the version; and all of
it, if it had caught up at some moment and received the version since. If the logs were wiped, they are
to have epochs of their own. -/
theorem resumed_of_run (hrun : (Hub.new config).run (past ++ future) = some (h, facts))
    -- the consumer leaves
    (hleave : (Hub.new config).run past = some (h₁, told))
    -- and comes back, and its replay is not refused
    (hfacts : facts = (told ++ left) ++ .subscribed key handle' (some v) :: since)
    (hread : since = between ++ .historyRead key handle' v entries :: after)
    (hwiped : (.clear ∈ past ++ future ∨ ∃ n, .stopped n ∈ facts) → Apart facts key)
    (hsub : h.subscription? key handle' = some s) (hopen : s.closed = false)
    (hreceiving : s.queue.receiving = true) (hdropped : s.dropped = 0)
    (htimely : ∀ d, .offered key handle' d .timedOut ∉ since) :
    let known := (told ++ left) ++ between
    let stream := since.filterMap (receipt? key handle') ++ s.queue.items ++
      s.population.stage.cargo
    (∀ d, d ∈ stream ↔ Regains known since key v d) ∧
    (∀ handle d w, Outstanding h₁ (left ++ between) (left ++ since) key handle d →
      d.version = some w → w.epoch = v.epoch → v.seq < w.seq → d ∈ stream) ∧
    ∀ handle earlier later h₀ told₀ seen s₀ d₀, past = earlier ++ later →
      (Hub.new config).run earlier = some (h₀, told₀) → told = told₀ ++ seen →
      h₀.subscription? key handle = some s₀ → s₀.population.isFinished = true →
      s₀.queue.items = [] → .received key handle d₀ ∈ seen → d₀.version = some v →
      ∀ d, Outstanding h₁ (left ++ between) (left ++ since) key handle d → d ∈ stream := by
  intro known stream
  have hr : Reached config (past ++ future) facts h := .of_run hrun
  have hapart : Apart facts key := hr.apart_of_wiped hwiped
  have hexact : ∀ d, d ∈ stream ↔ Regains known since key v d := fun d =>
    hr.mem_resumed_iff hapart hfacts hread hsub hopen hreceiving hdropped htimely
  refine ⟨hexact, ?_, ?_⟩
  · intro handle d w hd hw hepoch hseq
    exact (hexact d).2 (hd.regains (.of_run hleave) hr hfacts hw hepoch hseq)
  · intro handle earlier later h₀ told₀ seen s₀ d₀ hpast hearlier htold hsub₀ hfinished hempty hd₀ hv
      d hd
    subst hpast htold
    exact (hexact d).2 (hd.regains_of_caught_up hrun hleave hearlier hfacts hread hapart hsub₀
      hfinished hempty hd₀ hv)

end Return

/-- The observer sends an event, which is logged and fanned out. -/
def oneEvent (n : Nat) : List (Action Nat) :=
  [.send default (.added n), .ingest default .take, .ingest default (.locate 7),
    .ingest default .record, .ingest default .emit]

/-- A key is registered and its observer watched. -/
def watchedKey : List (Action Nat) :=
  [.start (.register default ⟨1, "o"⟩), .resume 0,
    .ingest default .start, .ingest default (.answer (.ok ()))]

/-- A call to subscribe, and the start of the population. -/
def joinAs (call : CallId) (handle : Handle) (checkpoint : Option Version) : List (Action Nat) :=
  [.start (.subscribe default checkpoint), .resume call, .resume call,
    .populate default handle .start]

/-- The consumer of the first subscription leaves and comes back after the version, and the replay
has read the log. -/
def comeBack (v : Version) : List (Action Nat) :=
  [.start (.unsubscribe default ⟨1⟩), .resume 2, .resume 2] ++ joinAs 3 ⟨2⟩ (some v) ++
    [.populate default ⟨2⟩ .seek, .populate default ⟨2⟩ .read, .populate default ⟨2⟩ .next]

/-- A consumer has caught up with an empty list. -/
def caughtUp : List (Action Nat) :=
  watchedKey ++ joinAs 1 ⟨1⟩ none ++
    [.populate default ⟨1⟩ (.answer (.ok [])), .populate default ⟨1⟩ .next]

/-- What is told until then. -/
def toldCaughtUp : List (Fact Nat) :=
  [.registered default "o", .returned 0 .registered, .watched default, .running default "o",
    .subscribed default ⟨1⟩ none, .returned 1 (.subscribed ⟨1⟩), .listed default ⟨1⟩,
    .snapshotDelivered default ⟨1⟩ 0 0]

/-- Two events come, and the consumer receives the first one. -/
def halfRead : List (Action Nat) :=
  oneEvent 1 ++ oneEvent 2 ++ [.receive default ⟨1⟩]

/-- What is told of them. -/
def toldHalfRead : List (Fact Nat) :=
  [.taken default (.added 1), .opened default 7, .logged default .ingest 0 (.added 1) ⟨7, 1⟩,
    .emitted default (.versioned (.added 1) ⟨7, 1⟩),
    .reached default ⟨1⟩ (.versioned (.added 1) ⟨7, 1⟩) .accepted,
    .taken default (.added 2), .logged default .ingest 0 (.added 2) ⟨7, 2⟩,
    .emitted default (.versioned (.added 2) ⟨7, 2⟩),
    .reached default ⟨1⟩ (.versioned (.added 2) ⟨7, 2⟩) .accepted,
    .received default ⟨1⟩ (.versioned (.added 1) ⟨7, 1⟩)]

/-- What is told when the consumer leaves. -/
def toldLeft : List (Fact Nat) :=
  [.closed default ⟨1⟩, .unsubscribed default ⟨1⟩, .returned 2 .unsubscribed]

/-- What is told since it has come back. -/
def toldBack : List (Fact Nat) :=
  [.returned 3 (.subscribed ⟨2⟩), .historyRead default ⟨2⟩ ⟨7, 1⟩ [⟨.added 2, ⟨7, 2⟩⟩]]

theorem resumed_of_halfRead :
    ∃ h₁ h s₁ s, (new .standard).run (caughtUp ++ halfRead) =
        some (h₁, toldCaughtUp ++ toldHalfRead) ∧
      (new .standard).run ((caughtUp ++ halfRead) ++ comeBack ⟨7, 1⟩) = some (h,
        ((toldCaughtUp ++ toldHalfRead) ++ toldLeft) ++
          .subscribed default ⟨2⟩ (some ⟨7, 1⟩) :: toldBack) ∧
      h₁.subscription? default ⟨1⟩ = some s₁ ∧
      s₁.queue.items = [.versioned (.added 2) ⟨7, 2⟩] ∧
      h.subscription? default ⟨2⟩ = some s ∧ s.closed = false ∧ s.queue.receiving = true ∧
      s.dropped = 0 ∧
      .versioned (.added 2) ⟨7, 2⟩ ∈ s.queue.items ++ s.population.stage.cargo := by
  have hearlier : (new .standard).run caughtUp = some (_, toldCaughtUp) := rfl
  have hleave : (new .standard).run (caughtUp ++ halfRead) =
      some (_, toldCaughtUp ++ toldHalfRead) := rfl
  have hrun : (new .standard).run ((caughtUp ++ halfRead) ++ comeBack ⟨7, 1⟩) = some (_,
      ((toldCaughtUp ++ toldHalfRead) ++ toldLeft) ++
        .subscribed default ⟨2⟩ (some ⟨7, 1⟩) :: toldBack) := rfl
  have hclear : Action.clear ∉ (caughtUp ++ halfRead) ++ comeBack ⟨7, 1⟩ := by decide
  have hstopped : ∀ n, Fact.stopped n ∉ ((toldCaughtUp ++ toldHalfRead) ++ toldLeft) ++
      .subscribed default ⟨2⟩ (some ⟨7, 1⟩) :: toldBack := by
    simp [toldCaughtUp, toldHalfRead, toldLeft, toldBack]
  have hresumed := @resumed_of_run Nat _ _ _ _ default _ _ _ _ _ _ ⟨2⟩ toldLeft _
    [.returned 3 (.subscribed ⟨2⟩)] [] hrun hleave rfl rfl
    (fun hwiped => hwiped.elim (absurd · hclear) fun hstop =>
      hstop.elim fun n hn => absurd hn (hstopped n))
    rfl rfl rfl rfl (by simp [toldBack])
  obtain ⟨-, -, hall⟩ := hresumed
  have hgot := hall ⟨1⟩ caughtUp halfRead _ toldCaughtUp toldHalfRead _
    (.versioned (.added 1) ⟨7, 1⟩) rfl hearlier rfl rfl rfl rfl (by simp [toldHalfRead]) rfl
    (.versioned (.added 2) ⟨7, 2⟩) (.queued rfl (List.mem_singleton.2 rfl))
  exact ⟨_, _, _, _, hleave, hrun, rfl, rfl, rfl, rfl, rfl, rfl, hgot⟩

/-- A consumer has received some events of a subscription, and `v` is the version of the last one. If
it stays, it receives `rest` next. If it leaves instead and comes back after `v`, its replay is not
refused, and when this has ended, it has received `regained` or has it in the queue. Nothing is dropped
and no offer times out. -/
structure ComesBack (config : HubConfig) (key : Key) (handle handle' : Handle) (v : Version)
    (past stay future : List (Action Nat)) (rest regained : List (Delivery Nat)) : Prop where
  seen : ∃ h told, (new config).run past = some (h, told) ∧
    (told.filterMap (receipt? key handle)).getLast?.bind Delivery.version = some v
  stays : ∃ h told h' more s, (new config).run past = some (h, told) ∧
    h.run stay = some (h', more) ∧ h'.subscription? key handle = some s ∧ s.closed = false ∧
    s.dropped = 0 ∧ (told ++ more).filterMap (overdue? key handle) = [] ∧
    more.filterMap (receipt? key handle) = rest
  returns : ∃ h facts s entries,
    (new config).run (past ++ .start (.unsubscribe key handle) :: future) = some (h, facts) ∧
    .subscribed key handle' (some v) ∈ facts ∧ .historyRead key handle' v entries ∈ facts ∧
    h.subscription? key handle' = some s ∧ s.closed = false ∧ s.queue.receiving = true ∧
    s.population.isFinished = true ∧ s.dropped = 0 ∧
    facts.filterMap (overdue? key handle') = [] ∧
    facts.filterMap (receipt? key handle') ++ s.queue.items = regained

/-- The first of two listed items is received. -/
def firstItem : List (Action Nat) :=
  watchedKey ++ joinAs 1 ⟨1⟩ none ++
    [.populate default ⟨1⟩ (.answer (.ok [1, 2])), .populate default ⟨1⟩ .next,
      .populate default ⟨1⟩ (.locate 7), .populate default ⟨1⟩ .record,
      .populate default ⟨1⟩ .offer, .receive default ⟨1⟩]

/-- The second one is received. -/
def secondItem : List (Action Nat) :=
  [.populate default ⟨1⟩ .next, .populate default ⟨1⟩ (.locate 7), .populate default ⟨1⟩ .record,
    .populate default ⟨1⟩ .offer, .receive default ⟨1⟩]

/-- A live event comes after the replay has read the log and before it offers what it has read. -/
def overtaken : List (Action Nat) :=
  watchedKey ++ oneEvent 1 ++ oneEvent 2 ++ joinAs 1 ⟨1⟩ (some ⟨7, 1⟩) ++
    [.populate default ⟨1⟩ .seek, .populate default ⟨1⟩ .read] ++ oneEvent 3 ++
    [.populate default ⟨1⟩ .next, .populate default ⟨1⟩ .offer, .receive default ⟨1⟩]

/-- A live event comes before the error of a snapshot that fails. -/
def failing : List (Action Nat) :=
  watchedKey ++ joinAs 1 ⟨1⟩ none ++ oneEvent 1 ++
    [.populate default ⟨1⟩ (.answer (.failed (.list "o" "down"))),
      .populate default ⟨1⟩ .offer, .receive default ⟨1⟩]

/-- The last version is no checkpoint for items that are not logged yet, for what it has overtaken, and
for an error. -/
theorem lost_at_checkpoint :
    ComesBack .standard default ⟨1⟩ ⟨2⟩ ⟨7, 1⟩ firstItem secondItem (comeBack ⟨7, 1⟩).tail
      [.versioned (.added 2) ⟨7, 2⟩] [] ∧
    ComesBack .standard default ⟨1⟩ ⟨2⟩ ⟨7, 3⟩ overtaken [.receive default ⟨1⟩]
      (comeBack ⟨7, 3⟩).tail [.versioned (.added 2) ⟨7, 2⟩] [] ∧
    ComesBack .standard default ⟨1⟩ ⟨2⟩ ⟨7, 1⟩ failing [.receive default ⟨1⟩]
      (comeBack ⟨7, 1⟩).tail [.unversioned (ObserverFailure.list "o" "down").message] [] := by
  refine ⟨⟨?_, ?_, ?_⟩, ⟨?_, ?_, ?_⟩, ⟨?_, ?_, ?_⟩⟩
  · exact ⟨_, _, rfl, rfl⟩
  · exact ⟨_, _, _, _, _, rfl, rfl, rfl, rfl, rfl, rfl, rfl⟩
  · exact ⟨_, _, _, [], rfl, by decide, by decide, rfl, rfl, rfl, rfl, rfl, rfl, rfl⟩
  · exact ⟨_, _, rfl, rfl⟩
  · exact ⟨_, _, _, _, _, rfl, rfl, rfl, rfl, rfl, rfl, rfl⟩
  · exact ⟨_, _, _, [], rfl, by decide, by decide, rfl, rfl, rfl, rfl, rfl, rfl, rfl⟩
  · exact ⟨_, _, rfl, rfl⟩
  · exact ⟨_, _, _, _, _, rfl, rfl, rfl, rfl, rfl, rfl, rfl⟩
  · exact ⟨_, _, _, [], rfl, by decide, by decide, rfl, rfl, rfl, rfl, rfl, rfl, rfl⟩

end Hub

end WatchHub
