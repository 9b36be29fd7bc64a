import WatchHub.Proofs.Hub.Intake
import WatchHub.Proofs.Hub.Order
import WatchHub.Proofs.Hub.Work

/-!
# The logs of a key, one after the other

A key gets another log only after a wipe has taken the last one away, and whoever looks for a log finds
the newest. So the ingest never goes back to an older log: what it adds comes in the order of the logs
and, within a log, of the versions (`Hub.Reached.imprints`). And a replay reads the newest log that its
key had when the subscription was inserted, or one that is newer still (`Hub.Reached.le_of_reading`).
-/

namespace WatchHub

variable {P : Type}

namespace Fact

/-- What the ingest of a key added, and to which log. -/
def imprint? (key : Key) : Fact P → Option (LogId × Entry P)
  | logged k .ingest id event version => if k = key then some (id, ⟨event, version⟩) else none
  | _ => none

variable {key : Key} {facts : List (Fact P)}

lemma imprint?_eq_some {x : Fact P} {a : LogId × Entry P} (h : imprint? key x = some a) :
    x = .logged key .ingest a.1 a.2.event a.2.version := by
  cases x with
  | logged k writer id event version =>
    cases writer with
    | ingest =>
      simp only [imprint?, Option.ite_none_right_eq_some, Option.some.injEq] at h
      obtain ⟨rfl, rfl⟩ := h
      rfl
    | _ => cases h
  | _ => cases h

lemma logged_of_imprint {a : LogId × Entry P} (h : a ∈ facts.filterMap (imprint? key)) :
    .logged key .ingest a.1 a.2.event a.2.version ∈ facts := by
  obtain ⟨x, hx, hview⟩ := List.mem_filterMap.1 h
  exact imprint?_eq_some hview ▸ hx

lemma imprint?_of_not_isIntake (h : ∀ x ∈ facts, x.isIntake key = false) :
    facts.filterMap (imprint? key) = [] := by
  refine filterMap_of_kind (fun x => ?_) h
  cases x with
  | logged k writer => cases writer <;> simp [imprint?, isIntake]
  | _ => simp [imprint?]

/-- What the ingest added is what it was seen to publish. -/
lemma map_imprint (key : Key) (facts : List (Fact P)) :
    (facts.filterMap (imprint? key)).map (fun a => a.2.delivery) =
      facts.filterMap (ingestion? key) := by
  rw [List.map_filterMap]
  apply List.filterMap_congr
  intro x _
  cases x with
  | logged k writer id event version =>
    by_cases hk : k = key <;> cases writer <;> simp [imprint?, ingestion?, hk, Entry.delivery]
  | _ => rfl

end Fact

open WatchHub.Fact (Owns opening? record? imprint? emission? ingestion?)

namespace EventLog

variable {facts told : List (Fact P)} {l l' : EventLog P} {key : Key} {epoch : UInt64}

/-- The log to which a key leads is the last one that was opened for it. -/
def Newest (facts : List (Fact P)) (l : EventLog P) : Prop :=
  ∀ key id id', l.find? key = some id → Owns facts key id' → id' ≤ id

lemma Newest.le_locate (hn : l.Newest facts) (hl : l.Ledger facts) {id : LogId}
    (hown : Owns facts key id) (epoch : UInt64) : id ≤ (l.locate key epoch).1 := by
  cases hfind : l.find? key with
  | some id₀ =>
    rw [locate_of_some hfind]
    exact hn key id₀ id hfind hown
  | none =>
    rw [locate_of_none hfind]
    exact Nat.le_of_lt (hl.lt_of_owns hown)

lemma Newest.locate (hn : l.Newest facts) (hl : l.Ledger facts) (key : Key) (epoch : UInt64) :
    (l.locate key epoch).2.Newest (facts ++ Fact.ofLocate l key epoch) := by
  intro key' id id' hfind' hown
  rw [find?_locate] at hfind'
  cases hfind : l.find? key with
  | some id₀ =>
    rw [Fact.ofLocate, hfind, Option.isSome_some, if_pos rfl, List.append_nil] at hown
    split at hfind'
    · rename_i heq
      subst heq
      rw [locate_of_some hfind] at hfind'
      exact hn key id id' (hfind.trans hfind') hown
    · exact hn key' id id' hfind' hown
  | none =>
    rw [Fact.ofLocate, hfind] at hown
    split at hfind'
    · rename_i heq
      subst heq
      rw [locate_of_none hfind] at hfind'
      cases hfind'
      rcases owns_of_opened hown with hold | ⟨-, rfl⟩
      · exact Nat.le_of_lt (hl.lt_of_owns hold)
      · exact Nat.le_of_eq hl.places
    · rename_i hne
      rcases owns_of_opened hown with hold | ⟨rfl, -⟩
      · exact hn key' id id' hfind' hold
      · exact absurd rfl hne

theorem Newest.writes {wiped : Prop} (hn : l.Newest facts) (hl : l.Ledger facts)
    (hw : Writes wiped facts l told l') : l'.Newest (facts ++ told) := by
  cases hw with
  | idle htold =>
    intro key id id' hfind hown
    exact hn key id id' hfind (owns_of_append (opening?_of_not_isWriting htold) hown)
  | located key epoch => exact hn.locate hl key epoch
  | recorded writer event _ =>
    intro key id id' hfind hown
    exact hn key id id' hfind (owns_of_append rfl hown)
  | cleared => exact nofun

/-- One entry was added to an older log than the other, or before it to the same log. -/
def Earlier (a b : LogId × Entry P) : Prop :=
  a.1 < b.1 ∨
    a.1 = b.1 ∧ a.2.version.epoch = b.2.version.epoch ∧ a.2.version.seq < b.2.version.seq

/-- What is in a log comes before what is added to it. -/
lemma Ledger.earlier (hl : l.Ledger facts) {writer : Writer} {a : LogId × Entry P}
    (ha : .logged key writer a.1 a.2.event a.2.version ∈ facts) {id : LogId} (hle : a.1 ≤ id)
    (event : Event P) : Earlier a (id, ⟨event, (l.record id event).1⟩) := by
  rcases Nat.lt_or_eq_of_le hle with hlt | rfl
  · exact .inl hlt
  · obtain ⟨epoch, events, -, hlog, hrecords⟩ := hl.records (hl.logged ha)
    have hrecord := (hl.logged_at ha).2
    rw [hrecords] at hrecord
    obtain ⟨hepoch, hpos, hevent⟩ := mem_numbered.1 hrecord
    have hseq := (List.getElem?_eq_some_iff.1 hevent).1
    refine .inr ⟨rfl, ?_, ?_⟩
    · rw [fst_record, hlog, KeyLog.nextVersion_retaining]
      exact hepoch
    · rw [fst_record, hlog, KeyLog.nextVersion_retaining]
      change a.2.version.seq < events.length + 1
      change 0 < a.2.version.seq at hpos
      change a.2.version.seq - 1 < events.length at hseq
      omega

end EventLog

open EventLog (Earlier)

namespace Subscription

variable {key : Key} {handle : Handle} {log : EventLog P} {s : Subscription P}
  {move : Population.Move P} {out : Populated P}

/-- A population is about to read the log that it has just found. -/
lemma Populates.find?_of_reading (hp : Populates key handle log s move out) {v : Version}
    {id : LogId} (hstage : out.subscription.population.stage = .reading v id) :
    log.find? key = some id := by
  have hid : out.subscription.population.log? = some id := by rw [Population.log?, hstage]
  cases hp with
  | seekFound _ hfind =>
    cases hid
    exact hfind
  | offerRefused | offerAccepted | offerGone | fill | timeOut | giveUp =>
    rw [log?_settle] at hid
    cases hid
  | _ => cases hstage

lemma Populates.not_finished (hp : Populates key handle log s move out) :
    s.population.isFinished = false := by
  cases hp with
  | _ hstage => rw [Population.isFinished, hstage]

end Subscription

namespace Hub

variable {config : HubConfig} {actions : List (Action P)} {facts told : List (Fact P)}
  {h h' : Hub P} {key : Key} {handle : Handle}

theorem Reached.newest (hr : Reached config actions facts h) : h.log.Newest facts := by
  induction hr with
  | new => exact nofun
  | step hr hstep ih =>
    exact ih.writes hr.booked.ledger (hr.booked.writes hr.sound (hr.sound.changes hstep))

/-- The ingest of a key added its events log by log, and goes on at the last of them or at a newer. -/
structure Imprints (facts : List (Fact P)) (h : Hub P) (key : Key) : Prop where
  ordered : (facts.filterMap (imprint? key)).Pairwise Earlier
  held : ∀ i id, h.ingest? key = some i → i.log? = some id →
    ∀ a ∈ facts.filterMap (imprint? key), a.1 ≤ id

/-- A step by which the ingest adds nothing and finds no log. -/
lemma Imprints.quiet (hi : Imprints facts h key) (htold : told.filterMap (imprint? key) = [])
    (hlog : ∀ i id, h'.ingest? key = some i → i.log? = some id →
      ∃ i₀, h.ingest? key = some i₀ ∧ i₀.log? = some id) : Imprints (facts ++ told) h' key := by
  constructor
  · rw [List.filterMap_append, htold, List.append_nil]
    exact hi.ordered
  · intro i id hget hid
    obtain ⟨i₀, hget₀, hid₀⟩ := hlog i id hget hid
    rw [List.filterMap_append, htold, List.append_nil]
    exact hi.held i₀ id hget₀ hid₀

/-- A step of the ingest itself. -/
lemma Imprints.own (hr : Reached config actions facts h) {move : Ingest.Move} {r : Registration P}
    {out : Ingested P} (hi : Imprints facts h r.key) (hreg : h.registration? r.key = some r)
    (hstep : r.Ingests h.stopped h.log move out)
    (hget : h'.ingest? r.key = some out.registration.ingest) :
    Imprints (facts ++ out.facts) h' r.key := by
  have hledger := hr.booked.ledger
  have hnolog : out.facts.filterMap (imprint? r.key) = [] → out.registration.ingest.log? = none →
      Imprints (facts ++ out.facts) h' r.key := by
    intro htold hnone
    apply hi.quiet htold
    intro i id hget' hid
    cases hget.symm.trans hget'
    cases hnone.symm.trans hid
  cases hstep with
  | @locate event last epoch hstage =>
    -- What the ingest finds is the newest log of its key, so no older than those it added to.
    have htold : (Fact.ofLocate h.log r.key epoch).filterMap (imprint? r.key) = [] :=
      Fact.filterMap_ofLocate rfl h.log
    constructor
    · rw [List.filterMap_append, htold, List.append_nil]
      exact hi.ordered
    · intro i id hget' hid a ha
      cases hget.symm.trans hget'
      cases hid
      rw [List.filterMap_append, htold, List.append_nil] at ha
      exact hr.newest.le_locate hledger (hledger.logged (Fact.logged_of_imprint ha)) epoch
  | @record id event last hstage =>
    have htold : [Fact.logged r.key .ingest id event (h.log.record id event).1].filterMap
        (imprint? r.key) = [(id, ⟨event, (h.log.record id event).1⟩)] := by
      simp [imprint?]
    constructor
    · rw [List.filterMap_append, htold, List.pairwise_append]
      refine ⟨hi.ordered, List.pairwise_singleton _ _, fun a ha b hb => ?_⟩
      obtain rfl := List.mem_singleton.1 hb
      have hle : a.1 ≤ id := by
        apply hi.held r.ingest id _ _ a ha
        · rw [ingest?, hreg, Option.map_some]
        · rw [Ingest.log?, hstage]
      exact hledger.earlier (Fact.logged_of_imprint ha) hle event
    · intro i id' hget' hid
      cases hget.symm.trans hget'
      cases hid
  | @emit d last hstage =>
    apply hnolog
    · refine List.filterMap_eq_nil_iff.2 fun x hx => ?_
      rcases Audience.mem_emit hx with rfl | ⟨_, _, rfl⟩ <;> rfl
    · cases last <;> rfl
  | wake | rest =>
    apply hi.quiet rfl
    intro i id hget' hid
    cases hget.symm.trans hget'
    exact ⟨r.ingest, by rw [ingest?, hreg, Option.map_some], hid⟩
  | _ => exact hnolog rfl rfl

/-- After every run the ingest has added its events in the order of the logs and the versions. -/
theorem Reached.imprints (hr : Reached config actions facts h) (key : Key) :
    Imprints facts h key := by
  induction hr with
  | new => exact ⟨.nil, nofun⟩
  | @step actions past h action h' told hr hstep ih =>
    cases (hr.sound.changes hstep).feeds hr.sound key with
    | other hsame _ _ htold =>
      apply ih.quiet (Fact.imprint?_of_not_isIntake htold)
      intro i id hget hid
      exact ⟨i, hsame.symm.trans hget, hid⟩
    | registered _ hnew _ _ htold =>
      apply ih.quiet (Fact.imprint?_of_not_isIntake htold)
      intro i id hget hid
      cases hnew.symm.trans hget
      cases hid
    | @aborted _ _ _ r _ hreg hnew _ _ htold =>
      apply ih.quiet (Fact.imprint?_of_not_isIntake htold)
      intro i id hget hid
      cases hnew.symm.trans hget
      exact ⟨r.ingest, by rw [ingest?, hreg, Option.map_some], Registration.log?_of_abort hid⟩
    | @sent event _ r hreg hnew =>
      apply ih.quiet rfl
      intro i id hget hid
      cases hnew.symm.trans hget
      refine ⟨r.ingest, by rw [ingest?, hreg, Option.map_some], ?_⟩
      rw [Ingest.log?, r.stage_send event] at hid
      exact hid
    | @ended _ r hreg hnew =>
      apply ih.quiet rfl
      intro i id hget hid
      cases hnew.symm.trans hget
      exact ⟨r.ingest, by rw [ingest?, hreg, Option.map_some], hid⟩
    | @own move _ r out hreg hkey hi hnew =>
      subst hkey
      exact ih.own hr hreg hi hnew

/-- Of two live events the one that comes first was added first, to an older log or to the same. -/
theorem Reached.earlier_of_emission (hr : Reached config actions facts h) {d d' : Delivery P}
    (hsub : [d, d'].Sublist (facts.filterMap (emission? key))) :
    ∃ a b : LogId × Entry P, Earlier a b ∧ d = a.2.delivery ∧ d' = b.2.delivery ∧
      .logged key .ingest a.1 a.2.event a.2.version ∈ facts ∧
      .logged key .ingest b.1 b.2.event b.2.version ∈ facts := by
  have hlogged := hsub.trans (hr.published.isPrefix key).sublist
  rw [← Fact.map_imprint] at hlogged
  obtain ⟨imprints, himprints, heq⟩ := List.sublist_map_iff.1 hlogged
  obtain ⟨a, rest, rfl, rfl, hrest⟩ := List.map_eq_cons_iff.1 heq.symm
  obtain ⟨b, rest, rfl, rfl, hnil⟩ := List.map_eq_cons_iff.1 hrest
  cases List.map_eq_nil_iff.1 hnil
  have hpairwise := (hr.imprints key).ordered.sublist himprints
  have hearlier : Earlier a b := (List.pairwise_cons.1 hpairwise).1 b (List.mem_singleton.2 rfl)
  exact ⟨a, b, hearlier, rfl, rfl, Fact.logged_of_imprint (himprints.subset (by simp)),
    Fact.logged_of_imprint (himprints.subset (by simp))⟩

/-- A replay reads no log that was older than another when its subscription was inserted. -/
theorem Reached.le_of_reading (hr : Reached config actions facts h) {before since : List (Fact P)}
    {checkpoint : Option Version}
    (hfacts : facts = before ++ .subscribed key handle checkpoint :: since) {p : Population P}
    (hpop : h.population? key handle = some p) {v : Version} {id : LogId}
    (hstage : p.stage = .reading v id) {id' : LogId} (hown : Owns before key id') : id' ≤ id := by
  induction hr generalizing since p with
  | new => simp at hfacts
  | @step actions past h action h' told hr hstep ih =>
    rcases append_eq_append_cons hfacts with ⟨rest, hpast, rfl⟩ | ⟨rest, rfl, htold⟩
    · cases (hr.sound.changes hstep).works key handle with
      | other hsame => exact ih hpast (hsame.symm.trans hpop) hstage
      | joined checkpoint' _ hnew =>
        cases hnew.symm.trans hpop
        cases hstage
      | @own s move out _ hsub hp hnew =>
        cases hnew.symm.trans hpop
        apply hr.newest key id id' (hp.find?_of_reading hstage)
        rw [hpast]
        exact hown.append _
    · obtain ⟨-, -, hsub, -, -⟩ := (hr.sound.changes hstep).subscribed hr.sound htold
      rw [population?, hsub] at hpop
      cases hpop
      cases hstage

/-- A population that has finished does nothing more. -/
theorem Reached.finished_rests (hr : Reached config actions facts h) {p : Population P}
    (hpop : h.population? key handle = some p) (hfinished : p.isFinished = true)
    {more : List (Action P)} (hrun : h.run more = some (h', told)) :
    h'.population? key handle = some p ∧ ∀ x ∈ told, x.isWork key handle = false := by
  induction more generalizing actions facts h told with
  | nil =>
    cases hrun
    exact ⟨hpop, fun x hx => absurd hx List.not_mem_nil⟩
  | cons action more ih =>
    obtain ⟨h₁, told₁, told₂, hstep, hrest, rfl⟩ := run_cons hrun
    have hstill : h₁.population? key handle = some p ∧ ∀ x ∈ told₁, x.isWork key handle = false := by
      cases (hr.sound.changes hstep).works key handle with
      | other hsame _ htold => exact ⟨hsame.trans hpop, htold⟩
      | joined _ hnone => cases hnone.symm.trans hpop
      | @own s move out _ hsub hp hnew =>
        rw [population?, hsub, Option.map_some, Option.some.injEq] at hpop
        subst hpop
        cases hfinished.symm.trans hp.not_finished
    obtain ⟨hpop₁, htold₁⟩ := hstill
    obtain ⟨hpop₂, htold₂⟩ := ih (hr.step hstep) hpop₁ hrest
    refine ⟨hpop₂, fun x hx => ?_⟩
    rcases List.mem_append.1 hx with hx | hx
    · exact htold₁ x hx
    · exact htold₂ x hx

end Hub

end WatchHub
