import WatchHub.Proofs.Hub.Course
import WatchHub.Proofs.Hub.Order
import WatchHub.Proofs.Hub.Work

/-!
# What a population carries

Whatever a population has in hand was read from a log of its key, was just added to one, or is the
error that says why there is nothing else. So all that is ever offered, enqueued or received is known
from the logs (`Fact.Known`).
-/

namespace WatchHub

variable {P : Type}

namespace Fact

/-- A delivery of what was logged for a key, or an error that is in no log. -/
inductive Known (facts : List (Fact P)) (key : Key) : Delivery P → Prop where
  | logged {writer id event version} :
    .logged key writer id event version ∈ facts → Known facts key (.versioned event version)
  | error (reason : String) : Known facts key (.unversioned reason)

variable {facts told : List (Fact P)} {key : Key} {d : Delivery P}

lemma Known.mono (h : Known facts key d) (hsub : facts ⊆ told) : Known told key d := by
  cases h with
  | logged hx => exact .logged (hsub hx)
  | error reason => exact .error reason

end Fact

open WatchHub.Fact (Known Owns record? emission? acceptance? delivery? receipt? reach?)

namespace Population

def Rest.cargo : Rest P → List (Delivery P)
  | .history _ ds => ds
  | .items _ | .nothing => []

/-- What a population holds that has a version already, or will never have one. -/
def Stage.cargo : Stage P → List (Delivery P)
  | .between rest => rest.cargo
  | .offering d rest | .waiting d rest => d :: rest.cargo
  | _ => []

lemma cargo_of_finished {p : Population P} (h : p.isFinished = true) : p.stage.cargo = [] := by
  obtain ⟨ending, hstage⟩ := stage_of_isFinished h
  rw [hstage]
  rfl

end Population

namespace Subscription

variable {key : Key} {handle : Handle} {log : EventLog P} {s s' : Subscription P}
  {move : Population.Move P} {out : Populated P} {d : Delivery P}

lemma cargo_settle (s : Subscription P) (offer : Offer) (rest : Population.Rest P) :
    (s.settle offer rest).population.stage.cargo ⊆ rest.cargo := by
  intro d hd
  cases rest with
  | items items => cases offer <;> cases hd
  | history after ds =>
    cases offer with
    | closed => cases hd
    | delivered | timedOut => exact hd
  | nothing => cases hd

lemma Populates.offered_mem (hp : Populates key handle log s move out) {offer : Offer}
    (hd : .offered key handle d offer ∈ out.facts) : d ∈ s.population.stage.cargo := by
  cases hp with
  | offerRefused hstage | offerAccepted hstage | offerGone hstage | fill hstage | timeOut hstage
  | giveUp hstage =>
    cases List.mem_singleton.1 hd
    rw [hstage]
    exact List.mem_cons_self
  | locate => cases Fact.mem_ofLocate hd
  | _ => simp at hd

/-- A population takes up what it reads and what it adds to the log, or an error; the rest it held
before. -/
lemma Populates.cargo_cases (hp : Populates key handle log s move out)
    (hd : d ∈ out.subscription.population.stage.cargo) :
    d ∈ s.population.stage.cargo ∨ Known out.facts key d ∨
      ∃ after id entries, s.population.stage = .reading after id ∧
        (log.logAt id).after? after = some entries ∧ d ∈ entries.map Entry.delivery := by
  cases hp with
  | answerFailed | seekRefused | readRefused =>
    cases List.mem_singleton.1 hd
    exact .inr (.inl (.error _))
  | readHistory hstage hafter => exact .inr (.inr ⟨_, _, _, hstage, hafter, hd⟩)
  | replayNext hstage =>
    rw [hstage]
    exact .inl hd
  | record hstage =>
    cases List.mem_singleton.1 hd
    exact .inr (.inl (.logged (List.mem_singleton.2 rfl)))
  | offerRefused hstage | offerAccepted hstage | offerGone hstage | fill hstage | timeOut hstage
  | giveUp hstage =>
    rw [hstage]
    exact .inl (List.mem_cons_of_mem _ (cargo_settle _ _ _ hd))
  | offerWaits hstage =>
    rw [hstage]
    exact .inl hd
  | _ => cases hd

variable {room : Nat} {checkpoint : Option Version} {past told : List (Fact P)}

/-- A subscription is reached by live events of its key only. -/
lemma Turn.reached_sublist (h : Turn key handle s told s') :
    ((told.filterMap (reach? key handle)).map Prod.fst).Sublist
      (told.filterMap (emission? key)) := by
  cases h with
  | rest | pruned | unsubscribed | closed | received | hungUp => exact .slnil
  | passed hm => exact List.nil_sublist _
  | live hm => simp [List.filterMap_cons, reach?, emission?]
  | populated hp => simp [hp.silent.reaches]

lemma Turn.accepted_sublist (h : Turn key handle s told s') :
    (told.filterMap (acceptance? key handle)).Sublist
      ((told.filterMap (reach? key handle)).map Prod.fst) := by
  cases h with
  | @live d hm =>
    rcases s.live_cases d with ⟨-, -, h⟩ | ⟨-, -, h⟩ | ⟨-, h⟩ <;>
      simp [h, List.filterMap_cons, reach?, acceptance?]
  | populated hp => simp [hp.silent.acceptances]
  | _ => exact .slnil

lemma Lived.accepted_sublist (hl : Lived room key handle checkpoint past s) :
    (past.filterMap (acceptance? key handle)).Sublist (past.filterMap (emission? key)) := by
  induction hl with
  | new => exact .slnil
  | turn _ hturn ih =>
    rw [List.filterMap_append, List.filterMap_append]
    exact ih.append (hturn.accepted_sublist.trans hturn.reached_sublist)

/-- A replay without a timeout has delivered what it read, up to what it is still to offer. -/
theorem Lived.replaying (hl : Lived room key handle checkpoint past s) (ho : s.IsOpen)
    (htimely : ∀ d, .offered key handle d .timedOut ∉ past) {after : Version}
    {entries : List (Entry P)} (hread : .historyRead key handle after entries ∈ past) :
    past.filterMap (delivery? key handle) ++ s.population.stage.cargo =
      entries.map Entry.delivery := by
  have hreading : entries.map Entry.delivery ∈ past.filterMap (Fact.reading? key handle) :=
    List.mem_filterMap.2 ⟨_, hread, if_pos ⟨rfl, rfl⟩⟩
  obtain ⟨hnever, hstage⟩ := hl.not_closed ho
  have hcourse := hl.course
  have hall : ∀ d offer, (d, offer) ∈ past.filterMap (Fact.offer? key handle) →
      offer = .delivered := by
    intro d offer hoffer
    cases offer with
    | delivered => rfl
    | timedOut => exact absurd (Fact.mem_offer.1 hoffer) (htimely d)
    | closed => exact absurd hoffer (hnever d)
  rw [deliveries_eq hall]
  -- Whoever has read a history stands between two of its deliveries, or is through.
  have hunread : past.filterMap (Fact.reading? key handle) ≠ [] := List.ne_nil_of_mem hreading
  have hread : ∀ {ds}, past.filterMap (Fact.reading? key handle) = [ds] →
      ds = entries.map Entry.delivery := by
    intro ds hds
    rw [hds] at hreading
    exact (List.mem_singleton.1 hreading).symm
  cases hat : s.population.stage with
  | spawned | listing | seeking | reading | locating | recording =>
    rw [hat] at hcourse
    exact absurd hcourse.1 hunread
  | between rest | offering _ rest | waiting _ rest =>
    rw [hat] at hcourse
    cases rest with
    | history => exact hread hcourse.1
    | items => exact absurd hcourse.1 hunread
    | nothing => first | exact hcourse.elim | exact absurd hcourse.1 hunread
  | finished ending =>
    rw [hat] at hcourse hstage
    cases ending with
    | complete =>
      rcases hcourse.1 with hnone | hone
      · exact absurd hnone hunread
      · exact (List.append_nil _).trans (hread hone)
    | closed => exact absurd rfl hstage
    | failed | crashed => exact absurd hcourse.1 hunread

end Subscription

namespace Hub

variable {config : HubConfig} {actions : List (Action P)} {facts told : List (Fact P)}
  {h h' : Hub P} {key : Key} {handle : Handle} {d : Delivery P}

/-- What a log of a key holds after a version was told to be added to it. -/
lemma Booked.known_of_after? (hb : h.Booked facts) {id : LogId} (hown : Owns facts key id)
    {v : Version} {entries : List (Entry P)} (hafter : (h.log.logAt id).after? v = some entries)
    {e : Entry P} (he : e ∈ entries) :
    ∃ writer, .logged key writer id e.event e.version ∈ facts := by
  obtain ⟨epoch, events, -, hlog, hrecords⟩ := hb.ledger.records hown
  rw [hlog, KeyLog.after?_retaining] at hafter
  split at hafter
  · cases hafter
    apply hb.ledger.logged_of_record hown
    rw [hrecords]
    exact List.mem_of_mem_drop he
  · cases hafter

/-- What a population carries is known. -/
theorem Reached.cargo_known (hr : Reached config actions facts h) {p : Population P}
    (hpop : h.population? key handle = some p) (hd : d ∈ p.stage.cargo) : Known facts key d := by
  induction hr generalizing p d with
  | new => cases hpop
  | @step actions past h action h' told hr hstep ih =>
    have hold : ∀ {p}, h.population? key handle = some p → d ∈ p.stage.cargo →
        Known (past ++ told) key d := fun hpop hd =>
      (ih hpop hd).mono (List.subset_append_left past told)
    cases (hr.sound.changes hstep).works key handle with
    | other hsame => exact hold (hsame.symm.trans hpop) hd
    | joined checkpoint _ hnew =>
      cases hnew.symm.trans hpop
      cases hd
    | @own s move out _ hsub hp hnew =>
      cases hnew.symm.trans hpop
      rcases hp.cargo_cases hd with hd | hknown | ⟨after, id, entries, hstage, hafter, hd⟩
      · exact hold (congrArg (Option.map Subscription.population) hsub) hd
      · exact hknown.mono (List.subset_append_right past out.facts)
      · have hown := hr.booked.populations hsub (by rw [Population.log?, hstage])
        obtain ⟨e, he, rfl⟩ := List.mem_map.1 hd
        obtain ⟨writer, hlogged⟩ := hr.booked.known_of_after? hown hafter he
        exact .logged (List.mem_append_left _ hlogged)

theorem Reached.offered_known (hr : Reached config actions facts h) {offer : Offer}
    (hd : .offered key handle d offer ∈ facts) : Known facts key d := by
  obtain ⟨before, after, rfl⟩ := List.append_of_mem hd
  obtain ⟨actions₀, past, h₀, action, h₁, told, told', hr₀, hstep, rfl, -, -⟩ := hr.moment rfl
  have hpast : past ⊆ past ++ told ++ .offered key handle d offer :: after := by
    intro x hx
    simp [hx]
  have hmem : .offered key handle d offer ∈ told ++ .offered key handle d offer :: told' := by simp
  generalize told ++ .offered key handle d offer :: told' = all at hstep hmem
  cases (hr₀.sound.changes hstep).works key handle with
  | other _ _ hothers =>
    have := hothers _ hmem
    simp [Fact.isWork] at this
  | joined checkpoint _ _ _ htold =>
    obtain ⟨before', after', rfl, hothers⟩ := htold
    have hmem' : .offered key handle d offer ∈ before' ++ after' := by
      simpa using hmem
    have := hothers _ hmem'
    simp [Fact.isWork] at this
  | own hsub hp =>
    have hpop : h₀.population? key handle = some _ :=
      congrArg (Option.map Subscription.population) hsub
    exact (hr₀.cargo_known hpop (hp.offered_mem hmem)).mono hpast

theorem Reached.emitted_known (hr : Reached config actions facts h)
    (hd : .emitted key d ∈ facts) : Known facts key d := by
  obtain ⟨id, event, version, rfl, hlogged⟩ := hr.published.logged hd
  exact .logged hlogged

/-- What was received or is in the queue of a subscription is known. -/
theorem Reached.stream_known (hr : Reached config actions facts h) {before after : List (Fact P)}
    {checkpoint : Option Version}
    (hfacts : facts = before ++ .subscribed key handle checkpoint :: after) {s : Subscription P}
    (hsub : h.subscription? key handle = some s)
    (hd : d ∈ after.filterMap (receipt? key handle) ++ s.queue.items) : Known facts key d := by
  obtain ⟨s', hsub', hlived⟩ := hr.lived hfacts
  cases hsub.symm.trans hsub'
  obtain ⟨stream, hstream, hfirst, -, -⟩ := hlived.gathers
  have haccepted := hlived.accepted_sublist
  simp only [Fact.receipt?_concerns, Fact.acceptance?_concerns, Fact.delivery?_concerns,
    Fact.emission?_concerns] at hstream hfirst haccepted
  rcases hstream.mem_iff.1 (hfirst.subset hd) with hd | hd
  · apply hr.emitted_known
    rw [hfacts]
    exact List.mem_append_right _ (List.mem_cons_of_mem _
      (Fact.mem_emission.1 (haccepted.subset hd)))
  · rw [Subscription.deliveries_eq_filterMap] at hd
    obtain ⟨⟨d', offer⟩, hoffer, heq⟩ := List.mem_filterMap.1 hd
    simp only [Option.ite_none_right_eq_some, Option.some.injEq] at heq
    obtain ⟨-, rfl⟩ := heq
    have hmem : .offered key handle d' offer ∈ facts := by
      rw [hfacts]
      exact List.mem_append_right _ (List.mem_cons_of_mem _ (Fact.mem_offer.1 hoffer))
    exact hr.offered_known hmem

lemma Reached.queued_known (hr : Reached config actions facts h) {s : Subscription P}
    (hsub : h.subscription? key handle = some s) (hd : d ∈ s.queue.items) : Known facts key d := by
  obtain ⟨before, checkpoint, after, hfacts⟩ := hr.subscribed hsub
  exact hr.stream_known hfacts hsub (List.mem_append_right _ hd)

end Hub

end WatchHub
