import WatchHub.Proofs.Hub.Later
import WatchHub.Proofs.Hub.Order

/-!
# The stream of a subscription

What a consumer has received, followed by what is in its queue, is made of the live events that were
accepted and of the items that the population delivered, each in its order; and a live event is missed
only when every slot of the queue is occupied or granted.
-/

namespace WatchHub

variable {P : Type}

namespace Hub

open WatchHub.Fact (emission? acceptance? delivery? receipt?)

variable {config : HubConfig} {actions : List (Action P)} {facts : List (Fact P)} {h : Hub P}
  {key : Key} {handle : Handle} {s : Subscription P}

/-- While the hub runs, the count of missed events can be asked for. -/
lemma Sound.dropped?_eq (hs : h.Sound) (hrunning : h.stopped = false)
    (hsub : h.subscription? key handle = some s) (hmember : s.member = true) :
    h.dropped? key handle = some s.dropped := by
  obtain ⟨r, hr, hget⟩ := exists_registration hsub
  have hbound : h.bound? key = some r := by
    rw [bound?, hr]
    exact if_pos (hs.bound hr hrunning)
  rw [Hub.dropped?, hbound]
  change r.audience.dropped? handle = some s.dropped
  rw [Audience.dropped?, hget]
  exact if_pos hmember

/-- A live event that passes a member is accepted unless the queue has no slot left. -/
lemma Reached.accepted_or_full (hr : Reached config actions facts h)
    (hsub : h.subscription? key handle = some s) (hmember : s.member = true)
    (hreceiving : s.queue.receiving = true) {action : Action P} {h' : Hub P}
    {told : List (Fact P)} (hstep : h.step action = some (h', told)) {d : Delivery P}
    (hd : .emitted key d ∈ told) :
    .reached key handle d .accepted ∈ told ∨
      s.queue.items.length + s.queue.granted = config.queueRoom := by
  obtain ⟨s', -, hturn⟩ := (hr.sound.changes hstep).turn hr.sound hsub
  have hd' : .emitted key d ∈ told.filter (Fact.concerns key handle) :=
    List.mem_filter.2 ⟨hd, by simp [Fact.concerns]⟩
  have hsubset : ∀ x ∈ told.filter (Fact.concerns key handle), x ∈ told := fun x hx =>
    List.mem_of_mem_filter hx
  generalize told.filter (Fact.concerns key handle) = about at hturn hd' hsubset
  cases hturn with
  | passed hm => cases hmember.symm.trans hm
  | @live d' _ =>
    obtain rfl : d = d' := by simpa using hd'
    rcases s.live_cases d with ⟨-, -, h⟩ | ⟨-, hfree, -⟩ | ⟨hgone, -⟩
    · refine .inl (hsubset _ ?_)
      rw [h]
      simp
    · exact .inr ((hr.ready hsub).balanced.full hfree)
    · cases hreceiving.symm.trans hgone
  | populated hp =>
    have hnone := List.filterMap_eq_nil_iff.1 hp.silent.emissions _ (List.mem_of_mem_filter hd')
    simp [emission?] at hnone
  | _ => simp at hd'

/-- The live events since a subscription was inserted have ascending versions if the logs were not
wiped. -/
lemma Reached.ascending_since (hr : Reached config actions facts h) (hclear : .clear ∉ actions)
    (hstopped : ∀ n, .stopped n ∉ facts) {before after : List (Fact P)} {x : Fact P}
    (hfacts : facts = before ++ x :: after) {accepted : List (Delivery P)}
    (hsub : accepted.Sublist (after.filterMap (emission? key))) :
    ∃ versions : List Version, accepted.map Delivery.version = versions.map some ∧
      versions.Pairwise fun v w => compare v w = .lt := by
  obtain ⟨versions, hversions, hpairwise⟩ := hr.ascending (hr.undivided hclear hstopped) key
  have hafter : after.Sublist facts := by
    rw [hfacts]
    exact (List.sublist_cons_self x after).trans (List.sublist_append_right _ _)
  have hall := (hsub.trans (hafter.filterMap _)).map Delivery.version
  rw [hversions] at hall
  obtain ⟨some', hsome, heq⟩ := List.sublist_map_iff.1 hall
  exact ⟨some', heq, hpairwise.sublist hsome⟩

/-- What becomes of the events of a subscription that is a member and whose consumer holds its end. -/
theorem stream_of_run (hrun : (Hub.new config).run actions = some (h, facts))
    (hclear : .clear ∉ actions) (hsub : h.subscription? key handle = some s)
    (hmember : s.member = true) (hreceiving : s.queue.receiving = true) :
    (∃ before checkpoint after emitted accepted delivered received,
      facts = before ++ .subscribed key handle checkpoint :: after ∧
      emitted = after.filterMap (emission? key) ∧
      accepted = after.filterMap (acceptance? key handle) ∧
      delivered = after.filterMap (delivery? key handle) ∧
      received = after.filterMap (receipt? key handle) ∧
      -- nothing is lost, repeated or reordered in the queue
      Interleaving accepted delivered (received ++ s.queue.items) ∧
      accepted.Sublist emitted ∧
      (∀ d ∈ emitted, d.version.isSome = true) ∧
      ((∀ n, .stopped n ∉ facts) →
        ∃ versions : List Version, accepted.map Delivery.version = versions.map some ∧
          versions.Pairwise fun v w => compare v w = .lt) ∧
      (h.stopped = false →
        h.dropped? key handle = some (emitted.length - accepted.length))) ∧
    -- a live event is missed only if no slot is left for it
    (∀ past action future h₀ told₀ h₁ told s₀ d, actions = past ++ action :: future →
      (Hub.new config).run past = some (h₀, told₀) → h₀.step action = some (h₁, told) →
      h₀.subscription? key handle = some s₀ → .emitted key d ∈ told →
      .reached key handle d .accepted ∈ told ∨
        s₀.queue.items.length + s₀.queue.granted = config.queueRoom) ∧
    s.queue.items.length ≤ config.queueRoom := by
  have hr : Reached config actions facts h := .of_run hrun
  refine ⟨?_, ?_, (hr.ready hsub).balanced.length_le⟩
  · obtain ⟨before, checkpoint, after, hfacts⟩ := hr.subscribed hsub
    obtain ⟨s', hsub', hlived⟩ := hr.lived hfacts
    cases hsub.symm.trans hsub'
    have ha := hlived.accounts
    have haccepted := ha.accepted
    have hcount := ha.dropped hreceiving
    have hmerged := ha.merged hreceiving
    have hreached := ha.reached hmember
    rw [hreached] at haccepted
    simp only [Fact.emission?_concerns, Fact.reach?_concerns, Fact.acceptance?_concerns,
      Fact.delivery?_concerns, Fact.receipt?_concerns] at haccepted hcount hmerged hreached
    refine ⟨before, checkpoint, after, _, _, _, _, hfacts, rfl, rfl, rfl, rfl, hmerged, haccepted,
      fun d hd => ?_, fun hstopped => hr.ascending_since hclear hstopped hfacts haccepted,
      fun hrunning => ?_⟩
    · have hd' : .emitted key d ∈ facts := by simp [hfacts, Fact.mem_emission.1 hd]
      obtain ⟨id, event, version, rfl, -⟩ := hr.published.logged hd'
      rfl
    · have hlength := congrArg List.length hreached
      rw [List.length_map] at hlength
      have hdropped : s.dropped = (after.filterMap (emission? key)).length -
          (after.filterMap (acceptance? key handle)).length := by
        omega
      rw [hr.sound.dropped?_eq hrunning hsub hmember, hdropped]
  · intro past action future h₀ told₀ h₁ told s₀ d hactions hpast hstep hsub₀ hd
    have hr₀ : Reached config past told₀ h₀ := .of_run hpast
    rw [hactions] at hrun
    obtain ⟨rest, hrest, -⟩ := run_append hpast hrun
    -- What the subscription still has at the end of the run it had at this step.
    obtain ⟨s', hsub', hlater⟩ := hr₀.later hrest hsub₀
    cases hsub.symm.trans hsub'
    exact hr₀.accepted_or_full hsub₀ (hlater.member hmember) (hlater.receiving hreceiving) hstep hd

/-- An observer that sends a second event before the consumer has taken the first. -/
def rush : List (Action Nat) :=
  [.start (.register default ⟨1, "o"⟩), .resume 0,
    .start (.subscribe default none), .resume 1, .resume 1,
    .ingest default .start, .ingest default (.answer (.ok ())),
    .send default (.added 1), .send default (.added 2),
    .ingest default .take, .ingest default (.locate 7), .ingest default .record,
    .ingest default .emit,
    .ingest default .take, .ingest default (.locate 7), .ingest default .record,
    .ingest default .emit,
    .receive default ⟨1⟩]

theorem stream_of_rush :
    ∃ h facts s, (new { HubConfig.standard with queueCapacity := 1 }).run rush = some (h, facts) ∧
      .clear ∉ rush ∧ h.subscription? default ⟨1⟩ = some s ∧ s.member = true ∧
      s.queue.receiving = true ∧ h.dropped? default ⟨1⟩ = some 1 ∧ s.queue.items.length ≤ 1 := by
  have hclear : Action.clear ∉ rush := by decide
  have hrun : (new { HubConfig.standard with queueCapacity := 1 }).run rush = some (_, _) := rfl
  have hstream := @stream_of_run Nat _ _ _ _ default ⟨1⟩ _ hrun hclear rfl rfl rfl
  exact ⟨_, _, _, hrun, hclear, rfl, rfl, rfl, rfl, hstream.2.2⟩

end Hub

end WatchHub
