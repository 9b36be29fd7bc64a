import WatchHub.Proofs.Hub.Course
import WatchHub.Proofs.Hub.Publication

/-!
# Complaints

A population that fails has one thing left to offer: an error without a version. The offer waits no
longer than any other, and nobody looks at what becomes of it. So the consumer learns of the failure
exactly if the offer does not time out, and it can time out only while the queue is full.
-/

namespace WatchHub

variable {P : Type}

open WatchHub.Fact (failure? offer? delivery? receipt? emission? acceptance?)

namespace Subscription

variable {room : Nat} {key : Key} {handle : Handle} {checkpoint : Option Version}
  {past : List (Fact P)} {s : Subscription P}

/-- A population that failed still has its error to offer, or has ended with this one offer. -/
theorem Lived.complaint (hl : Lived room key handle checkpoint past s) (ho : s.IsOpen)
    {reason : String} (hfailed : reason ∈ past.filterMap (failure? key handle)) :
    (s.population.isFinished = false ∧ past.filterMap (offer? key handle) = [] ∧
        (s.population.stage = .offering (.unversioned reason) .nothing ∨
          s.population.stage = .waiting (.unversioned reason) .nothing)) ∨
      (s.population.isFinished = true ∧ ∃ offer, offer ≠ .closed ∧
        past.filterMap (offer? key handle) = [(.unversioned reason, offer)]) := by
  have hcourse := hl.course
  obtain ⟨hnever, -⟩ := hl.not_closed ho
  have hnot : ∀ {failures : List String}, failures = past.filterMap (failure? key handle) →
      failures ≠ [] := by
    rintro _ rfl hnil
    rw [hnil] at hfailed
    cases hfailed
  -- At most stages the course of the population has no failure yet.
  unfold Population.isFinished
  cases hstage : s.population.stage with
  | spawned | listing | seeking | reading =>
    rw [hstage] at hcourse
    exact absurd hcourse.2.1 (hnot rfl)
  | locating | recording =>
    rw [hstage] at hcourse
    exact absurd hcourse.2.1 (hnot rfl)
  | between rest =>
    rw [hstage] at hcourse
    cases rest with
    | items | history => exact absurd hcourse.2.1 (hnot rfl)
    | nothing => exact hcourse.elim
  | offering d rest | waiting d rest =>
    rw [hstage] at hcourse
    cases rest with
    | items | history => exact absurd hcourse.2.1 (hnot rfl)
    | nothing =>
      obtain ⟨-, hoffers, reason', hfailures, rfl⟩ := hcourse
      rw [hfailures, List.mem_singleton] at hfailed
      subst hfailed
      exact .inl ⟨rfl, hoffers, by simp⟩
  | finished ending =>
    rw [hstage] at hcourse
    cases ending with
    | complete | crashed => exact absurd hcourse.2.1 (hnot rfl)
    | closed => exact absurd hcourse.1 (hnot rfl)
    | failed =>
      obtain ⟨-, reason', offer, hfailures, hoffers⟩ := hcourse
      rw [hfailures, List.mem_singleton] at hfailed
      subst hfailed
      refine .inr ⟨rfl, offer, ?_, hoffers⟩
      rintro rfl
      exact hnever _ (hoffers ▸ List.mem_cons_self)

end Subscription

namespace Hub

variable {config : HubConfig} {actions : List (Action P)} {facts told : List (Fact P)}
  {h h' : Hub P} {key : Key} {handle : Handle} {s : Subscription P}

/-- An offer times out only while every slot of the queue holds an event. -/
lemma Reached.full_of_timedOut (hr : Reached config actions facts h)
    (hsub : h.subscription? key handle = some s) {action : Action P}
    (hstep : h.step action = some (h', told)) {d : Delivery P}
    (hd : .offered key handle d .timedOut ∈ told) :
    s.queue.items.length = config.queueRoom := by
  obtain ⟨s', -, hturn⟩ := (hr.sound.changes hstep).turn hr.sound hsub
  have hd' : .offered key handle d .timedOut ∈ told.filter (Fact.concerns key handle) :=
    List.mem_filter.2 ⟨hd, by simp [Fact.concerns]⟩
  generalize told.filter (Fact.concerns key handle) = about at hturn hd'
  cases hturn with
  | populated hp =>
    have hd' := List.mem_of_mem_filter hd'
    cases hp with
    | timeOut hstage haccepts hwaiter =>
      have hbalanced := (hr.ready hsub).balanced
      have hfree := hbalanced.queued hwaiter (Bool.and_eq_true_iff.1 haccepts).2
      have hslots := hbalanced.full hfree
      rw [Queue.granted_of_ne (by simp [hwaiter])] at hslots
      exact hslots
    | locate => cases Fact.mem_ofLocate hd'
    | _ => simp at hd'
  | _ => simp at hd'

/-- What the consumer of an open subscription learns of a population that failed: until the population
ends its error is still to come, and then the error has come, once, exactly if its offer did not time
out, which it can only while the queue is full. -/
theorem complaint_of_run (hrun : (Hub.new config).run actions = some (h, facts))
    {before since : List (Fact P)} {checkpoint : Option Version}
    (hfacts : facts = before ++ .subscribed key handle checkpoint :: since)
    (hsub : h.subscription? key handle = some s) (hmember : s.member = true)
    (hreceiving : s.queue.receiving = true) {reason : String}
    (hfailed : (∃ failure, .snapshotFailed key handle failure ∈ since ∧ failure.message = reason) ∨
      ∃ failure, .replayRefused key handle failure ∈ since ∧ failure.detail = reason) :
    let errors := (since.filterMap (receipt? key handle) ++ s.queue.items).filter fun d =>
      d.version.isNone
    (s.population.isFinished = false → errors = [] ∧
      (s.population.stage = .offering (.unversioned reason) .nothing ∨
        s.population.stage = .waiting (.unversioned reason) .nothing)) ∧
    (s.population.isFinished = true →
      (errors = [.unversioned reason] ↔
        .offered key handle (.unversioned reason) .timedOut ∉ since) ∧
      (errors = [] ↔ .offered key handle (.unversioned reason) .timedOut ∈ since)) ∧
    ∀ past action future h₀ told₀ h₁ told s₀ d, actions = past ++ action :: future →
      (Hub.new config).run past = some (h₀, told₀) → h₀.step action = some (h₁, told) →
      h₀.subscription? key handle = some s₀ → .offered key handle d .timedOut ∈ told →
      s₀.queue.items.length = config.queueRoom := by
  intro errors
  have hr : Reached config actions facts h := .of_run hrun
  obtain ⟨s', hsub', hlived⟩ := hr.lived hfacts
  cases hsub.symm.trans hsub'
  have ho : s.IsOpen := ⟨hmember, hreceiving⟩
  have hreason : reason ∈ (since.filter (Fact.concerns key handle)).filterMap
      (failure? key handle) := by
    rw [Fact.failure?_concerns]
    rcases hfailed with ⟨failure, hmem, rfl⟩ | ⟨failure, hmem, rfl⟩
    · exact List.mem_filterMap.2 ⟨_, hmem, if_pos ⟨rfl, rfl⟩⟩
    · exact List.mem_filterMap.2 ⟨_, hmem, if_pos ⟨rfl, rfl⟩⟩
  -- The live events have versions, so the errors are among what the population delivered.
  have herrors : errors =
      ((since.filterMap (offer? key handle)).filterMap fun o =>
        if o.2 = .delivered then some o.1 else none).filter fun d => d.version.isNone := by
    rw [← Subscription.deliveries_eq_filterMap]
    have hmerged := hlived.accounts.merged hreceiving
    have haccepted := hlived.accounts.accepted
    rw [hlived.accounts.reached hmember] at haccepted
    simp only [Fact.acceptance?_concerns, Fact.delivery?_concerns, Fact.receipt?_concerns,
      Fact.emission?_concerns] at hmerged haccepted
    refine (hmerged.filter fun d => d.version.isNone).eq_of_left_nil ?_
    refine List.filter_eq_nil_iff.2 fun d hd => ?_
    have hemitted : .emitted key d ∈ facts := by
      simp [hfacts, Fact.mem_emission.1 (haccepted.subset hd)]
    obtain ⟨id, event, version, rfl, -⟩ := hr.published.logged hemitted
    exact nofun
  have hcomplaint := hlived.complaint ho hreason
  rw [Fact.offer?_concerns] at hcomplaint
  refine ⟨fun hfinished => ?_, fun hfinished => ?_, ?_⟩
  · rcases hcomplaint with ⟨-, hoffers, hstage⟩ | ⟨hfinished', -⟩
    · refine ⟨?_, hstage⟩
      rw [herrors, hoffers]
      rfl
    · cases hfinished.symm.trans hfinished'
  · rcases hcomplaint with ⟨hfinished', -⟩ | ⟨-, offer, hclosed, hoffers⟩
    · cases hfinished.symm.trans hfinished'
    · have htimedOut : .offered key handle (.unversioned reason) .timedOut ∈ since ↔
          offer = .timedOut := by
        rw [← Fact.mem_offer, hoffers]
        simp [eq_comm]
      rw [htimedOut, herrors, hoffers]
      cases offer with
      | delivered => simp [Delivery.unversioned]
      | timedOut => simp
      | closed => exact absurd rfl hclosed
  · intro past action future h₀ told₀ h₁ told s₀ d hactions hpast hstep hsub₀ hd
    exact (Reached.of_run hpast).full_of_timedOut hsub₀ hstep hd

/-- A checkpoint of a log that was never opened. -/
def refusal : List (Action Nat) :=
  [.start (.register default ⟨1, "o"⟩), .resume 0,
    .start (.subscribe default (some ⟨7, 1⟩)), .resume 1, .resume 1,
    .populate default ⟨1⟩ .start, .populate default ⟨1⟩ .seek, .populate default ⟨1⟩ .offer]

theorem complaint_of_refusal :
    ∃ h facts s, (new .standard).run refusal = some (h, facts) ∧
      (.replayRefused default ⟨1⟩ (.noSuchResource default)) ∈ facts ∧
      h.subscription? default ⟨1⟩ = some s ∧ s.member = true ∧ s.queue.receiving = true ∧
      s.population.isFinished = true ∧
      s.queue.items.filter (fun d => d.version.isNone) =
        [.unversioned (WatchFailure.noSuchResource default).detail] := by
  have hrun : (new .standard).run refusal = some (_, [.registered default "o",
    .returned 0 .registered] ++ .subscribed default ⟨1⟩ (some ⟨7, 1⟩) ::
      [.returned 1 (.subscribed ⟨1⟩), .replayRefused default ⟨1⟩ (.noSuchResource default),
        .offered default ⟨1⟩ (.unversioned (WatchFailure.noSuchResource default).detail)
          .delivered]) := rfl
  have hcomplaint := @complaint_of_run Nat _ _ _ _ default ⟨1⟩ _ hrun _ _ _ rfl rfl rfl rfl _
    (.inr ⟨.noSuchResource default, by simp, rfl⟩)
  obtain ⟨hlearned, -⟩ := hcomplaint.2.1 rfl
  exact ⟨_, _, _, hrun, by simp, rfl, rfl, rfl, rfl, hlearned.2 (by simp)⟩

/-- A snapshot that fails while a live event fills the queue and nobody takes it in time. -/
def silence : List (Action Nat) :=
  [.start (.register default ⟨1, "o"⟩), .resume 0,
    .start (.subscribe default none), .resume 1, .resume 1, .populate default ⟨1⟩ .start,
    .ingest default .start, .ingest default (.answer (.ok ())), .send default (.added 1),
    .ingest default .take, .ingest default (.locate 7), .ingest default .record,
    .ingest default .emit,
    .populate default ⟨1⟩ (.answer (.failed (.list "o" "down"))),
    .populate default ⟨1⟩ .offer, .populate default ⟨1⟩ .timeOut,
    .receive default ⟨1⟩, .receive default ⟨1⟩]

/-- The consumer keeps receiving and never learns of the failure. -/
theorem silent_failure :
    ∃ h facts s, (new { HubConfig.standard with queueCapacity := 1 }).run silence =
        some (h, facts) ∧
      .snapshotFailed default ⟨1⟩ (.list "o" "down") ∈ facts ∧
      h.subscription? default ⟨1⟩ = some s ∧ s.member = true ∧ s.queue.receiving = true ∧
      s.population.isFinished = true ∧
      (facts.filterMap (receipt? default ⟨1⟩) ++ s.queue.items).filter
        (fun d => d.version.isNone) = [] :=
  ⟨_, _, _, rfl, by decide, rfl, rfl, rfl, rfl, rfl⟩

end Hub

end WatchHub
