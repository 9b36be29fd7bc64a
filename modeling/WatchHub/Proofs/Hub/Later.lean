import WatchHub.Proofs.Hub.Accounts

/-!
# What is given up for good

A subscription that has left the fan-out never comes back, a consumer that has let go of its queue
never takes it up again, and a hub that was stopped stays stopped. So what a subscription still has
at the end of a run it had all along.
-/

namespace WatchHub

variable {P : Type}

namespace Subscription

/-- What the later subscription still has, the earlier one had. -/
structure Later (s s' : Subscription P) : Prop where
  member : s'.member = true → s.member = true
  receiving : s'.queue.receiving = true → s.queue.receiving = true

lemma Later.refl (s : Subscription P) : Later s s :=
  ⟨id, id⟩

lemma Later.trans {s s' s'' : Subscription P} (h : Later s s') (h' : Later s' s'') :
    Later s s'' :=
  ⟨fun hm => h.member (h'.member hm), fun hr => h.receiving (h'.receiving hr)⟩

lemma Turn.later {key : Key} {handle : Handle} {s s' : Subscription P} {told : List (Fact P)}
    (h : Turn key handle s told s') : Later s s' := by
  cases h with
  | rest | passed => exact .refl s
  | @live d hm =>
    refine ⟨fun _ => hm, fun hr => ?_⟩
    rwa [queue_live, Queue.receiving_push] at hr
  | pruned hm | unsubscribed hm | closed hm => exact ⟨fun _ => hm, id⟩
  | populated hp =>
    exact ⟨fun h => hp.keeps.member_eq ▸ h, fun h => hp.serves.receiving_eq ▸ h⟩
  | received hreceive =>
    obtain ⟨queue, hqueue, rfl⟩ := queue_receive hreceive
    obtain ⟨items, -, rfl⟩ := Queue.receive?_eq_some hqueue
    refine ⟨id, fun hr => ?_⟩
    rwa [Queue.receiving_freeSlot] at hr
  | hungUp => exact ⟨id, nofun⟩

/-- Several turns of a subscription, with what was told about it. -/
inductive Turns (key : Key) (handle : Handle) :
    Subscription P → List (Fact P) → Subscription P → Prop where
  | nil {s} : Turns key handle s [] s
  | cons {s told s' told' s''} :
    Turn key handle s told s' → Turns key handle s' told' s'' →
    Turns key handle s (told ++ told') s''

lemma Turns.later {key : Key} {handle : Handle} {s s' : Subscription P} {told : List (Fact P)}
    (h : Turns key handle s told s') : Later s s' := by
  induction h with
  | nil => exact .refl _
  | cons hturn _ ih => exact hturn.later.trans ih

end Subscription

namespace Hub

variable {config : HubConfig} {actions : List (Action P)} {facts told : List (Fact P)}
  {h h' : Hub P} {key : Key} {handle : Handle}

/-- A run is a number of turns of every subscription there is. -/
theorem Reached.turns (hr : Reached config actions facts h) {more : List (Action P)}
    (hrun : h.run more = some (h', told)) {s : Subscription P}
    (hsub : h.subscription? key handle = some s) :
    ∃ s', h'.subscription? key handle = some s' ∧
      s.Turns key handle (told.filter (Fact.concerns key handle)) s' := by
  induction more generalizing actions facts h told s with
  | nil =>
    cases hrun
    exact ⟨s, hsub, .nil⟩
  | cons action more ih =>
    obtain ⟨h₁, told₁, told₂, hstep, hrest, rfl⟩ := run_cons hrun
    obtain ⟨s₁, hsub₁, hturn⟩ := (hr.sound.changes hstep).turn hr.sound hsub
    obtain ⟨s₂, hsub₂, hturns⟩ := ih (hr.step hstep) hrest hsub₁
    rw [List.filter_append]
    exact ⟨s₂, hsub₂, .cons hturn hturns⟩

/-- A subscription outlives every run, and gains nothing by it. -/
theorem Reached.later (hr : Reached config actions facts h) {more : List (Action P)}
    (hrun : h.run more = some (h', told)) {s : Subscription P}
    (hsub : h.subscription? key handle = some s) :
    ∃ s', h'.subscription? key handle = some s' ∧ s.Later s' := by
  obtain ⟨s', hsub', hturns⟩ := hr.turns hrun hsub
  exact ⟨s', hsub', hturns.later⟩

/-- Only a hub that was stopped comes to the end of a shutdown. -/
lemma Changes.stopped_of_told {action : Action P} (hc : Changes h action told h') {n : Nat}
    (hn : .stopped n ∈ told) : h.stopped = true := by
  cases hc with
  | aside _ _ _ htold => exact absurd rfl ((htold _ hn).2 n)
  | joined => cases isMembership_joined hn
  | left => cases isMembership_left hn
  | closed hstopped | stopped hstopped => exact hstopped
  | ingested _ hi => cases hi.key?_of_mem hn
  | populated _ _ hp => cases hp.key?_of_mem hn
  | located => cases Fact.mem_ofLocate hn
  | _ => simp at hn

/-- A hub that came to the end of a shutdown stays stopped. -/
theorem Reached.stopped_of_told (hr : Reached config actions facts h) {n : Nat}
    (hn : .stopped n ∈ facts) : h.stopped = true := by
  induction hr with
  | new => exact absurd hn List.not_mem_nil
  | step hr hstep ih =>
    refine (Follows.of_step hstep).stopped ?_
    rcases List.mem_append.1 hn with hn | hn
    · exact ih hn
    · exact (hr.sound.changes hstep).stopped_of_told hn

end Hub

end WatchHub
