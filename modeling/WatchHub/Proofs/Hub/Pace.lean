import WatchHub.Proofs.Hub.Script

/-!
# The pace of a snapshot

A snapshot that has not come to its end can make a step, unless it awaits its items; and each of its
steps brings it nearer to its end (`Population.Stage.stepsLeft`). So it ends after a number of steps
that the number of its items bounds, however long the others keep the hub busy meanwhile.
-/

namespace WatchHub

variable {P : Type}

/-- The items that an observer answered with. -/
def Answer.items : Answer (List P) → List P
  | ok items => items
  | failed _ | crashed => []

namespace Population

/-- The most steps that it takes to offer the rest: five for an item of a snapshot, which is turned to,
added to the log and offered, and one to come to the end. -/
def Rest.stepsLeft : Rest P → Nat
  | items rest => 5 * rest.length + 1
  | history _ rest => 3 * rest.length + 1
  | nothing => 0

/-- The most steps that a snapshot makes with the items that it has got. -/
def Stage.stepsLeft : Stage P → Nat
  | spawned _ => 4
  | listing => 3
  | between rest => rest.stepsLeft
  | locating _ rest => (Rest.items rest).stepsLeft + 4
  | recording _ _ rest => (Rest.items rest).stepsLeft + 3
  | offering _ rest => rest.stepsLeft + 2
  | waiting _ rest => rest.stepsLeft + 1
  | seeking _ | reading _ _ | finished _ => 0

end Population

namespace Subscription

open Population.Stage (Performs)

variable {key : Key} {handle : Handle} {s : Subscription P} {answers : List (Answer (List P))}
  {deeds : List (Deed P)} {log : EventLog P} {move : Population.Move P} {out : Populated P}

lemma stepsLeft_settle (s : Subscription P) (offer : Offer) (rest : Population.Rest P) :
    (s.settle offer rest).population.stage.stepsLeft ≤ rest.stepsLeft := by
  cases rest <;> cases offer <;> simp [settle, moveTo, Population.Stage.stepsLeft]

/-- Every step of a snapshot brings it nearer to its end; only an answer gives it more to do. -/
theorem Populates.stepsLeft_lt (hp : Populates key handle log s move out)
    (h : s.population.stage.Performs answers deeds) :
    out.subscription.population.stage.stepsLeft <
      s.population.stage.stepsLeft + 5 * (move.answer?.toList.flatMap Answer.items).length := by
  -- Most steps shorten the way by themselves.
  have hnearer : ∀ {n : Nat}, out.subscription.population.stage.stepsLeft <
      s.population.stage.stepsLeft → out.subscription.population.stage.stepsLeft <
        s.population.stage.stepsLeft + n :=
    fun hlt => Nat.lt_of_lt_of_le hlt (Nat.le_add_right _ _)
  cases hp with
  | startClosed hstage | startListing hstage | quit hstage | answerCrashed hstage
  | answerFailed hstage | snapshotDone hstage | locate hstage | record hstage
  | offerWaits hstage =>
    apply hnearer
    simp [hstage, Population.Stage.stepsLeft, Population.Rest.stepsLeft, moveTo, complain]
  | snapshotHalted hstage | snapshotNext hstage =>
    apply hnearer
    simp only [hstage, Population.Stage.stepsLeft, Population.Rest.stepsLeft, moveTo,
      List.length_cons]
    omega
  | answerItems hstage =>
    simp [hstage, Population.Stage.stepsLeft, Population.Rest.stepsLeft, promise,
      Population.Move.answer?, Answer.items]
    omega
  | @offerRefused d rest hstage | @offerAccepted d rest hstage | @offerGone d rest hstage
  | @fill d rest hstage | @timeOut d rest hstage | @giveUp d rest hstage =>
    apply hnearer
    refine Nat.lt_of_le_of_lt (stepsLeft_settle _ _ rest) ?_
    simp only [hstage, Population.Stage.stepsLeft]
    omega
  | startSeeking hstage | seekFound hstage | seekRefused hstage | readHistory hstage
  | readRefused hstage | replayDone hstage | replayNext hstage | complaintDone hstage =>
    -- These are steps of a replay.
    rw [hstage] at h
    cases h

/-- An offer that has not been made can be made. -/
lemma exists_offer {d : Delivery P} {rest : Population.Rest P}
    (hstage : s.population.stage = .offering d rest) :
    ∃ out, Populates key handle log s .offer out := by
  cases hopen : s.closed || !s.member with
  | true => exact ⟨_, .offerRefused hstage hopen⟩
  | false =>
    cases hpush : (s.queue.push d).1 with
    | accepted => exact ⟨_, .offerAccepted hstage hopen hpush⟩
    | full => exact ⟨_, .offerWaits hstage hopen hpush⟩
    | gone => exact ⟨_, .offerGone hstage hopen hpush⟩

/-- An offer that waits can come to its end: by a slot, by the clock or as nobody takes it any more. -/
lemma exists_waiting {room : Nat} (hr : s.Ready room) {d : Delivery P} {rest : Population.Rest P}
    (hstage : s.population.stage = .waiting d rest) :
    ∃ move out, (∀ answer, move ≠ .answer answer) ∧ Populates key handle log s move out := by
  cases haccepts : s.accepts with
  | false => exact ⟨.giveUp, _, nofun, .giveUp hstage haccepts⟩
  | true =>
    cases hwaiter : s.queue.waiter with
    | queued => exact ⟨.timeOut, _, nofun, .timeOut hstage haccepts hwaiter⟩
    | granted => exact ⟨.fill, _, nofun, .fill hstage haccepts hwaiter⟩
    | none =>
      have hwaits := hr.waiter.1 hwaiter
      simp [Population.isWaiting, hstage] at hwaits

/-- A snapshot that has not come to its end can make a step, unless it awaits its items. -/
theorem exists_step (key : Key) (handle : Handle) (log : EventLog P) {room : Nat}
    (hr : s.Ready room) (h : s.population.stage.Performs answers deeds)
    (hgoing : s.population.isFinished = false) :
    (s.population.stage = .listing ∧ s.closed = false) ∨
      ∃ move out, (∀ answer, move ≠ .answer answer) ∧ Populates key handle log s move out := by
  generalize hstage : s.population.stage = stage at h
  have hended : ∀ {ending}, stage = .finished ending → False := by
    rintro ending rfl
    simp [Population.isFinished, hstage] at hgoing
  cases h with
  | spawned =>
    cases hclosed : s.closed with
    | true => exact .inr ⟨.start, _, nofun, .startClosed hstage hclosed⟩
    | false => exact .inr ⟨.start, _, nofun, .startListing hstage hclosed⟩
  | listing =>
    cases hclosed : s.closed with
    | true => exact .inr ⟨.quit, _, nofun, .quit hstage hclosed⟩
    | false => exact .inl ⟨rfl, rfl⟩
  | @between _ _ rest =>
    cases rest with
    | nil => exact .inr ⟨.next, _, nofun, .snapshotDone hstage⟩
    | cons item rest =>
      cases hclosed : s.closed with
      | true => exact .inr ⟨.next, _, nofun, .snapshotHalted hstage hclosed⟩
      | false => exact .inr ⟨.next, _, nofun, .snapshotNext hstage hclosed⟩
  | locating => exact .inr ⟨.locate 0, _, nofun, .locate hstage⟩
  | recording => exact .inr ⟨.record, _, nofun, .record hstage⟩
  | complaining | offering =>
    obtain ⟨out, hp⟩ : ∃ out, Populates key handle log s .offer out := exists_offer hstage
    exact .inr ⟨.offer, out, nofun, hp⟩
  | complaintWaits | waiting => exact .inr (exists_waiting hr hstage)
  | unanswered | crashed | complained | complete | halted | refused => exact (hended rfl).elim

end Subscription

namespace Hub

open Population.Stage (Performs)

variable {config : HubConfig} {actions more : List (Action P)} {facts told : List (Fact P)}
  {h h' : Hub P} {key : Key} {handle : Handle} {s : Subscription P}
  {answers : List (Answer (List P))} {deeds : List (Deed P)}

/-- What a population can do, the hub can do. -/
lemma Sound.step_of_populates (hs : h.Sound) (hsub : h.subscription? key handle = some s)
    {move : Population.Move P} {out : Populated P}
    (hp : s.Populates key handle h.log move out) :
    (h.step (.populate key handle move)).isSome = true := by
  obtain ⟨r, hreg, hget⟩ := exists_registration hsub
  have hout := hp.populate_eq
  rw [← hs.keyed hreg] at hout
  have hpopulate : (r.populate h.log handle move).isSome = true := by
    simp [Registration.populate, hget, hout]
  obtain ⟨ingested, hingested⟩ := Option.isSome_iff_exists.1 hpopulate
  simp [Hub.step, Hub.within, hreg, hingested]

/-- However a run goes, a snapshot makes no more steps than its items allow. -/
theorem Reached.paced (hr : Reached config actions facts h)
    (hsub : h.subscription? key handle = some s)
    (hperforms : s.population.stage.Performs answers deeds) (hrun : h.run more = some (h', told)) :
    ∃ s', h'.subscription? key handle = some s' ∧
      (more.filterMap (Action.move? key handle)).length + s'.population.stage.stepsLeft ≤
        s.population.stage.stepsLeft +
          5 * ((more.filterMap (Action.reply? key handle)).flatMap Answer.items).length := by
  induction more generalizing actions facts h told s answers deeds with
  | nil =>
    cases hrun
    exact ⟨s, hsub, by simp⟩
  | cons action more ih =>
    obtain ⟨h₁, told₁, told₂, hstep, hrest, rfl⟩ := run_cons hrun
    obtain ⟨s₁, hsub₁, hperforms₁⟩ := hr.sound.performs hstep hsub hperforms
    obtain ⟨s₂, hsub₂, hpace⟩ := ih (hr.step hstep) hsub₁ hperforms₁ hrest
    refine ⟨s₂, hsub₂, ?_⟩
    obtain ⟨s', hsub', hwork⟩ := hr.sound.own_or_other hstep hsub
    cases hsub₁.symm.trans hsub'
    rcases hwork with ⟨hpop, haction, -⟩ | ⟨move, out, rfl, rfl, hp, hpop⟩
    · rw [List.filterMap_cons, List.filterMap_cons, Action.move?_eq_none haction,
        Action.reply?_eq_none haction, ← hpop]
      exact hpace
    · have hnearer := hp.stepsLeft_lt hperforms
      rw [← hpop] at hnearer
      rw [List.filterMap_cons_some (Action.move?_populate move), List.length_cons,
        ← List.singleton_append, List.filterMap_append, Action.replies_populate,
        List.flatMap_append, List.length_append]
      omega

end Hub

end WatchHub
