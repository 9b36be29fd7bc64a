import Mathlib.Tactic.Lemma
import WatchHub.Hub.Populating

/-!
# What a population can do

The steps of a population as a relation, one rule for each thing that can happen: `Populates` holds
of a subscription, a move and what the step makes of them. Every step that can be made is an instance
of a rule (`Populates.of_populate`), so what a population keeps is shown rule by rule.
-/

namespace WatchHub

variable {P : Type}

lemma Population.stage_of_isFinished {p : Population P} (h : p.isFinished = true) :
    ∃ ending, p.stage = .finished ending := by
  unfold isFinished at h
  split at h
  · exact ⟨_, ‹_›⟩
  · cases h

namespace Subscription

/-- One step of the population of a subscription. -/
inductive Populates (key : Key) (handle : Handle) (log : EventLog P) (s : Subscription P) :
    Population.Move P → Populated P → Prop where
  | startClosed :
    s.population.stage = .spawned none → s.closed = true →
    Populates key handle log s .start ⟨log, s.moveTo (.finished .closed), []⟩
  | startListing :
    s.population.stage = .spawned none → s.closed = false →
    Populates key handle log s .start ⟨log, s.moveTo .listing, [.listed key handle]⟩
  | startSeeking {after} :
    s.population.stage = .spawned (some after) →
    Populates key handle log s .start ⟨log, s.moveTo (.seeking after), []⟩
  | answerItems {items} :
    s.population.stage = .listing →
    Populates key handle log s (.answer (.ok items))
      ⟨log, s.promise items.length (.items items), []⟩
  | answerFailed {failure} :
    s.population.stage = .listing →
    Populates key handle log s (.answer (.failed failure))
      ⟨log, s.complain failure.message, [.snapshotFailed key handle failure]⟩
  | answerCrashed :
    s.population.stage = .listing →
    Populates key handle log s (.answer .crashed) ⟨log, s.moveTo (.finished .crashed), []⟩
  | quit :
    s.population.stage = .listing → s.closed = true →
    Populates key handle log s .quit ⟨log, s.moveTo (.finished .closed), []⟩
  | seekFound {after id} :
    s.population.stage = .seeking after → log.find? key = some id →
    Populates key handle log s .seek ⟨log, s.moveTo (.reading after id), []⟩
  | seekRefused {after} :
    s.population.stage = .seeking after → log.find? key = none →
    Populates key handle log s .seek
      ⟨log, s.complain (WatchFailure.noSuchResource key).detail,
        [.replayRefused key handle (.noSuchResource key)]⟩
  | readHistory {after id entries} :
    s.population.stage = .reading after id → (log.logAt id).after? after = some entries →
    Populates key handle log s .read
      ⟨log, s.promise entries.length (.history after (entries.map Entry.delivery)),
        [.historyRead key handle after entries]⟩
  | readRefused {after id} :
    s.population.stage = .reading after id → (log.logAt id).after? after = none →
    Populates key handle log s .read
      ⟨log, s.complain (WatchFailure.versionNotFound key after.text).detail,
        [.replayRefused key handle (.versionNotFound key after.text)]⟩
  | snapshotDone :
    s.population.stage = .between (.items []) →
    Populates key handle log s .next
      ⟨log, s.moveTo (.finished .complete),
        [.snapshotDelivered key handle s.population.total s.population.skipped]⟩
  | snapshotHalted {item rest} :
    s.population.stage = .between (.items (item :: rest)) → s.closed = true →
    Populates key handle log s .next ⟨log, s.moveTo (.finished .closed), []⟩
  | snapshotNext {item rest} :
    s.population.stage = .between (.items (item :: rest)) → s.closed = false →
    Populates key handle log s .next ⟨log, s.moveTo (.locating (.added item) rest), []⟩
  | replayDone {after} :
    s.population.stage = .between (.history after []) →
    Populates key handle log s .next
      ⟨log, s.moveTo (.finished .complete),
        [.replayDelivered key handle after s.population.total s.population.skipped]⟩
  | replayNext {after d rest} :
    s.population.stage = .between (.history after (d :: rest)) →
    Populates key handle log s .next
      ⟨log, s.moveTo (.offering d (.history after rest)), []⟩
  | complaintDone :
    s.population.stage = .between .nothing →
    Populates key handle log s .next ⟨log, s.moveTo (.finished .failed), []⟩
  | locate {event rest epoch} :
    s.population.stage = .locating event rest →
    Populates key handle log s (.locate epoch)
      ⟨(log.locate key epoch).2, s.moveTo (.recording (log.locate key epoch).1 event rest),
        Fact.ofLocate log key epoch⟩
  | record {id event rest} :
    s.population.stage = .recording id event rest →
    Populates key handle log s .record
      ⟨(log.record id event).2,
        s.moveTo (.offering (.versioned event (log.record id event).1) (.items rest)),
        [.logged key (.population handle) id event (log.record id event).1]⟩
  | offerRefused {d rest} :
    s.population.stage = .offering d rest → (s.closed || !s.member) = true →
    Populates key handle log s .offer
      ⟨log, s.settle .closed rest, [.offered key handle d .closed]⟩
  | offerAccepted {d rest} :
    s.population.stage = .offering d rest → (s.closed || !s.member) = false →
    (s.queue.push d).1 = .accepted →
    Populates key handle log s .offer
      ⟨log, { s with queue := (s.queue.push d).2 }.settle .delivered rest,
        [.offered key handle d .delivered]⟩
  | offerGone {d rest} :
    s.population.stage = .offering d rest → (s.closed || !s.member) = false →
    (s.queue.push d).1 = .gone →
    Populates key handle log s .offer
      ⟨log, s.settle .closed rest, [.offered key handle d .closed]⟩
  | offerWaits {d rest} :
    s.population.stage = .offering d rest → (s.closed || !s.member) = false →
    (s.queue.push d).1 = .full →
    Populates key handle log s .offer
      ⟨log, { s with queue := s.queue.lineUp }.moveTo (.waiting d rest), []⟩
  | fill {d rest} :
    s.population.stage = .waiting d rest → s.accepts = true → s.queue.waiter = .granted →
    Populates key handle log s .fill
      ⟨log, { s with queue := s.queue.fill d }.settle .delivered rest,
        [.offered key handle d .delivered]⟩
  | timeOut {d rest} :
    s.population.stage = .waiting d rest → s.accepts = true → s.queue.waiter = .queued →
    Populates key handle log s .timeOut
      ⟨log, { s with queue := s.queue.withdraw }.settle .timedOut rest,
        [.offered key handle d .timedOut]⟩
  | giveUp {d rest} :
    s.population.stage = .waiting d rest → s.accepts = false →
    Populates key handle log s .giveUp
      ⟨log, { s with queue := s.queue.withdraw }.settle .closed rest,
        [.offered key handle d .closed]⟩

variable {key : Key} {handle : Handle} {log : EventLog P} {s : Subscription P}

lemma Populates.of_start {out : Populated P} (h : s.populate key handle log .start = some out) :
    Populates key handle log s .start out := by
  unfold populate at h
  cases hstage : s.population.stage with
  | spawned checkpoint =>
    rw [hstage] at h
    cases checkpoint with
    | none =>
      by_cases hc : s.closed = true
      · simp only [hc, if_true, Option.some.injEq] at h
        exact h ▸ .startClosed hstage hc
      · simp only [hc, Bool.false_eq_true, if_false, Option.some.injEq] at h
        exact h ▸ .startListing hstage (eq_false_of_ne_true hc)
    | some after =>
      simp only [Option.some.injEq] at h
      exact h ▸ .startSeeking hstage
  | _ => simp [hstage] at h

lemma Populates.of_answer {items : Answer (List P)} {out : Populated P}
    (h : s.populate key handle log (.answer items) = some out) :
    Populates key handle log s (.answer items) out := by
  unfold populate at h
  cases hstage : s.population.stage with
  | listing =>
    simp only [hstage, Option.some.injEq] at h
    cases items with
    | ok items => exact h ▸ .answerItems hstage
    | failed failure => exact h ▸ .answerFailed hstage
    | crashed => exact h ▸ .answerCrashed hstage
  | _ => simp [hstage] at h

lemma Populates.of_seek {out : Populated P} (h : s.populate key handle log .seek = some out) :
    Populates key handle log s .seek out := by
  unfold populate at h
  cases hstage : s.population.stage with
  | seeking after =>
    cases hfind : log.find? key with
    | some id =>
      simp only [hstage, hfind, Option.some.injEq] at h
      exact h ▸ .seekFound hstage hfind
    | none =>
      simp only [hstage, hfind, readBack, Option.some.injEq] at h
      exact h ▸ .seekRefused hstage hfind
  | _ => simp [hstage] at h

lemma Populates.of_read {out : Populated P} (h : s.populate key handle log .read = some out) :
    Populates key handle log s .read out := by
  unfold populate at h
  cases hstage : s.population.stage with
  | reading after id =>
    simp only [hstage, EventLog.replayOf] at h
    cases hafter : (log.logAt id).after? after with
    | some entries =>
      simp only [hafter, readBack, Option.some.injEq] at h
      exact h ▸ .readHistory hstage hafter
    | none =>
      simp only [hafter, readBack, Option.some.injEq] at h
      exact h ▸ .readRefused hstage hafter
  | _ => simp [hstage] at h

lemma Populates.of_next {out : Populated P} (h : s.populate key handle log .next = some out) :
    Populates key handle log s .next out := by
  unfold populate at h
  cases hstage : s.population.stage with
  | between rest =>
    simp only [hstage, Option.some.injEq] at h
    cases rest with
    | items items =>
      cases items with
      | nil => exact h ▸ .snapshotDone hstage
      | cons item rest =>
        by_cases hc : s.closed = true
        · simp only [advance, hc, if_true] at h
          exact h ▸ .snapshotHalted hstage hc
        · simp only [advance, hc, Bool.false_eq_true, if_false] at h
          exact h ▸ .snapshotNext hstage (eq_false_of_ne_true hc)
    | history after ds =>
      cases ds with
      | nil => exact h ▸ .replayDone hstage
      | cons d rest => exact h ▸ .replayNext hstage
    | nothing => exact h ▸ .complaintDone hstage
  | _ => simp [hstage] at h

lemma Populates.of_offer {out : Populated P} (h : s.populate key handle log .offer = some out) :
    Populates key handle log s .offer out := by
  unfold populate at h
  cases hstage : s.population.stage with
  | offering d rest =>
    simp only [hstage, Option.some.injEq] at h
    by_cases hc : (s.closed || !s.member) = true
    · simp only [offer, hc, if_true, conclude] at h
      exact h ▸ .offerRefused hstage hc
    · have hc := eq_false_of_ne_true hc
      simp only [offer, hc, Bool.false_eq_true, if_false] at h
      rcases hpush : s.queue.push d with ⟨push, queue⟩
      rw [hpush] at h
      have hfst : (s.queue.push d).1 = push := congrArg Prod.fst hpush
      have hsnd : (s.queue.push d).2 = queue := congrArg Prod.snd hpush
      cases push with
      | accepted =>
        have := @Populates.offerAccepted P key handle log s _ _ hstage hc hfst
        rw [hsnd] at this
        exact h ▸ this
      | gone => exact h ▸ .offerGone hstage hc hfst
      | full => exact h ▸ .offerWaits hstage hc hfst
  | _ => simp [hstage] at h

lemma Populates.of_waiting {move : Population.Move P} {out : Populated P}
    (hmove : move = .fill ∨ move = .timeOut ∨ move = .giveUp)
    (h : s.populate key handle log move = some out) : Populates key handle log s move out := by
  unfold populate at h
  cases hstage : s.population.stage with
  | waiting d rest =>
    rw [hstage] at h
    rcases hmove with rfl | rfl | rfl
    · by_cases hw : (s.accepts && s.queue.waiter = .granted) = true
      · simp only [hw, if_true, Option.some.injEq] at h
        simp only [Bool.and_eq_true, decide_eq_true_eq] at hw
        exact h ▸ .fill hstage hw.1 hw.2
      · simp [hw] at h
    · by_cases hw : (s.accepts && s.queue.waiter = .queued) = true
      · simp only [hw, if_true, Option.some.injEq] at h
        simp only [Bool.and_eq_true, decide_eq_true_eq] at hw
        exact h ▸ .timeOut hstage hw.1 hw.2
      · simp [hw] at h
    · by_cases hw : s.accepts = true
      · simp [hw] at h
      · simp only [hw, Bool.false_eq_true, if_false, Option.some.injEq] at h
        exact h ▸ .giveUp hstage (eq_false_of_ne_true hw)
  | _ => rcases hmove with rfl | rfl | rfl <;> simp [hstage] at h

/-- Every step of a population that can be made is one of the rules. -/
theorem Populates.of_populate {move : Population.Move P} {out : Populated P}
    (h : s.populate key handle log move = some out) : Populates key handle log s move out := by
  cases move with
  | start => exact .of_start h
  | answer items => exact .of_answer h
  | quit =>
    unfold populate at h
    cases hstage : s.population.stage with
    | listing =>
      by_cases hc : s.closed = true
      · simp only [hstage, hc, if_true, Option.some.injEq] at h
        exact h ▸ .quit hstage hc
      · simp [hstage, hc] at h
    | _ => simp [hstage] at h
  | seek => exact .of_seek h
  | read => exact .of_read h
  | next => exact .of_next h
  | locate epoch =>
    unfold populate at h
    cases hstage : s.population.stage with
    | locating event rest =>
      simp only [hstage, Option.some.injEq] at h
      exact h ▸ .locate hstage
    | _ => simp [hstage] at h
  | record =>
    unfold populate at h
    cases hstage : s.population.stage with
    | recording id event rest =>
      simp only [hstage, Option.some.injEq] at h
      exact h ▸ .record hstage
    | _ => simp [hstage] at h
  | offer => exact .of_offer h
  | fill => exact .of_waiting (.inl rfl) h
  | timeOut => exact .of_waiting (.inr (.inl rfl)) h
  | giveUp => exact .of_waiting (.inr (.inr rfl)) h

/-- Every rule is a step that can be made. -/
theorem Populates.populate_eq {move : Population.Move P} {out : Populated P}
    (h : Populates key handle log s move out) : s.populate key handle log move = some out := by
  have hpushed : ∀ {d : Delivery P} {push : Push}, (s.queue.push d).1 = push →
      s.queue.push d = (push, (s.queue.push d).2) := by
    rintro d push rfl
    rfl
  cases h with
  | offerRefused hstage hclosed => simp only [populate, hstage, offer, hclosed, if_true, conclude]
  | offerAccepted hstage hopen hpush | offerGone hstage hopen hpush
  | offerWaits hstage hopen hpush =>
    simp only [populate, hstage, offer, hopen]
    rw [hpushed hpush]
    rfl
  | _ => simp [populate, listed, readBack, advance, EventLog.replayOf, conclude, *]

end Subscription

end WatchHub
