import Mathlib.Tactic.Lemma
import WatchHub.Proofs.Hub.Audience
import WatchHub.Hub.Registration

/-!
# What an ingest can do

The steps of an ingest as a relation, one rule for each thing that can happen, in the manner of
`Subscription.Populates`. Every step that can be made is an instance of a rule
(`Ingests.of_step`).
-/

namespace WatchHub

variable {P : Type}

namespace Ingest

/-- What has come to its end takes no further step. -/
lemma isOver_of_isFinished {i : Ingest P} (h : i.isFinished = true) : i.isOver = true := by
  unfold isFinished at h
  split at h
  · simp [isOver, *]
  · cases h

lemma isFinished_of_not_isOver {i : Ingest P} (h : i.isOver = false) : i.isFinished = false :=
  eq_false_of_ne_true fun hf => nomatch h.symm.trans (isOver_of_isFinished hf)

lemma isDismissed_of_isFinished {i : Ingest P} (h : i.isFinished = true) :
    i.isDismissed = true := by
  rw [isDismissed, h, Bool.true_or]

end Ingest

namespace Registration

@[simp]
lemma stage_moveTo (r : Registration P) (stage : Ingest.Stage P) :
    (r.moveTo stage).ingest.stage = stage :=
  rfl

@[simp]
lemma inbox_moveTo (r : Registration P) (stage : Ingest.Stage P) :
    (r.moveTo stage).ingest.inbox = r.ingest.inbox :=
  rfl

@[simp]
lemma aborted_moveTo (r : Registration P) (stage : Ingest.Stage P) :
    (r.moveTo stage).ingest.aborted = r.ingest.aborted :=
  rfl

lemma stage_send (r : Registration P) (event : Event P) :
    (r.send event).ingest.stage = r.ingest.stage := by
  unfold Registration.send
  split <;> rfl

lemma aborted_send (r : Registration P) (event : Event P) :
    (r.send event).ingest.aborted = r.ingest.aborted := by
  unfold Registration.send
  split <;> rfl

/-- One step of the ingest of a registration. -/
inductive Ingests (stopped : Bool) (log : EventLog P) (r : Registration P) :
    Ingest.Move → Ingested P → Prop where
  | startCancelled :
    r.ingest.stage = .spawned → stopped = true →
    Ingests stopped log r .start ⟨log, r.moveTo (.finished .cancelled), []⟩
  | startWatching :
    r.ingest.stage = .spawned → stopped = false →
    Ingests stopped log r .start ⟨log, r.moveTo .watching, [.watched r.key]⟩
  | answerStream {u} :
    r.ingest.stage = .watching →
    Ingests stopped log r (.answer (.ok u))
      ⟨log, r.moveTo .streaming, [.running r.key r.observer.name]⟩
  | answerFailed {failure} :
    r.ingest.stage = .watching →
    Ingests stopped log r (.answer (.failed failure))
      ⟨log, r.moveTo (.locating (.error failure.message) true),
        [.setupFailed r.key r.observer.name failure]⟩
  | answerCrashed :
    r.ingest.stage = .watching →
    Ingests stopped log r (.answer .crashed) ⟨log, r.moveTo (.finished .crashed), []⟩
  | stopWatching :
    r.ingest.stage = .watching → stopped = true →
    Ingests stopped log r .stop ⟨log, r.moveTo (.finished .cancelled), []⟩
  | stopStreaming :
    r.ingest.stage = .streaming → stopped = true →
    Ingests stopped log r .stop ⟨log, r.moveTo (.finished .cancelled), [.cancelled r.key]⟩
  | take {event inbox} :
    r.ingest.stage = .streaming → r.ingest.inbox = event :: inbox →
    Ingests stopped log r .take
      ⟨log, { r with ingest := { r.ingest with inbox := inbox } }.moveTo (.locating event false),
        [.taken r.key event]⟩
  | finish :
    r.ingest.stage = .streaming → r.ingest.inbox = [] → r.ingest.ended = true →
    Ingests stopped log r .finish
      ⟨log, r.moveTo (.finished .streamEnded), [.streamEnded r.key]⟩
  | locate {event last epoch} :
    r.ingest.stage = .locating event last →
    Ingests stopped log r (.locate epoch)
      ⟨(log.locate r.key epoch).2, r.moveTo (.recording (log.locate r.key epoch).1 event last),
        Fact.ofLocate log r.key epoch⟩
  | record {id event last} :
    r.ingest.stage = .recording id event last →
    Ingests stopped log r .record
      ⟨(log.record id event).2,
        r.moveTo (.emitting (.versioned event (log.record id event).1) last),
        [.logged r.key .ingest id event (log.record id event).1]⟩
  | emit {d last} :
    r.ingest.stage = .emitting d last →
    Ingests stopped log r .emit
      ⟨log, { r with audience := (r.audience.emit d).1 }.moveTo
        (if last then .finished .setupFailed else .streaming), (r.audience.emit d).2⟩
  | wake :
    r.ingest.isOver = false → r.ingest.inTurn = false →
    Ingests stopped log r .wake ⟨log, r.setTurn true, []⟩
  | rest :
    r.ingest.isOver = false → r.ingest.inTurn = true → r.ingest.aborted = false →
    Ingests stopped log r .rest ⟨log, r.setTurn false, []⟩
  | cutOff :
    r.ingest.isOver = false → r.ingest.inTurn = true → r.ingest.aborted = true →
    Ingests stopped log r .rest ⟨log, r.moveTo (.finished .aborted), []⟩
  | drop :
    r.ingest.stage = .felled →
    Ingests stopped log r .drop ⟨log, r.moveTo (.finished .aborted), []⟩

variable {stopped : Bool} {log : EventLog P} {r : Registration P}

lemma Ingests.of_stop {out : Ingested P} (h : r.step stopped log .stop = some out) :
    Ingests stopped log r .stop out := by
  unfold step at h
  cases hstage : r.ingest.stage with
  | watching =>
    by_cases hstopped : stopped = true
    · simp only [hstage, hstopped, if_true, Option.some.injEq] at h
      exact h ▸ .stopWatching hstage hstopped
    · simp [hstage, hstopped] at h
  | streaming =>
    by_cases hstopped : stopped = true
    · simp only [hstage, hstopped, if_true, Option.some.injEq] at h
      exact h ▸ .stopStreaming hstage hstopped
    · simp [hstage, hstopped] at h
  | _ => simp [hstage] at h

lemma Ingests.of_answer {stream : Answer Unit} {out : Ingested P}
    (h : r.step stopped log (.answer stream) = some out) :
    Ingests stopped log r (.answer stream) out := by
  unfold step at h
  cases hstage : r.ingest.stage with
  | watching =>
    simp only [hstage, Option.some.injEq] at h
    cases stream with
    | ok u => exact h ▸ .answerStream hstage
    | failed failure => exact h ▸ .answerFailed hstage
    | crashed => exact h ▸ .answerCrashed hstage
  | _ => simp [hstage] at h

lemma Ingests.of_stream {move : Ingest.Move} {out : Ingested P}
    (hmove : move = .take ∨ move = .finish) (h : r.step stopped log move = some out) :
    Ingests stopped log r move out := by
  unfold step at h
  cases hstage : r.ingest.stage with
  | streaming =>
    rw [hstage] at h
    rcases hmove with rfl | rfl
    · cases hinbox : r.ingest.inbox with
      | nil => simp [hinbox] at h
      | cons event inbox =>
        simp only [hinbox, Option.some.injEq] at h
        exact h ▸ .take hstage hinbox
    · by_cases hend : (r.ingest.inbox.isEmpty && r.ingest.ended) = true
      · simp only [hend, if_true, Option.some.injEq] at h
        simp only [Bool.and_eq_true, List.isEmpty_iff] at hend
        exact h ▸ .finish hstage hend.1 hend.2
      · simp [hend] at h
  | _ => rcases hmove with rfl | rfl <;> simp [hstage] at h

/-- A turn can begin and end at every stage but the last two. -/
lemma step_wake (h : r.ingest.isOver = false) :
    r.step stopped log .wake =
      if r.ingest.inTurn then none else some ⟨log, r.setTurn true, []⟩ := by
  unfold step
  cases hstage : r.ingest.stage <;> simp [Ingest.isOver, hstage] at h ⊢

lemma step_rest (h : r.ingest.isOver = false) :
    r.step stopped log .rest =
      if !r.ingest.inTurn then none
      else if r.ingest.aborted then some ⟨log, r.moveTo (.finished .aborted), []⟩
      else some ⟨log, r.setTurn false, []⟩ := by
  unfold step
  cases hstage : r.ingest.stage <;> simp [Ingest.isOver, hstage] at h ⊢

/-- An ingest that is over can only be dropped. -/
lemma step_of_isOver {move : Ingest.Move} (h : r.ingest.isOver = true) (hmove : move ≠ .drop) :
    r.step stopped log move = none := by
  unfold step
  cases hstage : r.ingest.stage with
  | felled => cases move <;> first | rfl | exact absurd rfl hmove
  | finished e => cases move <;> rfl
  | _ => simp [Ingest.isOver, hstage] at h

lemma Ingests.of_wake {out : Ingested P} (h : r.step stopped log .wake = some out) :
    Ingests stopped log r .wake out := by
  cases hover : r.ingest.isOver with
  | true => rw [step_of_isOver hover (by simp)] at h; cases h
  | false =>
    rw [step_wake hover] at h
    cases hturn : r.ingest.inTurn with
    | true => simp [hturn] at h
    | false =>
      simp only [hturn, Bool.false_eq_true, if_false, Option.some.injEq] at h
      exact h ▸ .wake hover hturn

lemma Ingests.of_rest {out : Ingested P} (h : r.step stopped log .rest = some out) :
    Ingests stopped log r .rest out := by
  cases hover : r.ingest.isOver with
  | true => rw [step_of_isOver hover (by simp)] at h; cases h
  | false =>
    rw [step_rest hover] at h
    cases hturn : r.ingest.inTurn with
    | false => simp [hturn] at h
    | true =>
      cases haborted : r.ingest.aborted with
      | true =>
        simp only [hturn, haborted, Bool.not_true, Bool.false_eq_true, if_false, if_true,
          Option.some.injEq] at h
        exact h ▸ .cutOff hover hturn haborted
      | false =>
        simp only [hturn, haborted, Bool.not_true, Bool.false_eq_true, if_false,
          Option.some.injEq] at h
        exact h ▸ .rest hover hturn haborted

/-- Every step of an ingest that can be made is one of the rules. -/
theorem Ingests.of_step {move : Ingest.Move} {out : Ingested P}
    (h : r.step stopped log move = some out) : Ingests stopped log r move out := by
  cases move with
  | start =>
    unfold step at h
    cases hstage : r.ingest.stage with
    | spawned =>
      by_cases hstopped : stopped = true
      · simp only [hstage, hstopped, if_true, Option.some.injEq] at h
        exact h ▸ .startCancelled hstage hstopped
      · simp only [hstage, hstopped, Bool.false_eq_true, if_false, Option.some.injEq] at h
        exact h ▸ .startWatching hstage (eq_false_of_ne_true hstopped)
    | _ => simp [hstage] at h
  | answer stream => exact .of_answer h
  | stop => exact .of_stop h
  | take => exact .of_stream (.inl rfl) h
  | finish => exact .of_stream (.inr rfl) h
  | locate epoch =>
    unfold step at h
    cases hstage : r.ingest.stage with
    | locating event last =>
      simp only [hstage, Option.some.injEq] at h
      exact h ▸ .locate hstage
    | _ => simp [hstage] at h
  | record =>
    unfold step at h
    cases hstage : r.ingest.stage with
    | recording id event last =>
      simp only [hstage, Option.some.injEq] at h
      exact h ▸ .record hstage
    | _ => simp [hstage] at h
  | emit =>
    unfold step at h
    cases hstage : r.ingest.stage with
    | emitting d last =>
      simp only [hstage, Option.some.injEq] at h
      exact h ▸ .emit hstage
    | _ => simp [hstage] at h
  | wake => exact .of_wake h
  | rest => exact .of_rest h
  | drop =>
    unfold step at h
    cases hstage : r.ingest.stage with
    | felled =>
      simp only [hstage, Option.some.injEq] at h
      exact h ▸ .drop hstage
    | _ => simp [hstage] at h

/-- Every rule is a step that can be made. -/
theorem Ingests.step_eq {move : Ingest.Move} {out : Ingested P}
    (h : Ingests stopped log r move out) : r.step stopped log move = some out := by
  cases h with
  | wake hover hturn => simp [step_wake hover, hturn]
  | rest hover hturn haborted => simp [step_rest hover, hturn, haborted]
  | cutOff hover hturn haborted => simp [step_rest hover, hturn, haborted]
  | _ => simp [step, watched, *]

/-- An ingest that has come to its end takes no step. -/
lemma Ingests.not_finished {move : Ingest.Move} {out : Ingested P}
    (hi : Ingests stopped log r move out) : r.ingest.isFinished = false := by
  cases hi with
  | wake hgoing | rest hgoing | cutOff hgoing => exact Ingest.isFinished_of_not_isOver hgoing
  | _ hstage => simp [Ingest.isFinished, hstage]

/-- An ingest that takes a step is not over, unless it is dropped. -/
lemma Ingests.not_isOver {move : Ingest.Move} {out : Ingested P}
    (hi : Ingests stopped log r move out) (hmove : move ≠ .drop) : r.ingest.isOver = false := by
  cases hi with
  | wake hgoing | rest hgoing | cutOff hgoing => exact hgoing
  | drop => exact absurd rfl hmove
  | _ hstage => simp [Ingest.isOver, hstage]

/-- No step takes back that an ingest was told to end. -/
lemma Ingests.aborted_eq {move : Ingest.Move} {out : Ingested P}
    (hi : Ingests stopped log r move out) :
    out.registration.ingest.aborted = r.ingest.aborted := by
  cases hi <;> rfl

/-- An ingest's step leaves the key, its binding and its observer as they are. -/
lemma Ingests.key_eq {move : Ingest.Move} {out : Ingested P} (h : Ingests stopped log r move out) :
    out.registration.key = r.key := by
  cases h <;> rfl

lemma Ingests.bound_eq {move : Ingest.Move} {out : Ingested P}
    (h : Ingests stopped log r move out) : out.registration.bound = r.bound := by
  cases h <;> rfl

/-- Only the fan-out touches the audience and tells subscriptions anything. -/
lemma Ingests.audience_eq {move : Ingest.Move} {out : Ingested P}
    (h : Ingests stopped log r move out) :
    (out.registration.audience = r.audience ∧
        ∀ x ∈ out.facts, ∀ key handle, x.concerns key handle = false) ∨
      ∃ d last, r.ingest.stage = .emitting d last ∧
        out.registration.audience = (r.audience.emit d).1 ∧ out.facts = (r.audience.emit d).2 := by
  cases h with
  | emit hstage => exact .inr ⟨_, _, hstage, rfl, rfl⟩
  | locate _ =>
    refine .inl ⟨rfl, fun x hx => ?_⟩
    cases Fact.mem_ofLocate hx
    exact fun _ _ => rfl
  | _ =>
    refine .inl ⟨rfl, fun x hx => ?_⟩
    first
    | cases hx; done
    | cases List.mem_singleton.1 hx; exact fun _ _ => rfl

end Registration

end WatchHub
