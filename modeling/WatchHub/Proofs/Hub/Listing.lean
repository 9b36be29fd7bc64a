import WatchHub.Proofs.Hub.Work

/-!
# What a population adds to the log

Only a snapshot adds to the log, and what it adds are the items that its observer answered with, one
after the other. `Population.Stage.Lists` says stage by stage how far it has come.
-/

namespace WatchHub

variable {P : Type}

namespace Fact

/-- The checkpoint with which a subscription was inserted. -/
def checkpoint? (key : Key) (handle : Handle) : Fact P → Option (Option Version)
  | subscribed k h checkpoint => if k = key ∧ h = handle then some checkpoint else none
  | _ => none

/-- The event that the population of a subscription added to the log. -/
def listing? (key : Key) (handle : Handle) : Fact P → Option (Event P)
  | logged k (.population h) _ event _ => if k = key ∧ h = handle then some event else none
  | _ => none

variable {key : Key} {handle : Handle}

lemma isWork_of_checkpoint? {x : Fact P} (h : (checkpoint? key handle x).isSome = true) :
    x.isWork key handle = true := by
  cases x <;> simp_all [checkpoint?, isWork]

lemma isWork_of_listing? {x : Fact P} (h : (listing? key handle x).isSome = true) :
    x.isWork key handle = true := by
  cases x with
  | logged k writer => cases writer <;> simp_all [listing?, isWork]
  | _ => simp_all [listing?]

end Fact

/-- The items with which the observer answered the population of a subscription. -/
def Action.answer? (key : Key) (handle : Handle) : Action P → Option (List P)
  | .populate k h (.answer (.ok items)) => if k = key ∧ h = handle then some items else none
  | _ => none

lemma Action.answer?_eq_none {key : Key} {handle : Handle} {action : Action P}
    (h : ∀ move, action ≠ .populate key handle move) : action.answer? key handle = none := by
  unfold answer?
  split
  · rename_i k h' items
    refine if_neg fun heq => ?_
    obtain ⟨rfl, rfl⟩ := heq
    exact h _ rfl
  · rfl

/-- How a population that was opened with a checkpoint stands to the items that it got and to those
that it added to the log. -/
def Population.Stage.Lists (checkpoint : Option Version) (answers : List (List P))
    (listed : List (Event P)) : Population.Stage P → Prop
  | .spawned c => c = checkpoint ∧ answers = [] ∧ listed = []
  | .listing => checkpoint = none ∧ answers = [] ∧ listed = []
  | .between (.items items) | .offering _ (.items items) | .waiting _ (.items items) =>
    checkpoint = none ∧ ∃ all, answers = [all] ∧ all.map .added = listed ++ items.map .added
  | .locating event items | .recording _ event items =>
    checkpoint = none ∧
      ∃ all, answers = [all] ∧ all.map .added = listed ++ event :: items.map .added
  | .seeking _ | .reading _ _ | .between _ | .offering _ _ | .waiting _ _ | .finished .failed =>
    answers = [] ∧ listed = []
  | .finished _ =>
    (answers = [] ∧ listed = []) ∨
      (checkpoint = none ∧ ∃ all, answers = [all] ∧ listed <+: all.map .added)

namespace Population.Stage

variable {checkpoint : Option Version} {answers : List (List P)} {listed : List (Event P)}
  {stage : Stage P}

/-- Wherever a population stands, it has added the first ones of its items. -/
lemma Lists.isPrefix (h : stage.Lists checkpoint answers listed) :
    (answers = [] ∧ listed = []) ∨
      (checkpoint = none ∧ ∃ all, answers = [all] ∧ listed <+: all.map .added) := by
  have hitems : ∀ {rest : List (Event P)}, (checkpoint = none ∧
      ∃ all, answers = [all] ∧ all.map .added = listed ++ rest) →
      checkpoint = none ∧ ∃ all, answers = [all] ∧ listed <+: all.map Event.added := by
    rintro rest ⟨hnone, all, hall, heq⟩
    exact ⟨hnone, all, hall, rest, heq.symm⟩
  cases stage with
  | spawned | listing => exact .inl h.2
  | seeking | reading => exact .inl h
  | locating | recording => exact .inr (hitems h)
  | between rest | offering _ rest | waiting _ rest =>
    cases rest with
    | items => exact .inr (hitems h)
    | history | nothing => exact .inl h
  | finished ending =>
    cases ending with
    | failed => exact .inl h
    | complete | closed | crashed => exact h

/-- An offer comes to its end, in whatever way. -/
lemma Lists.settle {d : Delivery P} {rest : Rest P}
    (h : (offering d rest).Lists checkpoint answers listed) (s : Subscription P) (offer : Offer) :
    (s.settle offer rest).population.stage.Lists checkpoint answers listed := by
  have hprefix := h.isPrefix
  cases rest with
  | items | history =>
    cases offer with
    | closed => exact hprefix
    | delivered | timedOut => exact h
  | nothing => exact h

end Population.Stage

open WatchHub.Fact (checkpoint? listing?)

namespace Subscription

variable {key : Key} {handle : Handle} {s : Subscription P} {checkpoint : Option Version}
  {answers : List (List P)} {listed : List (Event P)}

/-- Every step of a population goes on with its list. -/
theorem Populates.lists {log : EventLog P} {move : Population.Move P} {out : Populated P}
    (hp : Populates key handle log s move out)
    (h : s.population.stage.Lists checkpoint answers listed) :
    out.subscription.population.stage.Lists checkpoint
      (answers ++ [Action.populate key handle move].filterMap (Action.answer? key handle))
      (listed ++ out.facts.filterMap (listing? key handle)) := by
  -- Most steps neither get items nor add to the log.
  have hidle : ∀ {told : List (Fact P)} {stage : Population.Stage P},
      told.filterMap (listing? key handle) = [] → stage.Lists checkpoint answers listed →
      stage.Lists checkpoint (answers ++ []) (listed ++ told.filterMap (listing? key handle)) := by
    intro told stage htold h
    rwa [htold, List.append_nil, List.append_nil]
  cases hp with
  | startClosed hstage | quit hstage | answerCrashed hstage =>
    rw [hstage] at h
    exact hidle rfl (.inl h.2)
  | startListing hstage | startSeeking hstage =>
    rw [hstage] at h
    obtain ⟨rfl, hnone⟩ := h
    first
    | exact hidle rfl ⟨rfl, hnone⟩
    | exact hidle rfl hnone
  | answerFailed hstage =>
    rw [hstage] at h
    exact hidle rfl h.2
  | @answerItems items hstage =>
    rw [hstage] at h
    obtain ⟨hnone, rfl, rfl⟩ := h
    exact ⟨hnone, items, by simp [Action.answer?], by simp⟩
  | seekFound hstage | seekRefused hstage | readHistory hstage | readRefused hstage
  | complaintDone hstage | replayNext hstage =>
    rw [hstage] at h
    exact hidle rfl h
  | snapshotDone hstage =>
    rw [hstage] at h
    obtain ⟨hnone, all, hall, heq⟩ := h
    exact hidle rfl (.inr ⟨hnone, all, hall, [], heq.symm⟩)
  | snapshotHalted hstage | replayDone hstage =>
    rw [hstage] at h
    exact hidle rfl h.isPrefix
  | snapshotNext hstage =>
    rw [hstage] at h
    exact hidle rfl h
  | locate hstage =>
    rw [hstage] at h
    exact hidle (Fact.filterMap_ofLocate rfl log) h
  | @record id event rest hstage =>
    rw [hstage] at h
    obtain ⟨hnone, all, hall, heq⟩ := h
    refine ⟨hnone, all, (List.append_nil answers).trans hall, ?_⟩
    simpa [listing?] using heq
  | offerRefused hstage | offerAccepted hstage | offerGone hstage =>
    rw [hstage] at h
    exact hidle rfl (h.settle _ _)
  | @offerWaits d rest hstage =>
    rw [hstage] at h
    cases rest <;> exact hidle rfl h
  | @fill d rest hstage | @timeOut d rest hstage | @giveUp d rest hstage =>
    rw [hstage] at h
    have hoffering : (Population.Stage.offering d rest).Lists checkpoint answers listed := by
      cases rest <;> exact h
    exact hidle rfl (hoffering.settle _ _)

end Subscription

namespace Hub

variable {config : HubConfig} {actions : List (Action P)} {facts : List (Fact P)} {h : Hub P}

/-- What the population of a subscription got and added to the log, if there is one. -/
def Lists (actions : List (Action P)) (facts : List (Fact P)) (h : Hub P) (key : Key)
    (handle : Handle) : Prop :=
  match h.population? key handle with
  | some p => ∃ checkpoint, facts.filterMap (checkpoint? key handle) = [checkpoint] ∧
      p.stage.Lists checkpoint (actions.filterMap (Action.answer? key handle))
        (facts.filterMap (listing? key handle))
  | none => facts.filterMap (checkpoint? key handle) = [] ∧
      actions.filterMap (Action.answer? key handle) = [] ∧
        facts.filterMap (listing? key handle) = []

/-- A population is on its list after every run. -/
theorem Reached.lists (hr : Reached config actions facts h) (key : Key) (handle : Handle) :
    h.Lists actions facts key handle := by
  induction hr with
  | new => exact ⟨rfl, rfl, rfl⟩
  | @step actions past h action h' told hr hstep ih =>
    have hquiet : ∀ {xs : List (Fact P)}, (∀ x ∈ xs, x.isWork key handle = false) →
        xs.filterMap (checkpoint? key handle) = [] ∧ xs.filterMap (listing? key handle) = [] :=
      fun hxs => ⟨Fact.filterMap_of_kind (fun _ => Fact.isWork_of_checkpoint?) hxs,
        Fact.filterMap_of_kind (fun _ => Fact.isWork_of_listing?) hxs⟩
    cases (hr.sound.changes hstep).works key handle with
    | other hpop haction htold =>
      obtain ⟨hcheckpoint, hlisted⟩ := hquiet htold
      unfold Lists at ih ⊢
      rw [hpop]
      simpa [hcheckpoint, hlisted, Action.answer?_eq_none haction] using ih
    | joined checkpoint hnone hpop haction htold =>
      obtain ⟨before, after, rfl, hothers⟩ := htold
      obtain ⟨hcheckpoint, hlisted⟩ := hquiet hothers
      rw [List.filterMap_append, List.append_eq_nil_iff] at hcheckpoint hlisted
      unfold Lists at ih ⊢
      rw [hnone] at ih
      obtain ⟨hcheckpoints, hanswers, hlistings⟩ := ih
      rw [hpop]
      refine ⟨checkpoint, ?_, rfl, ?_, ?_⟩
      · simp [hcheckpoints, hcheckpoint.1, hcheckpoint.2, checkpoint?]
      · simp [hanswers, Action.answer?_eq_none haction]
      · simp [hlistings, hlisted.1, hlisted.2, List.filterMap_cons, listing?]
    | @own s move out _ hsub hp hpop hlog =>
      unfold Lists at ih ⊢
      rw [population?, hsub, Option.map_some] at ih
      rw [hpop]
      obtain ⟨checkpoint, hcheckpoint, hlists⟩ := ih
      have hjoins : out.facts.filterMap (checkpoint? key handle) = [] := by
        cases hp with
        | locate => exact Fact.filterMap_ofLocate rfl h.log
        | _ => rfl
      refine ⟨checkpoint, by simp [hcheckpoint, hjoins], ?_⟩
      rw [List.filterMap_append, List.filterMap_append]
      exact hp.lists hlists

end Hub

end WatchHub
