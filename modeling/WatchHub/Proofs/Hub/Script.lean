import WatchHub.Proofs.Hub.Course
import WatchHub.Proofs.Hub.Listing
import WatchHub.Proofs.Hub.Order

/-!
# The script of a snapshot

Others see two kinds of deeds of a snapshot: it adds an item to the log, and an offer comes to its end.
It does both for one item after the other (`script`), until no item is left or an offer is refused.
`Population.Stage.Performs` says stage by stage which deeds are done; every step of a population keeps
to it.
-/

namespace WatchHub

variable {P : Type}

/-- What others see of a population. -/
inductive Deed (P : Type) where
  | added (entry : Entry P)
  | offered (delivery : Delivery P) (offer : Offer)
deriving DecidableEq, Repr

/-- What is done for items that were dealt with: each is added to the log, then its offer comes to its
end. -/
def script (dealt : List (Entry P × Offer)) : List (Deed P) :=
  dealt.flatMap fun x => [.added x.1, .offered x.1.delivery x.2]

lemma script_concat (dealt : List (Entry P × Offer)) (entry : Entry P) (offer : Offer) :
    script (dealt ++ [(entry, offer)]) =
      script dealt ++ [.added entry] ++ [.offered entry.delivery offer] := by
  simp [script]

namespace Deed

/-- The entry that was added to the log. -/
def entry? : Deed P → Option (Entry P)
  | added entry => some entry
  | offered .. => none

/-- The offer that came to its end, with what became of it. -/
def offer? : Deed P → Option (Delivery P × Offer)
  | offered d offer => some (d, offer)
  | added _ => none

end Deed

lemma entries_script (dealt : List (Entry P × Offer)) :
    (script dealt).filterMap Deed.entry? = dealt.map Prod.fst := by
  induction dealt with
  | nil => rfl
  | cons x dealt ih => exact congrArg (x.1 :: ·) ih

lemma entries_added (entries : List (Entry P)) :
    (entries.map Deed.added).filterMap Deed.entry? = entries := by
  rw [List.filterMap_map]
  exact List.filterMap_some

lemma offers_script (dealt : List (Entry P × Offer)) :
    (script dealt).filterMap Deed.offer? = dealt.map fun x => (x.1.delivery, x.2) := by
  induction dealt with
  | nil => rfl
  | cons x dealt ih => exact congrArg ((x.1.delivery, x.2) :: ·) ih

lemma offers_added (entries : List (Entry P)) :
    (entries.map Deed.added).filterMap Deed.offer? = [] := by
  rw [List.filterMap_map]
  exact List.filterMap_eq_nil_iff.2 fun _ _ => rfl

namespace Fact

/-- What the population of a subscription did. -/
def deed? (key : Key) (handle : Handle) : Fact P → Option (Deed P)
  | logged k (.population h) _ event version =>
    if k = key ∧ h = handle then some (.added ⟨event, version⟩) else none
  | offered k h d offer => if k = key ∧ h = handle then some (.offered d offer) else none
  | _ => none

variable {key : Key} {handle : Handle}

lemma isWork_of_deed? {x : Fact P} (h : (deed? key handle x).isSome = true) :
    x.isWork key handle = true := by
  cases x with
  | logged k writer => cases writer <;> simp_all [deed?, isWork]
  | offered => simp_all [deed?, isWork]
  | _ => cases h

/-- What a population added to the log is among its deeds. -/
lemma listings_of_deeds (facts : List (Fact P)) :
    ((facts.filterMap (deed? key handle)).filterMap Deed.entry?).map Entry.event =
      facts.filterMap (listing? key handle) := by
  rw [List.filterMap_filterMap, List.map_filterMap]
  refine List.filterMap_congr fun x _ => ?_
  cases x with
  | logged k writer =>
    cases writer with
    | population h =>
      by_cases hown : k = key ∧ h = handle <;> simp [deed?, listing?, Deed.entry?, hown]
    | ingest | owner => rfl
  | offered k h => by_cases hown : k = key ∧ h = handle <;> simp [deed?, listing?, Deed.entry?, hown]
  | _ => rfl

/-- The offers of a population are among its deeds. -/
lemma offers_of_deeds (facts : List (Fact P)) :
    (facts.filterMap (deed? key handle)).filterMap Deed.offer? =
      facts.filterMap (offer? key handle) := by
  rw [List.filterMap_filterMap]
  refine List.filterMap_congr fun x _ => ?_
  cases x with
  | logged k writer =>
    cases writer with
    | population h => by_cases hown : k = key ∧ h = handle <;> simp [deed?, offer?, Deed.offer?, hown]
    | ingest | owner => rfl
  | offered k h => by_cases hown : k = key ∧ h = handle <;> simp [deed?, offer?, Deed.offer?, hown]
  | _ => rfl

/-- The entries that a population added to one log are among the records of this log. -/
lemma entries_sublist {id : LogId} {facts : List (Fact P)}
    (h : ∀ event version id', .logged key (.population handle) id' event version ∈ facts →
      id' = id) :
    ((facts.filterMap (deed? key handle)).filterMap Deed.entry?).Sublist
      (facts.filterMap (record? id)) := by
  rw [List.filterMap_filterMap]
  refine filterMap_sublist_filterMap fun x hx entry hentry => ?_
  obtain ⟨deed, hdeed, hadded⟩ := Option.bind_eq_some_iff.1 hentry
  cases x with
  | logged k writer id' event version =>
    cases writer with
    | population handle' =>
      by_cases hown : k = key ∧ handle' = handle
      · obtain ⟨rfl, rfl⟩ := hown
        rw [deed?, if_pos ⟨rfl, rfl⟩] at hdeed
        cases hdeed
        cases hadded
        exact if_pos (h event version id' hx)
      · simp [deed?, hown] at hdeed
    | ingest | owner => cases hdeed
  | offered k handle' =>
    by_cases hown : k = key ∧ handle' = handle
    · rw [deed?, if_pos hown] at hdeed
      cases hdeed
      cases hadded
    · simp [deed?, hown] at hdeed
  | _ => cases hdeed

end Fact

/-- The answer with which a population goes on. -/
def Population.Move.answer? : Population.Move P → Option (Answer (List P))
  | answer items => some items
  | _ => none

namespace Action

variable {key : Key} {handle : Handle}

/-- The move of the population of a subscription. -/
def move? (key : Key) (handle : Handle) : Action P → Option (Population.Move P)
  | populate k h move => if k = key ∧ h = handle then some move else none
  | _ => none

/-- What the observer answered to the population of a subscription. -/
def reply? (key : Key) (handle : Handle) (action : Action P) : Option (Answer (List P)) :=
  (action.move? key handle).bind Population.Move.answer?

lemma move?_populate (move : Population.Move P) :
    (populate key handle move).move? key handle = some move :=
  if_pos ⟨rfl, rfl⟩

lemma move?_eq_none {action : Action P} (h : ∀ move, action ≠ .populate key handle move) :
    action.move? key handle = none := by
  unfold move?
  split
  · rename_i k h' move
    refine if_neg fun heq => ?_
    obtain ⟨rfl, rfl⟩ := heq
    exact h move rfl
  · rfl

lemma replies_populate (move : Population.Move P) :
    [populate key handle move].filterMap (reply? key handle) = move.answer?.toList := by
  rw [List.filterMap_cons, reply?, move?_populate, Option.bind_some]
  cases move.answer? <;> rfl

lemma reply?_eq_none {action : Action P} (h : ∀ move, action ≠ .populate key handle move) :
    action.reply? key handle = none := by
  rw [reply?, move?_eq_none h, Option.bind_none]

end Action

/-- How far a snapshot of some items has come: which of them were dealt with, none refused, and which
are left. -/
structure Dealt (items : List P) (dealt : List (Entry P × Offer)) (left : List (Event P)) :
    Prop where
  events : items.map .added = (dealt.map Prod.fst).map Entry.event ++ left
  unrefused : ∀ x ∈ dealt, x.2 ≠ .closed

lemma Dealt.nil (items : List P) : Dealt items [] (items.map .added) where
  events := rfl
  unrefused _ hx := absurd hx List.not_mem_nil

lemma Dealt.concat {items : List P} {dealt : List (Entry P × Offer)} {left : List (Event P)}
    {entry : Entry P} (h : Dealt items dealt (entry.event :: left)) {offer : Offer}
    (hoffer : offer ≠ .closed) : Dealt items (dealt ++ [(entry, offer)]) left where
  events := by simp [h.events]
  unrefused x hx := by
    rcases List.mem_append.1 hx with hx | hx
    · exact h.unrefused x hx
    · cases List.mem_singleton.1 hx
      exact hoffer

/-- The items that were dealt with are the first ones. -/
lemma Dealt.isPrefix {items : List P} {dealt : List (Entry P × Offer)} {left : List (Event P)}
    (h : Dealt items dealt left) :
    (dealt.map Prod.fst ++ []).map Entry.event <+: items.map .added := by
  rw [List.append_nil, h.events]
  exact List.prefix_append _ left

/-- So are these and the next one. -/
lemma Dealt.isPrefix_next {items : List P} {dealt : List (Entry P × Offer)}
    {left : List (Event P)} {entry : Entry P} (h : Dealt items dealt (entry.event :: left)) :
    (dealt.map Prod.fst ++ [entry]).map Entry.event <+: items.map .added := by
  rw [List.map_append, h.events, List.append_cons]
  exact List.prefix_append _ left

/-- What the observer answered to a snapshot and which deeds it has done when it stands at a stage. -/
inductive Population.Stage.Performs :
    List (Answer (List P)) → List (Deed P) → Population.Stage P → Prop where
  | spawned : Performs [] [] (.spawned none)
  | listing : Performs [] [] .listing
  | unanswered : Performs [] [] (.finished .closed)
  | crashed : Performs [.crashed] [] (.finished .crashed)
  | complaining {failure} :
    Performs [.failed failure] [] (.offering (.unversioned failure.message) .nothing)
  | complaintWaits {failure} :
    Performs [.failed failure] [] (.waiting (.unversioned failure.message) .nothing)
  | complained {failure offer} :
    Performs [.failed failure] [.offered (.unversioned failure.message) offer]
      (.finished .failed)
  | between {items dealt rest} :
    Dealt items dealt (rest.map .added) →
    Performs [.ok items] (script dealt) (.between (.items rest))
  | locating {items dealt event rest} :
    Dealt items dealt (event :: rest.map .added) →
    Performs [.ok items] (script dealt) (.locating event rest)
  | recording {items dealt event rest id} :
    Dealt items dealt (event :: rest.map .added) →
    Performs [.ok items] (script dealt) (.recording id event rest)
  | offering {items dealt rest} {entry : Entry P} :
    Dealt items dealt (entry.event :: rest.map .added) →
    Performs [.ok items] (script dealt ++ [.added entry]) (.offering entry.delivery (.items rest))
  | waiting {items dealt rest} {entry : Entry P} :
    Dealt items dealt (entry.event :: rest.map .added) →
    Performs [.ok items] (script dealt ++ [.added entry]) (.waiting entry.delivery (.items rest))
  | complete {items dealt} :
    Dealt items dealt [] → Performs [.ok items] (script dealt) (.finished .complete)
  /-- Closed before the next item was added. -/
  | halted {items dealt event left} :
    Dealt items dealt (event :: left) → Performs [.ok items] (script dealt) (.finished .closed)
  /-- Closed after the last item was added. -/
  | refused {items dealt left} {entry : Entry P} :
    Dealt items dealt (entry.event :: left) →
    Performs [.ok items] (script (dealt ++ [(entry, .closed)])) (.finished .closed)

namespace Population.Stage

/-- Whether a population still awaits the items that it is to offer. -/
def isEarly : Stage P → Bool
  | spawned _ | listing => true
  | _ => false

variable {answers : List (Answer (List P))} {deeds : List (Deed P)} {items : List P}
  {stage : Stage P}

/-- A snapshot gets at most one answer, and does nothing without one. -/
lemma Performs.answered (h : stage.Performs answers deeds) :
    (answers = [] ∧ deeds = []) ∨ ∃ answer, answers = [answer] := by
  cases h with
  | spawned | listing | unanswered => exact .inl ⟨rfl, rfl⟩
  | _ => exact .inr ⟨_, rfl⟩

/-- A snapshot whose observer broke down does nothing. -/
lemma Performs.of_crashed (h : stage.Performs [.crashed] deeds) : deeds = [] := by
  cases h
  rfl

/-- A snapshot whose observer failed offers the failure and does nothing else. -/
lemma Performs.of_failed {failure : ObserverFailure} (h : stage.Performs [.failed failure] deeds) :
    (deeds = [] ∧ ∀ ending, stage ≠ .finished ending) ∨
      ∃ offer, deeds = [.offered (.unversioned failure.message) offer] := by
  cases h with
  | complaining | complaintWaits => exact .inl ⟨rfl, nofun⟩
  | complained => exact .inr ⟨_, rfl⟩

/-- A snapshot that got its items has dealt with the first of them, each added to the log and then
offered; perhaps the offer of one more is still to come to its end. -/
lemma Performs.of_ok (h : stage.Performs [.ok items] deeds) :
    ∃ dealt pending, deeds = script dealt ++ pending.map .added ∧
      (dealt.map Prod.fst ++ pending).map Entry.event <+: items.map .added ∧
      pending.length ≤ 1 ∧ (∀ x ∈ dealt.dropLast, x.2 ≠ .closed) ∧
      ((∃ x ∈ dealt, x.2 = .closed) → stage = .finished .closed) ∧
      ∀ ending, stage = .finished ending →
        pending = [] ∧ (dealt.length = items.length ∨ stage = .finished .closed) := by
  have hopen : ∀ {dealt : List (Entry P × Offer)} {left : List (Event P)}, Dealt items dealt left →
      (∀ x ∈ dealt.dropLast, x.2 ≠ .closed) ∧
        ((∃ x ∈ dealt, x.2 = .closed) → stage = .finished .closed) := by
    intro dealt left hdealt
    refine ⟨fun x hx => hdealt.unrefused x ((List.dropLast_sublist dealt).subset hx), ?_⟩
    rintro ⟨x, hx, hclosed⟩
    exact absurd hclosed (hdealt.unrefused x hx)
  cases h with
  | @between _ dealt _ hdealt | @locating _ dealt _ _ hdealt | @recording _ dealt _ _ _ hdealt =>
    exact ⟨dealt, [], by simp, hdealt.isPrefix, Nat.zero_le 1, (hopen hdealt).1, (hopen hdealt).2,
      nofun⟩
  | @offering _ dealt _ entry hdealt | @waiting _ dealt _ entry hdealt =>
    exact ⟨dealt, [entry], rfl, hdealt.isPrefix_next, Nat.le_refl 1, (hopen hdealt).1,
      (hopen hdealt).2, nofun⟩
  | @complete _ dealt hdealt =>
    refine ⟨dealt, [], by simp, hdealt.isPrefix, Nat.zero_le 1, (hopen hdealt).1,
      (hopen hdealt).2, fun _ _ => ⟨rfl, .inl ?_⟩⟩
    simpa using (congrArg List.length hdealt.events).symm
  | @halted _ dealt _ _ hdealt =>
    exact ⟨dealt, [], by simp, hdealt.isPrefix, Nat.zero_le 1, (hopen hdealt).1, (hopen hdealt).2,
      fun _ _ => ⟨rfl, .inr rfl⟩⟩
  | @refused _ dealt left entry hdealt =>
    refine ⟨dealt ++ [(entry, .closed)], [], by simp, ?_, Nat.zero_le 1, ?_, fun _ => rfl,
      fun _ _ => ⟨rfl, .inr rfl⟩⟩
    · rw [List.append_nil, List.map_append]
      exact hdealt.isPrefix_next
    · rw [List.dropLast_concat]
      exact hdealt.unrefused

end Population.Stage

namespace Subscription

open Population.Stage (Performs)
open WatchHub.Fact (deed?)

variable {key : Key} {handle : Handle} {s : Subscription P} {answers : List (Answer (List P))}
  {deeds : List (Deed P)}

lemma isEarly_settle (s : Subscription P) (offer : Offer) (rest : Population.Rest P) :
    (s.settle offer rest).population.stage.isEarly = false := by
  cases rest <;> cases offer <;> rfl

/-- Whoever still awaits its items after a step has done nothing by it. -/
lemma Populates.early {log : EventLog P} {move : Population.Move P} {out : Populated P}
    (hp : Populates key handle log s move out)
    (h : out.subscription.population.stage.isEarly = true) :
    s.population.stage.isEarly = true ∧ out.facts.filterMap (deed? key handle) = [] := by
  cases hp with
  | startListing hstage =>
    rw [hstage]
    exact ⟨rfl, rfl⟩
  | offerRefused | offerAccepted | offerGone | fill | timeOut | giveUp =>
    rw [isEarly_settle] at h
    cases h
  | _ => cases h

/-- An offer comes to its end, in whatever way. -/
lemma performs_settle {d : Delivery P} {rest : Population.Rest P}
    (h : Performs answers deeds (.offering d rest)) (s : Subscription P) (offer : Offer) :
    Performs answers (deeds ++ [.offered d offer]) (s.settle offer rest).population.stage := by
  cases h with
  | complaining => exact .complained
  | offering hdealt =>
    rw [← script_concat]
    cases offer with
    | closed => exact .refused hdealt
    | delivered | timedOut => exact .between (hdealt.concat (by decide))

/-- Every step of a population keeps to the script. -/
theorem Populates.performs {log : EventLog P} {move : Population.Move P} {out : Populated P}
    (hp : Populates key handle log s move out) (h : s.population.stage.Performs answers deeds) :
    out.subscription.population.stage.Performs (answers ++ move.answer?.toList)
      (deeds ++ out.facts.filterMap (deed? key handle)) := by
  -- Most steps get no answer and do nothing that others see.
  have hidle : ∀ {told : List (Fact P)} {stage : Population.Stage P},
      told.filterMap (deed? key handle) = [] → stage.Performs answers deeds →
      stage.Performs (answers ++ []) (deeds ++ told.filterMap (deed? key handle)) := by
    intro told stage htold h
    rwa [htold, List.append_nil, List.append_nil]
  have hoffered : ∀ {d : Delivery P} {rest : Population.Rest P} (s : Subscription P)
      (offer : Offer), Performs answers deeds (.offering d rest) →
      (s.settle offer rest).population.stage.Performs (answers ++ [])
        (deeds ++ [Fact.offered key handle d offer].filterMap (deed? key handle)) := by
    intro d rest s offer h
    simpa [deed?] using performs_settle h s offer
  cases hp with
  | startClosed hstage | quit hstage =>
    rw [hstage] at h
    cases h
    exact hidle rfl .unanswered
  | startListing hstage =>
    rw [hstage] at h
    cases h
    exact hidle rfl .listing
  | answerItems hstage =>
    rw [hstage] at h
    cases h
    exact .between (.nil _)
  | answerFailed hstage =>
    rw [hstage] at h
    cases h
    exact .complaining
  | answerCrashed hstage =>
    rw [hstage] at h
    cases h
    exact .crashed
  | snapshotDone hstage =>
    rw [hstage] at h
    cases h with
    | between hdealt => exact hidle rfl (.complete hdealt)
  | snapshotHalted hstage =>
    rw [hstage] at h
    cases h with
    | between hdealt => exact hidle rfl (.halted hdealt)
  | snapshotNext hstage =>
    rw [hstage] at h
    cases h with
    | between hdealt => exact hidle rfl (.locating hdealt)
  | locate hstage =>
    rw [hstage] at h
    cases h with
    | locating hdealt => exact hidle (Fact.filterMap_ofLocate rfl log) (.recording hdealt)
  | @record id event rest hstage =>
    rw [hstage] at h
    cases h with
    | recording hdealt =>
      let entry : Entry P := ⟨event, (log.record id event).1⟩
      have hadded : [Fact.logged key (.population handle) id event entry.version].filterMap
          (deed? key handle) = [.added entry] := by
        simp [deed?, entry]
      have hdealt : Dealt _ _ (entry.event :: rest.map .added) := hdealt
      rw [hadded]
      exact .offering hdealt
  | offerRefused hstage | offerAccepted hstage | offerGone hstage =>
    rw [hstage] at h
    exact hoffered _ _ h
  | offerWaits hstage =>
    rw [hstage] at h
    cases h with
    | complaining => exact hidle rfl .complaintWaits
    | offering hdealt => exact hidle rfl (.waiting hdealt)
  | @fill d rest hstage | @timeOut d rest hstage | @giveUp d rest hstage =>
    rw [hstage] at h
    have hoffering : Performs answers deeds (.offering d rest) := by
      cases h with
      | complaintWaits => exact .complaining
      | waiting hdealt => exact .offering hdealt
    exact hoffered _ _ hoffering
  | startSeeking hstage | seekFound hstage | seekRefused hstage | readHistory hstage
  | readRefused hstage | replayDone hstage | replayNext hstage | complaintDone hstage =>
    -- These are steps of a replay.
    rw [hstage] at h
    cases h

end Subscription

namespace Hub

open WatchHub.Fact (deed?)

variable {config : HubConfig} {actions more : List (Action P)} {facts told : List (Fact P)}
  {h h' : Hub P} {key : Key} {handle : Handle} {s : Subscription P}
  {answers : List (Answer (List P))} {deeds : List (Deed P)}

/-- Every step of a hub lets a snapshot keep to its script. -/
lemma Sound.performs (hs : h.Sound) {action : Action P} (hstep : h.step action = some (h', told))
    (hsub : h.subscription? key handle = some s)
    (hperforms : s.population.stage.Performs answers deeds) :
    ∃ s', h'.subscription? key handle = some s' ∧
      s'.population.stage.Performs
        (answers ++ [action].filterMap (Action.reply? key handle))
        (deeds ++ told.filterMap (deed? key handle)) := by
  obtain ⟨s', hsub', hwork⟩ := hs.own_or_other hstep hsub
  refine ⟨s', hsub', ?_⟩
  rcases hwork with ⟨hpop, haction, htold⟩ | ⟨move, out, rfl, rfl, hp, hpop⟩
  · have hdeeds : told.filterMap (deed? key handle) = [] :=
      Fact.filterMap_of_kind (fun _ => Fact.isWork_of_deed?) htold
    rw [hdeeds, hpop, List.filterMap_cons, Action.reply?_eq_none haction]
    simpa using hperforms
  · rw [hpop, Action.replies_populate]
    exact hp.performs hperforms

/-- A population that awaits its items has done nothing yet. -/
theorem Reached.undone (hr : Reached config actions facts h)
    (hearly : ∀ p, h.population? key handle = some p → p.stage.isEarly = true) :
    facts.filterMap (deed? key handle) = [] := by
  induction hr with
  | new => rfl
  | @step actions past h action h' told hr hstep ih =>
    have hquiet : ∀ {xs : List (Fact P)}, (∀ x ∈ xs, x.isWork key handle = false) →
        xs.filterMap (deed? key handle) = [] :=
      fun hxs => Fact.filterMap_of_kind (fun _ => Fact.isWork_of_deed?) hxs
    rw [List.filterMap_append, List.append_eq_nil_iff]
    cases (hr.sound.changes hstep).works key handle with
    | other hpop _ htold => exact ⟨ih (hpop ▸ hearly), hquiet htold⟩
    | joined checkpoint hnone _ _ htold =>
      obtain ⟨before, after, rfl, hothers⟩ := htold
      have hdeeds := hquiet hothers
      rw [List.filterMap_append, List.append_eq_nil_iff] at hdeeds
      refine ⟨ih fun p hp => ?_, ?_⟩
      · cases hnone.symm.trans hp
      · simp [hdeeds.1, hdeeds.2, List.filterMap_cons, deed?]
    | @own s move out _ hsub hp hpop _ =>
      obtain ⟨hbefore, hdeeds⟩ := hp.early (hearly _ hpop)
      refine ⟨ih fun p hpop₀ => ?_, hdeeds⟩
      rw [population?, hsub] at hpop₀
      cases hpop₀
      exact hbefore

/-- A snapshot keeps to its script whatever happens. -/
theorem Reached.performs (hr : Reached config actions facts h)
    (hsub : h.subscription? key handle = some s)
    (hperforms : s.population.stage.Performs answers deeds) (hrun : h.run more = some (h', told)) :
    ∃ s', h'.subscription? key handle = some s' ∧
      s'.population.stage.Performs (answers ++ more.filterMap (Action.reply? key handle))
        (deeds ++ told.filterMap (deed? key handle)) := by
  induction more generalizing actions facts h told s answers deeds with
  | nil =>
    cases hrun
    exact ⟨s, hsub, by simpa using hperforms⟩
  | cons action more ih =>
    obtain ⟨h₁, told₁, told₂, hstep, hrest, rfl⟩ := run_cons hrun
    obtain ⟨s₁, hsub₁, hperforms₁⟩ := hr.sound.performs hstep hsub hperforms
    obtain ⟨s₂, hsub₂, hperforms₂⟩ := ih (hr.step hstep) hsub₁ hperforms₁ hrest
    refine ⟨s₂, hsub₂, ?_⟩
    rw [← List.singleton_append, List.filterMap_append, List.filterMap_append]
    simpa using hperforms₂

end Hub

end WatchHub
