import Mathlib.Data.List.Forall2
import WatchHub.Proofs.Beside.Logs
import WatchHub.Proofs.Hub.Later

/-!
# A subscription in two runs

A subscription goes on in both runs in the same way while its consumer holds its end
(`Subscription.Twins`): its queue holds alike events, it misses as many, and its population is at the
same place. Once the consumer is gone, the one run may close it before the other does. A replay reads
what a log holds, so it may go another way in each run where the logs differ; but then it adds nothing to
a log (`Subscription.Pair`).
-/

namespace WatchHub

variable {P : Type}

/-- Two queues that differ item by item at most. -/
structure Queue.Twins {α : Type} (R : α → α → Prop) (q q' : Queue α) : Prop where
  items : List.Forall₂ R q.items q'.items
  free_eq : q'.free = q.free
  waiter_eq : q'.waiter = q.waiter
  receiving_eq : q'.receiving = q.receiving

namespace Queue

variable {α : Type} {R : α → α → Prop} {q q' : Queue α} {a a' : α}

/-- What is pushed has the same fate in both. -/
lemma Twins.push (h : Twins R q q') (ha : R a a') :
    (q'.push a').1 = (q.push a).1 ∧ Twins R (q.push a).2 (q'.push a').2 := by
  unfold Queue.push
  rw [h.receiving_eq, h.free_eq]
  cases hr : q.receiving with
  | false => exact ⟨rfl, h⟩
  | true =>
    cases hf : q.free with
    | zero => exact ⟨rfl, h⟩
    | succ free =>
      exact ⟨rfl, List.rel_append h.items (.cons ha .nil), rfl, h.waiter_eq, rfl⟩

lemma Twins.freeSlot (h : Twins R q q') : Twins R q.freeSlot q'.freeSlot := by
  unfold Queue.freeSlot
  rw [h.waiter_eq]
  cases q.waiter with
  | queued => exact ⟨h.items, h.free_eq, rfl, h.receiving_eq⟩
  | none | granted => exact ⟨h.items, congrArg (· + 1) h.free_eq, rfl, h.receiving_eq⟩

/-- Both are empty, or the consumer finds related items. -/
lemma Twins.receive? (h : Twins R q q') :
    (q.receive? = none ∧ q'.receive? = none) ∨
      ∃ a a' q₁ q₁', q.receive? = some (a, q₁) ∧ q'.receive? = some (a', q₁') ∧ R a a' ∧
        Twins R q₁ q₁' := by
  unfold Queue.receive?
  have hitems := h.items
  cases hq : q.items with
  | nil =>
    rw [hq] at hitems
    rw [List.forall₂_nil_left_iff.1 hitems]
    exact .inl ⟨rfl, rfl⟩
  | cons a items =>
    rw [hq] at hitems
    obtain ⟨a', items', ha, htail, hq'⟩ := List.forall₂_cons_left_iff.1 hitems
    rw [hq']
    refine .inr ⟨a, a', _, _, rfl, rfl, ha, Twins.freeSlot ?_⟩
    exact ⟨htail, h.free_eq, h.waiter_eq, h.receiving_eq⟩

lemma Twins.lineUp (h : Twins R q q') : Twins R q.lineUp q'.lineUp :=
  ⟨h.items, h.free_eq, rfl, h.receiving_eq⟩

lemma Twins.fill (h : Twins R q q') (ha : R a a') : Twins R (q.fill a) (q'.fill a') :=
  ⟨List.rel_append h.items (.cons ha .nil), h.free_eq, rfl, h.receiving_eq⟩

lemma Twins.imp {S : α → α → Prop} (h : Twins R q q') (himp : ∀ a a', R a a' → S a a') :
    Twins S q q' :=
  ⟨h.items.imp himp, h.free_eq, h.waiter_eq, h.receiving_eq⟩

lemma Twins.withdraw (h : Twins R q q') : Twins R q.withdraw q'.withdraw := by
  refine ⟨h.items, ?_, rfl, h.receiving_eq⟩
  simp only [Queue.withdraw, granted, h.free_eq, h.waiter_eq]

end Queue

namespace Population

/-- Whether the rest is one of a snapshot. -/
def Rest.isSnapshot : Rest P → Bool
  | .items _ => true
  | _ => false

/-- Whether the rest is one of a replay. -/
def Rest.isReplay : Rest P → Bool
  | .history .. => true
  | _ => false

/-- Whether a move adds to a log or looks for one to add to. -/
def Move.isWriting : Move P → Bool
  | .locate _ | .record => true
  | _ => false

/-- Whether the population will not add to a log any more. -/
def Stage.isQuiet : Stage P → Bool
  | .spawned checkpoint => checkpoint.isSome
  | .seeking _ | .reading .. | .finished _ => true
  | .between rest | .offering _ rest | .waiting _ rest => !rest.isSnapshot
  | .listing | .locating .. | .recording .. => false

/-- The stages with neither a log nor an event in hand. Those of a replay are the same in both runs only
where the logs are. -/
def Stage.IsPlain (exact : Prop) : Stage P → Prop
  | .spawned checkpoint => checkpoint.isSome = true → exact
  | .seeking _ => exact
  | .between rest => rest.isReplay = true → exact
  | .listing | .locating .. | .finished _ => True
  | .reading .. | .recording .. | .offering .. | .waiting .. => False

/-- A population stands at the same place in two runs. -/
inductive Stage.Twins (L : Likeness P) (pairs : LogId → LogId → Prop) : Stage P → Stage P → Prop where
  | plain {stage} : stage.IsPlain L.exact → Twins L pairs stage stage
  | reading {after id id'} :
    L.exact → pairs id id' → Twins L pairs (.reading after id) (.reading after id')
  | recording {id id' event rest} :
    pairs id id' → Twins L pairs (.recording id event rest) (.recording id' event rest)
  | offering {d d' rest} :
    Delivery.Alike L d d' → (rest.isReplay = true → L.exact) →
    Twins L pairs (.offering d rest) (.offering d' rest)
  | waiting {d d' rest} :
    Delivery.Alike L d d' → (rest.isReplay = true → L.exact) →
    Twins L pairs (.waiting d rest) (.waiting d' rest)

namespace Stage

variable {L L' : Likeness P} {pairs pairs' : LogId → LogId → Prop} {stage stage' : Stage P}

/-- Without anything in hand the places are equal. -/
lemma Twins.eq_of_isPlain (h : Twins L pairs stage stage') (hplain : stage.IsPlain True) :
    stage' = stage ∧ stage.IsPlain L.exact := by
  cases h with
  | plain h => exact ⟨rfl, h⟩
  | reading | recording | offering | waiting => cases hplain

lemma Twins.reading_inv {after : Version} {id : LogId}
    (h : Twins L pairs (.reading after id) stage') :
    ∃ id', stage' = .reading after id' ∧ L.exact ∧ pairs id id' := by
  cases h with
  | plain h => cases h
  | reading hexact hpair => exact ⟨_, rfl, hexact, hpair⟩

lemma Twins.recording_inv {id : LogId} {event : Event P} {rest : List P}
    (h : Twins L pairs (.recording id event rest) stage') :
    ∃ id', stage' = .recording id' event rest ∧ pairs id id' := by
  cases h with
  | plain h => cases h
  | recording h => exact ⟨_, rfl, h⟩

lemma Twins.offering_inv {d : Delivery P} {rest : Rest P}
    (h : Twins L pairs (.offering d rest) stage') :
    ∃ d', stage' = .offering d' rest ∧ Delivery.Alike L d d' ∧ (rest.isReplay = true → L.exact) := by
  cases h with
  | plain h => cases h
  | offering hd hrest => exact ⟨_, rfl, hd, hrest⟩

lemma Twins.waiting_inv {d : Delivery P} {rest : Rest P}
    (h : Twins L pairs (.waiting d rest) stage') :
    ∃ d', stage' = .waiting d' rest ∧ Delivery.Alike L d d' ∧ (rest.isReplay = true → L.exact) := by
  cases h with
  | plain h => cases h
  | waiting hd hrest => exact ⟨_, rfl, hd, hrest⟩

/-- Less may be known of the runs, if it is not a replay that is to be the same. -/
lemma Twins.weaken (h : Twins L pairs stage stage') (hle : L.Le L')
    (hpairs : ∀ {id id'}, pairs id id' → pairs' id id')
    (hstage : stage.isQuiet = true → (L.exact → L'.exact) ∨ ∃ ending, stage = .finished ending) :
    Twins L' pairs' stage stage' := by
  have hreplay : ∀ {rest : Rest P}, rest.isReplay = true → (!rest.isSnapshot) = true := by
    intro rest hrest
    cases rest <;> first | rfl | cases hrest
  cases h with
  | plain h =>
    refine .plain ?_
    cases stage with
    | spawned checkpoint => exact fun hsome => ((hstage hsome).resolve_right nofun) (h hsome)
    | seeking => exact ((hstage rfl).resolve_right nofun) h
    | between rest => exact fun hrest => ((hstage (hreplay hrest)).resolve_right nofun) (h hrest)
    | listing | locating | finished => trivial
    | reading | recording | offering | waiting => cases h
  | reading hexact hpair => exact .reading ((hstage rfl).resolve_right nofun hexact) (hpairs hpair)
  | recording hpair => exact .recording (hpairs hpair)
  | offering hd hrest =>
    exact .offering (hd.weaken hle) fun h => (hstage (hreplay h)).resolve_right nofun (hrest h)
  | waiting hd hrest =>
    exact .waiting (hd.weaken hle) fun h => (hstage (hreplay h)).resolve_right nofun (hrest h)

end Stage

end Population

/-- What a consumer finds in two runs. -/
inductive Receipt.Alike (L : Likeness P) : Receipt P → Receipt P → Prop where
  | event {d d'} : Delivery.Alike L d d' → Alike L (.event d) (.event d')
  | nothing : Alike L .nothing .nothing
  | ended : Alike L .ended .ended

namespace Subscription

open Population (Stage)

variable {L L' : Likeness P} {pairs pairs' : LogId → LogId → Prop} {s s' : Subscription P}

/-- What a consumer that holds its end sees of a subscription in two runs. -/
structure Lively (L : Likeness P) (s s' : Subscription P) : Prop where
  queue : s.queue.Twins (Delivery.Alike L) s'.queue
  closed_eq : s'.closed = s.closed
  dropped_eq : s'.dropped = s.dropped

/-- A subscription goes on in two runs in the same way, but for when it is closed once its consumer is
gone. -/
structure Twins (L : Likeness P) (pairs : LogId → LogId → Prop) (s s' : Subscription P) : Prop where
  stage : s.population.stage.Twins L pairs s'.population.stage
  receiving_eq : s'.queue.receiving = s.queue.receiving
  member_eq : s.member = !s.closed
  member_eq' : s'.member = !s'.closed
  closed : s'.closed = true → s.closed = true
  lively : s.queue.receiving = true → Lively L s s'

namespace Twins

lemma new (room : Nat) (checkpoint : Option Version) (h : checkpoint.isSome = true → L.exact) :
    Twins L pairs (Subscription.new room checkpoint : Subscription P)
      (.new room checkpoint) where
  stage := .plain h
  receiving_eq := rfl
  member_eq := rfl
  member_eq' := rfl
  closed := id
  lively _ := ⟨⟨.nil, rfl, rfl, rfl⟩, rfl, rfl⟩

/-- A population without anything in hand stands at the same stage. -/
lemma stage_eq (h : Twins L pairs s s') {stage : Stage P} (hs : s.population.stage = stage)
    (hplain : stage.IsPlain True) : s'.population.stage = stage ∧ stage.IsPlain L.exact :=
  (hs ▸ h.stage).eq_of_isPlain hplain

/-- What was closed in the first run is so in the second, or its consumer is gone. -/
lemma closed_or_gone (h : Twins L pairs s s') (hclosed : s.closed = true) :
    s'.closed = true ∨ s.queue.receiving = false := by
  cases hr : s.queue.receiving with
  | false => exact .inr rfl
  | true => exact .inl ((h.lively hr).closed_eq.trans hclosed)

lemma open_of_open (h : Twins L pairs s s') (hopen : s.closed = false) : s'.closed = false := by
  refine eq_false_of_ne_true fun hclosed => ?_
  cases hopen.symm.trans (h.closed hclosed)

lemma refused_iff (h : Twins L pairs s s') :
    (s.closed || !s.member) = s.closed ∧ (s'.closed || !s'.member) = s'.closed := by
  rw [h.member_eq, h.member_eq']
  simp

/-- Less may be known of the runs, if it is not a replay that is to be the same. -/
lemma weaken (h : Twins L pairs s s') (hle : L.Le L')
    (hpairs : ∀ {id id'}, pairs id id' → pairs' id id')
    (hstage : s.population.stage.isQuiet = true →
      (L.exact → L'.exact) ∨ ∃ ending, s.population.stage = .finished ending) :
    Twins L' pairs' s s' := by
  refine ⟨h.stage.weaken hle hpairs hstage, h.receiving_eq, h.member_eq, h.member_eq', h.closed,
    fun hr => ?_⟩
  have hlively := h.lively hr
  exact ⟨hlively.queue.imp fun _ _ hd => hd.weaken hle, hlively.closed_eq, hlively.dropped_eq⟩

/-- The population moves on in both runs. -/
lemma move (h : Twins L pairs s s') {p p' : Population P}
    (hstage : p.stage.Twins L pairs' p'.stage) :
    Twins L pairs' { s with population := p } { s' with population := p' } :=
  ⟨hstage, h.receiving_eq, h.member_eq, h.member_eq', h.closed, fun hr =>
    ⟨(h.lively hr).queue, (h.lively hr).closed_eq, (h.lively hr).dropped_eq⟩⟩

/-- The queue changes in both runs. -/
lemma enqueue (h : Twins L pairs s s') (hr : s.queue.receiving = true)
    {q q' : Queue (Delivery P)} (hq : q.Twins (Delivery.Alike L) q') :
    Twins L pairs { s with queue := q } { s' with queue := q' } :=
  ⟨h.stage, hq.receiving_eq, h.member_eq, h.member_eq', h.closed, fun _ =>
    ⟨hq, (h.lively hr).closed_eq, (h.lively hr).dropped_eq⟩⟩

lemma settle (h : Twins L pairs s s') (offer : Offer) {rest : Population.Rest P}
    (hrest : rest.isReplay = true → L.exact) :
    Twins L pairs (s.settle offer rest) (s'.settle offer rest) := by
  unfold Subscription.settle
  split
  · exact h.move (.plain trivial)
  · exact h.move (.plain trivial)
  · exact h.move (.plain hrest)
  · exact h.move (.plain hrest)

/-- A live event comes to a member, or passes by. -/
lemma live (h : Twins L pairs s s') {d d' : Delivery P} (hd : Delivery.Alike L d d') :
    Twins L pairs (if s.member then (s.live d).2 else s)
      (if s'.member then (s'.live d').2 else s') := by
  cases hr : s.queue.receiving with
  | false =>
    -- Who is gone hears nothing.
    have hgone : ∀ {t : Subscription P} {e : Delivery P}, t.queue.receiving = false →
        (if t.member then (t.live e).2 else t) = t := by
      intro t e ht
      simp [Subscription.live, Queue.push, ht]
    rwa [hgone hr, hgone (h.receiving_eq.trans hr)]
  | true =>
    have hlively := h.lively hr
    rw [h.member_eq, h.member_eq', hlively.closed_eq]
    cases s.closed with
    | true => exact h
    | false =>
      obtain ⟨hfst, hsnd⟩ := hlively.queue.push hd
      simp only [Bool.not_false, if_true]
      unfold Subscription.live
      rcases hpush : s.queue.push d with ⟨push, q⟩
      rcases hpush' : s'.queue.push d' with ⟨push', q'⟩
      rw [hpush, hpush'] at hfst hsnd
      obtain rfl : push' = push := hfst
      cases push' with
      | accepted => exact h.enqueue hr hsnd
      | full =>
        exact ⟨h.stage, h.receiving_eq, h.member_eq, h.member_eq', h.closed, fun hr =>
          ⟨hlively.queue, hlively.closed_eq, congrArg (· + 1) hlively.dropped_eq⟩⟩
      | gone => exact h

/-- A live event has the same fate in both runs. -/
lemma fst_live (h : Twins L pairs s s') (hr : s.queue.receiving = true) {d d' : Delivery P}
    (hd : Delivery.Alike L d d') : (s'.live d').1 = (s.live d).1 := by
  obtain ⟨hfst, -⟩ := (h.lively hr).queue.push hd
  unfold Subscription.live
  rcases hpush : s.queue.push d with ⟨push, q⟩
  rcases hpush' : s'.queue.push d' with ⟨push', q'⟩
  rw [hpush, hpush'] at hfst
  obtain rfl : push' = push := hfst
  cases push' with
  | accepted | gone => rfl
  | full => exact congrArg (fun n => Reception.overflowed (n + 1)) (h.lively hr).dropped_eq

/-- A subscription may be closed, in both runs alike unless its consumer is gone. -/
lemma closeIf (h : Twins L pairs s s') {p p' : Bool} (hp : s.queue.receiving = true → p' = p)
    (hgone : s.queue.receiving = false → p' = true → (p || s.closed) = true) :
    Twins L pairs (if p then s.close else s) (if p' then s'.close else s') := by
  have hstage : ∀ (t : Subscription P) (b : Bool),
      (if b then t.close else t).population = t.population := fun t b => by cases b <;> rfl
  have hqueue : ∀ (t : Subscription P) (b : Bool),
      (if b then t.close else t).queue = t.queue := fun t b => by cases b <;> rfl
  have hdropped : ∀ (t : Subscription P) (b : Bool),
      (if b then t.close else t).dropped = t.dropped := fun t b => by cases b <;> rfl
  have hclosed : ∀ (t : Subscription P) (b : Bool),
      (if b then t.close else t).closed = (b || t.closed) := fun t b => by cases b <;> rfl
  have hmember : ∀ (t : Subscription P) (b : Bool), t.member = !t.closed →
      (if b then t.close else t).member = !(b || t.closed) := fun t b ht => by
    cases b
    · exact ht
    · rfl
  refine ⟨?_, ?_, ?_, ?_, ?_, ?_⟩
  · rw [hstage, hstage]
    exact h.stage
  · rw [hqueue, hqueue]
    exact h.receiving_eq
  · rw [hclosed]
    exact hmember s p h.member_eq
  · rw [hclosed]
    exact hmember s' p' h.member_eq'
  · rw [hclosed, hclosed]
    intro hc
    cases hr : s.queue.receiving with
    | true => rwa [hp hr, (h.lively hr).closed_eq] at hc
    | false =>
      rcases Bool.or_eq_true_iff.1 hc with hp' | hc'
      · exact hgone hr hp'
      · rw [h.closed hc', Bool.or_true]
  · rw [hqueue]
    intro hr
    refine ⟨?_, ?_, ?_⟩
    · rw [hqueue, hqueue]
      exact (h.lively hr).queue
    · rw [hclosed, hclosed, hp hr, (h.lively hr).closed_eq]
    · rw [hdropped, hdropped]
      exact (h.lively hr).dropped_eq

lemma isWaiting_eq (h : Twins L pairs s s') :
    s'.population.isWaiting = s.population.isWaiting := by
  have hstage := h.stage
  unfold Population.isWaiting
  generalize s.population.stage = stage at hstage ⊢
  generalize s'.population.stage = stage' at hstage ⊢
  cases hstage <;> rfl

/-- The consumer finds the same in both runs. -/
lemma fst_receive (h : Twins L pairs s s') (hr : s.queue.receiving = true) :
    Receipt.Alike L s.receive.1 s'.receive.1 := by
  have hsender : s'.hasSender = s.hasSender := by
    rw [hasSender, hasSender, h.member_eq, h.member_eq', (h.lively hr).closed_eq, h.isWaiting_eq]
  rcases (h.lively hr).queue.receive? with ⟨hq, hq'⟩ | ⟨d, d', q, q', hq, hq', hd, -⟩
  · simp only [Subscription.receive, hq, hq', hsender]
    cases s.hasSender with
    | true => exact .nothing
    | false => exact .ended
  · simp only [Subscription.receive, hq, hq']
    exact .event hd

/-- The consumer asks for its next event. -/
lemma receive (h : Twins L pairs s s') : Twins L pairs s.receive.2 s'.receive.2 := by
  cases hr : s.queue.receiving with
  | true =>
    rcases (h.lively hr).queue.receive? with ⟨hq, hq'⟩ | ⟨d, d', q, q', hq, hq', -, hqueue⟩
    · simpa only [Subscription.receive, hq, hq'] using h
    · simpa only [Subscription.receive, hq, hq'] using h.enqueue hr hqueue
  | false =>
    have hasked : ∀ t : Subscription P, ∃ q : Queue (Delivery P),
        q.receiving = t.queue.receiving ∧ t.receive.2 = { t with queue := q } := by
      intro t
      unfold Subscription.receive
      split
      · rename_i hq
        obtain ⟨items, -, rfl⟩ := Queue.receive?_eq_some hq
        exact ⟨_, Queue.receiving_freeSlot { t.queue with items := items }, rfl⟩
      · exact ⟨_, rfl, rfl⟩
    obtain ⟨q, hq, heq⟩ := hasked s
    obtain ⟨q', hq', heq'⟩ := hasked s'
    rw [heq, heq']
    refine ⟨h.stage, hq'.trans (h.receiving_eq.trans hq.symm), h.member_eq, h.member_eq', h.closed,
      fun hr' => ?_⟩
    cases (hq.trans hr).symm.trans hr'

lemma hangUp (h : Twins L pairs s s') :
    Twins L pairs { s with queue := s.queue.hangUp } { s' with queue := s'.queue.hangUp } :=
  ⟨h.stage, rfl, h.member_eq, h.member_eq', h.closed, nofun⟩

end Twins

variable {key : Key} {handle handle' : Handle} {l l' : EventLog P} {move : Population.Move P}
  {out : Populated P}

/-- Only a snapshot writes. -/
lemma Populates.log_eq (hp : s.Populates key handle l move out) (hmove : move.isWriting = false) :
    out.log = l := by
  cases hp with
  | locate | record => cases hmove
  | _ => rfl

/-- A population that writes no more goes on not to. -/
lemma Populates.quiet (hp : s.Populates key handle l move out)
    (hquiet : s.population.stage.isQuiet = true) :
    move.isWriting = false ∧ out.subscription.population.stage.isQuiet = true := by
  have hsettle : ∀ {t : Subscription P} {offer : Offer} {rest : Population.Rest P},
      (!rest.isSnapshot) = true → (t.settle offer rest).population.stage.isQuiet = true := by
    intro t offer rest hrest
    unfold Subscription.settle
    split
    · rfl
    · rfl
    · exact hrest
    · exact hrest
  cases hp with
  | startListing hstage | locate hstage | record hstage | snapshotNext hstage
  | answerItems hstage => simp [hstage, Stage.isQuiet, Population.Rest.isSnapshot] at hquiet
  | offerRefused hstage | offerAccepted hstage | offerGone hstage | fill hstage | timeOut hstage
  | giveUp hstage =>
    rw [hstage] at hquiet
    exact ⟨rfl, hsettle hquiet⟩
  | offerWaits hstage =>
    rw [hstage] at hquiet
    exact ⟨rfl, hquiet⟩
  | _ => exact ⟨rfl, rfl⟩

lemma isFinished_settle_closed (s : Subscription P) (rest : Population.Rest P) :
    (s.settle .closed rest).population.isFinished = true := by
  cases rest <;> rfl

/-- What a queue takes or puts off has a consumer. -/
lemma receiving_of_push {q : Queue (Delivery P)} {d : Delivery P} (h : (q.push d).1 ≠ .gone) :
    q.receiving = true := by
  rcases q.push_cases d with ⟨hr, -, -⟩ | ⟨hr, -, -⟩ | ⟨-, hpush⟩
  · exact hr
  · exact hr
  · exact absurd (congrArg Prod.fst hpush) h

open WatchHub.EventLog (Agree InStep Ledger Owning)

variable {like : Key → Likeness P} {same : Key → LogId → LogId → Prop} {facts facts' : List (Fact P)}

/-- A step of a population is made in the second run too, or it is the last one for a consumer that is
gone. -/
inductive Keeps (like : Key → Likeness P) (same : Key → LogId → LogId → Prop)
    (facts facts' : List (Fact P)) (key : Key) (handle' : Handle) (l' : EventLog P)
    (s s' : Subscription P) (move : Population.Move P) (out : Populated P) : Prop where
  | made {out' same'} :
    s'.Populates key handle' l' move out' →
    InStep like same same' (facts ++ out.facts) (facts' ++ out'.facts) out.log out'.log →
    Twins (like key) (same' key) out.subscription out'.subscription →
    Keeps like same facts facts' key handle' l' s s' move out
  | last :
    s.queue.receiving = false → out.subscription.population.isFinished = true →
    move.isWriting = false → Keeps like same facts facts' key handle' l' s s' move out

/-- Before an item is offered it is added to the same log in both runs. -/
lemma Twins.keeps_writing (h : Twins (like key) (same key) s s')
    (hlogs : Agree like same l l') (how : Owning same facts facts') (hl : l.Ledger facts)
    (hl' : l'.Ledger facts')
    (hp : s.Populates key handle l move out) (hmove : move.isWriting = true) :
    Keeps like same facts facts' key handle' l' s s' move out := by
  have hstage := h.stage
  cases hp with
  | @locate event rest epoch hs =>
    obtain ⟨hs', -⟩ := h.stage_eq hs trivial
    exact .made (.locate hs') (.locate hlogs how hl hl' key epoch)
      (h.move (.recording (.inr ⟨rfl, rfl, rfl⟩)))
  | @record id event rest hs =>
    rw [hs] at hstage
    obtain ⟨id', hs', hpair⟩ := hstage.recording_inv
    have halike := (hlogs.paired hpair).alike
    refine .made (.record hs') (.record hlogs how hl hpair event _ _) (h.move ?_)
    refine .offering ⟨rfl, .some halike.nextVersion, fun hexact => ?_⟩ nofun
    simp only [EventLog.record, halike.eq hexact]
  | _ => cases hmove

/-- What a population does with what it was given, it does in both runs. -/
lemma Twins.keeps_offering (h : Twins (like key) (same key) s s')
    (hlogs : Agree like same l l') (how : Owning same facts facts')
    (hp : s.Populates key handle l move out)
    {d : Delivery P} {rest : Population.Rest P}
    (hs : s.population.stage = .offering d rest ∨ s.population.stage = .waiting d rest) :
    Keeps like same facts facts' key handle' l' s s' move out := by
  have hstage := h.stage
  obtain ⟨hrefused, hrefused'⟩ := h.refused_iff
  cases hp with
  | offerRefused hs hclosed =>
    rw [hs] at hstage
    obtain ⟨d', hs', hd, hrest⟩ := hstage.offering_inv
    rw [hrefused] at hclosed
    rcases h.closed_or_gone hclosed with hclosed' | hgone
    · exact .made (.offerRefused hs' (hrefused'.trans hclosed')) (.refl hlogs how _ _)
        (h.settle _ hrest)
    · exact .last hgone (isFinished_settle_closed s _) rfl
  | offerAccepted hs hopen hpush =>
    rw [hs] at hstage
    obtain ⟨d', hs', hd, hrest⟩ := hstage.offering_inv
    have hr := receiving_of_push (by rw [hpush]; exact nofun)
    obtain ⟨hfst, hsnd⟩ := (h.lively hr).queue.push hd
    rw [hrefused] at hopen
    exact .made (.offerAccepted hs' (hrefused'.trans (h.open_of_open hopen)) (hfst.trans hpush))
      (.refl hlogs how _ _) ((h.enqueue hr hsnd).settle _ hrest)
  | offerGone hs hopen hpush =>
    refine .last ?_ (isFinished_settle_closed s _) rfl
    rcases s.queue.push_cases _ with ⟨-, -, hq⟩ | ⟨-, -, hq⟩ | ⟨hr, -⟩
    · cases hpush.symm.trans (congrArg Prod.fst hq)
    · cases hpush.symm.trans (congrArg Prod.fst hq)
    · exact hr
  | offerWaits hs hopen hpush =>
    rw [hs] at hstage
    obtain ⟨d', hs', hd, hrest⟩ := hstage.offering_inv
    have hr := receiving_of_push (by rw [hpush]; exact nofun)
    obtain ⟨hfst, -⟩ := (h.lively hr).queue.push hd
    rw [hrefused] at hopen
    exact .made (.offerWaits hs' (hrefused'.trans (h.open_of_open hopen)) (hfst.trans hpush))
      (.refl hlogs how _ _) ((h.enqueue hr (h.lively hr).queue.lineUp).move (.waiting hd hrest))
  | fill hs haccepts hwaiter =>
    rw [hs] at hstage
    obtain ⟨d', hs', hd, hrest⟩ := hstage.waiting_inv
    obtain ⟨hopen, hr⟩ := Bool.and_eq_true_iff.1 haccepts
    have haccepts' : s'.accepts = true := by
      rwa [accepts, h.receiving_eq, (h.lively hr).closed_eq]
    exact .made (.fill hs' haccepts' ((h.lively hr).queue.waiter_eq.trans hwaiter))
      (.refl hlogs how _ _) ((h.enqueue hr ((h.lively hr).queue.fill hd)).settle _ hrest)
  | timeOut hs haccepts hwaiter =>
    rw [hs] at hstage
    obtain ⟨d', hs', hd, hrest⟩ := hstage.waiting_inv
    obtain ⟨hopen, hr⟩ := Bool.and_eq_true_iff.1 haccepts
    have haccepts' : s'.accepts = true := by
      rwa [accepts, h.receiving_eq, (h.lively hr).closed_eq]
    exact .made (.timeOut hs' haccepts' ((h.lively hr).queue.waiter_eq.trans hwaiter))
      (.refl hlogs how _ _) ((h.enqueue hr (h.lively hr).queue.withdraw).settle _ hrest)
  | giveUp hs haccepts =>
    rw [hs] at hstage
    obtain ⟨d', hs', hd, hrest⟩ := hstage.waiting_inv
    cases hr : s.queue.receiving with
    | false => exact .last hr (isFinished_settle_closed _ _) rfl
    | true =>
      have haccepts' : s'.accepts = false := by
        rwa [accepts, h.receiving_eq, (h.lively hr).closed_eq]
      exact .made (.giveUp hs' haccepts') (.refl hlogs how _ _)
        ((h.enqueue hr (h.lively hr).queue.withdraw).settle _ hrest)
  | startClosed hs' | startListing hs' | startSeeking hs' | answerItems hs' | answerFailed hs'
  | answerCrashed hs' | quit hs' | seekFound hs' | seekRefused hs' | readHistory hs'
  | readRefused hs' | snapshotDone hs' | snapshotHalted hs' | snapshotNext hs' | replayDone hs'
  | replayNext hs' | complaintDone hs' | locate hs' | record hs' =>
    rw [hs'] at hs
    rcases hs with hs | hs <;> cases hs

/-- Every step of a population is made in both runs, or it is the last one for a consumer that is
gone. -/
theorem Twins.keeps (h : Twins (like key) (same key) s s')
    (hlogs : Agree like same l l') (how : Owning same facts facts') (hl : l.Ledger facts)
    (hl' : l'.Ledger facts')
    (hp : s.Populates key handle l move out) (handle' : Handle) :
    Keeps like same facts facts' key handle' l' s s' move out := by
  have hstep := hp
  cases hp with
  | startClosed hs hclosed =>
    obtain ⟨hs', -⟩ := h.stage_eq hs nofun
    rcases h.closed_or_gone hclosed with hclosed' | hgone
    · exact .made (.startClosed hs' hclosed') (.refl hlogs how _ _) (h.move (.plain trivial))
    · exact .last hgone rfl rfl
  | startListing hs hopen =>
    obtain ⟨hs', -⟩ := h.stage_eq hs nofun
    exact .made (.startListing hs' (h.open_of_open hopen)) (.refl hlogs how _ _)
      (h.move (.plain trivial))
  | startSeeking hs =>
    obtain ⟨hs', hexact⟩ := h.stage_eq hs (fun _ => trivial)
    exact .made (.startSeeking hs') (.refl hlogs how _ _) (h.move (.plain (hexact rfl)))
  | answerItems hs =>
    obtain ⟨hs', -⟩ := h.stage_eq hs trivial
    exact .made (.answerItems hs') (.refl hlogs how _ _) (h.move (.plain nofun))
  | answerFailed hs =>
    obtain ⟨hs', -⟩ := h.stage_eq hs trivial
    exact .made (.answerFailed hs') (.refl hlogs how _ _) (h.move (.offering (.refl _ _) nofun))
  | answerCrashed hs =>
    obtain ⟨hs', -⟩ := h.stage_eq hs trivial
    exact .made (.answerCrashed hs') (.refl hlogs how _ _) (h.move (.plain trivial))
  | quit hs hclosed =>
    obtain ⟨hs', -⟩ := h.stage_eq hs trivial
    rcases h.closed_or_gone hclosed with hclosed' | hgone
    · exact .made (.quit hs' hclosed') (.refl hlogs how _ _) (h.move (.plain trivial))
    · exact .last hgone rfl rfl
  -- A replay is at the same place in both runs only if the log of its key is the same.
  | seekFound hs hfind =>
    obtain ⟨hs', hexact⟩ := h.stage_eq hs trivial
    rcases hlogs.find?_cases hexact with ⟨hnone, -⟩ | ⟨id, id', hfind₁, hfind', hpair⟩
    · cases hnone.symm.trans hfind
    · cases hfind₁.symm.trans hfind
      exact .made (.seekFound hs' hfind') (.refl hlogs how _ _) (h.move (.reading hexact hpair))
  | seekRefused hs hfind =>
    obtain ⟨hs', hexact⟩ := h.stage_eq hs trivial
    rcases hlogs.find?_cases hexact with ⟨-, hfind'⟩ | ⟨id, id', hfind₁, -⟩
    · exact .made (.seekRefused hs' hfind') (.refl hlogs how _ _)
        (h.move (.offering (.refl _ _) nofun))
    · cases hfind₁.symm.trans hfind
  | readHistory hs hafter =>
    have hstage := h.stage
    rw [hs] at hstage
    obtain ⟨id', hs', hexact, hpair⟩ := hstage.reading_inv
    rw [← (hlogs.paired hpair).alike.eq hexact] at hafter
    exact .made (.readHistory hs' hafter) (.refl hlogs how _ _) (h.move (.plain fun _ => hexact))
  | readRefused hs hafter =>
    have hstage := h.stage
    rw [hs] at hstage
    obtain ⟨id', hs', hexact, hpair⟩ := hstage.reading_inv
    rw [← (hlogs.paired hpair).alike.eq hexact] at hafter
    exact .made (.readRefused hs' hafter) (.refl hlogs how _ _)
      (h.move (.offering (.refl _ _) nofun))
  | snapshotDone hs =>
    obtain ⟨hs', -⟩ := h.stage_eq hs nofun
    exact .made (.snapshotDone hs') (.refl hlogs how _ _) (h.move (.plain trivial))
  | snapshotHalted hs hclosed =>
    obtain ⟨hs', -⟩ := h.stage_eq hs nofun
    rcases h.closed_or_gone hclosed with hclosed' | hgone
    · exact .made (.snapshotHalted hs' hclosed') (.refl hlogs how _ _) (h.move (.plain trivial))
    · exact .last hgone rfl rfl
  | snapshotNext hs hopen =>
    obtain ⟨hs', -⟩ := h.stage_eq hs nofun
    exact .made (.snapshotNext hs' (h.open_of_open hopen)) (.refl hlogs how _ _)
      (h.move (.plain trivial))
  | replayDone hs =>
    obtain ⟨hs', -⟩ := h.stage_eq hs fun _ => trivial
    exact .made (.replayDone hs') (.refl hlogs how _ _) (h.move (.plain trivial))
  | replayNext hs =>
    obtain ⟨hs', hexact⟩ := h.stage_eq hs fun _ => trivial
    exact .made (.replayNext hs') (.refl hlogs how _ _)
      (h.move (.offering (.refl _ _) fun _ => hexact rfl))
  | complaintDone hs =>
    obtain ⟨hs', -⟩ := h.stage_eq hs nofun
    exact .made (.complaintDone hs') (.refl hlogs how _ _) (h.move (.plain trivial))
  | locate | record => exact h.keeps_writing hlogs how hl hl' hstep rfl
  | offerRefused hs | offerAccepted hs | offerGone hs | offerWaits hs =>
    exact h.keeps_offering hlogs how hstep (.inl hs)
  | fill hs | timeOut hs | giveUp hs => exact h.keeps_offering hlogs how hstep (.inr hs)

end Subscription

end WatchHub
