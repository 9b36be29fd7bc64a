import WatchHub.Proofs.Beside.Guest
import WatchHub.Proofs.Beside.Subscriptions
import WatchHub.Proofs.Table

/-!
# A key in two runs

The subscriptions of a key but for the guest's stand beside each other in two runs (`Audience.Beside`),
and so do the two states of its registration (`Registration.Beside`). What the hub does to an audience
in both runs keeps it, and so does what it does for the guest in the first run only, as nothing but a
consumer that is gone is pruned then.
-/

namespace WatchHub

variable {P : Type}

open WatchHub.EventLog (Agree InStep Ledger Owning)

namespace Subscription

variable {L L' : Likeness P} {pairs pairs' : LogId → LogId → Prop} {bystander : Prop}
  {s s' s₁ s₁' : Subscription P}

/-- A subscription in two runs: it goes on in the same way, or it writes no more in the first run, and
then it is none that others are to be compared by, or its consumer is gone. -/
inductive Pair (L : Likeness P) (pairs : LogId → LogId → Prop) (bystander : Prop)
    (s s' : Subscription P) : Prop where
  | twins : Twins L pairs s s' → Pair L pairs bystander s s'
  | quiet :
    s.population.stage.isQuiet = true → (s.queue.receiving = true → ¬ L.exact ∧ ¬ bystander) →
    Pair L pairs bystander s s'

namespace Pair

/-- A bystander goes on in the same way. -/
lemma twins_of_bystander (h : Pair L pairs bystander s s') (hb : bystander)
    (hr : s.queue.receiving = true) : Twins L pairs s s' := by
  cases h with
  | twins h => exact h
  | quiet _ hquiet => exact absurd hb (hquiet hr).2

/-- Less may be known of the runs. Where their logs come to differ, replays that have not finished are
let go. -/
lemma weaken (h : Pair L pairs bystander s s') (hle : L.Le L')
    (hpairs : ∀ {id id'}, pairs id id' → pairs' id id')
    (hby : (L.exact → L'.exact) ∨ (bystander → s.population.isFinished = true)) :
    Pair L' pairs' bystander s s' := by
  cases h with
  | quiet hquiet hgone =>
    exact .quiet hquiet fun hr => ⟨fun h => (hgone hr).1 (hle.exact h), (hgone hr).2⟩
  | twins h =>
    by_cases hexact : L.exact → L'.exact
    · exact .twins (h.weaken hle hpairs fun _ => .inl hexact)
    · by_cases hfinished : s.population.isFinished = true
      · exact .twins (h.weaken hle hpairs fun _ => .inr (Population.stage_of_isFinished hfinished))
      · cases hquiet : s.population.stage.isQuiet with
        | true =>
          exact .quiet hquiet fun _ => ⟨fun hexact' => hexact fun _ => hexact',
            fun h => hfinished (hby.resolve_left hexact h)⟩
        | false => exact .twins (h.weaken hle hpairs fun h => nomatch hquiet.symm.trans h)

/-- Whatever leaves the population where it stands and gives the consumer nothing back. -/
lemma change (h : Pair L pairs bystander s s')
    (htwins : Twins L pairs s s' → Twins L pairs s₁ s₁')
    (hpop : s₁.population = s.population)
    (hlater : s₁.queue.receiving = true → s.queue.receiving = true) :
    Pair L pairs bystander s₁ s₁' := by
  cases h with
  | twins h => exact .twins (htwins h)
  | quiet hquiet hby => exact .quiet (hpop ▸ hquiet) fun hr => hby (hlater hr)

lemma closeIf (h : Pair L pairs bystander s s') {p p' : Bool}
    (hp : s.member = !s.closed → s'.member = !s'.closed → s'.queue.receiving = s.queue.receiving →
      (s.queue.receiving = true → s'.closed = s.closed → p' = p) ∧
      (s.queue.receiving = false → p' = true → (p || s.closed) = true)) :
    Pair L pairs bystander (if p then s.close else s) (if p' then s'.close else s') := by
  refine h.change (fun h => ?_) (by cases p <;> rfl) (by cases p <;> exact id)
  obtain ⟨hlively, hgone⟩ := hp h.member_eq h.member_eq' h.receiving_eq
  exact h.closeIf (fun hr => hlively hr (h.lively hr).closed_eq) hgone

/-- Members whose consumers are gone are closed in both runs. -/
lemma prune (h : Pair L pairs bystander s s') :
    Pair L pairs bystander (if s.isAbandoned then s.close else s)
      (if s'.isAbandoned then s'.close else s') := by
  refine h.closeIf fun hm hm' hr => ⟨fun hlive _ => ?_, fun hgone _ => ?_⟩
  · simp [isAbandoned, hr, hlive]
  · simp [isAbandoned, hm, hgone]

/-- Members whose consumers are gone are closed in the first run only. -/
lemma prune_left (h : Pair L pairs bystander s s') :
    Pair L pairs bystander (if s.isAbandoned then s.close else s) s' := by
  have hleft : Pair L pairs bystander (if s.isAbandoned then s.close else s)
      (if false then s'.close else s') :=
    h.closeIf fun hm hm' hr => ⟨fun hlive _ => by simp [isAbandoned, hlive], nofun⟩
  simpa using hleft

/-- A member is closed in both runs, and so are those whose consumers are gone. -/
lemma remove (h : Pair L pairs bystander s s') (b : Bool) :
    Pair L pairs bystander (if s.isAbandoned || (s.member && b) then s.close else s)
      (if s'.isAbandoned || (s'.member && b) then s'.close else s') := by
  refine h.closeIf fun hm hm' hr => ⟨fun hlive hc => ?_, fun hgone _ => ?_⟩
  · simp [isAbandoned, hr, hlive, hm, hm', hc]
  · cases hclosed : s.closed <;> simp [isAbandoned, hm, hgone, hclosed]

lemma closeAll (h : Pair L pairs bystander s s') :
    Pair L pairs bystander (if s.member then s.close else s)
      (if s'.member then s'.close else s') := by
  refine h.closeIf fun hm hm' hr => ⟨fun _ hc => ?_, fun hgone _ => ?_⟩
  · rw [hm, hm', hc]
  · cases hclosed : s.closed <;> simp [hm, hclosed]

lemma live (h : Pair L pairs bystander s s') {d d' : Delivery P}
    (hd : Delivery.Alike L d d') :
    Pair L pairs bystander (if s.member then (s.live d).2 else s)
      (if s'.member then (s'.live d').2 else s') := by
  refine h.change (fun h => h.live hd) ?_ ?_
  · split
    · exact s.population_live d
    · rfl
  · split
    · rw [queue_live, Queue.receiving_push]
      exact id
    · exact id

lemma receive (h : Pair L pairs bystander s s') :
    Pair L pairs bystander s.receive.2 s'.receive.2 := by
  rcases s.receive_cases with ⟨d, t, hs⟩ | ⟨-, receipt, -, hs⟩
  · refine h.change (fun h => h.receive) ?_ ?_
    · rw [hs]
      exact population_receive hs
    · rw [hs]
      exact (Turn.received hs : Turn default default s _ t).later.receiving
  · refine h.change (fun h => h.receive) ?_ ?_
    · rw [hs]
    · rw [hs]
      exact id

lemma hangUp (h : Pair L pairs bystander s s') :
    Pair L pairs bystander { s with queue := s.queue.hangUp }
      { s' with queue := s'.queue.hangUp } :=
  h.change (fun h => h.hangUp) rfl nofun

end Pair

variable {key : Key} {handle handle' : Handle} {l l' l₁' : EventLog P} {move : Population.Move P}
  {out : Populated P} {like : Key → Likeness P} {same : Key → LogId → LogId → Prop}
  {facts facts' told' : List (Fact P)}

/-- What becomes of a move in the second run: it is made, or passed over where that may be and it cannot
be made. -/
inductive Echoes (key : Key) (handle' : Handle) (l' : EventLog P) (s' : Subscription P)
    (move : Population.Move P) (spare : Prop) : Populated P → Prop where
  | made {out'} :
    s'.populate key handle' l' move = some out' → Echoes key handle' l' s' move spare out'
  | passed :
    spare → s'.populate key handle' l' move = none →
    Echoes key handle' l' s' move spare ⟨l', s', []⟩

/-- Whatever becomes of a move that does not write, the logs stay as they are. -/
lemma Echoes.of_not_isWriting (key : Key) (handle' : Handle) (l' : EventLog P)
    (s' : Subscription P) (hmove : move.isWriting = false) {spare : Prop} (hspare : spare) :
    ∃ out', Echoes key handle' l' s' move spare out' ∧ out'.log = l' := by
  cases hout : s'.populate key handle' l' move with
  | none => exact ⟨_, .passed hspare hout, rfl⟩
  | some out' => exact ⟨out', .made hout, (Populates.of_populate hout).log_eq hmove⟩

/-- A step of a population is made in the second run too, or it does not matter there. -/
theorem Pair.populates (h : Pair (like key) (same key) bystander s s')
    (hlogs : Agree like same l l') (how : Owning same facts facts') (hl : l.Ledger facts)
    (hl' : l'.Ledger facts') (hp : s.Populates key handle l move out) (handle' : Handle) :
    ∃ out' same',
      Echoes key handle' l' s' move
        (s.queue.receiving = true → ¬ (like key).exact ∧ ¬ bystander) out' ∧
      InStep like same same' (facts ++ out.facts) (facts' ++ out'.facts) out.log out'.log ∧
      Pair (like key) (same' key) bystander out.subscription out'.subscription := by
  have hreceiving := hp.serves.receiving_eq
  -- A population that writes no more does not keep up with the second run.
  have hsilent : move.isWriting = false → out.subscription.population.stage.isQuiet = true →
      (s.queue.receiving = true → ¬ (like key).exact ∧ ¬ bystander) →
      ∃ out' same',
        Echoes key handle' l' s' move
          (s.queue.receiving = true → ¬ (like key).exact ∧ ¬ bystander) out' ∧
        InStep like same same' (facts ++ out.facts) (facts' ++ out'.facts) out.log out'.log ∧
        Pair (like key) (same' key) bystander out.subscription out'.subscription := by
    intro hmove hquiet hby
    obtain ⟨out', hechoes, hlog'⟩ := Echoes.of_not_isWriting key handle' l' s' hmove hby
    rw [hp.log_eq hmove]
    refine ⟨out', same, hechoes, ?_, .quiet hquiet fun hr => hby (hreceiving ▸ hr)⟩
    rw [hlog']
    exact .refl hlogs how _ _
  cases h with
  | twins h =>
    cases h.keeps hlogs how hl hl' hp handle' with
    | @made out' same' hp' hlog htwins =>
      exact ⟨out', same', .made hp'.populate_eq, hlog, .twins htwins⟩
    | last hgone hfinished hmove =>
      refine hsilent hmove ?_ fun hr => ?_
      · obtain ⟨ending, hstage⟩ := Population.stage_of_isFinished hfinished
        rw [hstage]
        rfl
      · cases hgone.symm.trans hr
  | quiet hquiet hby =>
    obtain ⟨hmove, hquiet'⟩ := hp.quiet hquiet
    exact hsilent hmove hquiet' hby

end Subscription

/-- The subscriptions of a key in two runs, each under its handle there. -/
def Audience.Beside (g : Guest) (L : Likeness P) (pairs : LogId → LogId → Prop)
    (bystander : Handle → Prop) (a a' : Audience P) : Prop :=
  ∀ handle, handle ≠ g.handle →
    Option.Rel (Subscription.Pair L pairs (bystander handle)) (a.get? handle)
      (a'.get? (g.rename handle))

namespace Audience

open Subscription (Pair)

variable {g : Guest} {L L' : Likeness P} {pairs pairs' : LogId → LogId → Prop}
  {bystander : Handle → Prop} {a a' b b' : Audience P} {handle : Handle}

/-- A subscription that is there in the first run is there in the second. -/
lemma Beside.get? (h : Beside g L pairs bystander a a') (hne : handle ≠ g.handle)
    {s : Subscription P} (hs : a.get? handle = some s) :
    ∃ s', a'.get? (g.rename handle) = some s' ∧ Pair L pairs (bystander handle) s s' :=
  exists_of_rel_some (hs ▸ h handle hne)

/-- What happens to every subscription in both runs. -/
lemma Beside.map (h : Beside g L pairs bystander a a')
    {f f' : Handle → Subscription P → Subscription P}
    (hb : ∀ handle, b.get? handle = (a.get? handle).map (f handle))
    (hb' : ∀ handle, b'.get? handle = (a'.get? handle).map (f' handle))
    (hf : ∀ handle, handle ≠ g.handle → ∀ {s s'}, Pair L pairs (bystander handle) s s' →
      Pair L pairs' (bystander handle) (f handle s) (f' (g.rename handle) s')) :
    Beside g L pairs' bystander b b' := by
  intro handle hne
  have hrel := h handle hne
  rw [hb, hb']
  generalize a.get? handle = row at hrel ⊢
  generalize a'.get? (g.rename handle) = row' at hrel ⊢
  cases hrel with
  | none => exact .none
  | some hpair => exact .some (hf handle hne hpair)

/-- What happens to every subscription in the first run only. -/
lemma Beside.map_left (h : Beside g L pairs bystander a a')
    {f : Handle → Subscription P → Subscription P}
    (hb : ∀ handle, b.get? handle = (a.get? handle).map (f handle))
    (hf : ∀ handle, handle ≠ g.handle → ∀ {s s'}, Pair L pairs (bystander handle) s s' →
      Pair L pairs (bystander handle) (f handle s) s') :
    Beside g L pairs bystander b a' := by
  have hb' : ∀ handle, a'.get? handle = (a'.get? handle).map fun s => s := fun _ => by simp
  exact h.map hb hb' hf

lemma Beside.prune (h : Beside g L pairs bystander a a') :
    Beside g L pairs bystander a.prune.1 a'.prune.1 :=
  h.map a.get?_prune a'.get?_prune fun _ _ => Pair.prune

lemma Beside.prune_left (h : Beside g L pairs bystander a a') :
    Beside g L pairs bystander a.prune.1 a' :=
  h.map_left a.get?_prune fun _ _ => Pair.prune_left

lemma Beside.closeAll (h : Beside g L pairs bystander a a') :
    Beside g L pairs bystander a.closeAll.1 a'.closeAll.1 :=
  h.map a.get?_closeAll a'.get?_closeAll fun _ _ => Pair.closeAll

lemma Beside.emit (h : Beside g L pairs bystander a a') {d d' : Delivery P}
    (hd : Delivery.Alike L d d') :
    Beside g L pairs bystander (a.emit d).1 (a'.emit d').1 :=
  h.map (fun handle => a.get?_emit handle d) (fun handle => a'.get?_emit handle d')
    fun _ _ _ _ hpair => hpair.live hd

lemma Beside.remove (h : Beside g L pairs bystander a a') (hne : handle ≠ g.handle) :
    Beside g L pairs bystander (a.remove handle).2.1 (a'.remove (g.rename handle)).2.1 := by
  refine h.map (a.get?_remove handle) (a'.get?_remove (g.rename handle)) fun handle' hne' s s' hp => ?_
  have heq : (g.rename handle = g.rename handle') = (handle = handle') :=
    propext (g.rename_eq_iff hne hne')
  simp only [heq]
  exact hp.remove _

/-- That the guest leaves is seen by no consumer that is still there. -/
lemma Beside.remove_guest (h : Beside g L pairs bystander a a') :
    Beside g L pairs bystander (a.remove g.handle).2.1 a' := by
  refine h.map_left (a.get?_remove g.handle) fun handle hne s s' hp => ?_
  simp only [hne.symm, decide_false, Bool.and_false, Bool.or_false]
  exact hp.prune_left

/-- One subscription is replaced in both runs. -/
lemma Beside.put (h : Beside g L pairs bystander a a') (hne : handle ≠ g.handle)
    {s s' : Subscription P} (hp : Pair L pairs (bystander handle) s s') :
    Beside g L pairs bystander (a.put handle s) (a'.put (g.rename handle) s') := by
  intro handle' hne'
  by_cases heq : handle = handle'
  · subst heq
    rw [get?_put_self, get?_put_self]
    exact .some hp
  · rw [get?_put_ne a heq, get?_put_ne a' (g.rename_ne hne hne' heq)]
    exact h handle' hne'

lemma Beside.put_guest (h : Beside g L pairs bystander a a') (s : Subscription P) :
    Beside g L pairs bystander (a.put g.handle s) a' := by
  intro handle hne
  rw [get?_put_ne a hne.symm]
  exact h handle hne

lemma Beside.insert (h : Beside g L pairs bystander a a') (hne : handle ≠ g.handle)
    {s s' : Subscription P} (hp : Pair L pairs (bystander handle) s s') :
    Beside g L pairs bystander (a.insert handle s).1 (a'.insert (g.rename handle) s').1 :=
  h.prune.put hne hp

lemma Beside.insert_guest (h : Beside g L pairs bystander a a') (s : Subscription P) :
    Beside g L pairs bystander (a.insert g.handle s).1 a' :=
  h.prune_left.put_guest s

/-- Less may be known of the runs. -/
lemma Beside.weaken (h : Beside g L pairs bystander a a') (hle : L.Le L')
    (hpairs : ∀ {id id'}, pairs id id' → pairs' id id')
    (hby : (L.exact → L'.exact) ∨ ∀ {handle s}, bystander handle → a.get? handle = some s →
      s.population.isFinished = true) : Beside g L' pairs' bystander a a' :=
  fun handle hne => rel_imp (h handle hne) fun hs _ hpair =>
    hpair.weaken hle hpairs (hby.imp_right fun hby hb => hby hb hs)

end Audience

/-- An ingest stands at the same place in two runs. -/
inductive Ingest.Stage.Twins (L : Likeness P) (pairs : LogId → LogId → Prop) :
    Ingest.Stage P → Ingest.Stage P → Prop where
  | spawned : Twins L pairs .spawned .spawned
  | watching : Twins L pairs .watching .watching
  | streaming : Twins L pairs .streaming .streaming
  | locating {event last} : Twins L pairs (.locating event last) (.locating event last)
  | recording {id id' event last} :
    pairs id id' → Twins L pairs (.recording id event last) (.recording id' event last)
  | emitting {d d' last} :
    Delivery.Alike L d d' → Twins L pairs (.emitting d last) (.emitting d' last)
  | felled : Twins L pairs .felled .felled
  | finished {ending} : Twins L pairs (.finished ending) (.finished ending)

namespace Ingest.Stage

variable {L L' : Likeness P} {pairs pairs' : LogId → LogId → Prop} {stage stage' : Ingest.Stage P}

/-- Whether an ingest has neither a log nor a logged event in hand. -/
def isPlain : Ingest.Stage P → Bool
  | .recording .. | .emitting .. => false
  | _ => true

lemma Twins.eq_of_isPlain (h : Twins L pairs stage stage') (hplain : stage.isPlain = true) :
    stage' = stage := by
  cases h with
  | recording | emitting => cases hplain
  | _ => rfl

lemma Twins.recording_inv {id : LogId} {event : Event P} {last : Bool}
    (h : Twins L pairs (.recording id event last) stage') :
    ∃ id', stage' = .recording id' event last ∧ pairs id id' := by
  cases h with
  | recording h => exact ⟨_, rfl, h⟩

lemma Twins.emitting_inv {d : Delivery P} {last : Bool}
    (h : Twins L pairs (.emitting d last) stage') :
    ∃ d', stage' = .emitting d' last ∧ Delivery.Alike L d d' := by
  cases h with
  | emitting hd => exact ⟨_, rfl, hd⟩

/-- Less may be known of the runs. -/
lemma Twins.weaken (h : Twins L pairs stage stage') (hle : L.Le L')
    (hpairs : ∀ {id id'}, pairs id id' → pairs' id id') : Twins L' pairs' stage stage' := by
  cases h with
  | recording h => exact .recording (hpairs h)
  | emitting hd => exact .emitting (hd.weaken hle)
  | spawned => exact .spawned
  | watching => exact .watching
  | streaming => exact .streaming
  | locating => exact .locating
  | felled => exact .felled
  | finished => exact .finished

end Ingest.Stage

/-- An ingest in two runs. -/
structure Ingest.Twins (L : Likeness P) (pairs : LogId → LogId → Prop) (i i' : Ingest P) : Prop where
  stage : i.stage.Twins L pairs i'.stage
  inbox_eq : i'.inbox = i.inbox
  ended_eq : i'.ended = i.ended
  inTurn_eq : i'.inTurn = i.inTurn
  aborted_eq : i'.aborted = i.aborted

namespace Ingest

variable {L L' : Likeness P} {pairs pairs' : LogId → LogId → Prop} {i i' : Ingest P}

lemma Twins.weaken (h : Twins L pairs i i') (hle : L.Le L')
    (hpairs : ∀ {id id'}, pairs id id' → pairs' id id') : Twins L' pairs' i i' :=
  ⟨h.stage.weaken hle hpairs, h.inbox_eq, h.ended_eq, h.inTurn_eq, h.aborted_eq⟩

lemma Twins.isFinished_eq (h : Twins L pairs i i') : i'.isFinished = i.isFinished := by
  have hstage := h.stage
  unfold Ingest.isFinished
  generalize i.stage = stage at hstage ⊢
  generalize i'.stage = stage' at hstage ⊢
  cases hstage <;> rfl

lemma Twins.isOver_eq (h : Twins L pairs i i') : i'.isOver = i.isOver := by
  have hstage := h.stage
  unfold Ingest.isOver
  generalize i.stage = stage at hstage ⊢
  generalize i'.stage = stage' at hstage ⊢
  cases hstage <;> rfl

end Ingest

/-- A registration in two runs. -/
structure Registration.Beside (g : Guest) (L : Likeness P) (pairs : LogId → LogId → Prop)
    (bystander : Handle → Prop) (r r' : Registration P) : Prop where
  key_eq : r'.key = r.key
  bound_eq : r'.bound = r.bound
  ingest : r.ingest.Twins L pairs r'.ingest
  audience : r.audience.Beside g L pairs bystander r'.audience

namespace Registration

open Subscription (Pair Echoes)

variable {g : Guest} {L L' : Likeness P} {pairs pairs' : LogId → LogId → Prop}
  {bystander : Handle → Prop} {r r' : Registration P} {facts facts' : List (Fact P)}

namespace Beside

lemma new (key : Key) (observer : ObserverRef) :
    Beside g L pairs bystander (Registration.new key observer : Registration P)
      (.new key observer) :=
  ⟨rfl, rfl, ⟨.spawned, rfl, rfl, rfl, rfl⟩, fun _ _ => .none⟩

/-- Less may be known of the runs. -/
lemma weaken (h : Beside g L pairs bystander r r') (hle : L.Le L')
    (hpairs : ∀ {id id'}, pairs id id' → pairs' id id')
    (hby : (L.exact → L'.exact) ∨ ∀ {handle s}, bystander handle →
      r.audience.get? handle = some s → s.population.isFinished = true) :
    Beside g L' pairs' bystander r r' :=
  ⟨h.key_eq, h.bound_eq, h.ingest.weaken hle hpairs, h.audience.weaken hle hpairs hby⟩

/-- More logs may stand for each other. -/
lemma grow (h : Beside g L pairs bystander r r')
    (hpairs : ∀ {id id'}, pairs id id' → pairs' id id') : Beside g L pairs' bystander r r' :=
  h.weaken (.refl L) hpairs (.inl id)

/-- The ingest moves on in both runs. -/
lemma moveTo (h : Beside g L pairs bystander r r') {stage stage' : Ingest.Stage P}
    (hstage : stage.Twins L pairs stage') :
    Beside g L pairs bystander (r.moveTo stage) (r'.moveTo stage') :=
  ⟨h.key_eq, h.bound_eq, ⟨hstage, h.ingest.inbox_eq, h.ingest.ended_eq, rfl, h.ingest.aborted_eq⟩,
    h.audience⟩

/-- A turn of the ingest begins or ends in both runs. -/
lemma setTurn (h : Beside g L pairs bystander r r') (inTurn : Bool) :
    Beside g L pairs bystander (r.setTurn inTurn) (r'.setTurn inTurn) :=
  ⟨h.key_eq, h.bound_eq,
    ⟨h.ingest.stage, h.ingest.inbox_eq, h.ingest.ended_eq, rfl, h.ingest.aborted_eq⟩, h.audience⟩

/-- The audience changes in both runs. -/
lemma withAudience (h : Beside g L pairs bystander r r') {a a' : Audience P}
    (haudience : a.Beside g L pairs bystander a') (ha : a.key = r.key) (ha' : a'.key = r'.key) :
    Beside g L pairs bystander { r with audience := a } { r' with audience := a' } :=
  ⟨ha'.trans (h.key_eq.trans ha.symm), h.bound_eq, h.ingest, haudience⟩

/-- The audience changes in the first run only. -/
lemma withAudience_left (h : Beside g L pairs bystander r r') {a : Audience P}
    (haudience : a.Beside g L pairs bystander r'.audience) (ha : a.key = r.key) :
    Beside g L pairs bystander { r with audience := a } r' :=
  ⟨h.key_eq.trans ha.symm, h.bound_eq, h.ingest, haudience⟩

lemma unbind (h : Beside g L pairs bystander r r') :
    Beside g L pairs bystander { r with bound := false } { r' with bound := false } :=
  ⟨h.key_eq, rfl, h.ingest, h.audience⟩

lemma abort (h : Beside g L pairs bystander r r') :
    Beside g L pairs bystander r.abort r'.abort := by
  unfold Registration.abort
  rw [h.ingest.isFinished_eq, h.ingest.inTurn_eq]
  split
  · exact h
  · refine ⟨h.key_eq, h.bound_eq, ⟨?_, h.ingest.inbox_eq, h.ingest.ended_eq, h.ingest.inTurn_eq, rfl⟩,
      h.audience⟩
    dsimp only
    split
    · exact h.ingest.stage
    · exact .felled

lemma send (h : Beside g L pairs bystander r r') (event : Event P) :
    Beside g L pairs bystander (r.send event) (r'.send event) := by
  unfold Registration.send
  rw [h.ingest.isFinished_eq, h.ingest.ended_eq]
  split
  · exact h
  · exact ⟨h.key_eq, h.bound_eq, { h.ingest with inbox_eq := congrArg (· ++ [event]) h.ingest.inbox_eq },
      h.audience⟩

lemma endStream (h : Beside g L pairs bystander r r') :
    Beside g L pairs bystander r.endStream r'.endStream :=
  ⟨h.key_eq, h.bound_eq, { h.ingest with ended_eq := rfl }, h.audience⟩

variable {l l' : EventLog P} {like : Key → Likeness P} {same : Key → LogId → LogId → Prop}
  {stopped : Bool}

/-- A step of the ingest is made in both runs. -/
theorem step (h : Beside g (like r.key) (same r.key) bystander r r')
    (hlogs : Agree like same l l') (how : Owning same facts facts') (hl : l.Ledger facts)
    (hl' : l'.Ledger facts') {move : Ingest.Move} {out : Ingested P}
    (hi : r.Ingests stopped l move out) :
    ∃ out' same', r'.Ingests stopped l' move out' ∧
      InStep like same same' (facts ++ out.facts) (facts' ++ out'.facts) out.log out'.log ∧
      Beside g (like r.key) (same' r.key) bystander out.registration out'.registration := by
  have hstage := h.ingest.stage
  have hkey := h.key_eq
  cases hi with
  | startCancelled hs hstopped =>
    have hs' := (hs ▸ hstage).eq_of_isPlain rfl
    exact ⟨_, same, .startCancelled hs' hstopped, .refl hlogs how _ _, h.moveTo .finished⟩
  | startWatching hs hrunning =>
    have hs' := (hs ▸ hstage).eq_of_isPlain rfl
    exact ⟨_, same, .startWatching hs' hrunning, .refl hlogs how _ _, h.moveTo .watching⟩
  | answerStream hs =>
    have hs' := (hs ▸ hstage).eq_of_isPlain rfl
    exact ⟨_, same, .answerStream hs', .refl hlogs how _ _, h.moveTo .streaming⟩
  | answerFailed hs =>
    have hs' := (hs ▸ hstage).eq_of_isPlain rfl
    exact ⟨_, same, .answerFailed hs', .refl hlogs how _ _, h.moveTo .locating⟩
  | answerCrashed hs =>
    have hs' := (hs ▸ hstage).eq_of_isPlain rfl
    exact ⟨_, same, .answerCrashed hs', .refl hlogs how _ _, h.moveTo .finished⟩
  | stopWatching hs hstopped =>
    have hs' := (hs ▸ hstage).eq_of_isPlain rfl
    exact ⟨_, same, .stopWatching hs' hstopped, .refl hlogs how _ _, h.moveTo .finished⟩
  | stopStreaming hs hstopped =>
    have hs' := (hs ▸ hstage).eq_of_isPlain rfl
    exact ⟨_, same, .stopStreaming hs' hstopped, .refl hlogs how _ _, h.moveTo .finished⟩
  | take hs hinbox =>
    have hs' := (hs ▸ hstage).eq_of_isPlain rfl
    exact ⟨_, same, .take hs' (h.ingest.inbox_eq.trans hinbox), .refl hlogs how _ _,
      ⟨h.key_eq, h.bound_eq, ⟨.locating, rfl, h.ingest.ended_eq, rfl, h.ingest.aborted_eq⟩,
        h.audience⟩⟩
  | finish hs hinbox hended =>
    have hs' := (hs ▸ hstage).eq_of_isPlain rfl
    exact ⟨_, same, .finish hs' (h.ingest.inbox_eq.trans hinbox) (h.ingest.ended_eq.trans hended),
      .refl hlogs how _ _, h.moveTo .finished⟩
  | @locate event last epoch hs =>
    have hs' := (hs ▸ hstage).eq_of_isPlain rfl
    have hstep : r'.Ingests stopped l' (.locate epoch) _ := .locate hs'
    rw [hkey] at hstep
    exact ⟨_, _, hstep, .locate hlogs how hl hl' r.key epoch,
      (h.grow .inl).moveTo (.recording (.inr ⟨rfl, rfl, rfl⟩))⟩
  | @record id event last hs =>
    obtain ⟨id', hs', hpair⟩ := (hs ▸ hstage).recording_inv
    have halike := (hlogs.paired hpair).alike
    refine ⟨_, same, .record hs', .record hlogs how hl hpair event _ _, h.moveTo ?_⟩
    refine .emitting ⟨rfl, .some halike.nextVersion, fun hexact => ?_⟩
    simp only [EventLog.record, halike.eq hexact]
  | @emit d last hs =>
    obtain ⟨d', hs', hd⟩ := (hs ▸ hstage).emitting_inv
    have hemit : Beside g (like r.key) (same r.key) bystander
        { r with audience := (r.audience.emit d).1 } { r' with audience := (r'.audience.emit d').1 } :=
      h.withAudience (h.audience.emit hd) rfl rfl
    refine ⟨_, same, .emit hs', .refl hlogs how _ _, hemit.moveTo ?_⟩
    cases last with
    | true => exact .finished
    | false => exact .streaming
  | wake hgoing hturn =>
    exact ⟨_, same, .wake (h.ingest.isOver_eq.trans hgoing) (h.ingest.inTurn_eq.trans hturn),
      .refl hlogs how _ _, h.setTurn true⟩
  | rest hgoing hturn haborted =>
    exact ⟨_, same, .rest (h.ingest.isOver_eq.trans hgoing) (h.ingest.inTurn_eq.trans hturn)
      (h.ingest.aborted_eq.trans haborted), .refl hlogs how _ _, h.setTurn false⟩
  | cutOff hgoing hturn haborted =>
    exact ⟨_, same, .cutOff (h.ingest.isOver_eq.trans hgoing) (h.ingest.inTurn_eq.trans hturn)
      (h.ingest.aborted_eq.trans haborted), .refl hlogs how _ _, h.moveTo .finished⟩
  | drop hs =>
    have hs' := (hs ▸ hstage).eq_of_isPlain rfl
    exact ⟨_, same, .drop hs', .refl hlogs how _ _, h.moveTo .finished⟩

variable {handle : Handle} {s : Subscription P}

/-- A step of a population is made in both runs, or passed over in the second. -/
theorem populates (h : Beside g (like r.key) (same r.key) bystander r r')
    (hlogs : Agree like same l l') (how : Owning same facts facts') (hl : l.Ledger facts)
    (hl' : l'.Ledger facts') (hne : handle ≠ g.handle) (hs : r.audience.get? handle = some s)
    {move : Population.Move P} {out : Populated P} (hp : s.Populates r.key handle l move out) :
    ∃ s' out' same', r'.audience.get? (g.rename handle) = some s' ∧
      Echoes r.key (g.rename handle) l' s' move
        (s.queue.receiving = true → ¬ (like r.key).exact ∧ ¬ bystander handle) out' ∧
      InStep like same same' (facts ++ out.facts) (facts' ++ out'.facts) out.log out'.log ∧
      Beside g (like r.key) (same' r.key) bystander
        { r with audience := r.audience.put handle out.subscription }
        { r' with audience := r'.audience.put (g.rename handle) out'.subscription } := by
  obtain ⟨s', hs', hpair⟩ := h.audience.get? hne hs
  obtain ⟨out', same', hechoes, hlog, hpair'⟩ :=
    hpair.populates hlogs how hl hl' hp (g.rename handle)
  have hgrown := h.grow hlog.grows
  exact ⟨s', out', same', hs', hechoes, hlog,
    hgrown.withAudience (hgrown.audience.put hne hpair') rfl rfl⟩

/-- The consumer of a subscription does the same in both runs. -/
lemma consume (h : Beside g L pairs bystander r r') (hne : handle ≠ g.handle)
    (hs : r.audience.get? handle = some s) {f : Subscription P → Subscription P}
    (hf : ∀ {s s'}, Pair L pairs (bystander handle) s s' →
      Pair L pairs (bystander handle) (f s) (f s')) :
    ∃ s', r'.audience.get? (g.rename handle) = some s' ∧
      Beside g L pairs bystander { r with audience := r.audience.put handle (f s) }
        { r' with audience := r'.audience.put (g.rename handle) (f s') } := by
  obtain ⟨s', hs', hpair⟩ := h.audience.get? hne hs
  exact ⟨s', hs', h.withAudience (h.audience.put hne (hf hpair)) rfl rfl⟩

end Beside

end Registration

end WatchHub
