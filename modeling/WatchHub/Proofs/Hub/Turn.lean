import WatchHub.Proofs.Hub.Audience
import WatchHub.Proofs.Hub.Ingestion
import WatchHub.Proofs.Hub.Population

/-!
# Turns of a subscription

All that a single step of a hub can do to one subscription, and what it then tells about it:
`Subscription.Turn` has one rule for each possibility. The operations of an audience and the steps of
a population are instances of its rules, for the subscription they are made on and for every other.
-/

namespace WatchHub

variable {P : Type}

namespace Fact

/-- The key that a fact is about, if it is about one. -/
def key? : Fact P → Option Key
  | registered k _ | watched k | running k _ | setupFailed k _ _ | cancelled k | taken k _
  | streamEnded k | opened k _ | logged k _ _ _ _ | emitted k _ | reached k _ _ _
  | subscribed k _ _ | unsubscribed k _ | pruned k _ | closed k _ | listed k _
  | snapshotFailed k _ _ | snapshotDelivered k _ _ _ | historyRead k _ _ _ | replayRefused k _ _
  | replayDelivered k _ _ _ _ | offered k _ _ _ | received k _ _ | ingestCrashed k => some k
  | shutdownRequested | graceExceeded _ _ | stopped _ | signalled _ | returned _ _ => none

lemma key?_of_concerns {key : Key} {handle : Handle} {x : Fact P}
    (h : x.concerns key handle = true) : x.key? = some key := by
  cases x <;> simp_all [concerns, key?]

/-- What is about another key does not concern a subscription. -/
lemma filter_concerns_of_key? {key : Key} {facts : List (Fact P)}
    (h : ∀ x ∈ facts, x.key? ≠ some key) (handle : Handle) :
    facts.filter (concerns key handle) = [] := by
  refine List.filter_eq_nil_iff.2 fun x hx hc => h x hx ?_
  exact key?_of_concerns hc

end Fact

namespace Subscription

/-- What one step of a hub does to one subscription, and what it tells about it. -/
inductive Turn (key : Key) (handle : Handle) (s : Subscription P) :
    List (Fact P) → Subscription P → Prop where
  | rest : Turn key handle s [] s
  /-- A live event passes by, as the subscription is no member any more. -/
  | passed {d} : s.member = false → Turn key handle s [.emitted key d] s
  | live {d} :
    s.member = true →
    Turn key handle s [.emitted key d, .reached key handle d (s.live d).1] (s.live d).2
  | pruned :
    s.member = true → s.queue.receiving = false →
    Turn key handle s [.pruned key handle, .closed key handle] s.close
  | unsubscribed :
    s.member = true →
    Turn key handle s [.closed key handle, .unsubscribed key handle] s.close
  | closed : s.member = true → Turn key handle s [.closed key handle] s.close
  | populated {log move out} :
    Populates key handle log s move out →
    Turn key handle s (out.facts.filter (Fact.concerns key handle)) out.subscription
  | received {d s'} : s.receive = (.event d, s') → Turn key handle s [.received key handle d] s'
  | hungUp : Turn key handle s [] { s with queue := s.queue.hangUp }

/-- Every fact of a population is about its own subscription or about the log of its key. -/
lemma Populates.key?_of_mem {key : Key} {handle : Handle} {log : EventLog P} {s : Subscription P}
    {move : Population.Move P} {out : Populated P} (h : Populates key handle log s move out)
    {x : Fact P} (hx : x ∈ out.facts) : x.key? = some key := by
  cases h with
  | locate _ =>
    cases Fact.mem_ofLocate hx
    rfl
  | _ =>
    first
    | cases hx; done
    | cases List.mem_singleton.1 hx; rfl

/-- The facts of a population concern no other subscription. -/
lemma Populates.filter_concerns_ne {key : Key} {handle handle' : Handle} (hne : handle ≠ handle')
    {log : EventLog P} {s : Subscription P} {move : Population.Move P} {out : Populated P}
    (h : Populates key handle log s move out) :
    out.facts.filter (Fact.concerns key handle') = [] := by
  refine List.filter_eq_nil_iff.2 fun x hx => ?_
  cases h with
  | locate _ =>
    cases Fact.mem_ofLocate hx
    simp [Fact.concerns]
  | _ =>
    first
    | cases hx; done
    | cases List.mem_singleton.1 hx; simp [Fact.concerns, hne]

end Subscription

/-- Every fact of an ingest is about its own key. -/
lemma Registration.Ingests.key?_of_mem {stopped : Bool} {log : EventLog P} {r : Registration P}
    {move : Ingest.Move} {out : Ingested P} (h : r.Ingests stopped log move out) {x : Fact P}
    (hx : x ∈ out.facts) : x.key? = some r.key := by
  cases h with
  | locate _ =>
    cases Fact.mem_ofLocate hx
    rfl
  | emit _ =>
    rcases Audience.mem_emit hx with rfl | ⟨handle, reception, rfl⟩ <;> rfl
  | _ =>
    first
    | cases hx; done
    | cases List.mem_singleton.1 hx; rfl

namespace Audience

open Subscription (Turn)

variable {a : Audience P} {handle : Handle}

/-- What is told row by row concerns a subscription only in its own row. -/
lemma filter_rows (a : Audience P) (handle : Handle) (p : Subscription P → Bool)
    {g : Handle → Subscription P → List (Fact P)}
    (hg : ∀ h s, h ≠ handle → (g h s).filter (Fact.concerns a.key handle) = []) :
    ((a.rows.rows.filter fun row => p row.2).flatMap fun row => g row.1 row.2).filter
        (Fact.concerns a.key handle) =
      (a.get? handle).elim [] fun s =>
        if p s then (g handle s).filter (Fact.concerns a.key handle) else [] :=
  Table.filter_flatMap_rows (t := a.rows) (k := handle) (p := fun row => p row.2)
    fun row hrow => hg row.1 row.2 hrow

/-- Pruning tells of a handle only if its consumer is gone. -/
lemma filter_prune {s : Subscription P} (hs : a.get? handle = some s) :
    a.prune.2.filter (Fact.concerns a.key handle) =
      if s.isAbandoned then [.pruned a.key handle, .closed a.key handle] else [] := by
  have h := filter_rows a handle (fun s => s.member && s.isAbandoned)
    (g := fun h _ => [Fact.pruned a.key h, Fact.closed a.key h])
    fun h s hne => by simp [Fact.concerns, hne]
  rw [hs] at h
  simp only [prune, membersWhere, List.flatMap_map]
  rw [h]
  by_cases hgone : s.isAbandoned = true
  · have hm : s.member = true := (Bool.and_eq_true_iff.1 hgone).1
    simp [hgone, hm, Fact.concerns]
  · simp [hgone]

/-- Closing all tells of a handle only if it is a member. -/
lemma filter_closeAll {s : Subscription P} (hs : a.get? handle = some s) :
    a.closeAll.2.filter (Fact.concerns a.key handle) =
      if s.member then [.closed a.key handle] else [] := by
  have h := filter_rows a handle Subscription.member
    (g := fun h _ => [Fact.closed a.key h]) fun h s hne => by simp [Fact.concerns, hne]
  rw [hs] at h
  simp only [closeAll, members, List.map_eq_flatMap, List.flatMap_assoc, List.flatMap_singleton]
  rw [h]
  simp [Fact.concerns]

/-- A fan-out tells every subscription that the event went by, and what became of it at a member. -/
lemma filter_emit {s : Subscription P} (hs : a.get? handle = some s) (d : Delivery P) :
    (a.emit d).2.filter (Fact.concerns a.key handle) =
      .emitted a.key d :: if s.member then [.reached a.key handle d (s.live d).1] else [] := by
  have h := filter_rows a handle Subscription.member
    (g := fun h s => [Fact.reached a.key h d (s.live d).1]) fun h s hne => by
      simp [Fact.concerns, hne]
  rw [hs] at h
  simp only [emit, List.map_eq_flatMap]
  rw [List.filter_cons_of_pos (by simp [Fact.concerns]), h]
  simp [Fact.concerns]

lemma turn_prune {s : Subscription P} (hs : a.get? handle = some s) :
    ∃ s', a.prune.1.get? handle = some s' ∧
      Turn a.key handle s (a.prune.2.filter (Fact.concerns a.key handle)) s' := by
  refine ⟨_, by rw [get?_prune, hs, Option.map_some], ?_⟩
  rw [filter_prune hs]
  by_cases hgone : s.isAbandoned = true
  · have hboth := Bool.and_eq_true_iff.1 hgone
    rw [if_pos hgone, if_pos hgone]
    exact .pruned hboth.1 (by simpa using hboth.2)
  · rw [if_neg hgone, if_neg hgone]
    exact .rest

lemma turn_insert {s : Subscription P} (hs : a.get? handle = some s) {handle' : Handle}
    (hne : handle' ≠ handle) (s' : Subscription P) :
    ∃ t, (a.insert handle' s').1.get? handle = some t ∧
      Turn a.key handle s ((a.insert handle' s').2.filter (Fact.concerns a.key handle)) t := by
  rw [get?_insert, if_neg hne]
  exact turn_prune hs

lemma turn_closeAll {s : Subscription P} (hs : a.get? handle = some s) :
    ∃ s', a.closeAll.1.get? handle = some s' ∧
      Turn a.key handle s (a.closeAll.2.filter (Fact.concerns a.key handle)) s' := by
  refine ⟨_, by rw [get?_closeAll, hs, Option.map_some], ?_⟩
  rw [filter_closeAll hs]
  by_cases hm : s.member = true
  · rw [if_pos hm, if_pos hm]
    exact .closed hm
  · rw [if_neg hm, if_neg hm]
    exact .rest

lemma turn_emit {s : Subscription P} (hs : a.get? handle = some s) (d : Delivery P) :
    ∃ s', (a.emit d).1.get? handle = some s' ∧
      Turn a.key handle s ((a.emit d).2.filter (Fact.concerns a.key handle)) s' := by
  refine ⟨_, by rw [get?_emit, hs, Option.map_some], ?_⟩
  rw [filter_emit hs]
  by_cases hm : s.member = true
  · rw [if_pos hm, if_pos hm]
    exact .live hm
  · rw [if_neg hm, if_neg hm]
    exact .passed (eq_false_of_ne_true hm)

lemma turn_remove {s : Subscription P} (hs : a.get? handle = some s) (handle' : Handle) :
    ∃ s', (a.remove handle').2.1.get? handle = some s' ∧
      Turn a.key handle s
        ((a.remove handle').2.2.filter (Fact.concerns a.key handle)) s' := by
  refine ⟨_, by rw [get?_remove, hs, Option.map_some], ?_⟩
  unfold remove
  by_cases hc : a.contains handle' = true
  · -- The row is closed first, and pruning then looks at the closed row.
    let b : Audience P := { a with rows := a.rows.modify handle' Subscription.close }
    have hb : b.get? handle = if handle' = handle then some s.close else some s := by
      change (a.rows.modify handle' Subscription.close).get? handle = _
      rw [Table.get?_modify, show a.rows.get? handle = some s from hs, Option.map_some]
    simp only [hc, if_true, List.cons_append]
    change Turn a.key handle s ((.closed a.key handle' :: (b.prune.2 ++
      [.unsubscribed a.key handle'])).filter (Fact.concerns b.key handle)) _
    by_cases heq : handle' = handle
    · subst heq
      have hm : s.member = true := by
        rw [contains, hs] at hc
        exact hc
      rw [if_pos rfl] at hb
      rw [List.filter_cons_of_pos (by simp [Fact.concerns, b]), List.filter_append,
        filter_prune hb, if_neg (by simp [Subscription.close, Subscription.isAbandoned]),
        List.filter_cons_of_pos (by simp [Fact.concerns, b]), if_pos (by simp [hm])]
      exact .unsubscribed hm
    · rw [if_neg heq] at hb
      rw [List.filter_cons_of_neg (by simp [Fact.concerns, heq]), List.filter_append,
        List.filter_cons_of_neg (by simp [Fact.concerns, heq]), List.filter_nil, List.append_nil]
      obtain ⟨s', hs', hturn⟩ := turn_prune hb
      rw [get?_prune, hb, Option.map_some] at hs'
      simp only [heq, decide_false, Bool.and_false, Bool.or_false]
      exact Option.some.inj hs' ▸ hturn
  · have hleft : (s.member && decide (handle' = handle)) = false := by
      by_cases heq : handle' = handle
      · subst heq
        simp only [contains, hs] at hc
        simp [hc]
      · simp [heq]
    obtain ⟨s', hs', hturn⟩ := turn_prune hs
    rw [get?_prune, hs, Option.map_some] at hs'
    simp only [hc, hleft, Bool.or_false]
    exact Option.some.inj hs' ▸ hturn

end Audience

end WatchHub
