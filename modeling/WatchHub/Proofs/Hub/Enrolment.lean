import WatchHub.Proofs.Hub.Accounts

/-!
# Changes of an audience

Everything that can happen to an audience, one after the other: subscriptions that join and leave,
live events, the closing of all, and what consumers and populations do. `Change.act` is what a change
makes of one subscription that is already there; whom an audience has as its members is then told by
the changes alone (`Kept`).
-/

namespace WatchHub

variable {P : Type}

namespace Subscription

/-- A member over a queue, about to be populated. -/
def entrant (queue : Queue (Delivery P)) (checkpoint : Option Version) : Subscription P :=
  ⟨queue, true, false, 0, .new checkpoint⟩

/-- The subscription after a move of its population, if the move can be made. -/
def populated (key : Key) (handle : Handle) (log : EventLog P) (move : Population.Move P)
    (s : Subscription P) : Subscription P :=
  ((s.populate key handle log move).map Populated.subscription).getD s

lemma populated_cases (key : Key) (handle : Handle) (log : EventLog P) (move : Population.Move P)
    (s : Subscription P) :
    s.populated key handle log move = s ∨
      ∃ out, Populates key handle log s move out ∧
        s.populated key handle log move = out.subscription := by
  unfold populated
  cases h : s.populate key handle log move with
  | none => exact .inl rfl
  | some out => exact .inr ⟨out, .of_populate h, rfl⟩

lemma keeps_populated (key : Key) (handle : Handle) (log : EventLog P) (move : Population.Move P)
    (s : Subscription P) : Populates.Keeps s (s.populated key handle log move) := by
  rcases s.populated_cases key handle log move with heq | ⟨out, hp, heq⟩ <;> rw [heq]
  · exact ⟨rfl, rfl, rfl⟩
  · exact hp.keeps

lemma receiving_populated (key : Key) (handle : Handle) (log : EventLog P)
    (move : Population.Move P) (s : Subscription P) :
    (s.populated key handle log move).queue.receiving = s.queue.receiving := by
  rcases s.populated_cases key handle log move with heq | ⟨out, hp, heq⟩ <;> rw [heq]
  exact hp.serves.receiving_eq

lemma receive_keeps (s : Subscription P) :
    s.receive.2.member = s.member ∧ s.receive.2.closed = s.closed ∧
      s.receive.2.queue.receiving = s.queue.receiving := by
  rcases s.receive_cases with ⟨d, s', hreceive⟩ | ⟨-, receipt, -, hreceive⟩ <;> rw [hreceive]
  · obtain ⟨queue, hqueue, rfl⟩ := queue_receive hreceive
    obtain ⟨items, -, rfl⟩ := Queue.receive?_eq_some hqueue
    exact ⟨rfl, rfl, Queue.receiving_freeSlot _⟩
  · exact ⟨rfl, rfl, rfl⟩

lemma member_ite_close (s : Subscription P) (p : Bool) :
    (if p then s.close else s).member = (s.member && !p) := by
  cases p <;> simp [close]

lemma live_keeps (s : Subscription P) (d : Delivery P) :
    (s.live d).2.member = s.member ∧ (s.live d).2.closed = s.closed ∧
      (s.live d).2.queue.receiving = s.queue.receiving := by
  refine ⟨?_, ?_, by rw [queue_live, Queue.receiving_push]⟩ <;>
  · unfold live
    split <;> rfl

end Subscription

namespace Audience

/-- What can happen to an audience. -/
inductive Change (P : Type) where
  /-- A subscription over a queue joins under a handle. -/
  | insert (handle : Handle) (queue : Queue (Delivery P)) (checkpoint : Option Version)
  | remove (handle : Handle)
  | emit (d : Delivery P)
  | closeAll
  /-- The consumer lets go of its end of the queue. -/
  | hangUp (handle : Handle)
  /-- The consumer asks for its next event. -/
  | receive (handle : Handle)
  /-- The population makes a move, if it can. -/
  | populate (handle : Handle) (log : EventLog P) (move : Population.Move P)

namespace Change

/-- The handle under which a change brings a subscription. -/
def entrant? : Change P → Option Handle
  | insert handle _ _ => some handle
  | _ => none

/-- The one handle that a change is about. -/
def handle? : Change P → Option Handle
  | insert handle _ _ | remove handle | hangUp handle | receive handle | populate handle _ _ =>
    some handle
  | emit _ | closeAll => none

/-- Whether those whose consumers are gone have to leave. -/
def prunes : Change P → Bool
  | insert _ _ _ | remove _ => true
  | _ => false

/-- What a change makes of a subscription that is there. -/
def act (key : Key) (handle : Handle) (s : Subscription P) : Change P → Subscription P
  | insert _ _ _ => if s.isAbandoned then s.close else s
  | remove handle' => if s.isAbandoned || (s.member && handle' = handle) then s.close else s
  | emit d => if s.member then (s.live d).2 else s
  | closeAll => if s.member then s.close else s
  | hangUp handle' => if handle' = handle then { s with queue := s.queue.hangUp } else s
  | receive handle' => if handle' = handle then s.receive.2 else s
  | populate handle' log move => if handle' = handle then s.populated key handle log move else s

end Change

/-- The audience with the subscription behind a handle changed, if there is one. -/
def modify (a : Audience P) (handle : Handle) (f : Subscription P → Subscription P) : Audience P :=
  { a with rows := a.rows.modify handle f }

/-- The audience after a change. -/
def change (a : Audience P) : Change P → Audience P
  | .insert handle queue checkpoint => (a.insert handle (.entrant queue checkpoint)).1
  | .remove handle => (a.remove handle).2.1
  | .emit d => (a.emit d).1
  | .closeAll => a.closeAll.1
  | .hangUp handle => a.modify handle fun s => { s with queue := s.queue.hangUp }
  | .receive handle => a.modify handle fun s => s.receive.2
  | .populate handle log move => a.modify handle (·.populated a.key handle log move)

/-- The audience of a key after some changes from the beginning. -/
def after (key : Key) (changes : List (Change P)) : Audience P :=
  changes.foldl change (.new key)

/-- No handle is given twice. -/
def Fresh (changes : List (Change P)) : Prop :=
  (changes.filterMap Change.entrant?).Nodup

section Rows

variable {a : Audience P} {c : Change P} {handle : Handle} {s : Subscription P}

lemma get?_modify (a : Audience P) (handle handle' : Handle)
    (f : Subscription P → Subscription P) :
    (a.modify handle f).get? handle' =
      if handle = handle' then (a.get? handle').map f else a.get? handle' :=
  Table.get?_modify a.rows handle handle' f

@[simp]
lemma key_change (a : Audience P) (c : Change P) : (a.change c).key = a.key := by
  cases c <;> first | rfl | exact key_remove _ _

lemma get?_change_insert (a : Audience P) (handle : Handle) (queue : Queue (Delivery P))
    (checkpoint : Option Version) :
    (a.change (.insert handle queue checkpoint)).get? handle = some (.entrant queue checkpoint) :=
  (get?_insert ..).trans (if_pos rfl)

/-- A change acts on every subscription, unless it brings one under the same handle. -/
lemma get?_change (hc : c.entrant? ≠ some handle) :
    (a.change c).get? handle = (a.get? handle).map (c.act a.key handle) := by
  cases c with
  | insert handle' queue checkpoint =>
    have hne : handle' ≠ handle := fun heq => hc (congrArg some heq)
    exact (get?_insert ..).trans ((if_neg hne).trans (get?_prune ..))
  | remove handle' => exact get?_remove ..
  | emit d => exact get?_emit ..
  | closeAll => exact get?_closeAll ..
  | hangUp handle' | receive handle' =>
    rw [change, get?_modify]
    by_cases heq : handle' = handle <;> simp [Change.act, heq]
  | populate handle' log move =>
    rw [change, get?_modify]
    by_cases heq : handle' = handle
    · subst heq
      simp [Change.act]
    · simp [Change.act, heq]

/-- A change closes exactly those that it takes out. -/
lemma act_closed_eq (key : Key) (c : Change P) (hs : s.closed = !s.member) :
    (c.act key handle s).closed = !(c.act key handle s).member := by
  unfold Change.act
  cases c with
  | insert | remove | closeAll =>
    dsimp only
    split
    · rfl
    · exact hs
  | emit d =>
    dsimp only
    split
    · rw [(s.live_keeps d).1, (s.live_keeps d).2.1, hs]
    · exact hs
  | hangUp =>
    dsimp only
    split <;> exact hs
  | receive =>
    dsimp only
    split
    · rw [s.receive_keeps.1, s.receive_keeps.2.1, hs]
    · exact hs
  | populate handle' log move =>
    dsimp only
    split
    · rw [(s.keeps_populated ..).member_eq, (s.keeps_populated ..).closed_eq, hs]
    · exact hs

/-- A consumer holds its end until it hangs up. -/
lemma act_receiving (key : Key) (c : Change P) :
    (c.act key handle s).queue.receiving = true ↔
      s.queue.receiving = true ∧ c ≠ .hangUp handle := by
  unfold Change.act
  cases c with
  | insert | remove | closeAll =>
    dsimp only
    split <;> simp [Subscription.close]
  | emit d =>
    dsimp only
    split <;> simp [(s.live_keeps d).2.2]
  | hangUp handle' =>
    by_cases heq : handle' = handle <;> simp [heq, Queue.hangUp]
  | receive =>
    dsimp only
    split <;> simp [s.receive_keeps.2.2]
  | populate =>
    dsimp only
    split <;> simp [Subscription.receiving_populated]

/-- After an insertion or a removal those are left whose consumers hold their ends, without the one
that was removed. -/
lemma act_member_of_prunes (key : Key) (hc : c.prunes = true) :
    (c.act key handle s).member = true ↔
      s.member = true ∧ s.queue.receiving = true ∧ c ≠ .remove handle := by
  cases c with
  | insert =>
    rw [Change.act, Subscription.member_ite_close, Subscription.isAbandoned]
    cases s.member <;> cases s.queue.receiving <;> simp
  | remove handle' =>
    rw [Change.act, Subscription.member_ite_close, Subscription.isAbandoned]
    cases s.member <;> cases s.queue.receiving <;> by_cases heq : handle' = handle <;> simp [heq]
  | _ => cases hc

/-- Nobody is left when all are closed. -/
lemma act_member_closeAll (key : Key) :
    ((.closeAll : Change P).act key handle s).member = false := by
  rw [Change.act, Subscription.member_ite_close, Bool.and_not_self]

/-- Every other change leaves the members as they are. -/
lemma act_member (key : Key) (hc : c.prunes = false) (hall : c ≠ .closeAll) :
    (c.act key handle s).member = s.member := by
  unfold Change.act
  cases c with
  | insert | remove => cases hc
  | closeAll => exact absurd rfl hall
  | emit d =>
    dsimp only
    split
    · exact (s.live_keeps d).1
    · rfl
  | hangUp =>
    dsimp only
    split <;> rfl
  | receive =>
    dsimp only
    split
    · exact s.receive_keeps.1
    · rfl
  | populate =>
    dsimp only
    split
    · exact (s.keeps_populated ..).member_eq
    · rfl

/-- A change that is about another handle leaves alone whoever has a consumer. -/
lemma act_other (key : Key) {handle' : Handle} (hc : c.handle? = some handle')
    (hne : handle' ≠ handle) (hs : s.queue.receiving = true) : c.act key handle s = s := by
  cases c with
  | insert | remove => cases hc; simp [Change.act, Subscription.isAbandoned, hs, hne]
  | hangUp | receive | populate => cases hc; simp [Change.act, hne]
  | emit | closeAll => cases hc

/-- Whoever is no member never becomes one again. -/
lemma act_not_member (key : Key) (c : Change P) (hs : s.member = false) :
    (c.act key handle s).member = false := by
  by_cases hprunes : c.prunes = true
  · refine eq_false_of_ne_true fun hm => ?_
    cases hs.symm.trans ((act_member_of_prunes key hprunes).1 hm).1
  · by_cases hall : c = .closeAll
    · rw [hall]
      exact act_member_closeAll key
    · rw [act_member key (eq_false_of_ne_true hprunes) hall, hs]

end Rows

section History

variable {key : Key} {changes : List (Change P)} {c : Change P} {handle : Handle}
  {s : Subscription P}

/-- A handle was inserted and since then neither removed nor closed with all the others. -/
def Enrolled (changes : List (Change P)) (handle : Handle) : Prop :=
  ∃ past queue checkpoint since,
    changes = past ++ .insert handle queue checkpoint :: since ∧
      .closeAll ∉ since ∧ .remove handle ∉ since

/-- A handle was inserted while its consumer held its end of the queue, and the consumer has not let go
of it since. -/
def Attended (changes : List (Change P)) (handle : Handle) : Prop :=
  ∃ past queue checkpoint since,
    changes = past ++ .insert handle queue checkpoint :: since ∧
      queue.receiving = true ∧ .hangUp handle ∉ since

/-- A list that ends in an element, cut at one of its elements. -/
lemma concat_eq_append_cons {B : Type} {xs past since : List B} {x y : B}
    (h : xs ++ [x] = past ++ y :: since) :
    (y = x ∧ since = []) ∨ ∃ rest, xs = past ++ y :: rest ∧ since = rest ++ [x] := by
  rcases List.eq_nil_or_concat since with rfl | ⟨rest, z, rfl⟩
  · exact .inl ⟨(List.append_inj_right' h rfl |> List.cons.inj).1.symm, rfl⟩
  · rw [List.concat_eq_append] at h ⊢
    have h' : xs ++ [x] = (past ++ y :: rest) ++ [z] := by simpa using h
    obtain ⟨rfl, hz⟩ := List.append_inj' h' rfl
    exact .inr ⟨rest, rfl, by rw [(List.cons.inj hz).1]⟩

lemma enrolled_concat :
    Enrolled (changes ++ [c]) handle ↔
      c.entrant? = some handle ∨
        (Enrolled changes handle ∧ c ≠ .closeAll ∧ c ≠ .remove handle) := by
  constructor
  · rintro ⟨past, queue, checkpoint, since, heq, hall, hremove⟩
    rcases concat_eq_append_cons heq with ⟨rfl, -⟩ | ⟨rest, rfl, rfl⟩
    · exact .inl rfl
    · simp only [List.mem_append, List.mem_singleton, not_or] at hall hremove
      exact .inr ⟨⟨past, queue, checkpoint, rest, rfl, hall.1, hremove.1⟩, Ne.symm hall.2,
        Ne.symm hremove.2⟩
  · rintro (hc | ⟨⟨past, queue, checkpoint, since, rfl, hall, hremove⟩, hcall, hcremove⟩)
    · cases c <;> cases hc
      exact ⟨changes, _, _, [], rfl, List.not_mem_nil, List.not_mem_nil⟩
    · refine ⟨past, queue, checkpoint, since ++ [c], by simp, ?_, ?_⟩
      · simpa [hall] using Ne.symm hcall
      · simpa [hremove] using Ne.symm hcremove

lemma attended_concat (hc : c.entrant? ≠ some handle) :
    Attended (changes ++ [c]) handle ↔ Attended changes handle ∧ c ≠ .hangUp handle := by
  constructor
  · rintro ⟨past, queue, checkpoint, since, heq, hqueue, hhang⟩
    rcases concat_eq_append_cons heq with ⟨rfl, -⟩ | ⟨rest, rfl, rfl⟩
    · exact absurd rfl hc
    · simp only [List.mem_append, List.mem_singleton, not_or] at hhang
      exact ⟨⟨past, queue, checkpoint, rest, rfl, hqueue, hhang.1⟩, Ne.symm hhang.2⟩
  · rintro ⟨⟨past, queue, checkpoint, since, rfl, hqueue, hhang⟩, hchang⟩
    refine ⟨past, queue, checkpoint, since ++ [c], by simp, hqueue, ?_⟩
    simpa [hhang] using Ne.symm hchang

lemma attended_insert {queue : Queue (Delivery P)} {checkpoint : Option Version}
    (hnew : handle ∉ changes.filterMap Change.entrant?) :
    Attended (changes ++ [.insert handle queue checkpoint]) handle ↔ queue.receiving = true := by
  constructor
  · rintro ⟨past, queue', checkpoint', since, heq, hqueue, -⟩
    rcases concat_eq_append_cons heq with ⟨heq, -⟩ | ⟨rest, rfl, -⟩
    · cases heq
      exact hqueue
    · exact absurd (by simp [Change.entrant?]) hnew
  · exact fun hqueue => ⟨changes, queue, checkpoint, [], rfl, hqueue, List.not_mem_nil⟩

lemma Enrolled.mem_entrants (h : Enrolled changes handle) :
    handle ∈ changes.filterMap Change.entrant? := by
  obtain ⟨past, queue, checkpoint, since, rfl, -⟩ := h
  simp [Change.entrant?]

/-- What the changes so far say of a subscription that they brought. -/
structure Kept (changes : List (Change P)) (handle : Handle) (s : Subscription P) : Prop where
  inserted : handle ∈ changes.filterMap Change.entrant?
  closed_eq : s.closed = !s.member
  /-- Members are enrolled. -/
  enrolled : s.member = true → Enrolled changes handle
  /-- Whoever is enrolled and has a consumer is a member. -/
  member : Enrolled changes handle → s.queue.receiving = true → s.member = true
  attended : s.queue.receiving = true ↔ Attended changes handle

lemma Kept.insert {queue : Queue (Delivery P)} {checkpoint : Option Version}
    (hnew : handle ∉ changes.filterMap Change.entrant?) :
    Kept (changes ++ [.insert handle queue checkpoint]) handle (.entrant queue checkpoint) where
  inserted := by simp [Change.entrant?]
  closed_eq := rfl
  enrolled _ := enrolled_concat.2 (.inl rfl)
  member _ _ := rfl
  attended := (attended_insert hnew).symm

lemma Kept.act (hk : Kept changes handle s) (key : Key) (hc : c.entrant? ≠ some handle) :
    Kept (changes ++ [c]) handle (c.act key handle s) where
  inserted := by
    rw [List.filterMap_append]
    exact List.mem_append_left _ hk.inserted
  closed_eq := act_closed_eq key c hk.closed_eq
  enrolled hm := by
    refine enrolled_concat.2 (.inr ?_)
    by_cases hprunes : c.prunes = true
    · obtain ⟨hold, -, hremove⟩ := (act_member_of_prunes key hprunes).1 hm
      refine ⟨hk.enrolled hold, ?_, hremove⟩
      rintro rfl
      cases hprunes
    · by_cases hall : c = .closeAll
      · rw [hall, act_member_closeAll] at hm
        cases hm
      · rw [act_member key (eq_false_of_ne_true hprunes) hall] at hm
        refine ⟨hk.enrolled hm, hall, ?_⟩
        rintro rfl
        exact hprunes rfl
  member he hreceiving := by
    obtain ⟨hold, hall, hremove⟩ := (enrolled_concat.1 he).resolve_left hc
    have hreceiving' := ((act_receiving key c).1 hreceiving).1
    have hm := hk.member hold hreceiving'
    by_cases hprunes : c.prunes = true
    · exact (act_member_of_prunes key hprunes).2 ⟨hm, hreceiving', hremove⟩
    · rw [act_member key (eq_false_of_ne_true hprunes) hall, hm]
  attended := by rw [act_receiving, attended_concat hc, hk.attended]

lemma after_concat (key : Key) (changes : List (Change P)) (c : Change P) :
    after key (changes ++ [c]) = (after key changes).change c := by
  simp [after]

@[simp]
lemma key_after (key : Key) (changes : List (Change P)) : (after key changes).key = key := by
  induction changes using List.reverseRecOn with
  | nil => rfl
  | append_singleton changes c ih => rw [after_concat, key_change, ih]

lemma Fresh.of_append {more : List (Change P)} (h : Fresh (changes ++ more)) : Fresh changes := by
  rw [Fresh, List.filterMap_append] at h
  exact h.sublist (List.sublist_append_left ..)

lemma Fresh.new (h : Fresh (changes ++ [c])) (hc : c.entrant? = some handle) :
    handle ∉ changes.filterMap Change.entrant? := by
  rw [Fresh, List.filterMap_append, List.nodup_append] at h
  intro hmem
  exact h.2.2 handle hmem handle (by simp [hc]) rfl

/-- An audience has the subscriptions that were inserted, and keeps the book on each. -/
theorem Fresh.kept (key : Key) (hfresh : Fresh changes) (handle : Handle) :
    (handle ∉ changes.filterMap Change.entrant? ∧ (after key changes).get? handle = none) ∨
      ∃ s, (after key changes).get? handle = some s ∧ Kept changes handle s := by
  induction changes using List.reverseRecOn with
  | nil => exact .inl ⟨List.not_mem_nil, rfl⟩
  | append_singleton changes c ih =>
    rw [after_concat]
    by_cases hc : c.entrant? = some handle
    · cases c <;> cases hc
      exact .inr ⟨_, get?_change_insert .., .insert (hfresh.new rfl)⟩
    · rw [get?_change hc]
      rcases ih hfresh.of_append with ⟨hnot, hnone⟩ | ⟨s, hs, hk⟩
      · refine .inl ⟨?_, by rw [hnone, Option.map_none]⟩
        simpa [hc] using hnot
      · exact .inr ⟨_, by rw [hs, Option.map_some], hk.act _ hc⟩

end History

end Audience

end WatchHub
