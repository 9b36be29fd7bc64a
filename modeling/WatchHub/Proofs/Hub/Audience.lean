import WatchHub.Hub.Audience
import WatchHub.Proofs.Table

/-!
# One subscription of an audience

What the operations of an audience do to the subscription behind one handle, and which of the facts
they tell are about it. An audience has at most one subscription behind a handle, so what is told of
a handle comes from a single row (`Table.filter_flatMap_rows`).
-/

namespace WatchHub

variable {P : Type}

namespace Table

variable {K V B : Type} [DecidableEq K]

/-- What the rows tell about one key is what its own row tells. -/
lemma filter_flatMap_rows {t : Table K V} {k : K} {p : K × V → Bool} {g : K × V → List B}
    {q : B → Bool} (hq : ∀ row, row.1 ≠ k → (g row).filter q = []) :
    ((t.rows.filter p).flatMap g).filter q =
      (t.get? k).elim [] fun v => if p (k, v) then (g (k, v)).filter q else [] := by
  obtain ⟨rows, hrows⟩ := t
  unfold get?
  induction rows with
  | nil => rfl
  | cons row rows ih =>
    obtain ⟨k', v⟩ := row
    obtain ⟨hrow, hrows⟩ := List.nodup_cons.1 hrows
    have htail := ih hrows
    by_cases heq : k' = k
    · subst heq
      rw [find?_eq_none hrow] at htail
      by_cases hp : p (k', v) = true
      · simp [find?, hp, htail]
      · simp [find?, hp, htail]
    · have hskip := hq (k', v) heq
      by_cases hp : p (k', v) = true
      · simp [find?, heq, hp, hskip, htail]
      · simp [find?, heq, hp, htail]

end Table

namespace Fact

/-- Whether a fact is about one subscription; every fan-out of the key is. -/
def concerns (key : Key) (handle : Handle) : Fact P → Bool
  | emitted k _ => k = key
  | reached k h _ _ | subscribed k h _ | unsubscribed k h | pruned k h | closed k h | listed k h
  | snapshotFailed k h _ | snapshotDelivered k h _ _ | historyRead k h _ _ | replayRefused k h _
  | replayDelivered k h _ _ _ | offered k h _ _ | received k h _ => k = key && h = handle
  | _ => false

/-- Whether a fact is about who belongs to an audience, or an answer to a call. -/
def isMembership : Fact P → Bool
  | registered _ _ | subscribed _ _ _ | unsubscribed _ _ | pruned _ _ | closed _ _
  | returned _ _ => true
  | _ => false

/-- Finding a log tells nothing but that it was opened. -/
lemma mem_ofLocate {log : EventLog P} {key : Key} {epoch : UInt64} {x : Fact P}
    (h : x ∈ ofLocate log key epoch) : x = .opened key epoch := by
  unfold ofLocate at h
  split at h
  · cases h
  · exact List.mem_singleton.1 h

/-- A view that does not see logs being opened sees nothing of finding one. -/
lemma filterMap_ofLocate {B : Type} {view : Fact P → Option B} {key : Key} {epoch : UInt64}
    (hview : view (.opened key epoch) = none) (log : EventLog P) :
    (ofLocate log key epoch).filterMap view = [] := by
  refine List.filterMap_eq_nil_iff.2 fun x hx => ?_
  rw [mem_ofLocate hx, hview]

/-- A view of the facts of one kind sees nothing where there are none of them. -/
lemma filterMap_of_kind {B : Type} {view : Fact P → Option B} {kind : Fact P → Bool}
    (hview : ∀ x, (view x).isSome = true → kind x = true) {told : List (Fact P)}
    (htold : ∀ x ∈ told, kind x = false) : told.filterMap view = [] := by
  refine List.filterMap_eq_nil_iff.2 fun x hx => ?_
  rw [← Option.not_isSome_iff_eq_none]
  intro hsome
  cases (hview x hsome).symm.trans (htold x hx)

end Fact

namespace Audience

variable (a : Audience P) (handle : Handle)

@[simp]
lemma key_remove : (a.remove handle).2.1.key = a.key := by
  unfold remove
  split <;> rfl

@[simp]
lemma get?_put_self (s : Subscription P) : (a.put handle s).get? handle = some s :=
  Table.get?_put_self a.rows handle s

lemma get?_put_ne {handle handle' : Handle} (h : handle ≠ handle') (s : Subscription P) :
    (a.put handle s).get? handle' = a.get? handle' :=
  Table.get?_put_ne a.rows h s

lemma get?_closeWhere (p : Subscription P → Bool) :
    (a.closeWhere p).get? handle =
      (a.get? handle).map fun s => if s.member && p s then s.close else s :=
  Table.get?_mapValues a.rows _ handle

/-- Pruning closes a member whose consumer is gone and touches nobody else. -/
lemma get?_prune :
    a.prune.1.get? handle =
      (a.get? handle).map fun s => if s.isAbandoned then s.close else s := by
  have hself : ∀ s : Subscription P, (s.member && s.isAbandoned) = s.isAbandoned := by
    intro s
    unfold Subscription.isAbandoned
    cases s.member <;> rfl
  simp only [prune, get?_closeWhere, hself]

lemma get?_insert (handle' : Handle) (s : Subscription P) :
    (a.insert handle s).1.get? handle' =
      if handle = handle' then some s else a.prune.1.get? handle' := by
  by_cases h : handle = handle'
  · subst h
    simp [insert]
  · rw [if_neg h]
    exact get?_put_ne _ h s

lemma get?_remove (handle' : Handle) :
    (a.remove handle).2.1.get? handle' =
      (a.get? handle').map fun s =>
        if s.isAbandoned || (s.member && handle = handle') then s.close else s := by
  have hgone : ∀ s : Subscription P, s.close.isAbandoned = false := fun _ => rfl
  by_cases hc : a.contains handle = true
  · have hmember : ∀ s, a.get? handle = some s → s.member = true := by
      intro s hs
      rw [contains, hs] at hc
      exact hc
    have hself : (a.remove handle).2.1 =
        ({ a with rows := a.rows.modify handle Subscription.close } : Audience P).prune.1 := by
      simp [remove, hc]
    have hclosed : ({ a with rows := a.rows.modify handle Subscription.close } : Audience P).get?
        handle' = if handle = handle' then (a.get? handle').map Subscription.close
          else a.get? handle' := Table.get?_modify a.rows handle handle' Subscription.close
    rw [hself, get?_prune, hclosed]
    by_cases heq : handle = handle'
    · subst heq
      cases hs : a.get? handle with
      | none => simp
      | some s => simp [hgone, hmember s hs]
    · simp [heq]
  · have hself : (a.remove handle).2.1 = a.prune.1 := by simp [remove, hc]
    rw [hself, get?_prune]
    cases hs : a.get? handle' with
    | none => rfl
    | some s =>
      -- a handle that is no member has nothing to leave
      have hleft : (s.member && decide (handle = handle')) = false := by
        by_cases heq : handle = handle'
        · subst heq
          simp only [contains, hs] at hc
          simp [hc]
        · simp [heq]
      simp only [Option.map_some, hleft, Bool.or_false]

lemma get?_closeAll :
    a.closeAll.1.get? handle = (a.get? handle).map fun s => if s.member then s.close else s := by
  simp [closeAll, get?_closeWhere]

lemma get?_emit (d : Delivery P) :
    (a.emit d).1.get? handle =
      (a.get? handle).map fun s => if s.member then (s.live d).2 else s :=
  Table.get?_mapValues a.rows _ handle

/-- What a pruning tells. -/
lemma mem_prune {a : Audience P} {x : Fact P} (h : x ∈ a.prune.2) :
    ∃ handle, x = .pruned a.key handle ∨ x = .closed a.key handle := by
  obtain ⟨handle, -, hx⟩ := List.mem_flatMap.1 h
  exact ⟨handle, by simpa using hx⟩

lemma mem_remove {a : Audience P} {handle : Handle} {x : Fact P}
    (h : x ∈ (a.remove handle).2.2) :
    ∃ handle, x = .pruned a.key handle ∨ x = .closed a.key handle ∨
      x = .unsubscribed a.key handle := by
  unfold remove at h
  split at h
  · rcases List.mem_cons.1 h with rfl | h
    · exact ⟨handle, .inr (.inl rfl)⟩
    · rcases List.mem_append.1 h with h | h
      · obtain ⟨handle', hx⟩ := mem_prune h
        exact ⟨handle', hx.imp id .inl⟩
      · exact ⟨handle, .inr (.inr (List.mem_singleton.1 h))⟩
  · obtain ⟨handle', hx⟩ := mem_prune h
    exact ⟨handle', hx.imp id .inl⟩

lemma mem_closeAll {a : Audience P} {x : Fact P} (h : x ∈ a.closeAll.2) :
    ∃ handle, x = .closed a.key handle := by
  obtain ⟨handle, -, hx⟩ := List.mem_map.1 h
  exact ⟨handle, hx.symm⟩

lemma isMembership_prune {a : Audience P} {x : Fact P} (h : x ∈ a.prune.2) :
    x.isMembership = true := by
  obtain ⟨_, rfl | rfl⟩ := mem_prune h <;> rfl

lemma isMembership_remove {a : Audience P} {handle : Handle} {x : Fact P}
    (h : x ∈ (a.remove handle).2.2) : x.isMembership = true := by
  obtain ⟨_, rfl | rfl | rfl⟩ := mem_remove h <;> rfl

lemma isMembership_closeAll {a : Audience P} {x : Fact P} (h : x ∈ a.closeAll.2) :
    x.isMembership = true := by
  obtain ⟨_, rfl⟩ := mem_closeAll h
  rfl

lemma mem_emit {a : Audience P} {d : Delivery P} {x : Fact P} (h : x ∈ (a.emit d).2) :
    x = .emitted a.key d ∨ ∃ handle reception, x = .reached a.key handle d reception := by
  rcases List.mem_cons.1 h with h | h
  · exact .inl h
  · obtain ⟨row, -, hx⟩ := List.mem_map.1 h
    exact .inr ⟨row.1, _, hx.symm⟩

end Audience

end WatchHub
