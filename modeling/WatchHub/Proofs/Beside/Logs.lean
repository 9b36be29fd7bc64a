import WatchHub.Proofs.Beside.Likeness
import WatchHub.Proofs.Hub.Ledger

/-!
# The logs of two runs

In two runs, one with a guest and one without it, the logs that others have found stand for each other in
pairs (`EventLog.Paired`), and a key leads to such a pair, nowhere, or in the first run to a log of the
guest's own (`EventLog.Current`). So the logs agree (`EventLog.Agree`), and whatever is done in both runs or
by the guest in the first keeps it so; more logs may come to stand for each other, and none ceases to.
-/

namespace WatchHub

variable {P : Type}

open WatchHub.Fact (Owns)

namespace EventLog

variable {L L' : Likeness P} {like like' : Key → Likeness P} {pairs pairs' : LogId → LogId → Prop}
  {same same' : Key → LogId → LogId → Prop} {l l' l₁ l₁' : EventLog P} {key key' : Key}
  {id id' : LogId} {facts facts' : List (Fact P)}

/-- Two logs of a key that stand for each other in two runs. -/
structure Paired (L : Likeness P) (l l' : EventLog P) (key : Key) (id id' : LogId) : Prop where
  lt : id < l.store.length
  lt' : id' < l'.store.length
  current_iff : l.find? key = some id ↔ l'.find? key = some id'
  alike : KeyLog.Alike L l.capacity (l.logAt id) (l'.logAt id')

/-- Where a key leads in two runs. -/
inductive Current (L : Likeness P) (pairs : LogId → LogId → Prop) (l l' : EventLog P) (key : Key) :
    Prop where
  | absent : l.find? key = none → l'.find? key = none → Current L pairs l l' key
  | both {i i' : LogId} :
    l.find? key = some i → l'.find? key = some i' → pairs i i' → Current L pairs l l' key
  | guest {i : LogId} :
    ¬ L.exact → L.opened → l.find? key = some i → l'.find? key = none →
    KeyLog.OfGuest L l.capacity (l.logAt i) → Current L pairs l l' key

/-- The logs of two runs differ by what the guest did at most. -/
structure Agree (like : Key → Likeness P) (same : Key → LogId → LogId → Prop) (l l' : EventLog P) :
    Prop where
  capacity_eq : l'.capacity = l.capacity
  current : ∀ key, Current (like key) (same key) l l' key
  paired : ∀ {key id id'}, same key id id' → Paired (like key) l l' key id id'
  unique : ∀ {key id id₁ id₂}, same key id id₁ → same key id id₂ → id₁ = id₂
  unique' : ∀ {key id₁ id₂ id'}, same key id₁ id' → same key id₂ id' → id₁ = id₂

/-- Logs that stand for each other are logs of their key. -/
def Owning (same : Key → LogId → LogId → Prop) (facts facts' : List (Fact P)) : Prop :=
  ∀ {key id id'}, same key id id' → Owns facts key id ∧ Owns facts' key id'

lemma Owning.append (h : Owning same facts facts') (told told' : List (Fact P)) :
    Owning same (facts ++ told) (facts' ++ told') :=
  fun hsame => ⟨(h hsame).1.append told, (h hsame).2.append told'⟩

/-- Two more logs stand for each other. -/
def link (same : Key → LogId → LogId → Prop) (key : Key) (id id' : LogId) :
    Key → LogId → LogId → Prop :=
  fun k i i' => same k i i' ∨ k = key ∧ i = id ∧ i' = id'

lemma Paired.weaken (h : Paired L l l' key id id') (hle : L.Le L') : Paired L' l l' key id id' :=
  ⟨h.lt, h.lt', h.current_iff, h.alike.weaken hle⟩

lemma Current.weaken (h : Current L pairs l l' key) (hle : L.Le L')
    (hpairs : ∀ {id id'}, pairs id id' → pairs' id id') : Current L' pairs' l l' key := by
  cases h with
  | absent h h' => exact .absent h h'
  | both h h' hpair => exact .both h h' (hpairs hpair)
  | guest hnot hopened h h' hlog =>
    exact .guest (fun hexact => hnot (hle.exact hexact)) (hle.opened hopened) h h' (hlog.weaken hle)

/-- Before anything is logged, the logs of all runs agree. -/
lemma Agree.new (like : Key → Likeness P) (capacity : Nat) :
    Agree like (fun _ _ _ => False) (.new capacity : EventLog P) (.new capacity) :=
  ⟨rfl, fun _ => .absent rfl rfl, False.elim, fun h => h.elim, fun h => h.elim⟩

/-- Less may be known of the runs. -/
lemma Agree.weaken (h : Agree like same l l') (hle : ∀ key, (like key).Le (like' key)) :
    Agree like' same l l' :=
  ⟨h.capacity_eq, fun key => (h.current key).weaken (hle key) id,
    fun hsame => (h.paired hsame).weaken (hle _), h.unique, h.unique'⟩

/-- Where the log of a key is to be the same, it is. -/
lemma Agree.get?_eq (h : Agree like same l l') (hexact : (like key).exact) :
    l'.get? key = l.get? key := by
  unfold get?
  cases h.current key with
  | absent hfind hfind' => rw [hfind, hfind']; rfl
  | both hfind hfind' hsame =>
    rw [hfind, hfind', Option.map_some, Option.map_some, (h.paired hsame).alike.eq hexact]
  | guest hnot => exact absurd hexact hnot

/-- Where the log of a key is to be the same, it is found in both runs or in neither. -/
lemma Agree.find?_cases (h : Agree like same l l') (hexact : (like key).exact) :
    (l.find? key = none ∧ l'.find? key = none) ∨
      ∃ id id', l.find? key = some id ∧ l'.find? key = some id' ∧ same key id id' := by
  cases h.current key with
  | absent hfind hfind' => exact .inl ⟨hfind, hfind'⟩
  | both hfind hfind' hsame => exact .inr ⟨_, _, hfind, hfind', hsame⟩
  | guest hnot => exact absurd hexact hnot

section Locate

/-- The log that a place has was there before. -/
lemma find?_locate_iff (hid : id < l.store.length) (key key' : Key) (epoch : UInt64) :
    (l.locate key epoch).2.find? key' = some id ↔ l.find? key' = some id := by
  rw [find?_locate]
  split
  · rename_i heq
    subst heq
    cases h : l.find? key with
    | some _ => rw [locate_of_some h]
    | none =>
      rw [locate_of_none h]
      simpa using (Nat.ne_of_lt hid).symm
  · exact Iff.rfl

lemma Paired.locate_left (h : Paired L l l' key id id') (key' : Key) (epoch : UInt64) :
    Paired L (l.locate key' epoch).2 l' key id id' := by
  refine ⟨Nat.lt_of_lt_of_le h.lt (length_store_le_locate l key' epoch), h.lt',
    (find?_locate_iff h.lt key' key epoch).trans h.current_iff, ?_⟩
  rw [capacity_locate, logAt_locate h.lt]
  exact h.alike

lemma Paired.locate (h : Paired L l l' key id id') (key' : Key) (epoch : UInt64) :
    Paired L (l.locate key' epoch).2 (l'.locate key' epoch).2 key id id' := by
  obtain ⟨hlt, -, hiff, halike⟩ := h.locate_left key' epoch
  refine ⟨hlt, Nat.lt_of_lt_of_le h.lt' (length_store_le_locate l' key' epoch),
    hiff.trans (find?_locate_iff h.lt' key' key epoch).symm, ?_⟩
  rw [logAt_locate h.lt']
  exact halike

/-- The logs that somebody else finds in both runs stand for each other. -/
lemma Paired.located (h : Agree like same l l') (hl : l.Sound) (hl' : l'.Sound) (key : Key)
    (epoch : UInt64) :
    Paired (like key) (l.locate key epoch).2 (l'.locate key epoch).2 key (l.locate key epoch).1
      (l'.locate key epoch).1 := by
  refine ⟨locate_lt hl key epoch, locate_lt hl' key epoch, ?_, ?_⟩
  · rw [find?_locate, find?_locate, if_pos rfl, if_pos rfl]
    exact ⟨fun _ => rfl, fun _ => rfl⟩
  · rw [logAt_locate_self, logAt_locate_self, capacity_locate, get?, get?]
    cases h.current key with
    | absent hfind hfind' =>
      rw [hfind, hfind']
      exact .new _ _ epoch
    | both hfind hfind' hsame =>
      rw [hfind, hfind']
      exact (h.paired hsame).alike
    | guest hnot hopened hfind hfind' hlog =>
      rw [hfind, hfind']
      exact hlog.alike hnot hopened epoch

lemma Agree.locate (h : Agree like same l l') (hl : l.Sound) (hl' : l'.Sound) (key : Key)
    (epoch : UInt64) :
    Agree like (link same key (l.locate key epoch).1 (l'.locate key epoch).1) (l.locate key epoch).2
      (l'.locate key epoch).2 := by
  have hlocated := Paired.located h hl hl' key epoch
  -- What stood for one of the two logs before is the other one.
  have hid' : ∀ {id'}, same key (l.locate key epoch).1 id' → id' = (l'.locate key epoch).1 :=
    fun hsame => Option.some.inj ((((h.paired hsame).locate key epoch).current_iff.1
      (hlocated.current_iff.2 (by rw [find?_locate, if_pos rfl]))).symm.trans
        (by rw [find?_locate, if_pos rfl]))
  have hid : ∀ {id}, same key id (l'.locate key epoch).1 → id = (l.locate key epoch).1 :=
    fun hsame => Option.some.inj ((((h.paired hsame).locate key epoch).current_iff.2
      (hlocated.current_iff.1 (by rw [find?_locate, if_pos rfl]))).symm.trans
        (by rw [find?_locate, if_pos rfl]))
  refine ⟨?_, fun key' => ?_, fun hsame => ?_, fun h₁ h₂ => ?_, fun h₁ h₂ => ?_⟩
  · rw [capacity_locate, capacity_locate, h.capacity_eq]
  · by_cases heq : key = key'
    · subst heq
      refine .both ?_ ?_ (.inr ⟨rfl, rfl, rfl⟩) <;> rw [find?_locate, if_pos rfl]
    · cases h.current key' with
      | absent hfind hfind' =>
        refine .absent ?_ ?_ <;> rwa [find?_locate, if_neg heq]
      | both hfind hfind' hsame =>
        refine .both ?_ ?_ (.inl hsame) <;> rwa [find?_locate, if_neg heq]
      | guest hnot hopened hfind hfind' hlog =>
        refine .guest hnot hopened (by rwa [find?_locate, if_neg heq])
          (by rwa [find?_locate, if_neg heq]) ?_
        rwa [logAt_locate (hl.placed hfind), capacity_locate]
  · rcases hsame with hsame | ⟨rfl, rfl, rfl⟩
    · exact (h.paired hsame).locate key epoch
    · exact hlocated
  · rcases h₁ with h₁ | ⟨rfl, rfl, rfl⟩ <;> rcases h₂ with h₂ | ⟨heq, hi, rfl⟩
    · exact h.unique h₁ h₂
    · subst heq hi
      exact hid' h₁
    · exact (hid' h₂).symm
    · rfl
  · rcases h₁ with h₁ | ⟨rfl, rfl, rfl⟩ <;> rcases h₂ with h₂ | ⟨heq, rfl, hi⟩
    · exact h.unique' h₁ h₂
    · subst heq hi
      exact hid h₁
    · exact (hid h₂).symm
    · rfl

/-- The guest looks for a log in the first run, and may open it. -/
lemma Agree.locate_guest (h : Agree like same l l') (hl : l.Sound) (key : Key) (epoch : UInt64)
    (hnot : ¬ (like key).exact) (hle : ∀ key', (like key').Le (like' key'))
    (hopened : l.get? key = none → (like' key).opened) :
    Agree like' same (l.locate key epoch).2 l' := by
  refine ⟨by rw [capacity_locate, h.capacity_eq], fun key' => ?_,
    fun hsame => ((h.paired hsame).locate_left key epoch).weaken (hle _), h.unique, h.unique'⟩
  have hfind₁ := find?_locate l key key' epoch
  cases h.current key' with
  | absent hfind hfind' =>
    by_cases heq : key = key'
    · subst heq
      rw [if_pos rfl, locate_of_none hfind] at hfind₁
      refine .guest (fun hexact => hnot ((hle key).exact hexact))
        (hopened (by rw [get?, hfind, Option.map_none])) (by rw [find?_locate, if_pos rfl]) hfind' ?_
      rw [logAt_locate_self, get?, hfind]
      exact .new _ _ epoch
    · exact .absent (by rwa [hfind₁, if_neg heq]) hfind'
  | both hfind hfind' hsame =>
    refine .both ?_ hfind' hsame
    exact (find?_locate_iff (hl.placed hfind) key key' epoch).2 hfind
  | guest hnot' hopened' hfind hfind' hlog =>
    refine .guest (fun hexact => hnot' ((hle key').exact hexact)) ((hle key').opened hopened')
      ((find?_locate_iff (hl.placed hfind) key key' epoch).2 hfind) hfind' ?_
    rw [logAt_locate (hl.placed hfind), capacity_locate]
    exact hlog.weaken (hle key')

end Locate

section Record

/-- A log belongs to one key, and so do the ones that stand for it. -/
lemma Owning.eq_of_eq (h : Agree like same l l') (how : Owning same facts facts')
    (hsame : same key id id') {i i' : LogId} (hpair : same key' i i') :
    (i = id → key' = key ∧ i' = id') ∧ (i' = id' → key' = key ∧ i = id) := by
  refine ⟨?_, ?_⟩
  · rintro rfl
    obtain rfl := (how hpair).1.key_eq (how hsame).1
    exact ⟨rfl, h.unique hpair hsame⟩
  · rintro rfl
    obtain rfl := (how hpair).2.key_eq (how hsame).2
    exact ⟨rfl, h.unique' hpair hsame⟩

/-- Somebody else adds an event in both runs. -/
lemma Agree.record (h : Agree like same l l') (how : Owning same facts facts')
    (hl : l.Ledger facts) (hsame : same key id id') (event : Event P) :
    Agree like same (l.record id event).2 (l'.record id' event).2 := by
  have hroom : 0 < l.capacity := hl.room
  refine ⟨h.capacity_eq, fun key' => ?_, fun {key' i i'} hpair => ?_, h.unique, h.unique'⟩
  · cases h.current key' with
    | absent hfind hfind' => exact .absent hfind hfind'
    | both hfind hfind' hpair => exact .both hfind hfind' hpair
    | @guest i hnot hopened hfind hfind' hlog =>
      refine .guest hnot hopened hfind hfind' ?_
      have hne : id ≠ i := by
        rintro rfl
        obtain rfl := (hl.current hfind).key_eq (how hsame).1
        cases hfind'.symm.trans ((h.paired hsame).current_iff.1 hfind)
      rw [logAt_record_ne l hne]
      exact hlog
  · obtain ⟨hlt, hlt', hiff, halike⟩ := h.paired hpair
    obtain ⟨heq, heq'⟩ := Owning.eq_of_eq h how hsame hpair
    refine ⟨by rwa [length_store_record], by rwa [length_store_record], hiff, ?_⟩
    by_cases hi : i = id
    · obtain ⟨rfl, rfl⟩ := heq hi
      subst hi
      rw [logAt_record_self hlt, logAt_record_self hlt', h.capacity_eq]
      exact halike.append hroom event
    · rw [logAt_record_ne l (Ne.symm hi), logAt_record_ne l' fun hi' => hi (heq' hi'.symm).2]
      exact halike

/-- The guest adds an item in the first run. -/
lemma Agree.record_guest (h : Agree like same l l') (how : Owning same facts facts')
    (hl : l.Ledger facts) (hnot : ¬ (like key).exact) (hown : Owns facts key id) {event : Event P}
    (opened : Prop) (hkey : like' key = (like key).add opened [event])
    (hle : ∀ key', (like key').Le (like' key')) :
    Agree like' same (l.record id event).2 l' := by
  have hroom : 0 < l.capacity := hl.room
  refine ⟨h.capacity_eq, fun key' => ?_, fun {key' i i'} hpair => ?_, h.unique, h.unique'⟩
  · cases h.current key' with
    | absent hfind hfind' => exact .absent hfind hfind'
    | both hfind hfind' hpair => exact .both hfind hfind' hpair
    | @guest i hnot' hopened hfind hfind' hlog =>
      refine .guest (fun hexact => hnot' ((hle key').exact hexact)) ((hle key').opened hopened) hfind
        hfind' ?_
      by_cases hi : id = i
      · subst hi
        obtain rfl := (hl.current hfind).key_eq hown
        rw [logAt_record_self (hl.sound.placed hfind), hkey]
        exact hlog.append hroom opened event
      · rw [logAt_record_ne l hi]
        exact hlog.weaken (hle key')
  · obtain ⟨hlt, hlt', hiff, halike⟩ := h.paired hpair
    refine ⟨by rwa [length_store_record], hlt', hiff, ?_⟩
    by_cases hi : id = i
    · subst hi
      obtain rfl := (how hpair).1.key_eq hown
      rw [logAt_record_self hlt, hkey]
      exact halike.append_guest hroom hnot opened event
    · rw [logAt_record_ne l hi]
      exact halike.weaken (hle key')

end Record

lemma Agree.clear (h : Agree like same l l') : Agree like same l.clear l'.clear :=
  ⟨h.capacity_eq, fun _ => .absent rfl rfl,
    fun hsame => ⟨(h.paired hsame).lt, (h.paired hsame).lt', ⟨nofun, nofun⟩, (h.paired hsame).alike⟩,
    h.unique, h.unique'⟩

/-- What a key retains in two runs: nothing, the same history but for the items of the guest, or in the
first run nothing but such items. -/
inductive AlikeAt (L : Likeness P) (room : Nat) : Option (KeyLog P) → Option (KeyLog P) → Prop where
  | absent : AlikeAt L room none none
  | both {log log'} : KeyLog.Alike L room log log' → AlikeAt L room (some log) (some log')
  | guest {log} : ¬ L.exact → L.opened → KeyLog.OfGuest L room log → AlikeAt L room (some log) none

lemma Agree.alikeAt (h : Agree like same l l') (key : Key) :
    AlikeAt (like key) l.capacity (l.get? key) (l'.get? key) := by
  unfold get?
  cases h.current key with
  | absent hfind hfind' =>
    rw [hfind, hfind']
    exact .absent
  | both hfind hfind' hsame =>
    rw [hfind, hfind']
    exact .both (h.paired hsame).alike
  | guest hnot hopened hfind hfind' hlog =>
    rw [hfind, hfind']
    exact .guest hnot hopened hlog

/-- The logs of two runs after a step: they agree, and what stood for each other still does. -/
structure InStep (like : Key → Likeness P) (same same' : Key → LogId → LogId → Prop)
    (facts facts' : List (Fact P)) (l l' : EventLog P) : Prop where
  agree : Agree like same' l l'
  owning : Owning same' facts facts'
  grows : ∀ {key id id'}, same key id id' → same' key id id'

section InStep

variable (h : Agree like same l l') (how : Owning same facts facts')
include h how

/-- Nothing happened to the logs. -/
lemma InStep.refl (told told' : List (Fact P)) :
    InStep like same same (facts ++ told) (facts' ++ told') l l' :=
  ⟨h, how.append told told', fun h => h⟩

variable (hl : l.Ledger facts) (hl' : l'.Ledger facts')
include hl

lemma InStep.record (hsame : same key id id') (event : Event P) (told told' : List (Fact P)) :
    InStep like same same (facts ++ told) (facts' ++ told') (l.record id event).2
      (l'.record id' event).2 :=
  ⟨h.record how hl hsame event, how.append told told', fun h => h⟩

include hl'

lemma InStep.locate (key : Key) (epoch : UInt64) :
    InStep like same (link same key (l.locate key epoch).1 (l'.locate key epoch).1)
      (facts ++ Fact.ofLocate l key epoch) (facts' ++ Fact.ofLocate l' key epoch)
      (l.locate key epoch).2 (l'.locate key epoch).2 := by
  refine ⟨h.locate hl.sound hl'.sound key epoch, fun hsame => ?_, .inl⟩
  rcases hsame with hsame | ⟨rfl, rfl, rfl⟩
  · exact how.append _ _ hsame
  · exact ⟨(hl.locate _ epoch).2, (hl'.locate _ epoch).2⟩

end InStep

end EventLog

end WatchHub
