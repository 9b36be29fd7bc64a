import WatchHub.Proofs.Hub.Run
import WatchHub.Proofs.Log.Store

/-!
# The ledger of a hub

What was told about the logs, against what they hold. The logs that were opened are listed with their
keys and epochs in the order of their places, and the log at a place is the one of the history that
was told to be added there (`EventLog.Ledger`). Whoever is about to read a log or to add to it has
found a log of its own key (`Hub.Booked`).
-/

namespace WatchHub

variable {P : Type}

namespace Fact

/-- The key and the epoch of a log that was opened. -/
def opening? : Fact P → Option (Key × UInt64)
  | opened key epoch => some (key, epoch)
  | _ => none

/-- The entry that was added to the log at a place. -/
def record? (id : LogId) : Fact P → Option (Entry P)
  | logged _ _ i event version => if i = id then some ⟨event, version⟩ else none
  | _ => none

/-- Whether a fact is about the contents of a log. -/
def isWriting : Fact P → Bool
  | opened .. | logged .. => true
  | _ => false

lemma isWriting_of_isMembership {x : Fact P} (h : x.isMembership = true) :
    x.isWriting = false := by
  cases x <;> first | rfl | cases h

/-- Whether the log at a place was opened for a key. -/
def Owns (facts : List (Fact P)) (key : Key) (id : LogId) : Prop :=
  ∃ epoch, (facts.filterMap opening?)[id]? = some (key, epoch)

/-- A log keeps its place. -/
lemma opening?_append {facts : List (Fact P)} {id : LogId} {opened : Key × UInt64}
    (h : (facts.filterMap opening?)[id]? = some opened) (more : List (Fact P)) :
    ((facts ++ more).filterMap opening?)[id]? = some opened := by
  rw [List.filterMap_append, List.getElem?_append_left (List.getElem?_eq_some_iff.1 h).1, h]

lemma Owns.append {facts : List (Fact P)} {key : Key} {id : LogId} (h : Owns facts key id)
    (more : List (Fact P)) : Owns (facts ++ more) key id := by
  obtain ⟨epoch, h⟩ := h
  exact ⟨epoch, opening?_append h more⟩

/-- A log has one owner. -/
lemma Owns.key_eq {facts : List (Fact P)} {key key' : Key} {id : LogId} (h : Owns facts key id)
    (h' : Owns facts key' id) : key = key' := by
  obtain ⟨_, h⟩ := h
  obtain ⟨_, h'⟩ := h'
  exact congrArg Prod.fst (Option.some.inj (h.symm.trans h'))

end Fact

open WatchHub.Fact (Owns opening? record?)

namespace EventLog

/-- What was told about the logs is what they hold. -/
structure Ledger (facts : List (Fact P)) (l : EventLog P) : Prop where
  sound : l.Sound
  room : 0 < l.capacity
  places : (facts.filterMap opening?).length = l.store.length
  kept : ∀ {id key epoch}, (facts.filterMap opening?)[id]? = some (key, epoch) →
    ∃ events, l.logAt id = .retaining l.capacity epoch events ∧
      facts.filterMap (record? id) = numbered epoch events
  current : ∀ {key id}, l.find? key = some id → Owns facts key id
  logged : ∀ {key writer id event version},
    .logged key writer id event version ∈ facts → Owns facts key id

variable {facts : List (Fact P)} {l : EventLog P}

lemma Ledger.new (config : HubConfig) : (EventLog.new config.logRoom : EventLog P).Ledger [] where
  sound := .new _
  room := Nat.lt_of_lt_of_le Nat.zero_lt_one (Nat.le_max_right _ _)
  places := rfl
  kept h := by simp at h
  current h := nomatch h
  logged h := absurd h List.not_mem_nil

/-- Facts that are not about the contents of logs. -/
lemma opening?_of_not_isWriting {told : List (Fact P)} (h : ∀ x ∈ told, x.isWriting = false) :
    told.filterMap opening? = [] :=
  Fact.filterMap_of_kind (fun x => by cases x <;> simp [opening?, Fact.isWriting]) h

lemma record?_of_not_isWriting {told : List (Fact P)} (h : ∀ x ∈ told, x.isWriting = false)
    (id : LogId) : told.filterMap (record? id) = [] :=
  Fact.filterMap_of_kind (fun x => by cases x <;> simp [record?, Fact.isWriting]) h

lemma Ledger.idle (hl : l.Ledger facts) {told : List (Fact P)}
    (htold : ∀ x ∈ told, x.isWriting = false) : l.Ledger (facts ++ told) where
  sound := hl.sound
  room := hl.room
  places := by
    rw [List.filterMap_append, opening?_of_not_isWriting htold, List.append_nil, hl.places]
  kept {id key epoch} h := by
    rw [List.filterMap_append, opening?_of_not_isWriting htold, List.append_nil] at h
    rw [List.filterMap_append, record?_of_not_isWriting htold, List.append_nil]
    exact hl.kept h
  current h := (hl.current h).append told
  logged h := by
    rcases List.mem_append.1 h with h | h
    · exact (hl.logged h).append told
    · exact nomatch htold _ h

/-- Clearing leads the keys nowhere; what was found stays where it is. -/
lemma Ledger.clear (hl : l.Ledger facts) : l.clear.Ledger facts where
  sound := .clear l
  room := hl.room
  places := hl.places
  kept h := hl.kept h
  current h := nomatch h
  logged h := hl.logged h

lemma Ledger.lt_of_owns (hl : l.Ledger facts) {key : Key} {id : LogId} (h : Owns facts key id) :
    id < l.store.length := by
  obtain ⟨epoch, h⟩ := h
  rw [← hl.places]
  exact (List.getElem?_eq_some_iff.1 h).1

/-- Nothing was added to a log that was not opened. -/
lemma Ledger.record?_eq_nil (hl : l.Ledger facts) {id : LogId} (h : ¬ id < l.store.length) :
    facts.filterMap (record? id) = [] := by
  refine List.filterMap_eq_nil_iff.2 fun x hx => ?_
  cases x with
  | logged key writer i event version =>
    rw [record?, if_neg]
    rintro rfl
    exact h (hl.lt_of_owns (hl.logged hx))
  | _ => rfl

/-- Locating a log opens it if need be, and finds a log of the key. -/
lemma Ledger.locate (hl : l.Ledger facts) (key : Key) (epoch : UInt64) :
    (l.locate key epoch).2.Ledger (facts ++ Fact.ofLocate l key epoch) ∧
      Owns (facts ++ Fact.ofLocate l key epoch) key (l.locate key epoch).1 := by
  cases hfind : l.find? key with
  | some id =>
    rw [locate_of_some hfind, Fact.ofLocate, hfind, Option.isSome_some, if_pos rfl, List.append_nil]
    exact ⟨hl, hl.current hfind⟩
  | none =>
    have htold : (Fact.ofLocate l key epoch) = [.opened key epoch] := by
      simp [Fact.ofLocate, hfind]
    have hopenings : (facts ++ [Fact.opened key epoch]).filterMap opening? =
        facts.filterMap opening? ++ [(key, epoch)] := by
      simp [opening?]
    have hrecords : ∀ id, (facts ++ [Fact.opened key epoch]).filterMap (record? id) =
        facts.filterMap (record? id) := by
      intro id
      simp [List.filterMap_cons, record?]
    have hid : (l.locate key epoch).1 = l.store.length := by rw [locate_of_none hfind]
    have hown : Owns (facts ++ [Fact.opened key epoch]) key l.store.length := by
      refine ⟨epoch, ?_⟩
      rw [hopenings, ← hl.places]
      simp
    rw [htold, hid]
    -- The new log is at the end of the store, and the places before it keep what they have.
    refine ⟨⟨hl.sound.locate key epoch, ?_, ?_, ?_, ?_, ?_⟩, hown⟩
    · rw [capacity_locate]
      exact hl.room
    · rw [hopenings, length_store_locate, hfind, List.length_append, hl.places]
      rfl
    · intro id key' epoch' h
      rw [hopenings] at h
      rw [hrecords, capacity_locate]
      by_cases hlt : id < l.store.length
      · rw [List.getElem?_append_left (by rw [hl.places]; exact hlt)] at h
        rw [logAt_locate hlt]
        exact hl.kept h
      · obtain rfl : id = l.store.length := by
          have := (List.getElem?_eq_some_iff.1 h).1
          rw [List.length_append, hl.places, List.length_singleton] at this
          exact Nat.le_antisymm (Nat.le_of_lt_succ this) (Nat.le_of_not_lt hlt)
        rw [← hl.places, List.getElem?_concat_length] at h
        cases h
        refine ⟨[], ?_, hl.record?_eq_nil hlt⟩
        rw [logAt_locate_new hfind, KeyLog.new_eq_retaining]
    · intro key' id h
      rw [find?_locate] at h
      split at h
      · rename_i heq
        subst heq
        cases h
        rw [hid]
        exact hown
      · exact (hl.current h).append _
    · intro key' writer id event version h
      rcases List.mem_append.1 h with h | h
      · exact (hl.logged h).append _
      · simp at h

/-- Adding an entry to a log of the key adds it to its history. -/
lemma Ledger.record (hl : l.Ledger facts) {key : Key} {id : LogId} (hown : Owns facts key id)
    (writer : Writer) (event : Event P) :
    (l.record id event).2.Ledger
      (facts ++ [.logged key writer id event (l.record id event).1]) := by
  have hlt := hl.lt_of_owns hown
  have hopenings : (facts ++ [Fact.logged key writer id event (l.record id event).1]).filterMap
      opening? = facts.filterMap opening? := by
    simp [opening?]
  refine ⟨hl.sound.record id event, hl.room, ?_, ?_, ?_, ?_⟩
  · rw [hopenings, length_store_record, hl.places]
  · intro id' key' epoch h
    rw [hopenings] at h
    obtain ⟨events, hlog, hrecords⟩ := hl.kept h
    rw [capacity_record, List.filterMap_append, hrecords]
    -- Only the history of the log at this place grows.
    by_cases heq : id = id'
    · subst heq
      refine ⟨events ++ [event], ?_, ?_⟩
      · rw [logAt_record_self hlt, hlog, KeyLog.append_retaining hl.room]
      · rw [numbered_append, fst_record, hlog, KeyLog.nextVersion_retaining]
        simp [record?]
    · refine ⟨events, ?_, ?_⟩
      · rw [logAt_record_ne l heq, hlog]
      · simp [record?, heq]
  · exact fun h => (hl.current h).append _
  · intro key' writer' id' event' version h
    rcases List.mem_append.1 h with h | h
    · exact (hl.logged h).append _
    · cases List.mem_singleton.1 h
      exact hown.append _

/-- What a step makes of the logs and what it tells about them; only a wipe leads keys nowhere. -/
inductive Writes (wiped : Prop) (facts : List (Fact P)) (l : EventLog P) :
    List (Fact P) → EventLog P → Prop where
  | idle {told} : (∀ x ∈ told, x.isWriting = false) → Writes wiped facts l told l
  | located (key : Key) (epoch : UInt64) :
    Writes wiped facts l (Fact.ofLocate l key epoch) (l.locate key epoch).2
  | recorded {key id} (writer : Writer) (event : Event P) :
    Owns facts key id →
    Writes wiped facts l [.logged key writer id event (l.record id event).1] (l.record id event).2
  | cleared {told} :
    wiped → (∀ x ∈ told, x.isWriting = false) → Writes wiped facts l told l.clear

variable {wiped : Prop} {told : List (Fact P)} {l' : EventLog P}

/-- The ledger stays in order. -/
theorem Ledger.writes (hl : l.Ledger facts) (hw : Writes wiped facts l told l') :
    l'.Ledger (facts ++ told) := by
  cases hw with
  | idle htold => exact hl.idle htold
  | located key epoch => exact (hl.locate key epoch).1
  | recorded writer event hown => exact hl.record hown writer event
  | cleared _ htold => exact hl.clear.idle htold

/-- Every log that was ever opened is the one that its key has now. -/
def Undivided (facts : List (Fact P)) (l : EventLog P) : Prop :=
  ∀ key id, Owns facts key id → l.find? key = some id

/-- Whoever owns a log owned it before or has just opened it. -/
lemma owns_of_opened {key key' : Key} {epoch : UInt64} {id : LogId}
    (h : Owns (facts ++ [.opened key epoch]) key' id) :
    Owns facts key' id ∨ (key' = key ∧ id = (facts.filterMap opening?).length) := by
  obtain ⟨epoch', h⟩ := h
  have hopenings : (facts ++ [Fact.opened key epoch]).filterMap opening? =
      facts.filterMap opening? ++ [(key, epoch)] := by
    simp [opening?]
  rw [hopenings] at h
  by_cases hlt : id < (facts.filterMap opening?).length
  · rw [List.getElem?_append_left hlt] at h
    exact .inl ⟨epoch', h⟩
  · have hle := (List.getElem?_eq_some_iff.1 h).1
    rw [List.length_append, List.length_singleton] at hle
    obtain rfl := Nat.le_antisymm (Nat.le_of_lt_succ hle) (Nat.le_of_not_lt hlt)
    rw [List.getElem?_concat_length] at h
    cases h
    exact .inr ⟨rfl, rfl⟩

/-- What opens no log changes no owner. -/
lemma owns_of_append (htold : told.filterMap opening? = []) {key : Key} {id : LogId}
    (h : Owns (facts ++ told) key id) : Owns facts key id := by
  obtain ⟨epoch, h⟩ := h
  rw [List.filterMap_append, htold, List.append_nil] at h
  exact ⟨epoch, h⟩

lemma Undivided.locate (hl : l.Ledger facts) (hu : l.Undivided facts) (key : Key)
    (epoch : UInt64) :
    (l.locate key epoch).2.Undivided (facts ++ Fact.ofLocate l key epoch) := by
  intro key' id hown
  rw [find?_locate]
  cases hfind : l.find? key with
  | some id₀ =>
    rw [Fact.ofLocate, hfind, Option.isSome_some, if_pos rfl, List.append_nil] at hown
    rw [locate_of_some hfind]
    split
    · rename_i heq
      subst heq
      rw [← hu _ _ hown, hfind]
    · exact hu _ _ hown
  | none =>
    rw [Fact.ofLocate, hfind] at hown
    -- A log is opened only for a key that leads nowhere, and such a key never had one.
    rcases owns_of_opened hown with hold | ⟨rfl, rfl⟩
    · have hkey := hu _ _ hold
      have hne : key ≠ key' := by
        rintro rfl
        cases hfind.symm.trans hkey
      rw [if_neg hne, hkey]
    · rw [if_pos rfl, locate_of_none hfind, hl.places]

/-- Unless the logs are wiped, no key ever gets a second log. -/
theorem Undivided.writes (hl : l.Ledger facts) (hu : l.Undivided facts) (hwiped : ¬ wiped)
    (hw : Writes wiped facts l told l') : l'.Undivided (facts ++ told) := by
  cases hw with
  | idle htold =>
    exact fun key id hown => hu key id (owns_of_append (opening?_of_not_isWriting htold) hown)
  | located key epoch => exact hu.locate hl key epoch
  | recorded writer event _ => exact fun key id hown => hu key id (owns_of_append rfl hown)
  | cleared h _ => exact absurd h hwiped

end EventLog

/-- The log that an ingest has found and is about to add to. -/
def Ingest.log? (i : Ingest P) : Option LogId :=
  match i.stage with
  | .recording id _ _ => some id
  | _ => none

/-- The log that a population has found and is about to read or to add to. -/
def Population.log? (p : Population P) : Option LogId :=
  match p.stage with
  | .reading _ id | .recording id _ _ => some id
  | _ => none

lemma Subscription.log?_settle (s : Subscription P) (offer : Offer) (rest : Population.Rest P) :
    (s.settle offer rest).population.log? = none := by
  unfold Subscription.settle
  split <;> rfl

lemma Registration.log?_of_abort {r : Registration P} {id : LogId}
    (h : r.abort.ingest.log? = some id) : r.ingest.log? = some id := by
  unfold Registration.abort at h
  split at h
  · exact h
  · cases hturn : r.ingest.inTurn with
    | true => simpa only [Ingest.log?, hturn, if_true] using h
    | false => simp [Ingest.log?, hturn] at h

namespace Audience

/-- Whoever holds a log after a change held it before. -/
def Carries (a a' : Audience P) : Prop :=
  ∀ handle s' id, a'.get? handle = some s' → s'.population.log? = some id →
    ∃ s, a.get? handle = some s ∧ s.population.log? = some id

lemma Carries.refl (a : Audience P) : a.Carries a :=
  fun _ _ _ hget hlog => ⟨_, hget, hlog⟩

/-- A change that leaves the populations as they are. -/
lemma Carries.of_map {a a' : Audience P} {f : Handle → Subscription P → Subscription P}
    (hget : ∀ handle, a'.get? handle = (a.get? handle).map (f handle))
    (hf : ∀ handle s, (f handle s).population = s.population) : a.Carries a' := by
  intro handle s' id hget' hlog
  rw [hget, Option.map_eq_some_iff] at hget'
  obtain ⟨s, hs, rfl⟩ := hget'
  exact ⟨s, hs, hf handle s ▸ hlog⟩

lemma Carries.prune (a : Audience P) : a.Carries a.prune.1 :=
  .of_map (fun handle => a.get?_prune handle) fun _ s => by split <;> rfl

lemma Carries.insert (a : Audience P) (handle : Handle) (room : Nat)
    (checkpoint : Option Version) :
    a.Carries (a.insert handle (.new room checkpoint)).1 := by
  intro handle' s' id hget hlog
  rw [get?_insert] at hget
  split at hget
  · cases hget
    cases hlog
  · exact Carries.prune a _ _ _ hget hlog

lemma Carries.remove (a : Audience P) (handle : Handle) : a.Carries (a.remove handle).2.1 :=
  .of_map (fun handle' => a.get?_remove handle handle') fun _ s => by split <;> rfl

lemma Carries.closeAll (a : Audience P) : a.Carries a.closeAll.1 :=
  .of_map (fun handle => a.get?_closeAll handle) fun _ s => by split <;> rfl

lemma Carries.emit (a : Audience P) (d : Delivery P) : a.Carries (a.emit d).1 :=
  .of_map (fun handle => a.get?_emit handle d) fun _ s => by
    split
    · exact s.population_live d
    · rfl

lemma Carries.put {a : Audience P} {handle : Handle} {s s' : Subscription P}
    (hget : a.get? handle = some s) (hpop : s'.population = s.population) :
    a.Carries (a.put handle s') := by
  intro handle' s'' id hget' hlog
  rcases Table.get?_put_eq_some hget' with ⟨rfl, rfl⟩ | ⟨-, hold⟩
  · exact ⟨s, hget, hpop ▸ hlog⟩
  · exact ⟨_, hold, hlog⟩

end Audience

namespace Hub

/-- The ledger is in order, and a log that somebody has found is one of the own key. -/
structure Booked (facts : List (Fact P)) (h : Hub P) : Prop where
  ledger : h.log.Ledger facts
  ingests : ∀ {key r id}, h.registration? key = some r → r.ingest.log? = some id →
    Owns facts key id
  populations : ∀ {key handle s id}, h.subscription? key handle = some s →
    s.population.log? = some id → Owns facts key id
  appending : ∀ {a}, a ∈ h.appending → Owns facts a.key a.log

variable {facts told : List (Fact P)} {h h' : Hub P} {action : Action P}

lemma Booked.new (config : HubConfig) : (Hub.new config : Hub P).Booked [] where
  ledger := .new config
  ingests h := nomatch h
  populations h := nomatch h
  appending h := nomatch h

/-- An ingest adds only to a log of its own key. -/
lemma Booked.writes_ingested (hs : h.Sound) (hb : h.Booked facts) {wiped : Prop} {key : Key}
    {move : Ingest.Move} {r : Registration P} {out : Ingested P}
    (hr : h.registration? key = some r) (hi : r.Ingests h.stopped h.log move out) :
    h.log.Writes wiped facts out.facts out.log := by
  obtain rfl : r.key = key := hs.keyed hr
  cases hi with
  | locate => exact .located r.key _
  | record hstage => exact .recorded .ingest _ (hb.ingests hr (by rw [Ingest.log?, hstage]))
  | emit =>
    refine .idle fun x hx => ?_
    rcases Audience.mem_emit hx with rfl | ⟨_, _, rfl⟩ <;> rfl
  | _ => exact .idle (by simp [Fact.isWriting])

/-- A population adds only to a log of its own key. -/
lemma Booked.writes_populated (hb : h.Booked facts) {wiped : Prop} {key : Key} {handle : Handle}
    {move : Population.Move P} {s : Subscription P} {out : Populated P}
    (hsub : h.subscription? key handle = some s) (hp : s.Populates key handle h.log move out) :
    h.log.Writes wiped facts out.facts out.log := by
  cases hp with
  | locate => exact .located key _
  | record hstage =>
    exact .recorded (.population handle) _ (hb.populations hsub (by rw [Population.log?, hstage]))
  | _ => exact .idle (by simp [Fact.isWriting])

/-- A step writes to the logs in one of the ways there are, and wipes them only when it is told to. -/
theorem Booked.writes (hs : h.Sound) (hb : h.Booked facts) (hc : Changes h action told h') :
    h.log.Writes (action = .clear ∨ ∃ n, .stopped n ∈ told) facts told h'.log := by
  cases hc with
  | aside _ _ _ htold hlog =>
    refine hlog ▸ .idle fun x hx => ?_
    have := (htold x hx).1
    cases x <;> first | rfl | cases this
  | registered _ hlog => exact hlog ▸ .idle (by simp [Fact.isWriting])
  | joined _ _ _ hlog =>
    exact hlog ▸ .idle fun _ hx => Fact.isWriting_of_isMembership (isMembership_joined hx)
  | left _ hlog =>
    exact hlog ▸ .idle fun _ hx => Fact.isWriting_of_isMembership (isMembership_left hx)
  | closed _ _ hlog =>
    exact hlog ▸ .idle fun _ hx =>
      Fact.isWriting_of_isMembership (Audience.isMembership_closeAll hx)
  | @stopped drained _ _ _ _ hlog =>
    rw [hlog]
    exact .cleared (.inr ⟨drained, by simp⟩) (by simp [Fact.isWriting])
  | ingested hr hi => exact hb.writes_ingested hs hr hi
  | populated hr hget hp =>
    exact hb.writes_populated ((subscription?_of_registration? hr _).trans hget) hp
  | received | asked | hungUp | sent | ended => exact .idle (by simp [Fact.isWriting])
  | located => exact .located _ _
  | recorded ha => exact .recorded .owner _ (hb.appending (List.mem_of_getElem? ha))
  | cleared => exact .cleared (.inl rfl) (by simp)

/-- A change of one registration. -/
lemma Booked.put (hb : h.Booked facts) (hledger : h'.log.Ledger (facts ++ told)) {key₀ : Key}
    {r' : Registration P} (hregs : h'.registrations = h.registrations.put key₀ r')
    (hingest : ∀ {id}, r'.ingest.log? = some id → Owns (facts ++ told) key₀ id)
    (hpops : ∀ {handle s id}, r'.audience.get? handle = some s → s.population.log? = some id →
      Owns (facts ++ told) key₀ id) (happending : h'.appending = h.appending) :
    h'.Booked (facts ++ told) where
  ledger := hledger
  ingests {key r'' id} h'' hlog := by
    rw [registration?, hregs] at h''
    rcases Table.get?_put_eq_some h'' with ⟨rfl, rfl⟩ | ⟨-, hold⟩
    · exact hingest hlog
    · exact (hb.ingests hold hlog).append told
  populations {key handle s id} h'' hlog := by
    rw [subscription?_of_put hregs] at h''
    split at h''
    · rename_i heq
      subst heq
      exact hpops h'' hlog
    · exact (hb.populations h'' hlog).append told
  appending ha := (hb.appending (happending ▸ ha)).append told

/-- A change of one audience that leaves the ingest where it is. -/
lemma Booked.put_audience (hb : h.Booked facts) (hledger : h'.log.Ledger (facts ++ told))
    {key₀ : Key} {r r' : Registration P} (hr : h.registration? key₀ = some r)
    (hregs : h'.registrations = h.registrations.put key₀ r')
    (hstage : r'.ingest.stage = r.ingest.stage) (hcarries : r.audience.Carries r'.audience)
    (happending : h'.appending = h.appending) : h'.Booked (facts ++ told) := by
  refine hb.put hledger hregs (fun {id} h => ?_) (fun {handle s id} h hid => ?_) happending
  · refine (hb.ingests hr ?_).append told
    rw [Ingest.log?, hstage] at h
    exact h
  · obtain ⟨s₀, hget, hlog⟩ := hcarries _ _ _ h hid
    exact (hb.populations ((subscription?_of_registration? hr handle).trans hget) hlog).append told

/-- A change that leaves the registrations as they are. -/
lemma Booked.withLog (hb : h.Booked facts) (hledger : h'.log.Ledger (facts ++ told))
    (hregs : h'.registrations = h.registrations)
    (happending : ∀ {a}, a ∈ h'.appending → a ∈ h.appending ∨ Owns (facts ++ told) a.key a.log) :
    h'.Booked (facts ++ told) where
  ledger := hledger
  ingests {key r id} hr hlog := by
    rw [registration?, hregs] at hr
    exact (hb.ingests hr hlog).append told
  populations {key handle s id} hsub hlog := by
    rw [subscription?, registration?, hregs] at hsub
    exact (hb.populations hsub hlog).append told
  appending ha := (happending ha).elim (fun hold => (hb.appending hold).append told) id

/-- An ingest holds a log only while it is about to add to it. -/
lemma log?_eq_none {i : Ingest P} (h : ∀ id event last, i.stage ≠ .recording id event last) :
    i.log? = none := by
  unfold Ingest.log?
  split
  · exact absurd ‹_› (h _ _ _)
  · rfl

/-- The log that an ingest has located is one of its key. -/
lemma Booked.ingested (hs : h.Sound) (hb : h.Booked facts) {key : Key} {move : Ingest.Move}
    {r : Registration P} {out : Ingested P} (hr : h.registration? key = some r)
    (hi : r.Ingests h.stopped h.log move out) (hledger : out.log.Ledger (facts ++ out.facts)) :
    ({ h with log := out.log }.putRegistration key out.registration).Booked
      (facts ++ out.facts) := by
  obtain rfl : r.key = key := hs.keyed hr
  have hpops : ∀ {handle s id}, r.audience.get? handle = some s → s.population.log? = some id →
      Owns (facts ++ out.facts) r.key id := fun hget hlog =>
    (hb.populations ((subscription?_of_registration? hr _).trans hget) hlog).append _
  cases hi with
  | locate hstage =>
    refine hb.put hledger rfl (fun h => ?_) hpops rfl
    cases h
    exact hledger.current (by rw [EventLog.find?_locate, if_pos rfl])
  | @emit d last hstage =>
    refine hb.put hledger rfl (fun h => ?_) (fun hget hlog => ?_) rfl
    · -- After the fan-out the ingest streams on or has finished, and holds no log.
      rw [log?_eq_none] at h
      · cases h
      · intro _ _ _
        cases last <;> exact nofun
    · obtain ⟨s₀, hget₀, hlog₀⟩ := Audience.Carries.emit r.audience d _ _ _ hget hlog
      exact hpops hget₀ hlog₀
  | wake | rest => exact hb.put hledger rfl (fun h => (hb.ingests hr h).append _) hpops rfl
  | _ => exact hb.put hledger rfl (fun h => nomatch h) hpops rfl

/-- The log that a population has located is one of its key. -/
lemma Booked.populated (hb : h.Booked facts) {key : Key} {handle : Handle}
    {move : Population.Move P} {r : Registration P} {s : Subscription P} {out : Populated P}
    (hr : h.registration? key = some r) (hp : s.Populates key handle h.log move out)
    (hledger : out.log.Ledger (facts ++ out.facts)) :
    ({ h with log := out.log }.putRegistration key
      { r with audience := r.audience.put handle out.subscription }).Booked
        (facts ++ out.facts) := by
  have hown : ∀ id, out.subscription.population.log? = some id →
      Owns (facts ++ out.facts) key id := by
    intro id h
    cases hp with
    | locate =>
      cases h
      exact hledger.current (by rw [EventLog.find?_locate, if_pos rfl])
    | seekFound _ hfind =>
      cases h
      exact (hb.ledger.current hfind).append []
    | offerRefused | offerAccepted | offerGone | fill | timeOut | giveUp =>
      rw [Subscription.log?_settle] at h
      cases h
    | _ => cases h
  refine hb.put hledger rfl (fun hlog => (hb.ingests hr hlog).append _)
    (fun {handle' s' id} hget' hlog => ?_) rfl
  rcases Table.get?_put_eq_some hget' with ⟨rfl, rfl⟩ | ⟨-, hold⟩
  · exact hown id hlog
  · exact (hb.populations ((subscription?_of_registration? hr _).trans hold) hlog).append _

/-- Every step keeps the books. -/
theorem Booked.step (hs : h.Sound) (hb : h.Booked facts) (hc : Changes h action told h') :
    h'.Booked (facts ++ told) := by
  have hledger := hb.ledger.writes (hb.writes hs hc)
  cases hc with
  | aside f haudience hingest _ _ hregs _ happending =>
    refine ⟨hledger, ?_, ?_, fun ha => (hb.appending (happending ▸ ha)).append told⟩
    · intro key r id hr hid
      rw [hregs, Option.map_eq_some_iff] at hr
      obtain ⟨r₀, hr₀, rfl⟩ := hr
      rcases hingest key r₀ with heq | ⟨-, heq⟩
      · rw [heq] at hid
        exact (hb.ingests hr₀ hid).append told
      · rw [heq] at hid
        exact (hb.ingests hr₀ (Registration.log?_of_abort hid)).append told
    · intro key handle s id hsub hid
      rw [subscription?, hregs] at hsub
      cases hr₀ : h.registration? key with
      | none => simp [hr₀] at hsub
      | some r₀ =>
        have hget : r₀.audience.get? handle = some s := by simpa [hr₀, haudience] using hsub
        exact (hb.populations ((subscription?_of_registration? hr₀ handle).trans hget)
          hid).append told
  | registered _ _ hregs happending =>
    refine hb.put hledger hregs (fun h => ?_) (fun h _ => ?_) happending
    · cases h
    · cases h
  | joined _ hr _ _ hregs happending =>
    exact hb.put_audience hledger hr hregs rfl (.insert _ _ _ _) happending
  | left hr _ hregs happending =>
    exact hb.put_audience hledger hr hregs rfl (.remove _ _) happending
  | closed _ hr _ hregs happending =>
    exact hb.put_audience hledger hr hregs rfl (.closeAll _) happending
  | stopped _ _ hregs happending => exact hb.withLog hledger hregs fun ha => .inl (happending ▸ ha)
  | ingested hr hi => exact hb.ingested hs hr hi hledger
  | populated hr _ hp => exact hb.populated hr hp hledger
  | received hr hget hreceive =>
    exact hb.put_audience hledger hr rfl rfl
      (.put hget (Subscription.population_receive hreceive)) rfl
  | asked hr hget => exact hb.put_audience hledger hr rfl rfl (.put hget rfl) rfl
  | hungUp hr hget => exact hb.put_audience hledger hr rfl rfl (.put hget rfl) rfl
  | @sent key event r hr =>
    refine hb.put_audience hledger hr rfl (Registration.stage_send r event) ?_ rfl
    rw [Registration.audience_send]
    exact .refl _
  | ended hr => exact hb.put_audience hledger hr rfl rfl (.refl _) rfl
  | @located key epoch event =>
    refine hb.withLog hledger rfl fun ha => ?_
    rcases List.mem_append.1 ha with ha | ha
    · exact .inl ha
    · cases List.mem_singleton.1 ha
      exact .inr (hledger.current (by rw [EventLog.find?_locate, if_pos rfl]))
  | recorded => exact hb.withLog hledger rfl fun ha => .inl (List.mem_of_mem_eraseIdx ha)
  | cleared => exact hb.withLog hledger rfl fun ha => .inl ha

variable {config : HubConfig} {actions : List (Action P)}

/-- The books are in order after every run. -/
theorem Reached.booked (hr : Reached config actions facts h) : h.Booked facts := by
  induction hr with
  | new => exact .new config
  | step hr hstep ih => exact ih.step hr.sound (hr.sound.changes hstep)

/-- As long as the logs are not wiped, every log is the current one of its key. -/
theorem Reached.undivided (hr : Reached config actions facts h) (hclear : .clear ∉ actions)
    (hstopped : ∀ n, .stopped n ∉ facts) : h.log.Undivided facts := by
  induction hr with
  | new =>
    rintro key id ⟨epoch, h⟩
    simp at h
  | @step actions past h action h' told hr hstep ih =>
    simp only [List.mem_append, List.mem_singleton, not_or] at hclear hstopped
    have hu : h.log.Undivided past := ih hclear.1 fun n => (hstopped n).1
    refine hu.writes hr.booked.ledger ?_ (hr.booked.writes hr.sound (hr.sound.changes hstep))
    rintro (rfl | ⟨n, hn⟩)
    · exact hclear.2 rfl
    · exact (hstopped n).2 hn

end Hub

end WatchHub
