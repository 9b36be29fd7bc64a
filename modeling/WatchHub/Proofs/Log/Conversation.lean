import Mathlib.Data.List.Induction
import WatchHub.Proofs.Log.Store

/-!
# Conversations with the event log

Any sequence of operations on an event log, with the answers it gave. What the log would have to
remember if it had unlimited room is read off the conversation alone: `Conversation.appended` lists
the events of a key since the last clear under the versions that were answered. The main result,
`Conversation.answers_of_appended`, says that every answer of the bounded log is determined by that
list: the log exposes exactly its last entries.
-/

namespace WatchHub

variable {P : Type}

namespace EventLog

/-- The operations of an event log; an append brings the epoch of the log that it may have to open. -/
inductive Operation (P : Type) where
  | append (key : Key) (epoch : UInt64) (event : Event P)
  | replayAfter (key : Key) (v : Version)
  | length (key : Key)
  | latest (key : Key)
  | versions (key : Key)
  | clear
deriving DecidableEq, Inhabited, Repr

/-- The key that an operation is about; a clear is about all of them. -/
def Operation.key? : Operation P → Option Key
  | append key _ _ | replayAfter key _ | length key | latest key | versions key => some key
  | clear => none

/-- The answers of an event log. -/
inductive Response (P : Type) where
  | version (v : Version)
  | history (entries : Except WatchFailure (List (Entry P)))
  | length (n : Nat)
  | latest (v : Option Version)
  | versions (vs : List Version)
  | cleared

/-- One operation: its answer and the log after it. -/
def perform (l : EventLog P) : Operation P → Response P × EventLog P
  | .append key epoch event => ((l.append key epoch event).map .version id)
  | .replayAfter key v => (.history (l.replayAfter key v), l)
  | .length key => (.length (l.length key), l)
  | .latest key => (.latest (l.latest? key), l)
  | .versions key => (.versions (l.versions key), l)
  | .clear => (.cleared, l.clear)

end EventLog

/-- What was asked of an event log and what it answered, and the log as it is now. -/
structure Conversation (P : Type) where
  log : EventLog P
  turns : List (EventLog.Operation P × EventLog.Response P)

namespace Conversation

open EventLog (Operation Response)

/-- One more turn. -/
def ask (c : Conversation P) (op : Operation P) : Conversation P :=
  ⟨(c.log.perform op).2, c.turns ++ [(op, (c.log.perform op).1)]⟩

/-- The operations asked one after the other of a new log. -/
def after (capacity : Nat) (ops : List (Operation P)) : Conversation P :=
  ops.foldl ask ⟨.new capacity, []⟩

/-- What one turn adds to the memory of a key: an append one entry; a clear ends all memory. -/
def remember (key : Key) (past : List (Entry P)) : Operation P × Response P → List (Entry P)
  | (.append key' _ event, .version v) => if key' = key then past ++ [⟨event, v⟩] else past
  | (.clear, _) => []
  | _ => past

/-- The events appended to a key since the last clear, each under the version that was answered. -/
def appended (c : Conversation P) (key : Key) : List (Entry P) :=
  c.turns.foldl (remember key) []

lemma after_append (capacity : Nat) (ops : List (Operation P)) (op : Operation P) :
    after capacity (ops ++ [op]) = (after capacity ops).ask op := by
  simp [after]

lemma appended_ask (c : Conversation P) (op : Operation P) (key : Key) :
    (c.ask op).appended key = remember key (c.appended key) (op, (c.log.perform op).1) := by
  simp [appended, ask]

/-- The log of a key retains the last of the entries that the conversation remembers. -/
def Recalls (room : Nat) (log : Option (KeyLog P)) (past : List (Entry P)) : Prop :=
  (log = none ∧ past = []) ∨
    ∃ epoch events, events ≠ [] ∧ log = some (.retaining room epoch events) ∧
      past = numbered epoch events

/-- What holds at every turn: each key's log recalls its appends, and every answered version stems
from a place of the store, where it is remembered as long as a key leads there. -/
structure Faithful (capacity : Nat) (c : Conversation P) : Prop where
  capacity_eq : c.log.capacity = Nat.max capacity 1
  sound : c.log.Sound
  recalls : ∀ key, Recalls (Nat.max capacity 1) (c.log.get? key) (c.appended key)
  origin : ∀ {op v}, (op, Response.version v) ∈ c.turns →
    ∃ id, id < c.log.store.length ∧ (c.log.logAt id).epoch = v.epoch ∧
      ∀ {key}, c.log.find? key = some id → v ∈ (c.appended key).map Entry.version

lemma Faithful.new (capacity : Nat) :
    Faithful capacity (⟨.new capacity, []⟩ : Conversation P) where
  capacity_eq := rfl
  sound := .new capacity
  recalls _ := .inl ⟨rfl, rfl⟩
  origin h := nomatch h

/-- The log that an append finds or opens is the one of the key's history. -/
lemma Recalls.getD_new {room : Nat} {log : Option (KeyLog P)} {past : List (Entry P)}
    (h : Recalls room log past) (fresh : UInt64) :
    ∃ epoch events, (past = [] → epoch = fresh) ∧
      log.getD (.new fresh) = .retaining room epoch events ∧ past = numbered epoch events := by
  rcases h with ⟨rfl, rfl⟩ | ⟨epoch, events, hne, rfl, rfl⟩
  · exact ⟨fresh, [], fun _ => rfl, KeyLog.new_eq_retaining room fresh, rfl⟩
  · refine ⟨epoch, events, fun h => ?_, rfl, rfl⟩
    have hlen := congrArg List.length h
    exact absurd (List.length_eq_zero_iff.1 (by simpa using hlen)) hne

/-- An operation that only reads leaves everything as it is. -/
lemma Faithful.ask_read {capacity : Nat} {c : Conversation P} (hc : Faithful capacity c)
    {op : Operation P} (hlog : (c.log.perform op).2 = c.log)
    (hanswer : ∀ v, (c.log.perform op).1 ≠ .version v)
    (hpast : ∀ key, (c.ask op).appended key = c.appended key) : Faithful capacity (c.ask op) := by
  have hlog' : (c.ask op).log = c.log := hlog
  constructor
  · rw [hlog']
    exact hc.capacity_eq
  · rw [hlog']
    exact hc.sound
  · intro key
    rw [hlog', hpast]
    exact hc.recalls key
  · intro op' v hmem
    simp only [hlog', hpast]
    rcases List.mem_append.1 hmem with h | h
    · exact hc.origin h
    · have := List.mem_singleton.1 h
      exact absurd (congrArg Prod.snd this).symm (hanswer v)

lemma Faithful.ask_clear {capacity : Nat} {c : Conversation P} (hc : Faithful capacity c) :
    Faithful capacity (c.ask .clear) where
  capacity_eq := hc.capacity_eq
  sound := .clear c.log
  recalls key := by
    rw [appended_ask]
    exact .inl ⟨rfl, rfl⟩
  origin {op v} hmem := by
    rcases List.mem_append.1 hmem with h | h
    · obtain ⟨id, hid, hepoch, -⟩ := hc.origin h
      exact ⟨id, hid, hepoch, fun h => nomatch h⟩
    · exact nomatch List.mem_singleton.1 h

/-- An append adds its entry to the memory of its own key and to no other. -/
lemma appended_ask_append (c : Conversation P) (key key' : Key) (epoch : UInt64)
    (event : Event P) :
    (c.ask (.append key epoch event)).appended key' =
      if key = key' then c.appended key' ++ [⟨event, (c.log.append key epoch event).1⟩]
      else c.appended key' := by
  rw [appended_ask]
  rfl

lemma Faithful.recalls_append {capacity : Nat} {c : Conversation P} (hc : Faithful capacity c)
    (key : Key) (epoch : UInt64) (event : Event P) (key' : Key) :
    Recalls (Nat.max capacity 1) ((c.ask (.append key epoch event)).log.get? key')
      ((c.ask (.append key epoch event)).appended key') := by
  have hroom : 0 < Nat.max capacity 1 := Nat.lt_of_lt_of_le Nat.zero_lt_one (Nat.le_max_right _ _)
  rw [appended_ask_append]
  change Recalls _ ((c.log.append key epoch event).2.get? key') _
  by_cases hkey : key = key'
  · subst hkey
    obtain ⟨e, events, -, hlog, hpast⟩ := (hc.recalls key).getD_new epoch
    rw [if_pos rfl, EventLog.get?_append_self hc.sound, EventLog.fst_append, hlog, hc.capacity_eq,
      KeyLog.append_retaining hroom, KeyLog.nextVersion_retaining, hpast]
    exact .inr ⟨e, events ++ [event], by simp, rfl, (numbered_append e events event).symm⟩
  · rw [if_neg hkey, EventLog.get?_append_ne hc.sound hkey]
    exact hc.recalls key'

lemma Faithful.ask_append {capacity : Nat} {c : Conversation P} (hc : Faithful capacity c)
    (key : Key) (epoch : UInt64) (event : Event P) :
    Faithful capacity (c.ask (.append key epoch event)) where
  capacity_eq := by
    change (c.log.locate key epoch).2.capacity = _
    rw [EventLog.capacity_locate, hc.capacity_eq]
  sound := hc.sound.append key epoch event
  recalls := hc.recalls_append key epoch event
  origin {op v} hmem := by
    -- the place where the event went, and the places of the earlier versions
    have hlt := EventLog.locate_lt hc.sound key epoch
    have hfind : ∀ key', (c.ask (.append key epoch event)).log.find? key' =
        if key = key' then some (c.log.locate key epoch).1 else c.log.find? key' :=
      fun key' => EventLog.find?_locate c.log key key' epoch
    have hstore : (c.ask (.append key epoch event)).log.store.length =
        (c.log.locate key epoch).2.store.length := by
      exact EventLog.length_store_record ..
    have hepoch : ∀ id, ((c.ask (.append key epoch event)).log.logAt id).epoch =
        ((c.log.locate key epoch).2.logAt id).epoch := by
      intro id
      exact EventLog.epoch_logAt_record _ _ id event
    rcases List.mem_append.1 hmem with h | h
    · obtain ⟨id, hid, he, hkeys⟩ := hc.origin h
      refine ⟨id, ?_, ?_, ?_⟩
      · rw [hstore]
        exact Nat.lt_of_lt_of_le hid (EventLog.length_store_le_locate _ key epoch)
      · rw [hepoch, EventLog.logAt_locate hid, he]
      · intro key' hkey'
        rw [hfind] at hkey'
        rw [appended_ask_append]
        split at hkey'
        · rename_i heq
          subst heq
          rw [if_pos rfl, List.map_append, List.mem_append]
          refine .inl (hkeys ?_)
          cases hk : c.log.find? key with
          | some id' =>
            rw [EventLog.locate_of_some hk] at hkey'
            exact hkey'
          | none =>
            rw [EventLog.locate_of_none hk] at hkey'
            -- No earlier version stems from the place of a log that is only now opened.
            cases hkey'
            exact absurd hid (Nat.lt_irrefl _)
        · rename_i hne
          rw [if_neg hne]
          exact hkeys hkey'
    · obtain ⟨-, hv⟩ := Prod.mk.inj (List.mem_singleton.1 h)
      cases hv
      refine ⟨(c.log.locate key epoch).1, ?_, ?_, ?_⟩
      · rw [hstore]
        exact hlt
      · rw [hepoch]
        rfl
      · intro key' hkey'
        rw [hfind] at hkey'
        rw [appended_ask_append]
        split at hkey'
        · rename_i heq
          rw [if_pos heq, List.map_append, List.mem_append]
          exact .inr (List.mem_singleton.2 rfl)
        · rename_i hne
          exact absurd rfl (EventLog.locate_ne hc.sound hne hkey' epoch)

/-- Every conversation with a new log is faithful. -/
lemma faithful_after (capacity : Nat) (ops : List (Operation P)) :
    Faithful capacity (after capacity ops) := by
  induction ops using List.reverseRecOn with
  | nil => exact .new capacity
  | append_singleton ops op ih =>
    rw [after_append]
    cases op with
    | append key epoch event => exact ih.ask_append key epoch event
    | clear => exact ih.ask_clear
    | replayAfter key v => exact ih.ask_read rfl (fun _ => nofun) fun k => appended_ask _ _ k
    | length key => exact ih.ask_read rfl (fun _ => nofun) fun k => appended_ask _ _ k
    | latest key => exact ih.ask_read rfl (fun _ => nofun) fun k => appended_ask _ _ k
    | versions key => exact ih.ask_read rfl (fun _ => nofun) fun k => appended_ask _ _ k

/-- The versions of a retained history are its last ones, in order. -/
lemma versions_of_retaining {l : EventLog P} {key : Key} {room : Nat} {epoch : UInt64}
    {events : List (Event P)} (h : l.get? key = some (.retaining room epoch events)) :
    l.versions key = (List.range' (events.length - room + 1) (min events.length room)).map
      (Version.mk epoch) := by
  have hmin : events.length - (events.length - room) = min events.length room := by omega
  rw [EventLog.versions, h]
  simp only [KeyLog.retaining, KeyLog.ofHistory, List.map_drop, map_version_numbered]
  rw [← List.map_drop, List.drop_range', hmin]
  simp [Nat.add_comm]

/-- The newest version of a retained history is its last one. -/
lemma latest?_of_retaining {l : EventLog P} {key : Key} {room : Nat} (hroom : 0 < room)
    {epoch : UInt64} {events : List (Event P)} (hne : events ≠ [])
    (h : l.get? key = some (.retaining room epoch events)) :
    l.latest? key = some ⟨epoch, events.length⟩ := by
  have hpos : 0 < events.length := List.length_pos_iff.2 hne
  have hlast : (numbered epoch events).getLast? =
      some ⟨events[events.length - 1], ⟨epoch, events.length⟩⟩ := by
    rw [List.getLast?_eq_getElem?, length_numbered, getElem?_numbered,
      List.getElem?_eq_getElem (by omega), Nat.sub_add_cancel hpos]
    rfl
  have hdrop : ((numbered epoch events).drop (events.length - room)).getLast? =
      (numbered epoch events).getLast? := by
    rw [List.getLast?_drop, if_neg (by rw [length_numbered]; omega)]
  rw [EventLog.latest?, h]
  simp only [KeyLog.retaining, KeyLog.ofHistory, KeyLog.latest?, Option.bind_eq_bind,
    Option.bind_some, hdrop, hlast, Option.map_some]

/-- What a retained history replays. -/
lemma replayAfter_of_retaining {l : EventLog P} {key : Key} {room : Nat} {epoch : UInt64}
    {events : List (Event P)} (h : l.get? key = some (.retaining room epoch events)) (v : Version) :
    l.replayAfter key v =
      if KeyLog.Retains room epoch events.length v then .ok ((numbered epoch events).drop v.seq)
      else .error (.versionNotFound key v.text) := by
  rw [EventLog.replayAfter, h]
  simp only [EventLog.replayOf, KeyLog.after?_retaining]
  by_cases hv : KeyLog.Retains room epoch events.length v
  · simp only [if_pos hv]
  · simp only [if_neg hv]

/-- An answer about a key depends on nothing but the log of that key. -/
lemma perform_congr {l l' : EventLog P} {q : Operation P} {key : Key} (hq : q.key? = some key)
    (h : l'.get? key = l.get? key) : (l'.perform q).1 = (l.perform q).1 := by
  cases q with
  | append k epoch event =>
    cases hq
    simp only [EventLog.perform, Prod.map_fst, EventLog.fst_append, h]
  | replayAfter k v =>
    cases hq
    simp only [EventLog.perform, EventLog.replayAfter, h]
  | length k =>
    cases hq
    simp only [EventLog.perform, EventLog.length, h]
  | latest k =>
    cases hq
    simp only [EventLog.perform, EventLog.latest?, h]
  | versions k =>
    cases hq
    simp only [EventLog.perform, EventLog.versions, h]
  | clear => cases hq

/-- An operation on one key leaves the logs of the other keys as they are. -/
lemma get?_perform_ne {l : EventLog P} (hl : l.Sound) {op : Operation P} {key key' : Key}
    (hop : op.key? = some key') (hne : key' ≠ key) :
    (l.perform op).2.get? key = l.get? key := by
  cases op with
  | append k epoch event =>
    cases hop
    exact EventLog.get?_append_ne hl hne epoch event
  | clear => cases hop
  | replayAfter | length | latest | versions => rfl

/-- With distinct epochs, a version that is not remembered for a key is not retained there. -/
lemma Faithful.not_retains {capacity : Nat} {c : Conversation P} (hc : Faithful capacity c)
    (hdistinct : (c.log.store.map KeyLog.epoch).Nodup) {op : Operation P} {v : Version}
    (hv : (op, Response.version v) ∈ c.turns) {key : Key} {epoch : UInt64} {events : List (Event P)}
    (hlog : c.log.get? key = some (.retaining (Nat.max capacity 1) epoch events))
    (hmem : v ∉ (c.appended key).map Entry.version) :
    ¬ KeyLog.Retains (Nat.max capacity 1) epoch events.length v := by
  rintro ⟨hepoch, -⟩
  obtain ⟨id, hid, hstem, hkeys⟩ := hc.origin hv
  obtain ⟨id', hfind, hat⟩ := Option.map_eq_some_iff.1 hlog
  have hid' := hc.sound.placed hfind
  -- the place of the version and the place of the key have one epoch, so they are the same
  have hsame : id = id' := by
    have hlt : id < (c.log.store.map KeyLog.epoch).length := by simpa using hid
    have hlt' : id' < (c.log.store.map KeyLog.epoch).length := by simpa using hid'
    have h₁ : (c.log.store[id]).epoch = v.epoch := by
      simpa [EventLog.logAt, hid] using hstem
    have h₂ : (c.log.store[id']).epoch = epoch := by
      have := congrArg KeyLog.epoch hat
      simpa [EventLog.logAt, hid', KeyLog.retaining, KeyLog.ofHistory] using this
    have hepochs : (c.log.store.map KeyLog.epoch)[id] = (c.log.store.map KeyLog.epoch)[id'] := by
      rw [List.getElem_map, List.getElem_map, h₁, h₂, hepoch]
    exact (List.getElem_inj hdistinct).1 hepochs
  exact hmem (hkeys (hsame ▸ hfind))

/-- The log answers as if it remembered every append and exposed the last ones that there is room
for. The versions of a key count its appends since the last clear under one epoch; what the key
retains, counts, replays and appends next is determined by them; a version that was issued elsewhere
is refused, provided that no two logs were opened under one epoch; and operations on one key change
no answer about another. -/
theorem answers_of_appended (capacity : Nat) (ops : List (Operation P)) (key : Key) :
    let c := after capacity ops
    let room := Nat.max capacity 1
    let past := c.appended key
    let n := past.length
    (∃ epoch,
      past.map Entry.version = (List.range' 1 n).map (Version.mk epoch) ∧
      (∀ fresh event, (c.log.perform (.append key fresh event)).1 =
        .version ⟨if n = 0 then fresh else epoch, n + 1⟩) ∧
      c.log.versions key = (List.range' (n - room + 1) (min n room)).map (Version.mk epoch) ∧
      c.log.length key = min n room ∧
      c.log.latest? key = (if n = 0 then none else some ⟨epoch, n⟩) ∧
      ∀ v, c.log.replayAfter key v =
        if n = 0 then .error (.noSuchResource key)
        else if v.epoch = epoch ∧ 1 ≤ v.seq ∧ v.seq ≤ n ∧ n - v.seq < room then
          .ok (past.drop v.seq)
        else .error (.versionNotFound key v.text)) ∧
    ((c.log.store.map KeyLog.epoch).Nodup → n ≠ 0 → ∀ op v, (op, Response.version v) ∈ c.turns →
      v ∉ past.map Entry.version →
        c.log.replayAfter key v = .error (.versionNotFound key v.text)) ∧
    ∀ op q key', op.key? = some key' → key' ≠ key → q.key? = some key →
      ((c.log.perform op).2.perform q).1 = (c.log.perform q).1 := by
  intro c room past n
  have hc : Faithful capacity c := faithful_after capacity ops
  have hroom : 0 < room := Nat.lt_of_lt_of_le Nat.zero_lt_one (Nat.le_max_right _ _)
  refine ⟨?_, ?_, fun op q key' hop hne hq => perform_congr hq (get?_perform_ne hc.sound hop hne)⟩
  · rcases hc.recalls key with ⟨hlog, hpast⟩ | ⟨epoch, events, hne, hlog, hpast⟩
    · have hn : n = 0 := congrArg List.length hpast
      refine ⟨0, ?_, ?_, ?_, ?_, ?_, ?_⟩
      · rw [hn, show past = [] from hpast]
        rfl
      · intro fresh event
        rw [if_pos hn, hn]
        simp only [EventLog.perform, Prod.map_fst, EventLog.fst_append, hlog]
        rfl
      · simp [EventLog.versions, hlog, hn]
      · simp [EventLog.length, hlog, hn]
      · simp [EventLog.latest?, hlog, hn]
      · intro v
        rw [if_pos hn, EventLog.replayAfter, hlog]
    · have hlen : n = events.length := by
        rw [show n = (c.appended key).length from rfl, hpast, length_numbered]
      have hn : n ≠ 0 := by
        rw [hlen]
        exact Nat.pos_iff_ne_zero.1 (List.length_pos_iff.2 hne)
      refine ⟨epoch, ?_, ?_, ?_, ?_, ?_, ?_⟩
      · rw [show past = numbered epoch events from hpast, map_version_numbered, hlen]
      · intro fresh event
        rw [if_neg hn, hlen]
        simp only [EventLog.perform, Prod.map_fst, EventLog.fst_append, hlog, Option.getD_some,
          KeyLog.nextVersion_retaining]
      · rw [versions_of_retaining hlog, hlen]
      · rw [EventLog.length, hlog, hlen]
        exact KeyLog.length_entries_retaining room epoch events
      · rw [if_neg hn, latest?_of_retaining hroom hne hlog, hlen]
      · intro v
        rw [if_neg hn, replayAfter_of_retaining hlog, hlen,
          show past = numbered epoch events from hpast]
        rfl
  · intro hdistinct hn op v hv hmem
    rcases hc.recalls key with ⟨-, hpast⟩ | ⟨epoch, events, -, hlog, -⟩
    · exact absurd (congrArg List.length hpast) hn
    · rw [replayAfter_of_retaining hlog, if_neg (hc.not_retains hdistinct hv hlog hmem)]

/-- A key that has an event before a clear and another one after it. -/
def renewal : List (Operation Nat) :=
  [.append default 7 (.added 1), .clear, .append default 8 (.added 2)]

theorem answers_of_renewal :
    (.append default 7 (.added 1), Response.version ⟨7, 1⟩) ∈ (after 1 renewal).turns ∧
      (after 1 renewal).log.replayAfter default ⟨7, 1⟩ =
        .error (.versionNotFound default (Version.text ⟨7, 1⟩)) := by
  have hasked : (.append default 7 (.added 1), Response.version ⟨7, 1⟩) ∈
      (after 1 renewal).turns := List.mem_cons_self
  obtain ⟨-, hforeign, -⟩ := answers_of_appended 1 renewal default
  exact ⟨hasked, hforeign (by decide) (by decide) _ _ hasked (by decide)⟩

end Conversation

end WatchHub
