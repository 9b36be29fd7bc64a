import WatchHub.Proofs.Hub.Change
import WatchHub.Proofs.Hub.Enrolment
import WatchHub.Proofs.Table

/-!
# Who belongs to an audience

The members of an audience right after an insertion or a removal are those who were inserted, were
neither removed nor closed with the others since, and still have a consumer; nothing but insertions,
removals and the closing of all takes anybody out; and whoever is out is refused for ever
(`members_of_changes`). Every audience of a hub comes about through such changes
(`Hub.Reached.audience_after`).
-/

namespace WatchHub

variable {P : Type}

namespace Subscription

variable {key : Key} {handle : Handle} {s : Subscription P}

/-- Every offer to the subscription, begun or still to come, is refused as closed. -/
structure Spurns (key : Key) (handle : Handle) (s : Subscription P) : Prop where
  refused : ∀ {log move out}, s.populate key handle log move = some out →
    ∀ d offer, .offered key handle d offer ∈ out.facts → offer = .closed
  /-- An offer that is about to be made is answered at once. -/
  offering : ∀ {d rest}, s.population.stage = .offering d rest → ∀ log,
    s.populate key handle log .offer =
      some ⟨log, s.settle .closed rest, [.offered key handle d .closed]⟩
  /-- An offer that waits for a slot is called off, and nothing else can happen to it. -/
  waiting : ∀ {d rest}, s.population.stage = .waiting d rest → ∀ log,
    s.populate key handle log .giveUp =
      some ⟨log, { s with queue := s.queue.withdraw }.settle .closed rest,
        [.offered key handle d .closed]⟩ ∧
      ∀ move, move ≠ .giveUp → s.populate key handle log move = none

lemma spurns_of_closed (key : Key) (handle : Handle) (hs : s.closed = true) :
    s.Spurns key handle where
  refused {log move out} hout d offer hmem := by
    have hrefuses : s.accepts = false := by simp [accepts, hs]
    cases Populates.of_populate hout with
    | offerRefused | offerGone | giveUp => cases List.mem_singleton.1 hmem; rfl
    | offerAccepted _ hopen | offerWaits _ hopen => simp [hs] at hopen
    | fill _ haccepts | timeOut _ haccepts => cases hrefuses.symm.trans haccepts
    | locate => cases Fact.mem_ofLocate hmem
    | _ => simp at hmem
  offering hstage log := (Populates.offerRefused hstage (by simp [hs])).populate_eq
  waiting {d rest} hstage log := by
    have hrefuses : s.accepts = false := by simp [accepts, hs]
    refine ⟨(Populates.giveUp hstage hrefuses).populate_eq, fun move hmove => ?_⟩
    refine Option.eq_none_iff_forall_ne_some.2 fun out hout => hmove ?_
    cases Populates.of_populate hout with
    | fill _ haccepts | timeOut _ haccepts => cases hrefuses.symm.trans haccepts
    | giveUp => rfl
    | _ hstage' => cases hstage.symm.trans hstage'

end Subscription

namespace Audience

variable {a : Audience P} {key : Key} {changes : List (Change P)} {handle : Handle}
  {s : Subscription P}

instance (changes : List (Change P)) : Decidable (Fresh changes) :=
  inferInstanceAs (Decidable (List.Nodup _))

lemma contains_eq_true : a.contains handle = true ↔
    ∃ s, a.get? handle = some s ∧ s.member = true := by
  unfold contains
  cases a.get? handle <;> simp

lemma contains_of_get? (hs : a.get? handle = some s) : a.contains handle = s.member := by
  rw [contains, hs]

lemma mem_members : handle ∈ a.members ↔ a.contains handle = true := by
  rw [contains_eq_true]
  constructor
  · intro hmem
    obtain ⟨⟨_, s⟩, hrow, rfl⟩ := List.mem_map.1 hmem
    obtain ⟨hrow, hm⟩ := List.mem_filter.1 hrow
    exact ⟨s, Table.get?_eq_some_iff.2 hrow, hm⟩
  · rintro ⟨s, hs, hm⟩
    exact List.mem_map.2 ⟨_, List.mem_filter.2 ⟨Table.get?_eq_some_iff.1 hs, hm⟩, rfl⟩

lemma nodup_members (a : Audience P) : a.members.Nodup :=
  a.rows.distinct.sublist (List.filter_sublist.map Prod.fst)

lemma isSome_dropped? (a : Audience P) (handle : Handle) :
    (a.dropped? handle).isSome = a.contains handle := by
  unfold dropped? contains
  cases a.get? handle with
  | none => rfl
  | some s => by_cases hm : s.member <;> simp [hm]

lemma remove_fst (a : Audience P) (handle : Handle) :
    (a.remove handle).1 = a.contains handle := by
  unfold remove
  split
  · exact (‹_› : a.contains handle = true).symm
  · exact (eq_false_of_ne_true ‹_›).symm

/-- An audience is known by its key, the handles that were ever inserted and what is behind them. -/
lemma ext_get? {a b : Audience P} (hkey : a.key = b.key) (hkeys : a.rows.keys = b.rows.keys)
    (hget : ∀ handle, a.get? handle = b.get? handle) : a = b := by
  obtain ⟨key, rows⟩ := a
  obtain ⟨key', rows'⟩ := b
  obtain rfl : key = key' := hkey
  obtain rfl : rows = rows' := Table.ext_get? hkeys hget
  rfl

lemma keys_remove (a : Audience P) (handle : Handle) :
    (a.remove handle).2.1.rows.keys = a.rows.keys := by
  unfold remove
  split
  · exact (Table.keys_mapValues ..).trans (Table.keys_modify ..)
  · exact Table.keys_mapValues ..

/-- Who is taken out by a removal stays out at the next one. -/
lemma remove_remove (a : Audience P) (handle : Handle) :
    ((a.remove handle).2.1.remove handle).2.1 = (a.remove handle).2.1 := by
  refine ext_get? (by simp) (keys_remove ..) fun handle' => ?_
  rw [get?_remove, get?_remove, Option.map_map]
  refine congrArg (Option.map · (a.get? handle')) (funext fun s => ?_)
  by_cases hleaves : (s.isAbandoned || (s.member && decide (handle = handle'))) = true
  · simp only [Function.comp, if_pos hleaves]
    rfl
  · simp only [Function.comp, if_neg hleaves]

/-- It does not matter who of two is removed first. -/
lemma remove_comm (a : Audience P) (handle handle' : Handle) :
    ((a.remove handle).2.1.remove handle').2.1 = ((a.remove handle').2.1.remove handle).2.1 := by
  refine ext_get? (by simp) (by simp only [keys_remove]) fun handle₀ => ?_
  simp only [get?_remove, Option.map_map]
  refine congrArg (Option.map · (a.get? handle₀)) (funext fun s => ?_)
  by_cases hleaves : (s.isAbandoned || (s.member && decide (handle = handle₀))) = true <;>
    by_cases hleaves' : (s.isAbandoned || (s.member && decide (handle' = handle₀))) = true
  · simp only [Function.comp, if_pos hleaves, if_pos hleaves']
    rfl
  · simp only [Function.comp, if_pos hleaves, if_neg hleaves']
    rfl
  · simp only [Function.comp, if_neg hleaves, if_pos hleaves']
    rfl
  · simp only [Function.comp, if_neg hleaves, if_neg hleaves']

/-- Right after an insertion or a removal, the members are the enrolled ones with a consumer. -/
lemma Fresh.contains_iff {past : List (Change P)} {c : Change P} (key : Key)
    (hfresh : Fresh (past ++ [c])) (hc : c.prunes = true) (handle : Handle) :
    (after key (past ++ [c])).contains handle = true ↔
      Enrolled (past ++ [c]) handle ∧
        (c.entrant? = some handle ∨ Attended (past ++ [c]) handle) := by
  by_cases hentrant : c.entrant? = some handle
  · -- the one who has just been inserted belongs whatever its consumer does
    have hnew : (after key (past ++ [c])).contains handle = true := by
      rw [after_concat]
      cases c <;> cases hentrant
      exact contains_eq_true.2 ⟨_, get?_change_insert .., rfl⟩
    simp only [hnew, hentrant, true_or, and_true, true_iff]
    exact enrolled_concat.2 (.inl hentrant)
  · rcases hfresh.kept key handle with ⟨hnot, hnone⟩ | ⟨s, hs, hk⟩
    · rw [contains, hnone]
      exact ⟨fun h => absurd h Bool.false_ne_true, fun h => absurd h.1.mem_entrants hnot⟩
    · rw [contains_of_get? hs]
      constructor
      · intro hm
        refine ⟨hk.enrolled hm, .inr (hk.attended.1 ?_)⟩
        rw [after_concat, get?_change hentrant] at hs
        obtain ⟨s₀, -, rfl⟩ := Option.map_eq_some_iff.1 hs
        -- a member that is left has its consumer, and only hanging up takes it away
        obtain ⟨-, hreceiving, -⟩ := (act_member_of_prunes _ hc).1 hm
        refine (act_receiving _ c).2 ⟨hreceiving, ?_⟩
        rintro rfl
        cases hc
      · rintro ⟨henrolled, hentrant' | hattended⟩
        · exact absurd hentrant' hentrant
        · exact hk.member henrolled (hk.attended.2 hattended)

/-- Insertions, removals and the closing of all apart, no change takes anybody out or brings anybody
in. -/
lemma contains_change {c : Change P} (a : Audience P) (hc : c.prunes = false) (hall : c ≠ .closeAll)
    (handle : Handle) : (a.change c).contains handle = a.contains handle := by
  have hentrant : c.entrant? ≠ some handle := by
    intro h
    cases c <;> cases h
    cases hc
  have hget := get?_change (a := a) hentrant
  cases hs : a.get? handle with
  | none =>
    rw [hs, Option.map_none] at hget
    rw [contains, contains, hget, hs]
  | some s =>
    rw [hs, Option.map_some] at hget
    rw [contains_of_get? hget, contains_of_get? hs, act_member _ hc hall]

/-- Whoever is out stays out and is refused for ever. -/
lemma Fresh.out {more : List (Change P)} (hfresh : Fresh (changes ++ more))
    (hs : (after key changes).get? handle = some s) (hm : s.member = false) :
    ∃ s', (after key (changes ++ more)).get? handle = some s' ∧ s'.member = false := by
  induction more using List.reverseRecOn with
  | nil => exact ⟨s, by simpa using hs, hm⟩
  | append_singleton more c ih =>
    rw [← List.append_assoc] at hfresh ⊢
    obtain ⟨s', hs', hm'⟩ := ih hfresh.of_append
    have hentrant : c.entrant? ≠ some handle := by
      intro hc
      rcases hfresh.of_append.kept key handle with ⟨-, hnone⟩ | ⟨_, hsome, hk⟩
      · cases hnone.symm.trans hs'
      · exact hfresh.new hc hk.inserted
    refine ⟨c.act key handle s', ?_, act_not_member key c hm'⟩
    rw [after_concat, get?_change hentrant, hs', key_after, Option.map_some]

/-- A change under a new handle repeats none. -/
lemma Fresh.concat {c : Change P} (key : Key) (hfresh : Fresh changes)
    (hc : ∀ handle, c.entrant? = some handle → (after key changes).get? handle = none) :
    Fresh (changes ++ [c]) := by
  rw [Fresh, List.filterMap_append, List.nodup_append]
  refine ⟨hfresh, ?_, ?_⟩
  · cases h : c.entrant? <;> simp [h]
  · rintro handle hmem _ hmem' rfl
    obtain ⟨c', hc', hentrant⟩ := List.mem_filterMap.1 hmem'
    cases List.mem_singleton.1 hc'
    rcases hfresh.kept key handle with ⟨hnot, -⟩ | ⟨s, hs, -⟩
    · exact hnot hmem
    · cases (hc handle hentrant).symm.trans hs

/-- Who belongs to an audience after any changes under handles that were not given before, whom the
next change can take out, and what becomes of those who are out. -/
theorem members_of_changes (key : Key) {changes : List (Change P)} (hfresh : Fresh changes) :
    (∀ past c, changes = past ++ [c] → c.prunes = true → ∀ handle,
      (after key changes).contains handle = true ↔
        Enrolled changes handle ∧ (c.entrant? = some handle ∨ Attended changes handle)) ∧
    (∀ c : Change P, c.prunes = false → c ≠ .closeAll → ∀ handle,
      ((after key changes).change c).contains handle = (after key changes).contains handle) ∧
    -- the views of an audience tell the same members
    ((after key changes).members.Nodup ∧ ∀ handle,
      (handle ∈ (after key changes).members ↔ (after key changes).contains handle = true) ∧
      ((after key changes).remove handle).1 = (after key changes).contains handle ∧
      ((after key changes).dropped? handle).isSome = (after key changes).contains handle) ∧
    -- a member is open, and whoever is out is closed for ever
    (∀ handle s, (after key changes).get? handle = some s →
      ((after key changes).contains handle = true ↔ s.closed = false) ∧
      ((after key changes).contains handle = false → ∀ more, Fresh (changes ++ more) →
        ∃ s', (after key (changes ++ more)).get? handle = some s' ∧ s'.closed = true ∧
          s'.Spurns key handle)) ∧
    -- changes under one handle are nothing to another one that has its consumer
    (∀ (c : Change P) handle handle' s, c.handle? = some handle' → handle' ≠ handle →
      (after key changes).get? handle = some s → s.queue.receiving = true →
      ((after key changes).change c).get? handle = some s) ∧
    (∀ handle, (((after key changes).remove handle).2.1.remove handle).2.1 =
      ((after key changes).remove handle).2.1) ∧
    ∀ handle handle', (((after key changes).remove handle).2.1.remove handle').2.1 =
      (((after key changes).remove handle').2.1.remove handle).2.1 := by
  refine ⟨?_, fun c => contains_change _, ⟨nodup_members _, fun handle =>
    ⟨mem_members, remove_fst .., isSome_dropped? ..⟩⟩, fun handle s hs => ?_,
    fun c handle handle' s hc hne hs hreceiving => ?_, remove_remove _, remove_comm _⟩
  · rintro past c rfl hc handle
    exact hfresh.contains_iff key hc handle
  · have hk : Kept changes handle s := by
      rcases hfresh.kept key handle with ⟨-, hnone⟩ | ⟨s₀, hs₀, hk⟩
      · cases hnone.symm.trans hs
      · cases hs₀.symm.trans hs
        exact hk
    rw [contains_of_get? hs]
    refine ⟨by rw [hk.closed_eq]; simp, fun hm more hmore => ?_⟩
    obtain ⟨s', hs', hm'⟩ := hmore.out hs hm
    rcases hmore.kept key handle with ⟨-, hnone⟩ | ⟨s₀, hs₀, hk'⟩
    · cases hnone.symm.trans hs'
    · cases hs₀.symm.trans hs'
      have hclosed : s'.closed = true := by rw [hk'.closed_eq, hm']; rfl
      exact ⟨s', hs', hclosed, Subscription.spurns_of_closed key handle hclosed⟩
  · have hentrant : c.entrant? ≠ some handle := by
      intro h
      cases c <;> cases h
      exact hne (Option.some.inj hc).symm
    rw [get?_change hentrant, hs, Option.map_some, act_other _ hc hne hreceiving]

/-- The second of three consumers goes without a word, and so does the third before its subscription
joins; the first one is removed. -/
def changeover : List (Change Nat) :=
  [.insert ⟨1⟩ (.new 1) none, .insert ⟨2⟩ (.new 1) none, .hangUp ⟨2⟩,
    .emit (.versioned (.added 3) ⟨7, 1⟩), .insert ⟨3⟩ (Queue.new 1).hangUp none]

theorem members_of_changeover :
    Fresh changeover ∧ (after default changeover).members = [⟨1⟩, ⟨3⟩] ∧
      ¬ Attended changeover ⟨2⟩ ∧ ((after default changeover).remove ⟨2⟩).1 = false ∧
      ∃ s s', (after default changeover).get? ⟨1⟩ = some s ∧ s.queue.items.length = 1 ∧
        ((after default changeover).change (.remove ⟨3⟩)).get? ⟨1⟩ = some s ∧
        (after default (changeover ++ [.remove ⟨1⟩])).get? ⟨2⟩ = some s' ∧
        s'.Spurns default ⟨2⟩ := by
  have hfresh : Fresh changeover := by decide
  obtain ⟨hmembers, -, ⟨-, hviews⟩, hout, hother, -⟩ := members_of_changes default hfresh
  obtain ⟨-, hspurns⟩ := hout ⟨2⟩ _ rfl
  obtain ⟨s', hs', -, hspurns⟩ := hspurns rfl [.remove ⟨1⟩] (by decide)
  have hnot : ¬ Attended changeover ⟨2⟩ := by
    intro hattended
    have henrolled : Enrolled changeover ⟨2⟩ :=
      ⟨[.insert ⟨1⟩ (.new 1) none], .new 1, none, _, rfl, by simp, by simp⟩
    cases (hmembers (changeover.take 4) (.insert ⟨3⟩ (Queue.new 1).hangUp none) rfl rfl ⟨2⟩).2
      ⟨henrolled, .inr hattended⟩
  exact ⟨hfresh, rfl, hnot, (hviews ⟨2⟩).2.1, _, s', rfl, rfl,
    hother (.remove ⟨3⟩) ⟨1⟩ ⟨3⟩ _ rfl (by decide) rfl rfl, hs', hspurns⟩

lemma modify_eq_put {f : Subscription P → Subscription P} (hs : a.get? handle = some s) :
    a.modify handle f = a.put handle (f s) := by
  have hrows : a.rows.modify handle f = a.rows.put handle (f s) := by
    rw [Table.modify, show a.rows.get? handle = some s from hs]
  rw [modify, put, hrows]

end Audience

namespace Hub

variable {h h' : Hub P} {action : Action P} {told : List (Fact P)} {config : HubConfig}
  {actions : List (Action P)} {facts : List (Fact P)} {key : Key} {r' : Registration P}

/-- What a step may do to an audience: nothing, or one change, under a new handle if it is an
insertion. -/
def Evolves (a b : Audience P) : Prop :=
  b = a ∨ ∃ c, b = a.change c ∧ ∀ handle, c.entrant? = some handle → a.get? handle = none

/-- A change that inserts nobody. -/
lemma Evolves.of_change {a b : Audience P} (c : Audience.Change P) (hb : b = a.change c)
    (hc : c.entrant? = none) : Evolves a b := by
  refine .inr ⟨c, hb, fun handle hentrant => ?_⟩
  cases hc.symm.trans hentrant

lemma evolves_of_put {key₀ : Key} {r r₀ : Registration P} (hr : h.registration? key₀ = some r)
    (hregs : h'.registrations = h.registrations.put key₀ r₀)
    (hevolves : Evolves r.audience r₀.audience) (hr' : h'.registration? key = some r') :
    ∃ r, h.registration? key = some r ∧ Evolves r.audience r'.audience := by
  rw [registration?, hregs] at hr'
  rcases Table.get?_put_eq_some hr' with ⟨rfl, rfl⟩ | ⟨-, hold⟩
  · exact ⟨r, hr, hevolves⟩
  · exact ⟨r', hold, .inl rfl⟩

/-- A step of a hub is at most one change of each audience. -/
lemma Changes.evolves (hs : h.Sound) (hc : Changes h action told h')
    (hr' : h'.registration? key = some r') :
    (h.registration? key = none ∧ r'.audience = .new key) ∨
      ∃ r, h.registration? key = some r ∧ Evolves r.audience r'.audience := by
  cases hc with
  | aside f haudience _ _ _ hregs =>
    rw [hregs] at hr'
    obtain ⟨r, hr, rfl⟩ := Option.map_eq_some_iff.1 hr'
    exact .inr ⟨r, hr, .inl (haudience key r)⟩
  | @registered key₀ observer id _ hnone _ hregs =>
    rw [registration?, hregs] at hr'
    rcases Table.get?_put_eq_some hr' with ⟨rfl, rfl⟩ | ⟨-, hold⟩
    · exact .inl ⟨hnone, rfl⟩
    · exact .inr ⟨r', hold, .inl rfl⟩
  | @joined key₀ handle checkpoint id r _ _ hr hfresh _ hregs =>
    refine .inr (evolves_of_put hr hregs (.inr ⟨.insert handle _ checkpoint, rfl, ?_⟩) hr')
    intro handle' hentrant
    cases hentrant
    rw [← subscription?_of_registration? hr]
    exact hfresh key₀
  | @left key₀ handle id r _ hr _ hregs =>
    exact .inr (evolves_of_put hr hregs (.of_change (.remove handle) rfl rfl) hr')
  | closed _ hr _ hregs =>
    exact .inr (evolves_of_put hr hregs (.of_change .closeAll rfl rfl) hr')
  | stopped _ _ hregs =>
    rw [registration?, hregs] at hr'
    exact .inr ⟨r', hr', .inl rfl⟩
  | ingested hr hi =>
    refine .inr (evolves_of_put hr rfl ?_ hr')
    rcases hi.audience_eq with ⟨heq, -⟩ | ⟨d, -, -, heq, -⟩
    · exact .inl heq
    · exact .of_change (.emit d) heq rfl
  | @populated key₀ handle move r s out hr hget hp =>
    refine .inr (evolves_of_put hr rfl (.of_change (.populate handle h.log move) ?_ rfl) hr')
    rw [Audience.change, Audience.modify_eq_put hget, Subscription.populated,
      show r.audience.key = key₀ from hs.keyed hr, hp.populate_eq]
    rfl
  | @received key₀ handle r s d s' hr hget hreceive =>
    refine .inr (evolves_of_put hr rfl (.of_change (.receive handle) ?_ rfl) hr')
    rw [Audience.change, Audience.modify_eq_put hget, hreceive]
  | @asked key₀ handle r s hr hget hitems =>
    refine .inr (evolves_of_put hr rfl (.of_change (.receive handle) ?_ rfl) hr')
    have hsame : s.receive.2 = s := by simp [Subscription.receive, Queue.receive?, hitems]
    rw [Audience.change, Audience.modify_eq_put hget, hsame]
  | @hungUp key₀ handle r s hr hget =>
    refine .inr (evolves_of_put hr rfl (.of_change (.hangUp handle) ?_ rfl) hr')
    rw [Audience.change, Audience.modify_eq_put hget]
  | sent hr =>
    exact .inr (evolves_of_put hr rfl (.inl (Registration.audience_send ..)) hr')
  | @ended key₀ r hr =>
    have hsame : Evolves r.audience r.endStream.audience := .inl rfl
    exact .inr (evolves_of_put hr rfl hsame hr')
  | located | recorded | cleared => exact .inr ⟨r', hr', .inl rfl⟩

/-- Every audience of a hub has come about through changes, and no handle was given twice. -/
theorem Reached.audience_after (hr : Reached config actions facts h)
    (hreg : h.registration? key = some r') :
    ∃ changes, Audience.Fresh changes ∧ r'.audience = Audience.after key changes := by
  induction hr generalizing r' with
  | new => cases hreg
  | @step actions past h action h' told hr hstep ih =>
    rcases (hr.sound.changes hstep).evolves hr.sound hreg with ⟨-, hnew⟩ | ⟨r, hold, hevolves⟩
    · exact ⟨[], List.nodup_nil, hnew⟩
    · obtain ⟨changes, hfresh, hafter⟩ := ih hold
      rcases hevolves with heq | ⟨c, heq, hentrant⟩
      · exact ⟨changes, hfresh, heq.trans hafter⟩
      · refine ⟨changes ++ [c], hfresh.concat key fun handle hc => ?_, ?_⟩
        · rw [← hafter]
          exact hentrant handle hc
        · rw [heq, hafter, Audience.after_concat]

end Hub

end WatchHub
