import WatchHub.Proofs.Hub.Script

/-!
# What a snapshot adds

Every item that a snapshot adds becomes the newest entry of the log that it has found. As long as the
logs are not wiped this is the log that the key has all the time (`Hub.Steady`), so what a snapshot adds
has increasing versions.
-/

namespace WatchHub

variable {P : Type}

open WatchHub.Fact (deed? record?)

namespace KeyLog

lemma nextVersion_dropOldest (l : KeyLog P) : l.dropOldest.nextVersion = l.nextVersion := by
  unfold dropOldest
  split <;> rfl

/-- Making room does not touch the next version. -/
lemma nextVersion_makeRoom (capacity fuel : Nat) (l : KeyLog P) :
    (l.makeRoom capacity fuel).nextVersion = l.nextVersion := by
  induction fuel generalizing l with
  | zero => rfl
  | succ fuel ih =>
    rw [makeRoom]
    split
    · rw [ih, nextVersion_dropOldest]
    · rfl

/-- What was appended is the newest entry. -/
lemma getLast?_append (capacity : Nat) (l : KeyLog P) (event : Event P) :
    (l.append capacity event).entries.getLast? = some ⟨event, l.nextVersion⟩ := by
  rw [append, push, List.getLast?_concat, nextVersion_makeRoom]

end KeyLog

namespace EventLog

variable {l l' : EventLog P} {key : Key} {id : LogId} {facts told : List (Fact P)}

lemma find?_locate_of_some (hfind : l.find? key = some id) (key' : Key) (epoch : UInt64) :
    (l.locate key' epoch).2.find? key = some id := by
  rw [find?_locate]
  split
  · rename_i heq
    subst heq
    rw [locate_of_some hfind]
  · exact hfind

/-- Unless the logs are wiped, a key keeps the log that it has. -/
lemma find?_of_unwiped {wiped : Prop} (hw : Writes wiped facts l told l') (hwiped : ¬ wiped)
    (hfind : l.find? key = some id) : l'.find? key = some id := by
  cases hw with
  | idle | recorded => exact hfind
  | located key' epoch => exact find?_locate_of_some hfind key' epoch
  | cleared h => exact absurd h hwiped

/-- Entries that a population added to one log have increasing versions. -/
theorem Ledger.pairwise_entries (hl : l.Ledger facts) {handle : Handle}
    (htold : told.Sublist facts)
    (hone : ∀ id event version, .logged key (.population handle) id event version ∈ told →
      l.find? key = some id) :
    (((told.filterMap (deed? key handle)).filterMap Deed.entry?).map Entry.version).Pairwise
      fun v w => compare v w = .lt := by
  cases hfind : l.find? key with
  | none =>
    -- Then it has added nothing at all.
    have hsub : ((told.filterMap (deed? key handle)).filterMap Deed.entry?).Sublist
        (told.filterMap (record? l.store.length)) :=
      Fact.entries_sublist fun event version id' hx => by
        cases hfind.symm.trans (hone id' event version hx)
    have hnone := hl.record?_eq_nil (Nat.lt_irrefl l.store.length)
    have hempty := hsub.trans (htold.filterMap _)
    rw [hnone, List.sublist_nil] at hempty
    rw [hempty]
    exact .nil
  | some id =>
    obtain ⟨epoch, events, -, -, hrecords⟩ := hl.records (hl.current hfind)
    have hsub : ((told.filterMap (deed? key handle)).filterMap Deed.entry?).Sublist
        (told.filterMap (record? id)) := by
      refine Fact.entries_sublist fun event version id' hx => ?_
      cases hfind.symm.trans (hone id' event version hx)
      rfl
    have hall := hsub.trans (htold.filterMap _)
    rw [hrecords] at hall
    exact (pairwise_numbered epoch events).sublist (hall.map _)

end EventLog

lemma Population.log?_of_isEarly {p : Population P} (h : p.stage.isEarly = true) :
    p.log? = none := by
  unfold log?
  cases hstage : p.stage with
  | reading | recording =>
    rw [hstage] at h
    cases h
  | _ => rfl

/-- What a population adds, it adds to the log that it has found; and it finds the one of its key. -/
lemma Subscription.Populates.steady {key : Key} {handle : Handle} {log : EventLog P}
    {s : Subscription P} {move : Population.Move P} {out : Populated P}
    (hp : s.Populates key handle log move out)
    (hheld : ∀ id, s.population.log? = some id → log.find? key = some id) :
    (∀ id, out.subscription.population.log? = some id → out.log.find? key = some id) ∧
      ∀ id event version, .logged key (.population handle) id event version ∈ out.facts →
        out.log.find? key = some id := by
  cases hp with
  | locate hstage =>
    refine ⟨fun id hid => ?_, fun id event version hx => ?_⟩
    · cases hid
      rw [EventLog.find?_locate, if_pos rfl]
    · cases Fact.mem_ofLocate hx
  | record hstage =>
    refine ⟨fun id hid => ?_, fun id event version hx => ?_⟩
    · cases hid
    · cases List.mem_singleton.1 hx
      exact hheld _ (by rw [Population.log?, hstage])
  | seekFound _ hfind =>
    refine ⟨fun id hid => ?_, fun id event version hx => ?_⟩
    · cases hid
      exact hfind
    · cases hx
  | offerRefused | offerAccepted | offerGone | fill | timeOut | giveUp =>
    refine ⟨fun id hid => ?_, by simp⟩
    rw [Subscription.log?_settle] at hid
    cases hid
  | _ =>
    refine ⟨fun id hid => ?_, by simp⟩
    cases hid

namespace Hub

variable {config : HubConfig} {actions more : List (Action P)} {facts past told : List (Fact P)}
  {h h' : Hub P} {key : Key} {handle : Handle} {s : Subscription P}

/-- The log that a population has found, and each that it has added to, is the one that its key has. -/
structure Steady (key : Key) (handle : Handle) (past : List (Fact P)) (h : Hub P) : Prop where
  held : ∀ p id, h.population? key handle = some p → p.log? = some id →
    h.log.find? key = some id
  added : ∀ id event version, .logged key (.population handle) id event version ∈ past →
    h.log.find? key = some id

/-- Every step that does not wipe the logs keeps a population on the log of its key. -/
lemma Steady.step (hst : Steady key handle past h) (hs : h.Sound) (hb : h.Booked facts)
    {action : Action P} (hstep : h.step action = some (h', told)) (hclear : action ≠ .clear)
    (hstopped : ∀ n, .stopped n ∉ told) : Steady key handle (past ++ told) h' := by
  have hchanges := hs.changes hstep
  have hkept : ∀ {id}, h.log.find? key = some id → h'.log.find? key = some id := by
    refine EventLog.find?_of_unwiped (hb.writes hs hchanges) ?_
    rintro (hwipe | ⟨n, hn⟩)
    · exact hclear hwipe
    · exact hstopped n hn
  have hadded : (∀ id event version, .logged key (.population handle) id event version ∈ told →
        h'.log.find? key = some id) →
      ∀ id event version, .logged key (.population handle) id event version ∈ past ++ told →
        h'.log.find? key = some id := by
    intro htold id event version hx
    rcases List.mem_append.1 hx with hx | hx
    · exact hkept (hst.added id event version hx)
    · exact htold id event version hx
  cases hchanges.works key handle with
  | other hpop _ htold =>
    refine ⟨fun p id hp hid => hkept (hst.held p id (hpop ▸ hp) hid),
      hadded fun id event version hx => ?_⟩
    have hwork := htold _ hx
    simp [Fact.isWork] at hwork
  | joined checkpoint _ hpop _ htold =>
    obtain ⟨before, after, rfl, hothers⟩ := htold
    refine ⟨fun p id hp hid => ?_, hadded fun id event version hx => ?_⟩
    · cases hpop.symm.trans hp
      cases hid
    · have hwork := hothers _ (by simpa using hx)
      simp [Fact.isWork] at hwork
  | @own s move out _ hsub hp hpop hlog =>
    obtain ⟨hheld, hout⟩ := hp.steady fun id hid =>
      hst.held s.population id (by rw [population?, hsub]; rfl) hid
    rw [← hlog] at hheld hout
    refine ⟨fun p id hp' hid => ?_, hadded hout⟩
    cases hpop.symm.trans hp'
    exact hheld id hid

/-- A population that has found no log yet stays on the log of its key unless the logs are wiped. -/
theorem Reached.steady (hr : Reached config actions facts h) (hst : Steady key handle past h)
    (hrun : h.run more = some (h', told)) (hclear : .clear ∉ more)
    (hstopped : ∀ n, .stopped n ∉ told) : Steady key handle (past ++ told) h' := by
  induction more generalizing actions facts past h told with
  | nil =>
    cases hrun
    rwa [List.append_nil]
  | cons action more ih =>
    obtain ⟨h₁, told₁, told₂, hstep, hrest, rfl⟩ := run_cons hrun
    simp only [List.mem_cons, not_or, List.mem_append] at hclear hstopped
    have hst₁ := hst.step hr.sound hr.booked hstep (Ne.symm hclear.1) fun n => (hstopped n).1
    rw [← List.append_assoc]
    exact ih (hr.step hstep) hst₁ hrest hclear.2 fun n => (hstopped n).2

end Hub

end WatchHub
