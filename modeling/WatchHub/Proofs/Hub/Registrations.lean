import WatchHub.Proofs.Hub.Calls

/-!
# What becomes of a registration

A registration comes by a call that finds its key free, and stays for the life of the hub with the
observer it came with. No step binds its key again or starts its ingest again
(`Registration.Ages`), and only a shutdown unbinds the key.
-/

namespace WatchHub

variable {P : Type}

namespace Registration

/-- The later registration has the same observer, and what it still has the earlier one had. -/
structure Ages (r r' : Registration P) : Prop where
  observer_eq : r'.observer = r.observer
  bound : r'.bound = true → r.bound = true
  finished : r.ingest.isFinished = true → r'.ingest.isFinished = true
  isOver : r.ingest.isOver = true → r'.ingest.isOver = true
  aborted : r.ingest.aborted = true → r'.ingest.aborted = true
  spawned : r'.ingest.stage = .spawned → r.ingest.stage = .spawned

lemma Ages.refl (r : Registration P) : Ages r r :=
  ⟨rfl, id, id, id, id, id⟩

lemma Ages.trans {r r' r'' : Registration P} (h : Ages r r') (h' : Ages r' r'') : Ages r r'' :=
  ⟨h'.observer_eq.trans h.observer_eq, fun hb => h.bound (h'.bound hb),
    fun hf => h'.finished (h.finished hf), fun ho => h'.isOver (h.isOver ho),
    fun ha => h'.aborted (h.aborted ha), fun hs => h.spawned (h'.spawned hs)⟩

/-- An ingest that has come to its end or was told to stays so. -/
lemma Ages.dismissed {r r' : Registration P} (h : Ages r r')
    (hd : r.ingest.isDismissed = true) : r'.ingest.isDismissed = true := by
  unfold Ingest.isDismissed at hd ⊢
  rw [Bool.or_eq_true] at hd ⊢
  exact hd.imp h.finished h.aborted

/-- A change of the audience alone. -/
lemma Ages.audience (r : Registration P) (audience : Audience P) :
    Ages r { r with audience := audience } :=
  ⟨rfl, id, id, id, id, id⟩

/-- A key that is lost. -/
lemma Ages.unbind (r : Registration P) : Ages r { r with bound := false } :=
  ⟨rfl, nofun, id, id, id, id⟩

/-- An abort is only a request: it brings no ingest to its end. -/
@[simp]
lemma isFinished_abort (r : Registration P) : r.abort.ingest.isFinished = r.ingest.isFinished := by
  unfold abort
  split
  · rfl
  · rename_i hf
    rw [eq_false_of_ne_true hf]
    cases hturn : r.ingest.inTurn with
    | true => simpa [Ingest.isFinished] using hf
    | false => simp [Ingest.isFinished]

@[simp]
lemma isDismissed_abort (r : Registration P) : r.abort.ingest.isDismissed = true := by
  unfold abort Ingest.isDismissed
  split
  · rw [‹r.ingest.isFinished = true›]
    rfl
  · exact Bool.or_true _

/-- Whoever waits when it is told to end is over. -/
lemma isOver_abort (r : Registration P) :
    r.abort.ingest.isOver = (r.ingest.isOver || !r.ingest.inTurn) := by
  unfold abort
  split
  · rw [Ingest.isOver_of_isFinished ‹_›]
    rfl
  · cases hturn : r.ingest.inTurn with
    | true => simp [Ingest.isOver]
    | false => simp [Ingest.isOver]

@[simp]
lemma bound_abort (r : Registration P) : r.abort.bound = r.bound := by
  unfold abort
  split <;> rfl

lemma Ages.abort (r : Registration P) : Ages r r.abort where
  observer_eq := by
    unfold Registration.abort
    split <;> rfl
  bound hb := r.bound_abort ▸ hb
  finished hf := r.isFinished_abort.trans hf
  isOver ho := by rw [isOver_abort, ho, Bool.true_or]
  aborted ha := by
    unfold Registration.abort
    split
    · exact ha
    · rfl
  spawned hs := by
    unfold Registration.abort at hs
    split at hs
    · exact hs
    · cases hturn : r.ingest.inTurn with
      | true => simpa [hturn] using hs
      | false => simp [hturn] at hs

lemma Ages.ingests {stopped : Bool} {log : EventLog P} {r : Registration P} {move : Ingest.Move}
    {out : Ingested P} (hi : Ingests stopped log r move out) : Ages r out.registration where
  observer_eq := by cases hi <;> rfl
  bound hb := hi.bound_eq ▸ hb
  finished hf := by cases hi.not_finished.symm.trans hf
  isOver ho := by
    by_cases hmove : move = .drop
    · subst hmove
      cases hi with
      | drop => rfl
    · cases (hi.not_isOver hmove).symm.trans ho
  aborted ha := hi.aborted_eq.trans ha
  spawned hs := by
    -- No step leads back to the beginning.
    cases hi with
    | emit =>
      dsimp only [moveTo] at hs
      split at hs <;> cases hs
    | wake | rest => exact hs
    | _ => cases hs

@[simp]
lemma isFinished_send (r : Registration P) (event : Event P) :
    (r.send event).ingest.isFinished = r.ingest.isFinished := by
  unfold Registration.send
  split <;> rfl

lemma Ages.send (r : Registration P) (event : Event P) : Ages r (r.send event) := by
  unfold Registration.send
  split
  · exact .refl r
  · exact ⟨rfl, id, id, id, id, id⟩

end Registration

namespace Hub

open Registration (Ages)

variable {h h' : Hub P} {action : Action P} {told : List (Fact P)} {key : Key}
  {r : Registration P}

lemma registration?_of_bound? (hbound : h.bound? key = some r) : h.registration? key = some r := by
  unfold bound? at hbound
  split at hbound
  · rename_i r' hreg
    obtain ⟨-, heq⟩ := Option.ite_none_right_eq_some.1 hbound
    exact heq ▸ hreg
  · cases hbound

/-- While the hub runs, every key that was registered is bound. -/
lemma Sound.bound?_of_registration? (hs : h.Sound) (hrunning : h.stopped = false)
    (hreg : h.registration? key = some r) : h.bound? key = some r := by
  rw [bound?, hreg]
  exact if_pos (hs.bound hreg hrunning)

/-- Where the registrations are the same, nothing ages. -/
lemma ages_of_eq (hregs : h'.registrations = h.registrations) (hr : h.registration? key = some r) :
    ∃ r', h'.registration? key = some r' ∧ Ages r r' ∧ r'.bound = r.bound := by
  refine ⟨r, ?_, .refl r, rfl⟩
  rw [registration?, hregs]
  exact hr

lemma ages_of_put {key₀ : Key} {r₀ r₀' : Registration P} (hr₀ : h.registration? key₀ = some r₀)
    (hregs : h'.registrations = h.registrations.put key₀ r₀') (hages : Ages r₀ r₀')
    (hbound : r₀'.bound = r₀.bound) (hr : h.registration? key = some r) :
    ∃ r', h'.registration? key = some r' ∧ Ages r r' ∧ r'.bound = r.bound := by
  by_cases heq : key₀ = key
  · subst heq
    cases hr₀.symm.trans hr
    exact ⟨r₀', registration?_of_put hregs, hages, hbound⟩
  · exact ⟨r, (registration?_of_put_ne hregs heq).trans hr, .refl r, rfl⟩

lemma ages_of_put_audience {key₀ : Key} {r₀ : Registration P} {audience : Audience P}
    (hr₀ : h.registration? key₀ = some r₀)
    (hregs : h'.registrations = h.registrations.put key₀ { r₀ with audience := audience })
    (hr : h.registration? key = some r) :
    ∃ r', h'.registration? key = some r' ∧ Ages r r' ∧ r'.bound = r.bound :=
  ages_of_put hr₀ hregs (.audience r₀ audience) rfl hr

/-- A change of a registration brings none under another key. -/
lemma unregistered_of_put {key₀ : Key} {r₀ r₀' : Registration P}
    (hr₀ : h.registration? key₀ = some r₀)
    (hregs : h'.registrations = h.registrations.put key₀ r₀')
    (hnone : h.registration? key = none) : h'.registration? key = none := by
  have hne : key₀ ≠ key := by
    rintro rfl
    cases hr₀.symm.trans hnone
  exact (registration?_of_put_ne hregs hne).trans hnone

/-- A step that is none of a call leaves every key bound that was. -/
lemma Changes.ages (hc : Changes h action told h') (hcall : action.isCall = false)
    (hr : h.registration? key = some r) :
    ∃ r', h'.registration? key = some r' ∧ Ages r r' ∧ r'.bound = r.bound := by
  cases hc with
  | aside _ _ _ _ _ _ haction => cases haction.symm.trans hcall
  | registered | joined | left | closed | stopped => cases hcall
  | ingested hr₀ hi => exact ages_of_put hr₀ rfl (.ingests hi) hi.bound_eq hr
  | populated hr₀ | received hr₀ | asked hr₀ | hungUp hr₀ =>
    exact ages_of_put_audience hr₀ rfl hr
  | @sent key₀ event r₀ hr₀ =>
    refine ages_of_put hr₀ rfl (.send r₀ event) ?_ hr
    unfold Registration.send
    split <;> rfl
  | ended hr₀ => exact ages_of_put hr₀ rfl ⟨rfl, id, id, id, id, id⟩ rfl hr
  | located | recorded | cleared => exact ages_of_eq rfl hr

/-- A call unbinds the keys and waits for the ingests of those that it unbinds. -/
def Unbinds (h : Hub P) (action : Action P) (h' : Hub P) : Prop :=
  ∃ id, action = .resume id ∧ h.calls.get? id = some .draining ∧
    h'.calls.get? id = some (.awaiting h.boundKeys h.boundKeys)

/-- Only the drain of a shutdown unbinds keys. -/
lemma Conducts.ages (hs : h.Sound) (hc : Conducts h action told h')
    (hr : h.registration? key = some r) :
    ∃ r', h'.registration? key = some r' ∧ Ages r r' ∧
      (r'.bound = r.bound ∨ (r.bound = true ∧ r'.bound = false ∧ Unbinds h action h')) := by
  have hkeep : ∀ {r'}, h'.registration? key = some r' ∧ Ages r r' ∧ r'.bound = r.bound →
      h'.registration? key = some r' ∧ Ages r r' ∧
        (r'.bound = r.bound ∨ (r.bound = true ∧ r'.bound = false ∧ Unbinds h action h')) :=
    fun h => ⟨h.1, h.2.1, .inl h.2.2⟩
  cases hc with
  | opened | turnedAway | halted => exact (ages_of_eq rfl hr).imp fun _ => hkeep
  | @proceeded id _ _ _ _ hcall hp =>
    cases hp with
    | @registered key₀ observer hstopped hbound =>
      have hne : key₀ ≠ key := by
        rintro rfl
        cases (hs.registration?_eq_none hstopped (by rw [hbound]; rfl)).symm.trans hr
      refine ⟨r, ?_, .refl r, .inl rfl⟩
      exact (registration?_of_put_ne rfl hne).trans hr
    | joined _ hr₀ | left hr₀ | closed hr₀ =>
      exact (ages_of_put_audience hr₀ rfl hr).imp fun _ => hkeep
    | drained =>
      refine ⟨{ r with bound := false }, ?_, .unbind r, ?_⟩
      · exact (Table.get?_mapValues h.registrations _ key).trans (congrArg _ hr)
      · cases r.bound with
        | true => exact .inr ⟨rfl, rfl, id, rfl, hcall, Table.get?_put_self ..⟩
        | false => exact .inl rfl
    | @aborted _ _ _ stuck =>
      refine ⟨if stuck.contains key then r.abort else r,
        (Table.get?_mapValues h.registrations _ key).trans (congrArg _ hr), ?_⟩
      split
      · exact ⟨.abort r, .inl r.bound_abort⟩
      · exact ⟨.refl r, .inl rfl⟩
    | _ => exact (ages_of_eq rfl hr).imp fun _ => hkeep

/-- A registration stays, and what it gave up it does not get back. It loses its key by a drain only. -/
theorem Sound.ages_or_unbinds (hs : h.Sound) (hstep : h.step action = some (h', told))
    (hr : h.registration? key = some r) :
    ∃ r', h'.registration? key = some r' ∧ Ages r r' ∧
      (r'.bound = r.bound ∨ (r.bound = true ∧ r'.bound = false ∧ Unbinds h action h')) := by
  by_cases hcall : action.isCall = true
  · exact (Conducts.of_step hstep hcall).ages hs hr
  · obtain ⟨r', hr', hages, hbound⟩ := (hs.changes hstep).ages (eq_false_of_ne_true hcall) hr
    exact ⟨r', hr', hages, .inl hbound⟩

theorem Sound.ages (hs : h.Sound) (hstep : h.step action = some (h', told))
    (hr : h.registration? key = some r) : ∃ r', h'.registration? key = some r' ∧ Ages r r' := by
  obtain ⟨r', hr', hages, -⟩ := hs.ages_or_unbinds hstep hr
  exact ⟨r', hr', hages⟩

lemma Changes.unregistered (hc : Changes h action told h') (hcall : action.isCall = false)
    (hnone : h.registration? key = none) : h'.registration? key = none := by
  cases hc with
  | aside _ _ _ _ _ _ haction => cases haction.symm.trans hcall
  | registered | joined | left | closed | stopped => cases hcall
  | ingested hr₀ | populated hr₀ | received hr₀ | asked hr₀ | hungUp hr₀ | sent hr₀ | ended hr₀ =>
    exact unregistered_of_put hr₀ rfl hnone
  | located | recorded | cleared => exact hnone

/-- Registrations come by a call to register and in no other way. -/
theorem Sound.unregistered (hs : h.Sound) (hstep : h.step action = some (h', told))
    (hnone : h.registration? key = none) :
    h'.registration? key = none ∨
      ∃ id observer, h.calls.get? id = some (.registering key observer) ∧ h.stopped = false ∧
        action = .resume id ∧ told = [.registered key observer.name, .returned id .registered] ∧
        h'.registration? key = some (.new key observer) ∧ h'.stopped = false := by
  by_cases hcall : action.isCall = true
  · cases Conducts.of_step hstep hcall with
    | opened | turnedAway | halted => exact .inl hnone
    | @proceeded id _ _ _ _ hcalled hp =>
      cases hp with
      | @registered key₀ observer hstopped =>
        by_cases heq : key₀ = key
        · subst heq
          exact .inr ⟨id, observer, hcalled, hstopped, rfl, rfl, registration?_of_put rfl, hstopped⟩
        · exact .inl ((registration?_of_put_ne rfl heq).trans hnone)
      | joined _ hr₀ | left hr₀ | closed hr₀ =>
        exact .inl (unregistered_of_put hr₀ rfl hnone)
      | drained | aborted =>
        exact .inl ((Table.get?_mapValues h.registrations _ key).trans
          (Option.map_eq_none_iff.2 hnone))
      | _ => exact .inl hnone
  · exact .inl ((hs.changes hstep).unregistered (eq_false_of_ne_true hcall) hnone)

/-- In a hub that was stopped there is no registration that was not there before. -/
lemma Sound.exists_before (hs : h.Sound) (hstep : h.step action = some (h', told))
    (hstopped : h'.stopped = true) {r' : Registration P} (hr' : h'.registration? key = some r') :
    ∃ r, h.registration? key = some r := by
  cases hr : h.registration? key with
  | some r => exact ⟨r, rfl⟩
  | none =>
    rcases hs.unregistered hstep hr with hnone | ⟨_, _, -, -, -, -, -, hrunning⟩
    · cases hnone.symm.trans hr'
    · cases hrunning.symm.trans hstopped

/-- Whoever is told to be registered has just found its key free. -/
lemma Changes.registered_told (hc : Changes h action told h') {name : String}
    (htold : .registered key name ∈ told) :
    h.registration? key = none ∧ ∃ observer id, observer.name = name ∧
      told = [.registered key name, .returned id .registered] ∧
      h'.registration? key = some (.new key observer) := by
  cases hc with
  | @registered key₀ observer id _ hnone _ hregs =>
    simp only [List.mem_cons, Fact.registered.injEq, reduceCtorEq, List.not_mem_nil, or_false]
      at htold
    obtain ⟨rfl, rfl⟩ := htold
    exact ⟨hnone, observer, id, rfl, rfl, registration?_of_put hregs⟩
  | aside _ _ _ hasides => cases (hasides _ htold).1
  | joined =>
    rcases List.mem_append.1 htold with hx | hx
    · obtain ⟨_, hx | hx⟩ := Audience.mem_prune hx <;> cases hx
    · simp at hx
  | left =>
    rcases List.mem_append.1 htold with hx | hx
    · obtain ⟨_, hx | hx | hx⟩ := Audience.mem_remove hx <;> cases hx
    · simp at hx
  | closed =>
    obtain ⟨_, hx⟩ := Audience.mem_closeAll htold
    cases hx
  | ingested _ hi => rcases teller?_of_ingests hi htold with hteller | hteller <;> cases hteller
  | populated _ _ hp => rcases teller?_of_populates hp htold with hteller | hteller <;> cases hteller
  | located => cases Fact.mem_ofLocate htold
  | _ => simp at htold

variable {config : HubConfig} {actions more : List (Action P)} {facts : List (Fact P)}

/-- A registration outlives every run. -/
theorem Reached.ages (hr : Reached config actions facts h) (hrun : h.run more = some (h', told))
    (hreg : h.registration? key = some r) : ∃ r', h'.registration? key = some r' ∧ Ages r r' := by
  induction more generalizing actions facts h told r with
  | nil =>
    cases hrun
    exact ⟨r, hreg, .refl r⟩
  | cons action more ih =>
    obtain ⟨h₁, told₁, told₂, hstep, hrest, rfl⟩ := run_cons hrun
    obtain ⟨r₁, hreg₁, hages₁⟩ := hr.sound.ages hstep hreg
    obtain ⟨r₂, hreg₂, hages₂⟩ := ih (hr.step hstep) hrest hreg₁
    exact ⟨r₂, hreg₂, hages₁.trans hages₂⟩

/-- What is registered with a hub that was stopped was registered before. -/
lemma Reached.registered_before (hr : Reached config actions facts h) (hstopped : h.stopped = true)
    (hrun : h.run more = some (h', told)) {r' : Registration P}
    (hreg' : h'.registration? key = some r') : ∃ r, h.registration? key = some r := by
  induction more generalizing actions facts h told with
  | nil =>
    cases hrun
    exact ⟨r', hreg'⟩
  | cons action more ih =>
    obtain ⟨h₁, told₁, told₂, hstep, hrest, rfl⟩ := run_cons hrun
    have hstopped₁ := (Follows.of_step hstep).stopped hstopped
    obtain ⟨r₁, hreg₁⟩ := ih (hr.step hstep) hstopped₁ hrest
    exact hr.sound.exists_before hstep hstopped₁ hreg₁

/-- Every registration that was told is there, with its observer. -/
theorem Reached.registration_of_told (hr : Reached config actions facts h) {name : String}
    (htold : .registered key name ∈ facts) :
    ∃ r, h.registration? key = some r ∧ r.observer.name = name := by
  induction hr with
  | new => cases htold
  | @step actions past h action h' told hr hstep ih =>
    rcases List.mem_append.1 htold with htold | htold
    · obtain ⟨r, hreg, hname⟩ := ih htold
      obtain ⟨r', hreg', hages⟩ := hr.sound.ages hstep hreg
      exact ⟨r', hreg', hages.observer_eq ▸ hname⟩
    · obtain ⟨-, observer, -, hname, -, hreg'⟩ := (hr.sound.changes hstep).registered_told htold
      exact ⟨_, hreg', hname⟩

end Hub

end WatchHub
