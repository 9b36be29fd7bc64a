import WatchHub.Proofs.Hub.Accounts

/-!
# The work of a population

For the population of one subscription a step of the hub is one of three things: a step of its own, the
insertion of the subscription, or something that leaves the population where it stands and tells nothing
of its work (`Hub.Works`). So what a population has done along a run is shown by an induction whose only
real case is its own step.
-/

namespace WatchHub

variable {P : Type}

namespace Fact

/-- Whether a fact tells that a subscription was made or what its population did. -/
def isWork (key : Key) (handle : Handle) : Fact P → Bool
  | subscribed k h _ | listed k h | snapshotFailed k h _ | snapshotDelivered k h _ _
  | historyRead k h _ _ | replayRefused k h _ | replayDelivered k h _ _ _ | offered k h _ _
  | logged k (.population h) _ _ _ => k = key && h = handle
  | _ => false

variable {key : Key} {handle : Handle} {told : List (Fact P)}

/-- The work that a population tells is its own. -/
lemma eq_of_isWork {key' : Key} {handle' : Handle} {log : EventLog P} {s : Subscription P}
    {move : Population.Move P} {out : Populated P} (hp : s.Populates key handle log move out)
    {x : Fact P} (hx : x ∈ out.facts) (hwork : x.isWork key' handle' = true) :
    key = key' ∧ handle = handle' := by
  cases hp with
  | locate =>
    cases mem_ofLocate hx
    cases hwork
  | _ =>
    first
    | cases hx; done
    | cases List.mem_singleton.1 hx; simpa [isWork] using hwork

/-- An ingest does no work of a population. -/
lemma isWork_of_ingests {stopped : Bool} {log : EventLog P} {r : Registration P}
    {move : Ingest.Move} {out : Ingested P} (hi : r.Ingests stopped log move out) {x : Fact P}
    (hx : x ∈ out.facts) : x.isWork key handle = false := by
  cases hi with
  | locate =>
    cases mem_ofLocate hx
    rfl
  | emit => rcases Audience.mem_emit hx with rfl | ⟨_, _, rfl⟩ <;> rfl
  | _ =>
    first
    | cases hx; done
    | cases List.mem_singleton.1 hx; rfl

end Fact

namespace Hub

/-- The population of a subscription. -/
def population? (h : Hub P) (key : Key) (handle : Handle) : Option (Population P) :=
  (h.subscription? key handle).map Subscription.population

/-- What a step is to the population of one subscription. -/
inductive Works (h : Hub P) (key : Key) (handle : Handle) :
    Action P → List (Fact P) → Hub P → Prop where
  | other {action told h'} :
    h'.population? key handle = h.population? key handle →
    (∀ move, action ≠ .populate key handle move) →
    (∀ x ∈ told, x.isWork key handle = false) → Works h key handle action told h'
  | joined {action told h'} (checkpoint : Option Version) :
    h.population? key handle = none → h'.population? key handle = some (.new checkpoint) →
    (∀ move, action ≠ .populate key handle move) →
    (∃ before after, told = before ++ .subscribed key handle checkpoint :: after ∧
      ∀ x ∈ before ++ after, x.isWork key handle = false) → Works h key handle action told h'
  | own {s move out h'} :
    h.subscription? key handle = some s → s.Populates key handle h.log move out →
    h'.population? key handle = some out.subscription.population → h'.log = out.log →
    Works h key handle (.populate key handle move) out.facts h'

variable {h h' : Hub P} {action : Action P} {told : List (Fact P)} {key : Key} {handle : Handle}

/-- A change of one registration that leaves its populations where they stand. -/
lemma population?_of_put {key₀ : Key} {r r' : Registration P} (hr : h.registration? key₀ = some r)
    (hregs : h'.registrations = h.registrations.put key₀ r')
    (hsame : (r'.audience.get? handle).map Subscription.population =
      (r.audience.get? handle).map Subscription.population) :
    h'.population? key handle = h.population? key handle := by
  rw [population?, subscription?_of_put hregs]
  split
  · rename_i heq
    subst heq
    rw [hsame, population?, subscription?_of_registration? hr]
  · rfl

/-- A change of one subscription that leaves its population where it stands. -/
lemma population?_of_put_row {key₀ : Key} {handle₀ : Handle} {r : Registration P}
    {s s' : Subscription P} (hr : h.registration? key₀ = some r)
    (hget : r.audience.get? handle₀ = some s)
    (hregs : h'.registrations =
      h.registrations.put key₀ { r with audience := r.audience.put handle₀ s' })
    (hpop : s'.population = s.population) :
    h'.population? key handle = h.population? key handle := by
  refine population?_of_put hr hregs ?_
  by_cases heq : handle₀ = handle
  · subst heq
    rw [Audience.get?_put_self, hget, Option.map_some, Option.map_some, hpop]
  · rw [Audience.get?_put_ne _ heq]

/-- Hubs with the same audiences have the same populations. -/
lemma population?_of_map {f : Key → Registration P → Registration P}
    (haudience : ∀ key r, (f key r).audience = r.audience)
    (hregs : ∀ key, h'.registration? key = (h.registration? key).map (f key)) :
    h'.population? key handle = h.population? key handle := by
  rw [population?, population?, subscription?, subscription?, hregs]
  cases h.registration? key with
  | none => rfl
  | some r => simp [haudience]

lemma population?_congr (hregs : h'.registrations = h.registrations) :
    h'.population? key handle = h.population? key handle := by
  rw [population?, subscription?, registration?, hregs]
  rfl

/-- A map over the subscriptions of an audience that leaves the populations where they stand. -/
lemma map_population {f : Subscription P → Subscription P}
    (hf : ∀ s, (f s).population = s.population) (o : Option (Subscription P)) :
    (o.map f).map Subscription.population = o.map Subscription.population := by
  cases o with
  | none => rfl
  | some s => exact congrArg some (hf s)

lemma Works.joined_of_put {key₀ : Key} {handle₀ : Handle} {r : Registration P}
    {checkpoint : Option Version} {id : CallId}
    (hr : h.registration? key₀ = some r) (hfresh : ∀ key', h.subscription? key' handle₀ = none)
    (hregs : h'.registrations = h.registrations.put key₀ { r with audience :=
      (r.audience.insert handle₀ (.new h.config.queueRoom checkpoint)).1 }) :
    Works h key handle (.resume id) (r.audience.prune.2 ++
      [.subscribed key₀ handle₀ checkpoint, .returned id (.subscribed handle₀)]) h' := by
  have hpruned : ∀ x ∈ r.audience.prune.2, x.isWork key handle = false := by
    intro x hx
    obtain ⟨_, rfl | rfl⟩ := Audience.mem_prune hx <;> rfl
  by_cases heq : key₀ = key ∧ handle₀ = handle
  · obtain ⟨rfl, rfl⟩ := heq
    refine .joined checkpoint ?_ ?_ (fun _ => nofun) ⟨_, _, rfl, fun x hx => ?_⟩
    · rw [population?, hfresh, Option.map_none]
    · rw [population?, subscription?_of_put hregs, if_pos rfl]
      dsimp only
      rw [Audience.get?_insert, if_pos rfl]
      rfl
    · rcases List.mem_append.1 hx with hx | hx
      · exact hpruned x hx
      · cases List.mem_singleton.1 hx
        rfl
  · refine .other ?_ (fun _ => nofun) fun x hx => ?_
    · by_cases hhandle : handle₀ = handle
      · -- The handle is fresh, so no other key has a subscription under it.
        subst hhandle
        have hne : key₀ ≠ key := fun h => heq ⟨h, rfl⟩
        rw [population?, subscription?_of_put hregs, if_neg hne]
        rfl
      · refine population?_of_put hr hregs ?_
        rw [Audience.get?_insert, if_neg hhandle, Audience.get?_prune]
        exact map_population (fun s => by split <;> rfl) _
    · rcases List.mem_append.1 hx with hx | hx
      · exact hpruned x hx
      · simp only [List.mem_cons, List.not_mem_nil, or_false] at hx
        rcases hx with rfl | rfl
        · simpa [Fact.isWork] using heq
        · rfl

/-- Every step of a sound hub is one of these to every population. -/
theorem Changes.works (hc : Changes h action told h') (key : Key) (handle : Handle) :
    Works h key handle action told h' := by
  cases hc with
  | aside f haudience _ htold _ hregs hcall =>
    refine .other (population?_of_map haudience hregs) (fun move => ?_) fun x hx => ?_
    · rintro rfl
      cases hcall
    · have := (htold x hx).1
      cases x <;> first | rfl | cases this
  | @registered key₀ observer id _ hnone _ hregs =>
    refine .other ?_ (fun _ h => by cases h) (by simp [Fact.isWork])
    rw [population?, subscription?_of_put hregs]
    split
    · rename_i heq
      subst heq
      rw [population?, subscription?, hnone]
      rfl
    · rfl
  | joined _ hr hfresh _ hregs => exact .joined_of_put hr hfresh hregs
  | @left key₀ handle₀ id r _ hr _ hregs =>
    refine .other (population?_of_put hr hregs ?_) (fun _ h => by cases h) fun x hx => ?_
    · rw [Audience.get?_remove]
      exact map_population (fun s => by split <;> rfl) _
    · rcases List.mem_append.1 hx with hx | hx
      · obtain ⟨_, rfl | rfl | rfl⟩ := Audience.mem_remove hx <;> rfl
      · cases List.mem_singleton.1 hx
        rfl
  | closed _ hr _ hregs =>
    refine .other (population?_of_put hr hregs ?_) (fun _ h => by cases h) fun x hx => ?_
    · rw [Audience.get?_closeAll]
      exact map_population (fun s => by split <;> rfl) _
    · obtain ⟨_, rfl⟩ := Audience.mem_closeAll hx
      rfl
  | stopped _ _ hregs =>
    exact .other (population?_congr hregs) (fun _ h => by cases h) (by simp [Fact.isWork])
  | @ingested key₀ move r out hr hi =>
    refine .other (population?_of_put hr rfl ?_) (fun _ h => by cases h)
      fun x hx => Fact.isWork_of_ingests hi hx
    rcases hi.audience_eq with ⟨haudience, -⟩ | ⟨d, last, -, haudience, -⟩
    · rw [haudience]
    · rw [haudience, Audience.get?_emit]
      refine map_population (fun s => ?_) _
      split
      · exact s.population_live d
      · rfl
  | @populated key₀ handle₀ move r s out hr hget hp =>
    by_cases heq : key₀ = key ∧ handle₀ = handle
    · obtain ⟨rfl, rfl⟩ := heq
      refine .own ((subscription?_of_registration? hr _).trans hget) hp ?_ rfl
      rw [population?, subscription?_of_put rfl, if_pos rfl, Audience.get?_put_self]
      rfl
    · refine .other ?_ (fun move h => ?_) fun x hx => ?_
      · rw [population?, subscription?_of_put rfl, population?]
        split
        · rename_i hkey
          subst hkey
          rw [subscription?_of_registration? hr]
          exact congrArg _ (Audience.get?_put_ne _ (fun h => heq ⟨rfl, h⟩) _)
        · rfl
      · cases h
        exact heq ⟨rfl, rfl⟩
      · exact eq_false_of_ne_true fun hwork => heq (Fact.eq_of_isWork hp hx hwork)
  | received hr hget hreceive =>
    exact .other (population?_of_put_row hr hget rfl (Subscription.population_receive hreceive))
      (fun _ h => by cases h) (by simp [Fact.isWork])
  | asked hr hget | hungUp hr hget =>
    exact .other (population?_of_put_row hr hget rfl rfl) (fun _ h => by cases h) (by simp)
  | @sent key₀ event r hr =>
    refine .other (population?_of_put hr rfl ?_) (fun _ h => by cases h) (by simp)
    rw [Registration.audience_send]
  | ended hr => exact .other (population?_of_put hr rfl rfl) (fun _ h => by cases h) (by simp)
  | located =>
    refine .other rfl (fun _ h => by cases h) fun x hx => ?_
    cases Fact.mem_ofLocate hx
    rfl
  | recorded => exact .other rfl (fun _ h => by cases h) (by simp [Fact.isWork])
  | cleared => exact .other rfl (fun _ h => by cases h) (by simp)

/-- To the population of a subscription that is there a step is its own or leaves it where it stands. -/
lemma Sound.own_or_other (hs : h.Sound) (hstep : h.step action = some (h', told))
    {s : Subscription P} (hsub : h.subscription? key handle = some s) :
    ∃ s', h'.subscription? key handle = some s' ∧
      ((s'.population = s.population ∧ (∀ move, action ≠ .populate key handle move) ∧
          ∀ x ∈ told, x.isWork key handle = false) ∨
        ∃ move out, action = .populate key handle move ∧ told = out.facts ∧
          s.Populates key handle h.log move out ∧
          s'.population = out.subscription.population) := by
  have hchanges : Changes h action told h' := hs.changes hstep
  obtain ⟨s', hsub', -⟩ := hchanges.turn hs hsub
  refine ⟨s', hsub', ?_⟩
  cases hchanges.works key handle with
  | other hpop haction htold =>
    refine .inl ⟨?_, haction, htold⟩
    simpa [population?, hsub, hsub'] using hpop
  | joined _ hnone =>
    rw [population?, hsub] at hnone
    cases hnone
  | @own s₀ move out _ hsub₀ hp hpop =>
    cases hsub.symm.trans hsub₀
    refine .inr ⟨move, out, rfl, rfl, hp, ?_⟩
    simpa [population?, hsub'] using hpop

end Hub

end WatchHub
