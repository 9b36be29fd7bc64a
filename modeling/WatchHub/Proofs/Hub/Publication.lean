import WatchHub.Proofs.Hub.Accounts
import WatchHub.Proofs.Hub.Ledger

/-!
# What an ingest publishes

An ingest adds each event to the log and fans it out before it takes the next one; so the live events
of a key are those that its ingest logged, in the same order, except for one that may be on its way
(`Hub.Published`). As a log numbers its entries, the versions of the live events of one log increase.
-/

namespace WatchHub

variable {P : Type}

namespace Fact

/-- The event that the ingest of a key added to a log. -/
def ingestion? (key : Key) : Fact P → Option (Delivery P)
  | logged k .ingest _ event version => if k = key then some (.versioned event version) else none
  | _ => none

/-- An event that was seen to be published by an ingest was logged by it. -/
lemma ingestion?_eq_some {key : Key} {x : Fact P} {d : Delivery P} (h : ingestion? key x = some d) :
    ∃ id event version, x = .logged key .ingest id event version ∧
      d = .versioned event version := by
  cases x with
  | logged k writer id event version =>
    cases writer with
    | ingest =>
      by_cases heq : k = key
      · subst heq
        rw [ingestion?, if_pos rfl] at h
        exact ⟨id, event, version, rfl, (Option.some.inj h).symm⟩
      · simp [ingestion?, heq] at h
    | _ => cases h
  | _ => cases h

/-- Whether a fact is about what an ingest publishes. -/
def isPublishing : Fact P → Bool
  | logged _ .ingest .. | emitted .. => true
  | _ => false

lemma isPublishing_of_isMembership {x : Fact P} (h : x.isMembership = true) :
    x.isPublishing = false := by
  cases x <;> first | rfl | cases h

lemma ingestion?_of_not_isPublishing {told : List (Fact P)}
    (h : ∀ x ∈ told, x.isPublishing = false) (key : Key) :
    told.filterMap (ingestion? key) = [] := by
  refine filterMap_of_kind (fun x => ?_) h
  cases x with
  | logged k writer id event version => cases writer <;> simp [ingestion?, isPublishing]
  | _ => simp [ingestion?]

lemma emission?_of_not_isPublishing {told : List (Fact P)}
    (h : ∀ x ∈ told, x.isPublishing = false) (key : Key) :
    told.filterMap (emission? key) = [] :=
  filterMap_of_kind (fun x => by cases x <;> simp [emission?, isPublishing]) h

end Fact

/-- What an ingest has logged and not yet fanned out; one that was cut off never will. -/
def Ingest.Owes (i : Ingest P) (pending : List (Delivery P)) : Prop :=
  match i.stage with
  | .emitting d _ => pending = [d]
  | .felled | .finished _ => pending.length ≤ 1
  | _ => pending = []

lemma Ingest.Owes.of_stage {i i' : Ingest P} {pending : List (Delivery P)} (h : i.Owes pending)
    (hstage : i'.stage = i.stage) : i'.Owes pending := by
  unfold Ingest.Owes at h ⊢
  rw [hstage]
  exact h

lemma Ingest.Owes.length_le {i : Ingest P} {pending : List (Delivery P)} (h : i.Owes pending) :
    pending.length ≤ 1 := by
  unfold Ingest.Owes at h
  split at h
  · rw [h]
    exact Nat.le_refl 1
  · exact h
  · exact h
  · rw [h]
    exact Nat.zero_le 1

lemma Registration.owes_abort {r : Registration P} {pending : List (Delivery P)}
    (h : r.ingest.Owes pending) : r.abort.ingest.Owes pending := by
  unfold Registration.abort
  split
  · exact h
  · cases hturn : r.ingest.inTurn with
    | true => exact h.of_stage (by simp)
    | false => simpa [Ingest.Owes] using h.length_le

open WatchHub.Fact (ingestion? emission?)

namespace Hub

/-- What the ingest of a key owes, if there is one. -/
def Owes (h : Hub P) (key : Key) (pending : List (Delivery P)) : Prop :=
  match h.registration? key with
  | some r => r.ingest.Owes pending
  | none => pending = []

lemma owes_of_some {h : Hub P} {key : Key} {r : Registration P}
    (hr : h.registration? key = some r) {pending : List (Delivery P)} :
    h.Owes key pending ↔ r.ingest.Owes pending := by
  rw [Owes, hr]

lemma owes_of_none {h : Hub P} {key : Key} (hr : h.registration? key = none)
    {pending : List (Delivery P)} : h.Owes key pending ↔ pending = [] := by
  rw [Owes, hr]

lemma owes_congr {h h' : Hub P} {key : Key} (hr : h'.registration? key = h.registration? key)
    {pending : List (Delivery P)} : h'.Owes key pending ↔ h.Owes key pending := by
  rw [Owes, hr, Owes]

/-- What was logged by an ingest and what was fanned out differ by what is on its way. -/
def Published (facts : List (Fact P)) (h : Hub P) : Prop :=
  ∀ key, ∃ pending,
    facts.filterMap (ingestion? key) = facts.filterMap (emission? key) ++ pending ∧
      h.Owes key pending

variable {facts told : List (Fact P)} {h h' : Hub P} {action : Action P}

lemma Published.new (config : HubConfig) : (Hub.new config : Hub P).Published [] :=
  fun _ => ⟨[], rfl, rfl⟩

/-- A step that publishes nothing. -/
lemma Published.quiet (hp : h.Published facts) (htold : ∀ x ∈ told, x.isPublishing = false)
    (howes : ∀ key pending, h.Owes key pending → h'.Owes key pending) :
    h'.Published (facts ++ told) := by
  intro key
  obtain ⟨pending, heq, howe⟩ := hp key
  refine ⟨pending, ?_, howes key pending howe⟩
  rw [List.filterMap_append, List.filterMap_append,
    Fact.ingestion?_of_not_isPublishing htold, Fact.emission?_of_not_isPublishing htold,
    List.append_nil, List.append_nil, heq]

/-- A change of one registration that publishes nothing and leaves the ingest where it is. -/
lemma Published.put (hp : h.Published facts) {key₀ : Key} {r r' : Registration P}
    (hr : h.registration? key₀ = some r) (hregs : h'.registrations = h.registrations.put key₀ r')
    (htold : ∀ x ∈ told, x.isPublishing = false) (hstage : r'.ingest.stage = r.ingest.stage) :
    h'.Published (facts ++ told) := by
  refine hp.quiet htold fun key pending howe => ?_
  by_cases heq : key₀ = key
  · subst heq
    rw [owes_of_some hr] at howe
    exact (owes_of_some (registration?_of_put hregs)).2 (howe.of_stage hstage)
  · exact (owes_congr (registration?_of_put_ne hregs heq)).2 howe

/-- A step of an ingest that changes what it owes by what it tells. -/
lemma Published.putIngest (hp : h.Published facts) {key₀ : Key} {r r' : Registration P}
    (hr : h.registration? key₀ = some r) (hregs : h'.registrations = h.registrations.put key₀ r')
    (hother : ∀ key, key₀ ≠ key → told.filterMap (ingestion? key) = [] ∧
      told.filterMap (emission? key) = [])
    (hown : ∀ {pending}, r.ingest.Owes pending → ∃ pending',
      pending ++ told.filterMap (ingestion? key₀) = told.filterMap (emission? key₀) ++ pending' ∧
        r'.ingest.Owes pending') : h'.Published (facts ++ told) := by
  intro key
  obtain ⟨pending, heq, howe⟩ := hp key
  rw [List.filterMap_append, List.filterMap_append, heq]
  by_cases hkey : key₀ = key
  · subst hkey
    obtain ⟨pending', heq', howe'⟩ := hown ((owes_of_some hr).1 howe)
    exact ⟨pending', by rw [List.append_assoc, List.append_assoc, heq'],
      (owes_of_some (registration?_of_put hregs)).2 howe'⟩
  · obtain ⟨hi, he⟩ := hother key hkey
    exact ⟨pending, by rw [hi, he, List.append_nil, List.append_nil],
      (owes_congr (registration?_of_put_ne hregs hkey)).2 howe⟩

lemma ingestion?_emit (a : Audience P) (d : Delivery P) (key : Key) :
    (a.emit d).2.filterMap (ingestion? key) = [] := by
  refine List.filterMap_eq_nil_iff.2 fun x hx => ?_
  rcases Audience.mem_emit hx with rfl | ⟨_, _, rfl⟩ <;> rfl

lemma emission?_emit (a : Audience P) (d : Delivery P) (key : Key) :
    (a.emit d).2.filterMap (emission? key) = if a.key = key then [d] else [] := by
  have hreached : ((a.rows.rows.filter fun row => row.2.member).map fun row =>
      Fact.reached a.key row.1 d (row.2.live d).1).filterMap (emission? key) = [] := by
    refine List.filterMap_eq_nil_iff.2 fun x hx => ?_
    obtain ⟨_, -, rfl⟩ := List.mem_map.1 hx
    rfl
  rw [Audience.emit, List.filterMap_cons, hreached]
  by_cases heq : a.key = key <;> simp [emission?, heq]

/-- A step of an ingest that owes nothing before and after it and publishes nothing. -/
lemma Published.put_silent (hp : h.Published facts) {key₀ : Key} {r r' : Registration P}
    (hr : h.registration? key₀ = some r) (hregs : h'.registrations = h.registrations.put key₀ r')
    (htold : ∀ x ∈ told, x.isPublishing = false)
    (howed : ∀ {pending}, r.ingest.Owes pending → pending = [])
    (howes : r'.ingest.Owes []) : h'.Published (facts ++ told) := by
  refine hp.putIngest hr hregs (fun key hne => ?_) fun {pending} howe => ?_
  · exact ⟨Fact.ingestion?_of_not_isPublishing htold key,
      Fact.emission?_of_not_isPublishing htold key⟩
  · rw [Fact.ingestion?_of_not_isPublishing htold, Fact.emission?_of_not_isPublishing htold]
    exact ⟨[], by rw [howed howe, List.append_nil], howes⟩

lemma Published.ingested (hs : h.Sound) (hp : h.Published facts) {key : Key} {move : Ingest.Move}
    {r : Registration P} {out : Ingested P} (hr : h.registration? key = some r)
    (hi : r.Ingests h.stopped h.log move out) :
    ({ h with log := out.log }.putRegistration key out.registration).Published
      (facts ++ out.facts) := by
  obtain rfl : r.key = key := hs.keyed hr
  -- Only an ingest that is about to fan out, or that was cut off, can owe anything.
  have hnone : ∀ {pending}, r.ingest.Owes pending → (∀ d last, r.ingest.stage ≠ .emitting d last) →
      r.ingest.isOver = false → pending = [] := by
    intro pending howe hemitting hgoing
    unfold Ingest.isOver at hgoing
    unfold Ingest.Owes at howe
    split at howe
    · exact absurd ‹_› (hemitting _ _)
    · simp [*] at hgoing
    · simp [*] at hgoing
    · exact howe
  cases hi with
  | locate hstage =>
    refine hp.put_silent hr rfl (fun x hx => ?_) (fun howe => ?_) rfl
    · cases Fact.mem_ofLocate hx
      rfl
    · exact hnone howe (by simp [hstage]) (by simp [hstage, Ingest.isOver])
  | @record id event last hstage =>
    refine hp.putIngest hr rfl (fun key hne => ?_) fun {pending} howe => ?_
    · simp [List.filterMap_cons, ingestion?, emission?, hne]
    · obtain rfl := hnone howe (by simp [hstage]) (by simp [hstage, Ingest.isOver])
      exact ⟨[.versioned event (h.log.record id event).1], by simp [ingestion?, emission?], rfl⟩
  | @emit d last hstage =>
    refine hp.putIngest hr rfl (fun key hne => ?_) fun {pending} howe => ?_
    · rw [ingestion?_emit, emission?_emit]
      exact ⟨rfl, if_neg hne⟩
    · have hpending : pending = [d] := by
        simpa [Ingest.Owes, hstage] using howe
      refine ⟨[], ?_, ?_⟩
      · rw [ingestion?_emit, emission?_emit, hpending]
        exact congrArg (· ++ []) (if_pos rfl).symm
      · cases last
        · rfl
        · exact Nat.zero_le 1
  | wake | rest => exact hp.put hr rfl (by simp) rfl
  | cutOff | drop =>
    exact hp.putIngest hr rfl (fun _ _ => ⟨rfl, rfl⟩) fun {pending} howe =>
      ⟨pending, by simp, howe.length_le⟩
  | _ hstage =>
    refine hp.put_silent hr rfl (by simp [Fact.isPublishing]) (fun howe => ?_) ?_
    · exact hnone howe (by simp [hstage]) (by simp [hstage, Ingest.isOver])
    · simp [Ingest.Owes, Registration.moveTo]

/-- Every step publishes in order. -/
theorem Published.step (hs : h.Sound) (hp : h.Published facts) (hc : Changes h action told h') :
    h'.Published (facts ++ told) := by
  cases hc with
  | aside f haudience hingest htold hlog hregs =>
    refine hp.quiet (fun x hx => ?_) fun key pending howe => ?_
    · have := (htold x hx).1
      cases x <;> first | rfl | cases this
    · cases hr : h.registration? key with
      | none =>
        rw [owes_of_none hr] at howe
        exact (owes_of_none (by rw [hregs, hr, Option.map_none])).2 howe
      | some r =>
        rw [owes_of_some hr] at howe
        rw [owes_of_some (by rw [hregs, hr, Option.map_some])]
        rcases hingest key r with heq | ⟨-, heq⟩
        · rw [heq]
          exact howe
        · rw [heq]
          exact Registration.owes_abort howe
  | @registered key₀ observer id _ hnone _ hregs =>
    refine hp.quiet (by simp [Fact.isPublishing]) fun key pending howe => ?_
    -- A key without a registration owes nothing, nor does an ingest that was just spawned.
    by_cases heq : key₀ = key
    · subst heq
      rw [owes_of_none hnone] at howe
      rw [owes_of_some (registration?_of_put hregs)]
      exact howe
    · exact (owes_congr (registration?_of_put_ne hregs heq)).2 howe
  | joined _ hr _ hlog hregs =>
    exact hp.put hr hregs (fun _ hx => Fact.isPublishing_of_isMembership (isMembership_joined hx)) rfl
  | left hr hlog hregs =>
    exact hp.put hr hregs (fun _ hx => Fact.isPublishing_of_isMembership (isMembership_left hx)) rfl
  | closed _ hr hlog hregs =>
    exact hp.put hr hregs
      (fun _ hx => Fact.isPublishing_of_isMembership (Audience.isMembership_closeAll hx)) rfl
  | stopped _ hlog hregs =>
    refine hp.quiet (by simp [Fact.isPublishing]) fun key pending howe => (owes_congr ?_).2 howe
    rw [registration?, hregs]
    rfl
  | ingested hr hi => exact hp.ingested hs hr hi
  | populated hr hget hpop =>
    refine hp.put hr rfl (fun x hx => ?_) rfl
    cases hpop with
    | locate =>
      cases Fact.mem_ofLocate hx
      rfl
    | _ =>
      first
      | cases hx; done
      | cases List.mem_singleton.1 hx; rfl
  | received hr => exact hp.put hr rfl (by simp [Fact.isPublishing]) rfl
  | asked hr | hungUp hr | ended hr => exact hp.put hr rfl (by simp) rfl
  | @sent key event r hr => exact hp.put hr rfl (by simp) (Registration.stage_send r event)
  | located =>
    refine hp.quiet (fun x hx => ?_) fun _ _ howe => howe
    cases Fact.mem_ofLocate hx
    rfl
  | recorded => exact hp.quiet (by simp [Fact.isPublishing]) fun _ _ howe => howe
  | cleared => exact hp.quiet (by simp) fun _ _ howe => howe

/-- Every run publishes in order. -/
theorem Reached.published {config : HubConfig} {actions : List (Action P)}
    (hr : Reached config actions facts h) : h.Published facts := by
  induction hr with
  | new => exact .new config
  | step hr hstep ih => exact ih.step hr.sound (hr.sound.changes hstep)

/-- The live events are the first ones that the ingest logged. -/
lemma Published.isPrefix (hp : h.Published facts) (key : Key) :
    facts.filterMap (emission? key) <+: facts.filterMap (ingestion? key) := by
  obtain ⟨pending, heq, -⟩ := hp key
  exact ⟨pending, heq.symm⟩

/-- A live event was logged by the ingest before it was fanned out. -/
lemma Published.logged (hp : h.Published facts) {key : Key} {d : Delivery P}
    (hd : .emitted key d ∈ facts) :
    ∃ id event version, d = .versioned event version ∧
      .logged key .ingest id event version ∈ facts := by
  have hmem : d ∈ facts.filterMap (ingestion? key) := by
    refine (hp.isPrefix key).subset (List.mem_filterMap.2 ⟨_, hd, ?_⟩)
    simp [emission?]
  obtain ⟨x, hx, hview⟩ := List.mem_filterMap.1 hmem
  obtain ⟨id, event, version, rfl, heq⟩ := Fact.ingestion?_eq_some hview
  exact ⟨id, event, version, heq, hx⟩

end Hub

end WatchHub
