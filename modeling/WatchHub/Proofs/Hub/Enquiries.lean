import WatchHub.Proofs.Hub.Registrations
import WatchHub.Proofs.Hub.Work

/-!
# What an observer is asked

The observer of a key is asked for its stream when the ingest begins in a running hub, and for its items
when a snapshot population begins whose subscription is open. Each of them begins once, so neither is
asked twice (`Hub.Reached.watched_once`, `Hub.Reached.listed_once`).
-/

namespace WatchHub

variable {P : Type}

namespace Fact

/-- Whether a fact tells that the observer of a key was asked for its stream. -/
def asksStream (key : Key) : Fact P → Bool
  | watched k => k = key
  | _ => false

/-- Whether a fact tells that the population of a subscription asked for the observer's items. -/
def asksItems (key : Key) (handle : Handle) : Fact P → Bool
  | listed k h => k = key && h = handle
  | _ => false

variable {key : Key} {handle : Handle} {facts : List (Fact P)}

lemma asksStream_iff {x : Fact P} : x.asksStream key = true ↔ x = .watched key := by
  cases x <;> simp [asksStream]

lemma asksItems_iff {x : Fact P} : x.asksItems key handle = true ↔ x = .listed key handle := by
  cases x <;> simp [asksItems]

lemma countP_asksStream (h : .watched key ∉ facts) : facts.countP (asksStream key) = 0 :=
  List.countP_eq_zero.2 fun _ hx hasks => h (asksStream_iff.1 hasks ▸ hx)

lemma countP_asksItems (h : .listed key handle ∉ facts) :
    facts.countP (asksItems key handle) = 0 :=
  List.countP_eq_zero.2 fun _ hx hasks => h (asksItems_iff.1 hasks ▸ hx)

end Fact

namespace Subscription

variable {key : Key} {handle : Handle} {log : EventLog P} {s : Subscription P}
  {move : Population.Move P} {out : Populated P}

/-- A population asks for the items when it begins with a snapshot and its subscription is open. -/
lemma Populates.listed (hp : s.Populates key handle log move out)
    (htold : .listed key handle ∈ out.facts) :
    move = .start ∧ s.population.stage = .spawned none ∧ s.closed = false ∧
      out.facts = [.listed key handle] := by
  cases hp with
  | startListing hstage hopen => exact ⟨rfl, hstage, hopen, rfl⟩
  | locate => cases Fact.mem_ofLocate htold
  | _ => simp at htold

lemma Populates.listed_of_start (hp : s.Populates key handle log .start out)
    (hstage : s.population.stage = .spawned none) (hopen : s.closed = false) :
    .listed key handle ∈ out.facts := by
  cases hp with
  | startListing => exact List.mem_cons_self ..
  | startClosed _ hclosed => cases hclosed.symm.trans hopen
  | startSeeking hstage' => cases hstage.symm.trans hstage'

/-- No step of a population leads back to its beginning. -/
lemma Populates.not_spawned (hp : s.Populates key handle log move out)
    (checkpoint : Option Version) : out.subscription.population.stage ≠ .spawned checkpoint := by
  cases hp with
  | offerRefused | offerAccepted | offerGone | fill | timeOut | giveUp =>
    unfold settle
    split <;> exact nofun
  | _ => exact nofun

end Subscription

namespace Hub

variable {h h' : Hub P} {action : Action P} {told : List (Fact P)} {key : Key} {handle : Handle}

/-- The observer of a key is asked for its stream by the first step of the ingest. -/
lemma Changes.watched (hs : h.Sound) (hc : Changes h action told h')
    (htold : .watched key ∈ told) :
    ∃ r, h.registration? key = some r ∧ h.stopped = false ∧ r.ingest.stage = .spawned ∧
      told = [.watched key] ∧ h'.registration? key = some (r.moveTo .watching) := by
  obtain ⟨key₀, move, _, _, rfl, -⟩ := hc.told_by htold
  cases hc with
  | aside _ _ _ _ _ _ hcall => cases hcall
  | @ingested _ _ r out hreg hi =>
    have hkey : r.key = key₀ := hs.keyed hreg
    cases hi with
    | startWatching hstage hrunning =>
      have heq : key = key₀ := by simpa [hkey] using htold
      subst heq
      exact ⟨r, hreg, hrunning, hstage, by rw [hkey], registration?_of_put rfl⟩
    | locate => cases Fact.mem_ofLocate htold
    | emit => obtain hx | ⟨_, _, hx⟩ := Audience.mem_emit htold <;> cases hx
    | _ => simp at htold

/-- Where nothing is told of the work of a population, it does not ask for items. -/
lemma not_listed_of_isWork (htold : ∀ x ∈ told, x.isWork key handle = false) :
    .listed key handle ∉ told := by
  intro hx
  simpa [Fact.isWork] using htold _ hx

/-- The population of a subscription asks for the items when it begins with a snapshot and the
subscription is open. -/
lemma Works.listed (hw : Works h key handle action told h')
    (htold : .listed key handle ∈ told) :
    action = .populate key handle .start ∧ told = [.listed key handle] ∧
      ∃ s, h.subscription? key handle = some s ∧ s.population.stage = .spawned none ∧
        s.closed = false := by
  cases hw with
  | other _ _ hquiet => exact absurd htold (not_listed_of_isWork hquiet)
  | joined _ _ _ _ hjoined =>
    obtain ⟨before, after, rfl, hothers⟩ := hjoined
    exact absurd (by simpa using htold) (not_listed_of_isWork hothers)
  | own hsub hp =>
    obtain ⟨rfl, hstage, hopen, hfacts⟩ := hp.listed htold
    exact ⟨rfl, hfacts, _, hsub, hstage, hopen⟩

lemma Works.listed_of_start (hw : Works h key handle (.populate key handle .start) told h')
    {s : Subscription P} (hsub : h.subscription? key handle = some s)
    (hstage : s.population.stage = .spawned none) (hopen : s.closed = false) :
    .listed key handle ∈ told := by
  cases hw with
  | other _ haction => exact absurd rfl (haction _)
  | joined _ _ _ haction => exact absurd rfl (haction _)
  | own hsub' hp =>
    cases hsub.symm.trans hsub'
    exact hp.listed_of_start hstage hopen

/-- A population that stands at its beginning has stood there since its subscription was inserted. -/
lemma Works.spawned (hw : Works h key handle action told h')
    (hspawned : ∀ p, h'.population? key handle = some p → ∃ checkpoint, p.stage = .spawned checkpoint) :
    (∀ p, h.population? key handle = some p → ∃ checkpoint, p.stage = .spawned checkpoint) ∧
      .listed key handle ∉ told := by
  cases hw with
  | other hpop _ hquiet => exact ⟨hpop ▸ hspawned, not_listed_of_isWork hquiet⟩
  | joined checkpoint hnone _ _ hjoined =>
    obtain ⟨before, after, rfl, hothers⟩ := hjoined
    refine ⟨fun p hp => ?_, fun hx => ?_⟩
    · cases hnone.symm.trans hp
    · exact not_listed_of_isWork hothers (by simpa using hx)
  | own _ hp hpop =>
    obtain ⟨checkpoint, hstage⟩ := hspawned _ hpop
    exact absurd hstage (hp.not_spawned checkpoint)

variable {config : HubConfig} {actions : List (Action P)} {facts : List (Fact P)}

/-- The observer of a key is asked for its stream at most once, and not before the ingest begins. -/
structure WatchedOnce (key : Key) (facts : List (Fact P)) (h : Hub P) : Prop where
  once : facts.countP (Fact.asksStream key) ≤ 1
  unasked : (∀ r, h.registration? key = some r → r.ingest.stage = .spawned) →
    facts.countP (Fact.asksStream key) = 0

theorem Reached.watched_once (hr : Reached config actions facts h) : WatchedOnce key facts h := by
  induction hr with
  | new => exact ⟨Nat.zero_le 1, fun _ => rfl⟩
  | @step actions past h action h' told hr hstep ih =>
    have hback : (∀ r, h'.registration? key = some r → r.ingest.stage = .spawned) →
        ∀ r, h.registration? key = some r → r.ingest.stage = .spawned := by
      intro hspawned r hreg
      obtain ⟨r', hreg', hages⟩ := hr.sound.ages hstep hreg
      exact hages.spawned (hspawned r' hreg')
    by_cases htold : .watched key ∈ told
    · obtain ⟨r, hreg, -, hstage, rfl, hreg'⟩ := (hr.sound.changes hstep).watched hr.sound htold
      have hzero : past.countP (Fact.asksStream key) = 0 := by
        refine ih.unasked fun r' hreg' => ?_
        cases hreg.symm.trans hreg'
        exact hstage
      refine ⟨?_, fun hspawned => ?_⟩
      · simp [hzero, Fact.asksStream]
      · cases hspawned _ hreg'
    · have hcount : (past ++ told).countP (Fact.asksStream key) =
          past.countP (Fact.asksStream key) := by
        rw [List.countP_append, Fact.countP_asksStream htold, Nat.add_zero]
      exact ⟨hcount ▸ ih.once, fun hspawned => hcount ▸ ih.unasked (hback hspawned)⟩

/-- A population asks for the items at most once, and not before it begins. -/
structure ListedOnce (key : Key) (handle : Handle) (facts : List (Fact P)) (h : Hub P) : Prop where
  once : facts.countP (Fact.asksItems key handle) ≤ 1
  unasked : (∀ p, h.population? key handle = some p → ∃ checkpoint, p.stage = .spawned checkpoint) →
    facts.countP (Fact.asksItems key handle) = 0

theorem Reached.listed_once (hr : Reached config actions facts h) :
    ListedOnce key handle facts h := by
  induction hr with
  | new => exact ⟨Nat.zero_le 1, fun _ => rfl⟩
  | @step actions past h action h' told hr hstep ih =>
    have hw := (hr.sound.changes hstep).works key handle
    by_cases htold : .listed key handle ∈ told
    · obtain ⟨-, rfl, s, hsub, hstage, -⟩ := hw.listed htold
      have hzero : past.countP (Fact.asksItems key handle) = 0 := by
        refine ih.unasked fun p hp => ?_
        rw [population?, hsub] at hp
        cases hp
        exact ⟨none, hstage⟩
      refine ⟨?_, fun hspawned => absurd htold (hw.spawned hspawned).2⟩
      simp [hzero, Fact.asksItems]
    · have hcount : (past ++ told).countP (Fact.asksItems key handle) =
          past.countP (Fact.asksItems key handle) := by
        rw [List.countP_append, Fact.countP_asksItems htold, Nat.add_zero]
      exact ⟨hcount ▸ ih.once, fun hspawned => hcount ▸ ih.unasked (hw.spawned hspawned).1⟩

end Hub

end WatchHub
