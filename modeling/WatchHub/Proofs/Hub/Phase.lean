import WatchHub.Proofs.Hub.Intake
import WatchHub.Proofs.Hub.Registrations

/-!
# The phases of a key

A key has no registration, then one whose ingest runs, then one whose ingest has come to its end, and
when the hub drains it is unbound. No step leads back, so the states of the ingest that are seen along a
run come in this order (`Hub.Sound.course`).
-/

namespace WatchHub

variable {P : Type}

/-- How far the life of a key has come. -/
inductive Phase where
  | absent
  | running
  | stopped
  | unbound

namespace Phase

/-- The phases in their order. -/
def rank : Phase → Nat
  | absent => 0
  | running => 1
  | stopped => 2
  | unbound => 3

/-- The state of the ingest that is seen in a phase. -/
def state? : Phase → Option IngestState
  | absent | unbound => none
  | running => some .running
  | stopped => some .stopped

/-- The states that are seen from a phase on: first no key, then a running ingest, then a stopped one,
then no key any more. What lies before the phase is not seen. -/
def Course (phase : Phase) (states : List (Option IngestState)) : Prop :=
  ∃ absent running stopped unbound,
    states = List.replicate absent none ++ List.replicate running (some .running) ++
      List.replicate stopped (some .stopped) ++ List.replicate unbound none ∧
    (1 ≤ phase.rank → absent = 0) ∧ (2 ≤ phase.rank → running = 0) ∧ (3 ≤ phase.rank → stopped = 0)

lemma Course.nil (phase : Phase) : phase.Course [] :=
  ⟨0, 0, 0, 0, rfl, fun _ => rfl, fun _ => rfl, fun _ => rfl⟩

lemma Course.cons {phase phase' : Phase} {states : List (Option IngestState)}
    (h : phase'.Course states) (hle : phase.rank ≤ phase'.rank) :
    phase.Course (phase.state? :: states) := by
  obtain ⟨a, b, c, d, rfl, ha, hb, hc⟩ := h
  cases phase with
  | absent => exact ⟨a + 1, b, c, d, rfl, nofun, nofun, nofun⟩
  | running =>
    obtain rfl := ha hle
    exact ⟨0, b + 1, c, d, rfl, fun _ => rfl, nofun, nofun⟩
  | stopped =>
    obtain rfl := hb hle
    obtain rfl := ha (Nat.le_of_succ_le hle)
    exact ⟨0, 0, c + 1, d, rfl, fun _ => rfl, fun _ => rfl, nofun⟩
  | unbound =>
    obtain rfl := hc hle
    obtain rfl := hb (Nat.le_of_succ_le hle)
    obtain rfl := ha (Nat.le_of_succ_le (Nat.le_of_succ_le hle))
    exact ⟨0, 0, 0, d + 1, rfl, fun _ => rfl, fun _ => rfl, fun _ => rfl⟩

lemma rank_le_three (phase : Phase) : phase.rank ≤ 3 := by
  cases phase <;> decide

end Phase

/-- The phase of a registration. -/
def Registration.phase (r : Registration P) : Phase :=
  match r.bound, r.ingest.isFinished with
  | true, false => .running
  | true, true => .stopped
  | false, _ => .unbound

lemma Registration.Ages.phase_le {r r' : Registration P} (h : r.Ages r') :
    r.phase.rank ≤ r'.phase.rank := by
  unfold Registration.phase
  cases hbound : r'.bound with
  | false => exact Phase.rank_le_three _
  | true =>
    rw [h.bound hbound]
    cases hfinished : r.ingest.isFinished with
    | true => exact Nat.le_of_eq (by rw [h.finished hfinished])
    | false => cases r'.ingest.isFinished <;> decide

namespace Hub

variable {h h' : Hub P} {action : Action P} {actions : List (Action P)} {told : List (Fact P)}
  {key : Key}

/-- The phase of a key. -/
def phase (h : Hub P) (key : Key) : Phase :=
  match h.registration? key with
  | some r => r.phase
  | none => .absent

lemma ingestState?_eq (h : Hub P) (key : Key) : h.ingestState? key = (h.phase key).state? := by
  unfold ingestState? bound? phase
  cases h.registration? key with
  | none => rfl
  | some r =>
    cases hbound : r.bound <;> cases hfinished : r.ingest.isFinished <;>
      simp [Registration.phase, hbound, hfinished, Phase.state?]

/-- No step leads back to an earlier phase. -/
theorem Sound.phase_le (hs : h.Sound) (hstep : h.step action = some (h', told)) :
    (h.phase key).rank ≤ (h'.phase key).rank := by
  unfold phase
  cases hreg : h.registration? key with
  | none => exact Nat.zero_le _
  | some r =>
    obtain ⟨r', hreg', hages⟩ := hs.ages hstep hreg
    rw [hreg']
    exact hages.phase_le

/-- The hubs along a run, the first and the last among them. -/
def hubs (h : Hub P) : List (Action P) → List (Hub P)
  | [] => [h]
  | action :: actions =>
    h :: match h.step action with
      | some (h', _) => h'.hubs actions
      | none => []

/-- The states of an ingest along a run come in their order. -/
theorem Sound.course (hs : h.Sound) (actions : List (Action P)) (key : Key) :
    (h.phase key).Course ((h.hubs actions).map fun h => h.ingestState? key) := by
  induction actions generalizing h with
  | nil =>
    rw [hubs, List.map_singleton, ingestState?_eq]
    exact (Phase.Course.nil _).cons (Nat.le_refl _)
  | cons action actions ih =>
    rw [hubs, List.map_cons, ingestState?_eq]
    cases hstep : h.step action with
    | none => exact (Phase.Course.nil _).cons (Nat.le_refl _)
    | some out => exact (ih (hs.step hstep)).cons (hs.phase_le hstep)

/-- A key whose ingest was seen is bound to a registration. -/
lemma ingestState?_eq_some {state : IngestState} (hstate : h.ingestState? key = some state) :
    ∃ r, h.registration? key = some r ∧ r.bound = true ∧
      r.ingest.isFinished = (state matches .stopped) := by
  unfold ingestState? bound? at hstate
  cases hreg : h.registration? key with
  | none => simp [hreg] at hstate
  | some r =>
    cases hbound : r.bound <;> cases hfinished : r.ingest.isFinished <;>
      simp [hreg, hbound, hfinished] at hstate
    all_goals
      subst hstate
      exact ⟨r, rfl, hbound, hfinished⟩

/-- A key is lost by the drain of a shutdown. -/
lemma Sound.unbinds (hs : h.Sound) (hstep : h.step action = some (h', told)) {state : IngestState}
    (hstate : h.ingestState? key = some state) (hnone : h'.ingestState? key = none) :
    Unbinds h action h' := by
  obtain ⟨r, hreg, hbound, -⟩ := ingestState?_eq_some hstate
  obtain ⟨r', hreg', -, hsame | ⟨-, -, hunbinds⟩⟩ := hs.ages_or_unbinds hstep hreg
  · simp [ingestState?, bound?, hreg', hsame, hbound] at hnone
  · exact hunbinds

/-- What the end of an ingest leaves as it was: the logs, and the subscriptions but for the last event
that was fanned out. -/
structure Outlives (h : Hub P) (key : Key) (told : List (Fact P)) (h' : Hub P) : Prop where
  log_eq : h'.log = h.log
  subscriptions : ∀ key' handle s, h.subscription? key' handle = some s →
    ∃ s', h'.subscription? key' handle = some s' ∧ s'.member = s.member ∧ s'.closed = s.closed ∧
      (s' = s ∨ (key' = key ∧ ∃ d, .emitted key d ∈ told ∧ s' = (s.live d).2))

lemma Outlives.of_subscriptions (hlog : h'.log = h.log)
    (hsubs : ∀ key' handle, h'.subscription? key' handle = h.subscription? key' handle) :
    Outlives h key told h' :=
  ⟨hlog, fun key' handle s hsub => ⟨s, (hsubs key' handle).trans hsub, rfl, rfl, .inl rfl⟩⟩

lemma subscription?_of_put_same {key₀ : Key} {r r' : Registration P}
    (hreg : h.registration? key₀ = some r) (hregs : h'.registrations = h.registrations.put key₀ r')
    (hsame : r'.audience = r.audience) (key' : Key) (handle : Handle) :
    h'.subscription? key' handle = h.subscription? key' handle := by
  rw [subscription?_of_put hregs]
  split
  · rename_i heq
    rw [← heq, hsame, subscription?_of_registration? hreg]
  · rfl

/-- The last thing that an ingest does is to fan an event out, or nothing that concerns anybody. -/
lemma outlives_ingested {r : Registration P} {move : Ingest.Move} {out : Ingested P}
    (hkey : r.key = key) (hreg : h.registration? key = some r)
    (hi : r.Ingests h.stopped h.log move out)
    (hfinished : out.registration.ingest.isFinished = true) :
    Outlives h key out.facts ({ h with log := out.log }.putRegistration key out.registration) := by
  cases hi with
  | startCancelled | answerCrashed | stopWatching | stopStreaming | finish | cutOff | drop =>
    exact .of_subscriptions rfl (subscription?_of_put_same hreg rfl rfl)
  | @emit d last =>
    refine ⟨rfl, fun key' handle s hsub => ?_⟩
    rw [subscription?_of_put (h := h) rfl]
    split
    · rename_i heq
      subst heq
      rw [subscription?_of_registration? hreg] at hsub
      dsimp only [Registration.moveTo]
      rw [Audience.get?_emit, hsub, Option.map_some]
      split
      · refine ⟨_, rfl, ?_, ?_, .inr ⟨rfl, d, ?_, rfl⟩⟩
        · unfold Subscription.live
          split <;> rfl
        · unfold Subscription.live
          split <;> rfl
        · exact hkey ▸ List.mem_cons_self ..
      · exact ⟨s, rfl, rfl, rfl, .inl rfl⟩
    · exact ⟨s, hsub, rfl, rfl, .inl rfl⟩
  | wake hgoing | rest hgoing =>
    cases (Ingest.isFinished_of_not_isOver hgoing).symm.trans hfinished
  | _ => cases hfinished

/-- When the ingest of a key comes to its end, the logs and the open subscriptions stay. -/
theorem Sound.outlives (hs : h.Sound) (hstep : h.step action = some (h', told))
    (hrunning : h.ingestState? key = some .running)
    (hstopped : h'.ingestState? key = some .stopped) : Outlives h key told h' := by
  obtain ⟨r, hreg, -, hunfinished⟩ := ingestState?_eq_some hrunning
  obtain ⟨r', hreg', -, hfinished⟩ := ingestState?_eq_some hstopped
  have hne : ¬ r'.ingest.isFinished = r.ingest.isFinished := by
    rw [hfinished, hunfinished]
    exact nofun
  have hother : ¬ h'.ingest? key = h.ingest? key := by
    rw [ingest?, ingest?, hreg, hreg', Option.map_some, Option.map_some, Option.some.injEq]
    exact fun heq => hne (congrArg Ingest.isFinished heq)
  cases hs.changes hstep with
  | aside f haudience _ _ hlog hregs =>
    refine .of_subscriptions hlog fun key' handle => ?_
    rw [subscription?, subscription?, hregs]
    cases h.registration? key' with
    | none => rfl
    | some r => exact congrArg (Audience.get? · handle) (haudience key' r)
  | @registered key₀ _ _ _ hnone _ hregs =>
    have hne : key₀ ≠ key := by
      rintro rfl
      cases hnone.symm.trans hreg
    exact (hother ((ingest?_of_put hregs).trans (if_neg hne))).elim
  | joined _ hr _ _ hregs | left hr _ hregs | closed _ hr _ hregs =>
    exact (hother (ingest?_of_put_same hr hregs rfl)).elim
  | stopped _ _ hregs => exact (hother (ingest?_congr hregs)).elim
  | @ingested key₀ move r out hr hi =>
    by_cases heq : key₀ = key
    · subst heq
      cases hr.symm.trans hreg
      cases hreg'.symm.trans (registration?_of_put rfl)
      exact outlives_ingested (hs.keyed hr) hr hi hfinished
    · exact (hother ((ingest?_of_put rfl).trans (if_neg heq))).elim
  | populated hr | received hr | asked hr | hungUp hr =>
    exact (hother (ingest?_of_put_same hr rfl rfl)).elim
  | @sent key₀ event r hr =>
    by_cases heq : key₀ = key
    · subst heq
      cases hr.symm.trans hreg
      cases hreg'.symm.trans (registration?_of_put rfl)
      exact (hne (r.isFinished_send event)).elim
    · exact (hother ((ingest?_of_put rfl).trans (if_neg heq))).elim
  | @ended key₀ r hr =>
    by_cases heq : key₀ = key
    · subst heq
      cases hr.symm.trans hreg
      cases hreg'.symm.trans (registration?_of_put rfl)
      exact (hne rfl).elim
    · exact (hother ((ingest?_of_put rfl).trans (if_neg heq))).elim
  | located | recorded | cleared => exact (hother rfl).elim

end Hub

end WatchHub
