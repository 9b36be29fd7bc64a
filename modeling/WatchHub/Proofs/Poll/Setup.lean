import Mathlib.Order.Bounds.Basic
import WatchHub.Poll.Setup
import WatchHub.Proofs.Policy.Cap

/-!
# The calls of a set-up

A set-up in surroundings that keep a record makes the same calls and waits (`Setup.attempts_recorded`),
so what it does can be read off the record. It is compared with a trial that never stops: the set-up makes
the calls of the trial up to the first one that is the last (`Setup.Trial.Last`), waits the delay of the
policy between two of them, and ends as that call ends it (`Setup.Trial.Ending`).
-/

namespace WatchHub.Setup

variable {W α : Type}
  {s : Surroundings W α} {delays : Nat → Except SecondsFault Duration} {observer : String}
  {failure : ObserverFailure} {d : Duration}

/-! ### Records -/

/-- One thing that a set-up does. -/
inductive Deed (α : Type) where
  | called (answer : Except ObserverFailure α)
  | waited (delay : Duration) (passed : Bool)

/-- The answer to a call. -/
def Deed.answer? : Deed α → Option (Except ObserverFailure α)
  | called answer => some answer
  | waited .. => none

/-- Surroundings with a record of what was done in them. -/
def Surroundings.recorded (s : Surroundings W α) : Surroundings (W × List (Deed α)) α where
  attempt w := ((s.attempt w.1).1, (s.attempt w.1).2, w.2 ++ [.called (s.attempt w.1).1])
  isCancelled w := s.isCancelled w.1
  wait delay w :=
    ((s.wait delay w.1).1, (s.wait delay w.1).2, w.2 ++ [.waited delay (s.wait delay w.1).1])

@[simp]
lemma recorded_attempt (w : W × List (Deed α)) :
    s.recorded.attempt w =
      ((s.attempt w.1).1, (s.attempt w.1).2, w.2 ++ [.called (s.attempt w.1).1]) :=
  rfl

@[simp]
lemma recorded_isCancelled (w : W × List (Deed α)) : s.recorded.isCancelled w = s.isCancelled w.1 :=
  rfl

@[simp]
lemma recorded_wait (d : Duration) (w : W × List (Deed α)) :
    s.recorded.wait d w =
      ((s.wait d w.1).1, (s.wait d w.1).2, w.2 ++ [.waited d (s.wait d w.1).1]) :=
  rfl

/-- The record changes nothing else. -/
lemma attempts_recorded (left done : Nat) (w : W) (log : List (Deed α)) :
    (attempts s.recorded delays observer left done (w, log)).outcome =
        (attempts s delays observer left done w).outcome ∧
      (attempts s.recorded delays observer left done (w, log)).world.1 =
        (attempts s delays observer left done w).world ∧
      (attempts s.recorded delays observer left done (w, log)).retries =
        (attempts s delays observer left done w).retries := by
  fun_induction attempts s delays observer left done w generalizing log <;> rw [attempts] <;> simp_all
  case case5 => rfl
  case case6 => exact ⟨rfl, rfl, rfl, rfl⟩

/-! ### Endless trials -/

/-- A set-up that never stops trying: where there is no delay it goes on at once. -/
structure Trial (W α : Type) where
  surroundings : Surroundings W α
  policy : RetryPolicy
  draws : Nat → Nat
  start : W

namespace Trial

variable (t : Trial W α)

/-- The delay after a call, counted from zero. -/
def delay (i : Nat) : Except SecondsFault Duration :=
  t.policy.delay (t.draws i) i

/-- How long the trial waits after a call. -/
def pause (i : Nat) : Duration :=
  (t.delay i).toOption.getD .zero

/-- The world before a call. -/
def before : Nat → W
  | 0 => t.start
  | i + 1 => (t.surroundings.wait (t.pause i) (t.surroundings.attempt (before i)).2).2

/-- What a call answers. -/
def answer (i : Nat) : Except ObserverFailure α :=
  (t.surroundings.attempt (t.before i)).1

/-- The world after a call. -/
def after (i : Nat) : W :=
  (t.surroundings.attempt (t.before i)).2

/-- Whether the wait after a call passes without a cancellation. -/
def passes (i : Nat) : Bool :=
  (t.surroundings.wait (t.pause i) (t.after i)).1

/-- The call succeeds. -/
def Succeeds (i : Nat) : Prop :=
  ∃ value, t.answer i = .ok value

/-- The call fails in a way that another one cannot mend. -/
def Refuses (i : Nat) : Prop :=
  ∃ failure, t.answer i = .error failure ∧ failure.isRetryable = false

/-- No call follows this one. -/
inductive Last (i : Nat) : Prop
  | spent (h : t.policy.totalAttempts ≤ i + 1)
  | success (h : t.Succeeds i)
  | refusal (h : t.Refuses i)
  | found (h : t.surroundings.isCancelled (t.after i) = true)
  /-- The delay after the call cannot be represented. -/
  | undelayed (h : ∃ fault, t.delay i = .error fault)
  /-- The wait after the call is cut short. -/
  | cut (h : t.passes i = false)

/-- The calls before one of them, each with the wait after it. -/
def rounds (n : Nat) : List (Deed α) :=
  (List.range n).flatMap fun i => [.called (t.answer i), .waited (t.pause i) true]

/-- A failed call may be followed by another one, after a wait. -/
def MayRetry (n : Nat) (failure : ObserverFailure) : Prop :=
  n + 1 < t.policy.totalAttempts ∧ failure.isRetryable = true ∧
    t.surroundings.isCancelled (t.after n) = false

/-- How the last call ends a set-up, and what is done from it on. -/
inductive Ending (observer : String) (n : Nat) : Outcome α → List (Deed α) → Prop
  | ready {value : α} (hanswer : t.answer n = .ok value) :
      Ending observer n (.ready value) [.called (t.answer n)]
  | failed {failure : ObserverFailure} (hanswer : t.answer n = .error failure)
      (hstop : ¬ t.MayRetry n failure) :
      Ending observer n (.failed (.setup observer failure.message)) [.called (t.answer n)]
  | broken {failure : ObserverFailure} {fault : SecondsFault} (hanswer : t.answer n = .error failure)
      (hgo : t.MayRetry n failure) (hdelay : t.delay n = .error fault) :
      Ending observer n (.broken fault) [.called (t.answer n)]
  | cancelled {failure : ObserverFailure} (hanswer : t.answer n = .error failure)
      (hgo : t.MayRetry n failure) (hdelay : t.delay n = .ok (t.pause n)) (hwait : t.passes n = false) :
      Ending observer n (.failed (.setup observer ("cancelled after: " ++ failure.message)))
        [.called (t.answer n), .waited (t.pause n) false]

variable {t} {n : Nat}

lemma rounds_succ (n : Nat) :
    t.rounds (n + 1) = t.rounds n ++ [.called (t.answer n), .waited (t.pause n) true] := by
  simp [rounds, List.range_succ]

lemma pause_eq (h : t.delay n = .ok d) : t.pause n = d := by
  rw [pause, h]
  rfl

lemma delay_eq_pause (h : ¬ ∃ fault, t.delay n = .error fault) : t.delay n = .ok (t.pause n) := by
  cases hdelay : t.delay n with
  | ok d => rw [pause_eq hdelay]
  | error fault => exact absurd ⟨fault, hdelay⟩ h

/-- The set-up makes a call of the trial. -/
lemma call_inv {w w' : W × List (Deed α)} {answer : Except ObserverFailure α}
    (hw : w = (t.before n, t.rounds n)) (h : t.surroundings.recorded.attempt w = (answer, w')) :
    t.answer n = answer ∧ w' = (t.after n, t.rounds n ++ [.called (t.answer n)]) := by
  rw [hw, recorded_attempt] at h
  exact (Prod.mk.inj h).imp id Eq.symm

/-- The set-up waits after a call of the trial. -/
lemma wait_inv {w : W × List (Deed α)} {passed : Bool} (hdelay : t.delay n = .ok d)
    (h : t.surroundings.recorded.wait d (t.after n, t.rounds n ++ [.called (t.answer n)]) = (passed, w)) :
    t.delay n = .ok (t.pause n) ∧ t.passes n = passed ∧
      w = (t.before (n + 1), t.rounds n ++ [.called (t.answer n), .waited (t.pause n) passed]) := by
  obtain rfl := pause_eq hdelay
  rw [recorded_wait] at h
  obtain ⟨rfl, rfl⟩ := Prod.mk.inj h
  exact ⟨hdelay, rfl, by simp [before, after]⟩

lemma isLeast_of_last (h : t.Last n) : IsLeast {i | n ≤ i ∧ t.Last i} n :=
  ⟨⟨le_rfl, h⟩, fun _ hi => hi.1⟩

/-- A call is followed by another if nothing keeps the set-up from it. -/
lemma not_last (hanswer : t.answer n = .error failure) (hgo : t.MayRetry n failure)
    (hdelay : t.delay n = .ok d) (hpasses : t.passes n = true) : ¬ t.Last n := by
  obtain ⟨hbudget, hretry, hcancelled⟩ := hgo
  intro hlast
  cases hlast with
  | spent h => exact absurd hbudget (Nat.not_lt_of_le h)
  | success h => simp [Succeeds, hanswer] at h
  | refusal h => simp [Refuses, hanswer, hretry] at h
  | found h => simp [hcancelled] at h
  | undelayed h => simp [hdelay] at h
  | cut h => simp [hpasses] at h

/-- A set-up that has come as far as a call of the trial ends with the first last one from there on. -/
lemma exists_ending (t : Trial W α) (observer : String) (left done : Nat) {w : W × List (Deed α)}
    (hw : w = (t.before done, t.rounds done)) (hleft : done + left + 1 = t.policy.totalAttempts) :
    ∃ n tail, IsLeast {i | done ≤ i ∧ t.Last i} n ∧
      (attempts t.surroundings.recorded t.delay observer left done w).world.2 = t.rounds n ++ tail ∧
      t.Ending observer n (attempts t.surroundings.recorded t.delay observer left done w).outcome tail := by
  fun_induction attempts t.surroundings.recorded t.delay observer left done w with
  | case1 left done w value w' hcall =>
    obtain ⟨hanswer, rfl⟩ := call_inv hw hcall
    exact ⟨done, _, isLeast_of_last (.success ⟨value, hanswer⟩), rfl, .ready hanswer⟩
  | case2 done w failure w' hcall =>
    obtain ⟨hanswer, rfl⟩ := call_inv hw hcall
    have hstop : ¬ t.MayRetry done failure := fun h => Nat.not_le_of_lt h.1 hleft.ge
    exact ⟨done, _, isLeast_of_last (.spent hleft.ge), rfl, .failed hanswer hstop⟩
  | case3 done w failure w' hcall left hstop =>
    obtain ⟨hanswer, rfl⟩ := call_inv hw hcall
    rw [Bool.or_eq_true, Bool.not_eq_true', recorded_isCancelled] at hstop
    refine ⟨done, _, isLeast_of_last ?_, rfl, .failed hanswer ?_⟩
    · exact hstop.elim (fun h => .refusal ⟨failure, hanswer, h⟩) .found
    · rintro ⟨-, hretry, hcancelled⟩
      simp [hretry, hcancelled] at hstop
  | case4 done w failure w' hcall left hgo fault hdelay =>
    obtain ⟨hanswer, rfl⟩ := call_inv hw hcall
    have hgo : t.MayRetry done failure := ⟨by omega, by simpa using hgo⟩
    exact ⟨done, _, isLeast_of_last (.undelayed ⟨fault, hdelay⟩), rfl, .broken hanswer hgo hdelay⟩
  | case5 done w failure w' hcall left hgo d hdelay retry w'' hwait =>
    obtain ⟨hanswer, rfl⟩ := call_inv hw hcall
    obtain ⟨hpause, hcut, rfl⟩ := wait_inv hdelay hwait
    have hgo : t.MayRetry done failure := ⟨by omega, by simpa using hgo⟩
    exact ⟨done, _, isLeast_of_last (.cut hcut), rfl, .cancelled hanswer hgo hpause hcut⟩
  | case6 done w failure w' hcall left hgo d hdelay retry w'' hwait result ih =>
    obtain ⟨hanswer, rfl⟩ := call_inv hw hcall
    obtain ⟨-, hpasses, rfl⟩ := wait_inv hdelay hwait
    have hgo : t.MayRetry done failure := ⟨by omega, by simpa using hgo⟩
    obtain ⟨n, tail, ⟨⟨hle, hlast⟩, hleast⟩, hdeeds, hending⟩ := ih (by rw [rounds_succ]) (by omega)
    refine ⟨n, tail, ⟨⟨by omega, hlast⟩, fun i hi => ?_⟩, hdeeds, hending⟩
    rcases hi.1.lt_or_eq with hlt | rfl
    · exact hleast ⟨hlt, hi.2⟩
    · exact absurd hi.2 (not_last hanswer hgo hdelay hpasses)

/-! ### The whole set-up -/

/-- What a set-up that ends with a certain call of the trial, counted from zero, has done. -/
structure Course (t : Trial W α) (observer : String) (n : Nat) (r : Result (W × List (Deed α)) α) :
    Prop where
  /-- It ends with the first call that is the last. -/
  least : IsLeast {i | t.Last i} n
  /-- These are the answers to its calls. -/
  calls : r.world.2.filterMap Deed.answer? = (List.range (n + 1)).map t.answer
  /-- Between two calls it waits the delay of the policy. -/
  delays : ∀ i < n, t.policy.delay (t.draws i) i = .ok (t.pause i)
  ending : ∃ tail, r.world.2 = t.rounds n ++ tail ∧ t.Ending observer n r.outcome tail

lemma answers_rounds (n : Nat) : (t.rounds n).filterMap Deed.answer? = (List.range n).map t.answer := by
  induction n with
  | zero => rfl
  | succ n ih => simp [rounds_succ, List.range_succ, ih, Deed.answer?]

lemma Ending.answers {outcome : Outcome α} {tail : List (Deed α)} (h : t.Ending observer n outcome tail) :
    tail.filterMap Deed.answer? = [t.answer n] := by
  cases h <;> rfl

lemma Ending.not_retryable {tail : List (Deed α)}
    (h : t.Ending observer n (.failed failure) tail) : failure.isRetryable = false := by
  cases h <;> rfl

lemma course_of_run (t : Trial W α) (observer : String) :
    ∃ n, t.Course observer n
      (run t.surroundings.recorded t.policy t.draws observer (t.start, [])) := by
  have hbudget : 0 < t.policy.totalAttempts := Nat.le_max_right ..
  obtain ⟨n, tail, hleast, hdeeds, hending⟩ :=
    t.exists_ending observer (t.policy.totalAttempts - 1) 0 rfl (by omega)
  have hfirst : IsLeast {i | t.Last i} n := by simpa using hleast
  refine ⟨n, hfirst, ?_, fun i hi => ?_, tail, hdeeds, hending⟩
  · have hcalls := congrArg (List.filterMap Deed.answer?) hdeeds
    rw [List.filterMap_append, answers_rounds, hending.answers] at hcalls
    rw [List.range_succ, List.map_append]
    exact hcalls
  · refine delay_eq_pause fun h => ?_
    exact Nat.not_le_of_lt hi (hfirst.2 (.undelayed h))

/-- How a set-up ends that is not cancelled. -/
def verdict (t : Trial W α) (observer : String) (n : Nat) : Outcome α :=
  match t.answer n with
  | .ok value => .ready value
  | .error failure => .failed (.setup observer failure.message)

lemma Course.call_le {r : Result (W × List (Deed α)) α} (h : t.Course observer n r) :
    n + 1 ≤ t.policy.totalAttempts := by
  have hbudget : 0 < t.policy.totalAttempts := Nat.le_max_right ..
  have hlast : t.Last (t.policy.totalAttempts - 1) := .spent (by omega)
  have := h.least.2 hlast
  omega

/-- A set-up breaks down only if at most 1024 whole seconds are missing from the cap to 2^64. -/
lemma Course.not_broken {r : Result (W × List (Deed α)) α} (h : t.Course observer n r)
    (hmax : t.policy.max.secs < 2 ^ 64 - 1024) (fault : SecondsFault) : r.outcome ≠ .broken fault := by
  obtain ⟨tail, -, hending⟩ := h.ending
  intro hbroken
  rw [hbroken] at hending
  cases hending with
  | broken hanswer hgo hdelay =>
    have := (RetryPolicy.base_eq_error_iff.1 (RetryPolicy.delay_eq_error_iff.1 hdelay)).2.1
    omega

/-- Without a cancellation what ends a set-up is its budget, the first success or the first failure that
cannot be mended. -/
lemma Course.undisturbed {r : Result (W × List (Deed α)) α} (h : t.Course observer n r)
    (hbroken : ∀ fault, r.outcome ≠ .broken fault) (hwaited : ∀ d, Deed.waited d false ∉ r.world.2)
    (hcancelled : t.surroundings.isCancelled (t.after n) = false) :
    IsLeast {k | k = t.policy.totalAttempts ∨ ∃ i, k = i + 1 ∧ (t.Succeeds i ∨ t.Refuses i)} (n + 1) ∧
      r.world.2 = t.rounds n ++ [.called (t.answer n)] ∧ r.outcome = t.verdict observer n := by
  have hbelow : n + 1 ∈ lowerBounds
      {k | k = t.policy.totalAttempts ∨ ∃ i, k = i + 1 ∧ (t.Succeeds i ∨ t.Refuses i)} := by
    rintro k (rfl | ⟨i, rfl, hsettled⟩)
    · exact h.call_le
    · refine Nat.succ_le_succ (h.least.2 ?_)
      exact hsettled.elim .success .refusal
  obtain ⟨tail, hdeeds, hending⟩ := h.ending
  generalize houtcome : r.outcome = outcome at hending hbroken
  unfold verdict
  cases hending with
  | ready hanswer =>
    rw [hanswer] at hdeeds ⊢
    exact ⟨⟨.inr ⟨n, rfl, .inl ⟨_, hanswer⟩⟩, hbelow⟩, hdeeds, rfl⟩
  | failed hanswer hstop =>
    refine ⟨⟨?_, hbelow⟩, hdeeds, by rw [hanswer]⟩
    rcases Nat.lt_or_ge (n + 1) t.policy.totalAttempts with hbudget | hspent
    · refine .inr ⟨n, rfl, .inr ⟨_, hanswer, Bool.eq_false_iff.2 fun hretry => ?_⟩⟩
      exact hstop ⟨hbudget, hretry, hcancelled⟩
    · exact .inl (Nat.le_antisymm h.call_le hspent)
  | broken hanswer hgo hdelay => exact absurd rfl (hbroken _)
  | cancelled hanswer hgo hdelay hwait => exact absurd (by simp [hdeeds]) (hwaited (t.pause n))

/-- A set-up makes the calls of an endless trial up to the first that is the last, with the delays of the
policy between them, and ends as that call ends it: no more calls than the policy allows, and without a
cancellation as many as it takes to the first success or the first failure that cannot be mended. It
breaks down only where the policy has no delay. -/
theorem calls_of_run (t : Trial W α) (observer : String) :
    ∃ n, ∃ r, r = run t.surroundings.recorded t.policy t.draws observer (t.start, []) ∧
      r.outcome = (run t.surroundings t.policy t.draws observer t.start).outcome ∧
      t.Course observer n r ∧ n + 1 ≤ Nat.max t.policy.attempts 1 ∧
      (t.policy.attempts < 2 ^ 32 → n + 1 < 2 ^ 32) ∧
      (∀ failure, r.outcome = .failed failure → failure.isRetryable = false) ∧
      (t.policy.max.secs < 2 ^ 64 - 1024 → ∀ fault, r.outcome ≠ .broken fault) ∧
      ((∀ fault, r.outcome ≠ .broken fault) → (∀ d, Deed.waited d false ∉ r.world.2) →
        t.surroundings.isCancelled (t.after n) = false →
        IsLeast {k | k = Nat.max t.policy.attempts 1 ∨ ∃ i, k = i + 1 ∧ (t.Succeeds i ∨ t.Refuses i)}
            (n + 1) ∧
          r.world.2 = t.rounds n ++ [.called (t.answer n)] ∧ r.outcome = t.verdict observer n) := by
  obtain ⟨n, hcourse⟩ := course_of_run t observer
  have hcalls := hcourse.call_le
  refine ⟨n, _, rfl, (attempts_recorded ..).1, hcourse, hcalls, fun h => ?_, fun failure h => ?_,
    hcourse.not_broken, hcourse.undisturbed⟩
  · have : t.policy.totalAttempts < 2 ^ 32 := Nat.max_lt.2 ⟨h, by decide⟩
    omega
  · obtain ⟨tail, -, hending⟩ := hcourse.ending
    exact (h ▸ hending).not_retryable

end Trial

/-- Surroundings in which every attempt fails and nothing is cancelled. -/
def failing : Surroundings Unit Unit where
  attempt w := (.error (.io "root" .missing), w)
  isCancelled _ := false
  wait _ w := (true, w)

/-- A set-up with two attempts, as far apart as the longest duration, breaks down after the first. -/
theorem breaks_down :
    run failing.recorded (.atCap 2 .longest) (fun _ => 0) "file" ((), []) =
      ⟨.broken .outOfRange, ((), [.called (.error (.io "root" .missing))]), []⟩ := by
  have hdelay := (RetryPolicy.delay_atCap 2 .longest 0).trans Duration.ofSeconds_longest
  have hleft : (RetryPolicy.atCap 2 .longest).totalAttempts - 1 = 1 := rfl
  rw [run, hleft, attempts]
  simp [failing, hdelay, ObserverFailure.isRetryable]

end WatchHub.Setup
