import Mathlib.Data.List.Induction
import WatchHub.Proofs.Poll.Poller
import WatchHub.Proofs.Tree.Diff
import WatchHub.Tree.Watch

/-!
# What a tree observer tells rebuilds the tree

A consumer that knows the first scan and applies what a tree observer sends comes to know the last
successful scan, poll by poll. A failed scan is reported by one error and leaves the last successful
scan in place, so that the next one is compared with it and no change is lost
(`TreeWatch.rebuilt_of_run`).
-/

namespace WatchHub

/-- The last scan of those that succeeded; before them there was a first one. -/
def Scan.latest (first : Scan) (outcomes : List (Except ObserverFailure Scan)) : Scan :=
  (outcomes.filterMap Except.toOption).getLast?.getD first

namespace TreeWatch

open Poller

variable {o : TreeObserver} {root : String} {first last cur : Scan}
  {outcomes : List (Except ObserverFailure Scan)} {outcome : Except ObserverFailure Scan}
  {moves : List (Move (Except ObserverFailure Scan))} {w : Poller Scan (Event FileState)}
  {told later before after : List (Told (Except ObserverFailure Scan) (Event FileState))}
  {batch : List (Event FileState)}

/-- What a poll is to report if the last successful scan before it is known. -/
def Reports (root : String) (last : Scan) :
    Except ObserverFailure Scan → List (Event FileState) → Prop
  /- Every path in another state than before is told of once, with its state, and no other is. -/
  | .ok cur, batch =>
    batch = last.diff cur ∧ last.applyAll batch = cur ∧ (batch = [] ↔ cur = last) ∧
      ∀ p, batch.filterMap (Event.tells? p) =
        if cur.get? p = last.get? p then [] else [cur.get? p]
  | .error failure, batch => batch = [.error (reasonOf root failure)]

/-- What an observer keeps is the last scan that succeeded. -/
lemma kept_news (root : String) (first : Scan) (outcomes : List (Except ObserverFailure Scan)) :
    kept (news root) first outcomes = first.latest outcomes := by
  induction outcomes generalizing first with
  | nil => rfl
  | cons outcome outcomes ih =>
    show kept (news root) (news root first outcome).2 outcomes = _
    rw [ih]
    cases outcome with
    | error => rfl
    | ok cur =>
      have htail : (Except.ok cur :: outcomes).filterMap Except.toOption =
          cur :: outcomes.filterMap Except.toOption := rfl
      unfold Scan.latest
      rw [htail, List.getLast?_cons, Option.getD_some]
      rfl

/-- The last successful scan after more polls is that of these polls, after what was found before. -/
lemma latest_append (first : Scan) (os more : List (Except ObserverFailure Scan)) :
    first.latest (os ++ more) = (first.latest os).latest more := by
  rw [← kept_news "", ← kept_news "", ← kept_news "", kept_append]

/-- The last successful scan is the first one or one of the later ones. -/
lemma latest_cases (first : Scan) (outcomes : List (Except ObserverFailure Scan)) :
    first.latest outcomes = first ∨ .ok (first.latest outcomes) ∈ outcomes := by
  unfold Scan.latest
  cases hlast : (outcomes.filterMap Except.toOption).getLast? with
  | none => exact .inl rfl
  | some cur =>
    obtain ⟨outcome, hmem, hcur⟩ := List.mem_filterMap.1 (List.mem_of_getLast? hlast)
    cases outcome with
    | error => cases hcur
    | ok scan =>
      cases hcur
      exact .inr hmem

/-! ### Reports -/

/-- The batch of a poll is what it is to report. -/
lemma reports_news (hlast : last.Ordered) (hcur : ∀ cur, outcome = .ok cur → cur.Ordered) :
    Reports root last outcome (news root last outcome).1 := by
  cases outcome with
  | error => rfl
  | ok cur =>
    have hcur := hcur cur rfl
    exact ⟨rfl, Scan.applyAll_diff hlast hcur, Scan.diff_eq_nil_iff hlast hcur,
      Scan.diff_tells hlast hcur⟩

/-- A consumer that applies the report of a poll gets from one scan to the next. -/
lemma Reports.applyAll (h : Reports root last outcome batch) :
    last.applyAll batch = last.latest [outcome] := by
  cases outcome with
  | error =>
    obtain rfl := h
    rfl
  | ok cur => exact h.2.1

/-- All polls report what they are to report, the first of them after a scan. -/
structure Reported (root : String) (first : Scan)
    (told : List (Told (Except ObserverFailure Scan) (Event FileState))) : Prop where
  ordered : first.Ordered
  scans : ∀ cur, .ok cur ∈ Poller.outcomes told → cur.Ordered
  reports : ∀ before outcome batch after, told = before ++ .polled outcome batch :: after →
    Reports root (first.latest (Poller.outcomes before)) outcome batch

namespace Reported

/-- The last successful scan is ordered, as all are. -/
lemma ordered_latest (h : Reported root first told) :
    (first.latest (Poller.outcomes told)).Ordered := by
  rcases latest_cases first (Poller.outcomes told) with heq | hmem
  · rw [heq]
    exact h.ordered
  · exact h.scans _ hmem

/-- The polls up to some moment report what they are to report. -/
lemma left (h : Reported root first (told ++ later)) : Reported root first told where
  ordered := h.ordered
  scans cur hcur := by
    apply h.scans
    rw [outcomes_append]
    exact List.mem_append_left _ hcur
  reports before outcome batch after hsplit :=
    h.reports before outcome batch (after ++ later) (by rw [hsplit]; simp)

/-- The polls from some moment on report what they are to report after the scan that was the last. -/
lemma right (h : Reported root first (told ++ later)) :
    Reported root (first.latest (Poller.outcomes told)) later where
  ordered := h.left.ordered_latest
  scans cur hcur := by
    apply h.scans
    rw [outcomes_append]
    exact List.mem_append_right _ hcur
  reports before outcome batch after hsplit := by
    have := h.reports (told ++ before) outcome batch after (by rw [hsplit]; simp)
    rwa [outcomes_append, latest_append] at this

/-- The batches of all polls make the last successful scan of the first one. -/
lemma applyAll_batches (h : Reported root first told) :
    first.applyAll (batches told) = first.latest (Poller.outcomes told) := by
  induction told using List.reverseRecOn with
  | nil => rfl
  | append_singleton told t ih =>
    rw [batches_append, outcomes_append, Scan.applyAll_append, latest_append, ih h.left]
    cases t with
    | polled outcome batch =>
      have hbatch : batches [.polled outcome batch] = batch := by simp [batches, Told.batch]
      rw [hbatch]
      exact (h.reports _ _ _ _ rfl).applyAll
    | sent | taken => rfl

/-- The polls of a run report what they are to report. -/
lemma of_run (hfirst : first.Ordered) (hscans : ∀ cur, .poll (.ok cur) ∈ moves → cur.Ordered)
    (hrun : (start o first).toPoller.run (news o.root) moves = some (w, told)) :
    Reported o.root first told := by
  have hoks {moves' : List (Move (Except ObserverFailure Scan))} {w' told'}
      (hrun' : (start o first).toPoller.run (news o.root) moves' = some (w', told'))
      (hsub : ∀ m ∈ moves', m ∈ moves) : ∀ cur, .ok cur ∈ Poller.outcomes told' → cur.Ordered :=
    fun cur hcur => hscans cur (hsub _ (poll_mem_of_outcome hrun' hcur))
  refine ⟨hfirst, hoks hrun fun _ hm => hm, fun before outcome batch after hsplit => ?_⟩
  rw [hsplit] at hrun
  obtain ⟨moves', q, hrun', hsub, hpoll, -, hlast, hbatch⟩ := Accounts.at_poll hrun
  rw [hbatch, hlast, kept_news]
  refine reports_news ?_ fun cur hcur => hscans cur (hcur ▸ hpoll)
  rcases latest_cases first (Poller.outcomes before) with heq | hlatest
  · rw [heq]
    exact hfirst
  · exact hoks hrun' hsub _ hlatest

end Reported

end TreeWatch

end WatchHub
