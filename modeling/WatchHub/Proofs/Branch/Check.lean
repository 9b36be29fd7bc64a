import Mathlib.Tactic.Lemma
import WatchHub.Branch.Watch

/-!
# One poll of a branch

The ways in which a poll of a branch goes (`Clone.Checks`): each of its commands may fail, the tip may
be where it was, and if it is not the clone is fast-forwarded on demand. What a poll reports tells which
way it went (`Clone.Judged`).
-/

namespace WatchHub

namespace Clone

open BranchWatch (tipOf look news)

variable {W : Type} {c : Clone W} {pull : Bool} {last : String} {w : W} {o : BranchObserver}

/-- How the fetch of a poll ends. -/
def fetched (c : Clone W) (w : W) : Except ObserverFailure Unit :=
  (c.command .fetch w).1

/-- The world after the fetch of a poll. -/
def afterFetch (c : Clone W) (w : W) : W :=
  (c.command .fetch w).2

/-- What a poll reads after its fetch. -/
def found (c : Clone W) (w : W) : Except ObserverFailure String :=
  c.tip (c.afterFetch w)

/-- How the pull of a poll ends, if there is one. -/
def pulled (c : Clone W) (w : W) : Except ObserverFailure Unit :=
  (c.command .pull (c.afterFetch w)).1

/-- The world after the pull of a poll. -/
def afterPull (c : Clone W) (w : W) : W :=
  (c.command .pull (c.afterFetch w)).2

/-- A poll finds the tip somewhere else. -/
def Moved (c : Clone W) (last : String) (w : W) : Prop :=
  c.fetched w = .ok () ∧ ∃ commit, c.found w = .ok commit ∧ commit ≠ last

/-- The ways in which a poll goes, with its outcome and the world after it. -/
inductive Checks (c : Clone W) (pull : Bool) (last : String) (w : W) :
    Except ObserverFailure (Option String) × W → Prop where
  | unfetched {failure : ObserverFailure} :
    c.fetched w = .error failure →
    Checks c pull last w (.error failure, c.afterFetch w)
  | unread {failure : ObserverFailure} :
    c.fetched w = .ok () → c.found w = .error failure →
    Checks c pull last w (.error failure, c.afterFetch w)
  | still :
    c.fetched w = .ok () → c.found w = .ok last →
    Checks c pull last w (.ok none, c.afterFetch w)
  | moved {commit : String} :
    c.fetched w = .ok () → c.found w = .ok commit → commit ≠ last → pull = false →
    Checks c pull last w (.ok (some commit), c.afterFetch w)
  | unpulled {commit : String} {failure : ObserverFailure} :
    c.fetched w = .ok () → c.found w = .ok commit → commit ≠ last → pull = true →
    c.pulled w = .error failure →
    Checks c pull last w (.error failure, c.afterPull w)
  | forwarded {commit : String} :
    c.fetched w = .ok () → c.found w = .ok commit → commit ≠ last → pull = true →
    c.pulled w = .ok () →
    Checks c pull last w (.ok (some commit), c.afterPull w)

/-- Every poll goes in one of these ways. -/
lemma checks (c : Clone W) (pull : Bool) (last : String) (w : W) :
    c.Checks pull last w (c.check pull last w) := by
  have hfetch : c.command .fetch w = (c.fetched w, c.afterFetch w) := rfl
  have hpull : c.command .pull (c.afterFetch w) = (c.pulled w, c.afterPull w) := rfl
  have hfound : c.tip (c.afterFetch w) = c.found w := rfl
  unfold check
  rw [hfetch]
  cases hfetched : c.fetched w with
  | error failure => exact .unfetched hfetched
  | ok =>
    simp only [hfound]
    cases hread : c.found w with
    | error failure => exact .unread hfetched hread
    | ok commit =>
      by_cases hlast : commit = last
      · subst hlast
        simpa using .still hfetched hread
      · cases pull with
        | false => simpa [hlast] using .moved hfetched hread hlast rfl
        | true =>
          simp only [hlast, if_false, if_true, hpull]
          cases hpulled : c.pulled w with
          | error failure => exact .unpulled hfetched hread hlast rfl hpulled
          | ok => exact .forwarded hfetched hread hlast rfl hpulled

/-! ### The commands of a poll -/

/-- The clone in a world where the commands that are run are written down. -/
def noting (c : Clone W) : Clone (W × List BranchCommand) where
  command command w := ((c.command command w.1).1, (c.command command w.1).2, w.2 ++ [command])
  tip w := c.tip w.1

/-- The commands that a poll runs. -/
def commands (c : Clone W) (pull : Bool) (last : String) (w : W) : List BranchCommand :=
  (c.noting.check pull last (w, [])).2.2

/-- Writing the commands down changes nothing. -/
lemma noting_check (c : Clone W) (pull : Bool) (last : String) (w : W) :
    (c.noting.check pull last (w, [])).1 = (c.check pull last w).1 ∧
      (c.noting.check pull last (w, [])).2.1 = (c.check pull last w).2 := by
  rcases hfetch : c.command .fetch w with ⟨_ | _, after⟩
  · simp [check, noting, hfetch]
  rcases htip : c.tip after with _ | commit
  · simp [check, noting, hfetch, htip]
  by_cases hlast : commit = last
  · simp [check, noting, hfetch, htip, hlast]
  cases pull with
  | false => simp [check, noting, hfetch, htip, hlast]
  | true =>
    rcases hpull : c.command .pull after with ⟨_ | _, final⟩ <;>
      simp [check, noting, hfetch, htip, hlast, hpull]

/-- A poll pulls after its fetch if the tip has moved and pulling is on, and else only fetches. -/
lemma commands_cases (c : Clone W) (pull : Bool) (last : String) (w : W) :
    (c.commands pull last w = [.fetch, .pull] ∧ c.Moved last w ∧ pull = true) ∨
      (c.commands pull last w = [.fetch] ∧ ¬(c.Moved last w ∧ pull = true)) := by
  unfold commands
  have h := c.noting.checks pull last (w, [])
  generalize c.noting.check pull last (w, []) = out at h ⊢
  cases h with
  | unfetched hfetched =>
    refine .inr ⟨rfl, ?_⟩
    rintro ⟨⟨hok, -⟩, -⟩
    cases hok.symm.trans hfetched
  | unread hfetched hfound =>
    refine .inr ⟨rfl, ?_⟩
    rintro ⟨⟨-, commit, hok, -⟩, -⟩
    cases hok.symm.trans hfound
  | still hfetched hfound =>
    refine .inr ⟨rfl, ?_⟩
    rintro ⟨⟨-, commit, hok, hne⟩, -⟩
    cases hok.symm.trans hfound
    exact hne rfl
  | moved hfetched hfound hne hpull =>
    refine .inr ⟨rfl, ?_⟩
    rintro ⟨-, hpull'⟩
    cases hpull.symm.trans hpull'
  | unpulled hfetched hfound hne hpull => exact .inl ⟨rfl, ⟨hfetched, _, hfound, hne⟩, hpull⟩
  | forwarded hfetched hfound hne hpull => exact .inl ⟨rfl, ⟨hfetched, _, hfound, hne⟩, hpull⟩

/-! ### The report of a poll -/

/-- What a poll is to report, and what it may run, if the last tip before it is known. -/
structure Judged (c : Clone W) (o : BranchObserver) (last : String) (w : W)
    (batch : List (Event BranchTip)) : Prop where
  /-- A poll reports nothing, a move, or one error. -/
  single : batch = [] ∨ (∃ commit, batch = [.modified (tipOf o commit)]) ∨
    ∃ reason, batch = [.error reason]
  nothing_iff : batch = [] ↔ c.fetched w = .ok () ∧ c.found w = .ok last
  moved_iff : ∀ commit, batch = [.modified (tipOf o commit)] ↔
    c.fetched w = .ok () ∧ c.found w = .ok commit ∧ commit ≠ last ∧
      (o.pull = true → c.pulled w = .ok ())
  /-- An error tells the failure of the first thing that failed. -/
  failed_iff : ∀ reason, batch = [.error reason] ↔ ∃ failure, reason = failure.message ∧
    (c.fetched w = .error failure ∨
      (c.fetched w = .ok () ∧ c.found w = .error failure) ∨
      (c.Moved last w ∧ o.pull = true ∧ c.pulled w = .error failure))
  /-- A pull is made only after a fetch that found a move. -/
  commands_eq : (c.commands o.pull last w = [.fetch, .pull] ∧ c.Moved last w ∧ o.pull = true) ∨
    (c.commands o.pull last w = [.fetch] ∧ ¬(c.Moved last w ∧ o.pull = true))
  noting_eq : (c.noting.check o.pull last (w, [])).1 = (c.check o.pull last w).1

/-- A poll reports one event at most. -/
lemma Judged.length_le {batch : List (Event BranchTip)} (h : c.Judged o last w batch) :
    batch.length ≤ 1 := by
  obtain rfl | ⟨_, rfl⟩ | ⟨_, rfl⟩ := h.single
  · exact Nat.zero_le 1
  · exact Nat.le_refl 1
  · exact Nat.le_refl 1

/-- A poll reports what it is to report. -/
lemma judged (c : Clone W) (o : BranchObserver) (last : String) (w : W) :
    c.Judged o last w (look c o last w).1 := by
  have hcommands := c.commands_cases o.pull last w
  have hnoting := (c.noting_check o.pull last w).1
  have h := c.checks o.pull last w
  show c.Judged o last w (news o last (c.check o.pull last w).1).1
  generalize c.check o.pull last w = out at h ⊢
  cases h with
  | unfetched hfetched =>
    refine ⟨.inr (.inr ⟨_, rfl⟩), ?_, fun commit => ?_, fun reason => ?_, hcommands, hnoting⟩ <;>
      simp [news, Moved, hfetched, Event.error, Event.modified, Event.of]
    exact eq_comm
  | unread hfetched hfound =>
    refine ⟨.inr (.inr ⟨_, rfl⟩), ?_, fun commit => ?_, fun reason => ?_, hcommands, hnoting⟩ <;>
      simp [news, Moved, hfetched, hfound, Event.error, Event.modified, Event.of]
    exact eq_comm
  | still hfetched hfound =>
    refine ⟨.inl rfl, ?_, fun commit => ?_, fun reason => ?_, hcommands, hnoting⟩ <;>
      simp [news, Moved, hfetched, hfound, Event.error, Event.modified, Event.of]
    exact fun heq hne => absurd heq.symm hne
  | moved hfetched hfound hne hpull =>
    refine ⟨.inr (.inl ⟨_, rfl⟩), ?_, fun commit => ?_, fun reason => ?_, hcommands, hnoting⟩ <;>
      simp [news, Moved, hfetched, hfound, hne, hpull, Event.error, Event.modified, Event.of, tipOf]
    rintro rfl
    exact hne
  | unpulled hfetched hfound hne hpull hpulled =>
    refine ⟨.inr (.inr ⟨_, rfl⟩), ?_, fun commit => ?_, fun reason => ?_, hcommands, hnoting⟩ <;>
      simp [news, Moved, hfetched, hfound, hne, hpull, hpulled, Event.error, Event.modified, Event.of]
    exact eq_comm
  | forwarded hfetched hfound hne hpull hpulled =>
    refine ⟨.inr (.inl ⟨_, rfl⟩), ?_, fun commit => ?_, fun reason => ?_, hcommands, hnoting⟩ <;>
      simp [news, Moved, hfetched, hfound, hne, hpull, hpulled, Event.error, Event.modified, Event.of,
        tipOf]
    rintro rfl
    exact hne

end Clone

end WatchHub
