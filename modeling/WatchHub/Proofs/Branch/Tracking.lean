import Mathlib.Data.List.Chain
import WatchHub.Proofs.Branch.Check
import WatchHub.Proofs.Poll.Poller

/-!
# What a branch observer tells of a branch

A branch observer reports the moves of a tip, poll by poll (`BranchWatch.tracked_of_run`). The last tip
that it keeps is the first tip, or the commit of its last report of a move. Whatever fails leaves it as
it is, so that a later poll compares with it again and no move is lost; and no two neighbours among the
first tip and the reported commits are equal.
-/

namespace WatchHub

/-- The commit of the move that an event reports. -/
def Event.commit? (e : Event BranchTip) : Option String :=
  match e.kind, e.payload with
  | .modified, some tip => some tip.commit
  | _, _ => none

namespace BranchWatch

open Poller

variable {W : Type} {c : Clone W} {o : BranchObserver} {first last : String} {w : W}
  {events batch : List (Event BranchTip)} {moves : List (Move W)}
  {p p' : Poller String (Event BranchTip)} {told : List (Told W (Event BranchTip))}

/-- The commits of the moves that events report. -/
def commits (events : List (Event BranchTip)) : List String :=
  events.filterMap Event.commit?

/-- The last tip that events report; before the first move it is the first tip. -/
def latest (first : String) (events : List (Event BranchTip)) : String :=
  (commits events).getLast?.getD first

lemma commits_append (events more : List (Event BranchTip)) :
    commits (events ++ more) = commits events ++ commits more :=
  List.filterMap_append

/-- The first tip, or the last commit after it, ends the list of both. -/
lemma getLast?_cons_commits (first : String) (events : List (Event BranchTip)) :
    (first :: commits events).getLast? = some (latest first events) := by
  rw [List.getLast?_cons]
  rfl

/-- A poll reports a move to another tip and keeps that one, or it keeps the last tip. -/
lemma look_cases (c : Clone W) (o : BranchObserver) (last : String) (w : W) :
    (commits (look c o last w).1 = [] ∧ (look c o last w).2 = last) ∨
      ∃ commit, commit ≠ last ∧ commits (look c o last w).1 = [commit] ∧
        (look c o last w).2 = commit := by
  have h := c.checks o.pull last w
  unfold look
  generalize c.check o.pull last w = out at h ⊢
  cases h with
  | unfetched | unread | still | unpulled => exact .inl ⟨rfl, rfl⟩
  | moved _ _ hne | forwarded _ _ hne => exact .inr ⟨_, hne, rfl, rfl⟩

/-- What an observer keeps is the last tip that it reported, and no two neighbours are equal among the
tips that it kept. -/
structure Tracks (first : String) (p : Poller String (Event BranchTip))
    (told : List (Told W (Event BranchTip))) : Prop where
  last_eq : p.last = latest first (batches told)
  isChain : (first :: commits (batches told)).IsChain (· ≠ ·)

/-- Every step keeps track of the tip. -/
lemma Tracks.step {move : Move W} {new : List (Told W (Event BranchTip))} (ht : Tracks first p told)
    (h : Steps (look c o) p move p' new) : Tracks first p' (told ++ new) := by
  cases h with
  | polled w =>
    have hbatch : batches (told ++ [.polled w (look c o p.last w).1]) =
        batches told ++ (look c o p.last w).1 := by
      simp [batches, Told.batch]
    rcases look_cases c o p.last w with ⟨hnone, hlast⟩ | ⟨commit, hne, hone, hlast⟩
    · have hsame : commits (batches told ++ (look c o p.last w).1) = commits (batches told) := by
        rw [commits_append, hnone, List.append_nil]
      refine ⟨?_, ?_⟩
      · rw [hbatch, latest, hsame]
        exact hlast.trans ht.last_eq
      · rw [hbatch, hsame]
        exact ht.isChain
    · have hmore : commits (batches told ++ (look c o p.last w).1) =
          commits (batches told) ++ [commit] := by
        rw [commits_append, hone]
      refine ⟨?_, ?_⟩
      · rw [hbatch, latest, hmore, List.getLast?_append]
        exact hlast
      · rw [hbatch, hmore, ← List.cons_append]
        refine ht.isChain.append (List.isChain_singleton _) fun a ha b hb => ?_
        rw [getLast?_cons_commits, ← ht.last_eq] at ha
        cases ha
        cases hb
        exact hne.symm
  | sent | taken =>
    have hbatch (t : Told W (Event BranchTip)) (hnone : t.batch = []) :
        batches (told ++ [t]) = batches told := by
      simp [batches, hnone]
    refine ⟨?_, ?_⟩ <;> rw [hbatch _ rfl]
    · exact ht.last_eq
    · exact ht.isChain
  | signalled | ended | hungUp =>
    rw [List.append_nil]
    exact ⟨ht.last_eq, ht.isChain⟩

/-- An observer keeps track of the tip in every run. -/
lemma Tracks.of_run (hrun : (start o first).toPoller.run (look c o) moves = some (p, told)) :
    Tracks first p told :=
  run_induction (motive := fun p told => Tracks first p told) Tracks.step
    ⟨rfl, List.isChain_singleton _⟩ hrun

/-- What a branch observer sends, whatever becomes of its commands. Each poll is judged by the last tip
that was reported, which changes only with the report of a move; it is made when everything before it
was sent. A poll reports one event, or none if its fetch succeeds and the tip is where it was: the move
if all its commands succeed, and else what failed first. It pulls only if the tip has moved and pulling
is on, and what is sent comes of the poll before. Among the first tip and the commits of all moves no
two neighbours are equal. As long as the stream is open every report is sent and the observer comes to
its next poll; once the observer has stopped or nobody takes nothing is sent any more. -/
theorem tracked_of_run (hrun : (start o first).toPoller.run (look c o) moves = some (p, told)) :
    (∀ before w batch after, told = before ++ .polled w batch :: after →
      sent before = batches before ∧
      c.Judged o (latest first (sent before)) w batch) ∧
    p.last = latest first (batches told) ∧
    (first :: commits (batches told)).IsChain (· ≠ ·) ∧
    (first :: commits (sent told)).IsChain (· ≠ ·) ∧
    sent told <+: batches told ∧
    (p.stream.isIdle = true → sent told = batches told) ∧
    (∀ before e after, told = before ++ .sent e :: after → ∃ earlier w later,
      before = earlier ++ .polled w [e] :: later ∧ outcomes later = [] ∧ sent later = []) ∧
    (p.stream.ended = false → p.stream.abandoned = false → ∀ w, ∃ more p' later,
      (∀ move ∈ more, move.IsTraffic) ∧
      p.run (look c o) (more ++ [.poll w]) = some (p', later) ∧ outcomes later = [w]) ∧
    (p.stream.ended = true ∨ p.stream.abandoned = true → ∀ more p' later,
      p.run (look c o) more = some (p', later) → sent later = []) := by
  have ha : Accounts (look c o) o.poll first told p := .of_run hrun
  have ht : Tracks first p told := .of_run hrun
  have hsent : sent told <+: batches told := (List.prefix_append ..).trans ha.sent_isPrefix
  refine ⟨?_, ht.last_eq, ht.isChain, ?_, hsent, ha.sent_of_idle, ?_,
    fun hopen hheld => ha.pollable hopen hheld, fun hover more p' later hmore => ha.silent hover hmore⟩
  · rintro before w batch after rfl
    obtain ⟨moves', q, hrun', -, -, hall, -, hbatch⟩ := Accounts.at_poll hrun
    have hlast := (Tracks.of_run hrun').last_eq
    refine ⟨hall, ?_⟩
    rw [hall, ← hlast, hbatch]
    exact c.judged o q.last w
  · obtain ⟨rest, hrest⟩ := hsent
    refine ht.isChain.prefix (List.cons_prefix_cons.2 ⟨rfl, commits rest, ?_⟩)
    rw [← commits_append, hrest]
  · rintro before e after rfl
    obtain ⟨moves', move, q, q', hrun', hstep, -, -⟩ := run_split hrun
    have hsend : Steps (look c o) q .send q' [.sent e] := by
      cases hstep with
      | sent hblocked hheld hroom => exact .sent hblocked hheld hroom
    obtain ⟨earlier, w, batch, later, rest, rfl, houtcomes, hbatch⟩ := Accounts.at_send hrun' hsend
    obtain ⟨-, r, -, -, -, -, -, hlook⟩ := Accounts.at_poll hrun'
    have hlength := (c.judged o r.last w).length_le
    rw [← hlook, hbatch, List.length_append, List.length_cons] at hlength
    have hnone : sent later = [] := List.eq_nil_of_length_eq_zero (by omega)
    obtain rfl : rest = [] := List.eq_nil_of_length_eq_zero (by omega)
    rw [hnone, List.nil_append] at hbatch
    exact ⟨earlier, w, later, by rw [hbatch], houtcomes, hnone⟩

/-- What a fetch, a look at the tip and a pull come to. -/
structure Script where
  fetch : Except ObserverFailure Unit
  tip : Except ObserverFailure String
  pull : Except ObserverFailure Unit
deriving DecidableEq

/-- A clone in which everything goes by a script. -/
def scripted : Clone Script where
  command command s := (match command with | .fetch => s.fetch | .pull => s.pull, s)
  tip s := s.tip

/-- A fetch fails, a pull fails, the branch moves, it rests, its tip cannot be read, and it moves
back. -/
def detour : List (Move Script) :=
  [.poll ⟨.error (.git "offline"), .ok "b", .ok ()⟩, .send,
    .poll ⟨.ok (), .ok "b", .error (.git "diverged")⟩, .send, .take,
    .poll ⟨.ok (), .ok "b", .ok ()⟩, .send,
    .poll ⟨.ok (), .ok "b", .ok ()⟩, .poll ⟨.ok (), .error (.git "no ref"), .ok ()⟩, .send,
    .poll ⟨.ok (), .ok "a", .ok ()⟩, .send]

/-- The run of these moves at an observer that pulls. -/
def detoured : Option (Poller String (Event BranchTip) × List (Told Script (Event BranchTip))) :=
  (start ((BranchObserver.new "repo" "main" .standard).withPull true) "a").toPoller.run
    (look scripted ((BranchObserver.new "repo" "main" .standard).withPull true)) detour

theorem tracked_of_detour :
    ∃ p told before after, detoured = some (p, told) ∧
      sent told = [.error "git error: offline", .error "git error: diverged",
        .modified ⟨"origin", "main", "b"⟩, .error "git error: no ref",
        .modified ⟨"origin", "main", "a"⟩] ∧
      ("a" :: commits (sent told)).IsChain (· ≠ ·) ∧ p.last = "a" ∧
      told = before ++ .polled ⟨.ok (), .ok "b", .ok ()⟩ [.modified ⟨"origin", "main", "b"⟩] :: after ∧
      sent before = batches before ∧ latest "a" (sent before) = "a" ∧
      scripted.commands true "a" ⟨.ok (), .ok "b", .ok ()⟩ = [.fetch, .pull] := by
  obtain ⟨⟨p, told⟩, hrun⟩ := Option.isSome_iff_exists.1 (by decide +kernel : detoured.isSome = true)
  -- The move is found by the third poll, the sixth thing that happened.
  have hfacts : ∀ r ∈ detoured,
      sent r.2 = [.error "git error: offline", .error "git error: diverged",
        .modified ⟨"origin", "main", "b"⟩, .error "git error: no ref",
        .modified ⟨"origin", "main", "a"⟩] ∧
      r.2 = r.2.take 5 ++ .polled ⟨.ok (), .ok "b", .ok ()⟩ [.modified ⟨"origin", "main", "b"⟩] ::
        r.2.drop 6 ∧
      latest "a" (batches r.2) = "a" ∧ latest "a" (sent (r.2.take 5)) = "a" := by
    decide +kernel
  obtain ⟨hsent, hsplit, hlatest, hbefore⟩ := hfacts _ hrun
  obtain ⟨hpolls, hlast, -, hchain, -⟩ :=
    tracked_of_run (o := (BranchObserver.new "repo" "main" .standard).withPull true) hrun
  obtain ⟨hall, -⟩ := hpolls _ _ _ _ hsplit
  have hpull : scripted.commands true "a" ⟨.ok (), .ok "b", .ok ()⟩ = [.fetch, .pull] := by
    decide +kernel
  exact ⟨p, told, _, _, hrun, hsent, hchain, hlast.trans hlatest, hsplit, hall, hbefore, hpull⟩

end BranchWatch

end WatchHub
