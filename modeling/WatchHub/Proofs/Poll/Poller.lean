import Mathlib.Data.List.Basic
import Mathlib.Data.List.Induction
import WatchHub.Poll.Poller

/-!
# What a polling observer sends

The accounts of a polling observer after any run (`Poller.Accounts`): it keeps what its polls made of
what they saw, and what it has sent are the batches of its polls, one after the other, up to what it
still has to send. A cancellation that was noticed or a consumer that lets go cuts this short, and then
nothing more is sent (`Poller.Accounts.silent`). As long as neither happens every batch can be finished,
whatever the room in the stream, and the next poll be made (`Poller.Accounts.pollable`).
-/

namespace WatchHub.Poller

variable {S O α : Type}

/-! ### Views of what happened -/

namespace Told

/-- The outcome of a poll. -/
def outcome : Told O α → List O
  | polled outcome _ => [outcome]
  | _ => []

/-- The batch of a poll. -/
def batch : Told O α → List α
  | polled _ batch => batch
  | _ => []

/-- The event that was sent. -/
def sentOne : Told O α → List α
  | sent a => [a]
  | _ => []

/-- The event that was taken. -/
def takenOne : Told O α → List α
  | taken a => [a]
  | _ => []

end Told

/-- The outcomes of all polls. -/
def outcomes (told : List (Told O α)) : List O :=
  told.flatMap Told.outcome

/-- The batches of all polls, one after the other. -/
def batches (told : List (Told O α)) : List α :=
  told.flatMap Told.batch

/-- The events that were sent. -/
def sent (told : List (Told O α)) : List α :=
  told.flatMap Told.sentOne

/-- The events that were taken. -/
def taken (told : List (Told O α)) : List α :=
  told.flatMap Told.takenOne

/-- What is kept after polls with certain outcomes. -/
def kept (news : S → O → List α × S) (first : S) (outcomes : List O) : S :=
  outcomes.foldl (fun last outcome => (news last outcome).2) first

variable {news : S → O → List α × S} {config : PollConfig} {first : S} {p p' p'' : Poller S α}
  {move : Move O} {moves more : List (Move O)} {told later before after : List (Told O α)}
  {outcome : O} {batch : List α}

@[simp]
lemma outcomes_append (told later : List (Told O α)) :
    outcomes (told ++ later) = outcomes told ++ outcomes later :=
  List.flatMap_append

@[simp]
lemma batches_append (told later : List (Told O α)) :
    batches (told ++ later) = batches told ++ batches later :=
  List.flatMap_append

@[simp]
lemma sent_append (told later : List (Told O α)) : sent (told ++ later) = sent told ++ sent later :=
  List.flatMap_append

@[simp]
lemma taken_append (told later : List (Told O α)) :
    taken (told ++ later) = taken told ++ taken later :=
  List.flatMap_append

lemma kept_append (first : S) (os more : List O) :
    kept news first (os ++ more) = kept news (kept news first os) more :=
  List.foldl_append

/-- An outcome is that of a poll. -/
lemma exists_poll (h : outcome ∈ outcomes told) :
    ∃ before batch after, told = before ++ .polled outcome batch :: after := by
  obtain ⟨t, ht, houtcome⟩ := List.mem_flatMap.1 h
  obtain ⟨before, after, hsplit⟩ := List.append_of_mem ht
  cases t with
  | polled o batch =>
    obtain rfl := List.mem_singleton.1 houtcome
    exact ⟨before, batch, after, hsplit⟩
  | sent | taken => cases houtcome

/-- An event of the batches is in that of a poll. -/
lemma exists_batch {a : α} (h : a ∈ batches told) :
    ∃ before outcome batch after, told = before ++ .polled outcome batch :: after ∧ a ∈ batch := by
  obtain ⟨t, ht, hbatch⟩ := List.mem_flatMap.1 h
  obtain ⟨before, after, hsplit⟩ := List.append_of_mem ht
  cases t with
  | polled outcome batch => exact ⟨before, outcome, batch, after, hsplit, hbatch⟩
  | sent | taken => cases hbatch

/-- Where there was a poll there was a last one. -/
lemma exists_last_poll (h : batches told ≠ []) :
    ∃ before outcome batch after, told = before ++ .polled outcome batch :: after ∧
      outcomes after = [] ∧ batches after = [] := by
  induction told using List.reverseRecOn with
  | nil => exact absurd rfl h
  | append_singleton told t ih =>
    cases t with
    | polled outcome batch => exact ⟨told, outcome, batch, [], rfl, rfl, rfl⟩
    | sent | taken =>
      obtain ⟨before, outcome, batch, after, rfl, houtcomes, hbatches⟩ :=
        ih (by simpa [batches, Told.batch] using h)
      refine ⟨before, outcome, batch, after ++ [_], by rw [List.append_assoc, List.cons_append],
        ?_, ?_⟩
      · rw [outcomes_append, houtcomes]
        rfl
      · rw [batches_append, hbatches]
        rfl

/-! ### Steps and runs -/

/-- What one step does. -/
inductive Steps (news : S → O → List α × S) (p : Poller S α) :
    Move O → Poller S α → List (Told O α) → Prop where
  /-- A free observer polls, keeps what the poll leaves, and has its batch to send. -/
  | polled (outcome : O) :
    p.stream.ended = false → p.stream.blocked = [] →
    Steps news p (.poll outcome)
      ⟨(news p.last outcome).2, { p.stream with blocked := (news p.last outcome).1 }⟩
      [.polled outcome (news p.last outcome).1]
  /-- The next event of the batch enters a stream that has room for it. -/
  | sent {a : α} {blocked : List α} :
    p.stream.blocked = a :: blocked → p.stream.abandoned = false →
    p.stream.items.length < p.stream.room →
    Steps news p .send
      ⟨p.last, { p.stream with items := p.stream.items ++ [a], blocked := blocked }⟩ [.sent a]
  | taken {a : α} {items : List α} :
    p.stream.items = a :: items →
    Steps news p .take ⟨p.last, { p.stream with items := items }⟩ [.taken a]
  | signalled : Steps news p .cancel ⟨p.last, p.stream.cancel⟩ []
  /-- The observer notices the cancellation, and stops. -/
  | ended :
    p.stream.cancelled = true → p.stream.ended = false →
    Steps news p .stop ⟨p.last, p.stream.stop⟩ []
  | hungUp : Steps news p .hangUp ⟨p.last, p.stream.hangUp⟩ []

lemma isIdle_iff : p.stream.isIdle = true ↔ p.stream.ended = false ∧ p.stream.blocked = [] := by
  simp [PollStream.isIdle]

/-- Every step is one of these. -/
lemma Steps.of_step (h : p.step news move = some (p', told)) : Steps news p move p' told := by
  cases move with
  | poll outcome =>
    simp only [step] at h
    split_ifs at h with hidle
    cases h
    obtain ⟨hopen, hblocked⟩ := isIdle_iff.1 hidle
    have hload (batch : List α) : p.stream.load batch = { p.stream with blocked := batch } := by
      simp [PollStream.load, hblocked]
    rw [hload]
    exact .polled outcome hopen hblocked
  | send =>
    obtain ⟨⟨a, stream⟩, hpush, hout⟩ := Option.map_eq_some_iff.1 h
    cases hout
    unfold PollStream.push? at hpush
    split at hpush
    · cases hpush
    · rename_i hblocked
      split_ifs at hpush with hroom
      cases hpush
      obtain ⟨hheld, hroom⟩ := Bool.and_eq_true_iff.1 hroom
      exact .sent hblocked (by simpa using hheld) (by simpa using hroom)
  | take =>
    obtain ⟨⟨a, stream⟩, hpop, hout⟩ := Option.map_eq_some_iff.1 h
    cases hout
    unfold PollStream.pop? at hpop
    split at hpop
    · cases hpop
    · cases hpop
      exact .taken ‹_›
  | cancel =>
    cases h
    exact .signalled
  | stop =>
    simp only [step] at h
    split_ifs at h with hnoticed
    cases h
    obtain ⟨hcancelled, hgoing⟩ := Bool.and_eq_true_iff.1 hnoticed
    exact .ended hcancelled (by simpa using hgoing)
  | hangUp =>
    cases h
    exact .hungUp

/-- A run is its first step and the rest. -/
lemma run_cons (h : p.run news (move :: moves) = some (p'', told)) :
    ∃ p' told₁ told₂, p.step news move = some (p', told₁) ∧
      p'.run news moves = some (p'', told₂) ∧ told = told₁ ++ told₂ := by
  obtain ⟨⟨p', told₁⟩, hstep, h⟩ := Option.bind_eq_some_iff.1 h
  obtain ⟨⟨q, told₂⟩, hrest, h⟩ := Option.bind_eq_some_iff.1 h
  cases h
  exact ⟨p', told₁, told₂, hstep, hrest, rfl⟩

/-- A step and a run after it are a run. -/
lemma run_of_step (hstep : p.step news move = some (p', told))
    (hrest : p'.run news moves = some (p'', later)) :
    p.run news (move :: moves) = some (p'', told ++ later) := by
  simp [run, hstep, hrest]

/-- A run after a run is a run. -/
lemma run_append (h : p.run news moves = some (p', told))
    (hmore : p'.run news more = some (p'', later)) :
    p.run news (moves ++ more) = some (p'', told ++ later) := by
  induction moves generalizing p told with
  | nil =>
    cases h
    exact hmore
  | cons move moves ih =>
    obtain ⟨q, told₁, told₂, hstep, hrest, rfl⟩ := run_cons h
    rw [List.append_assoc]
    exact run_of_step hstep (ih hrest)

/-- A step tells of one thing at most. -/
lemma Steps.told_cases (h : Steps news p move p' told) : told = [] ∨ ∃ t, told = [t] := by
  cases h with
  | polled | sent | taken => exact .inr ⟨_, rfl⟩
  | signalled | ended | hungUp => exact .inl rfl

/-- Whatever happened in a run happened in one of its steps, after a run of its own. -/
lemma run_split {t : Told O α} (hrun : p.run news moves = some (p'', before ++ t :: after)) :
    ∃ moves₁ move q q', p.run news moves₁ = some (q, before) ∧ Steps news q move q' [t] ∧
      (∀ m ∈ moves₁, m ∈ moves) ∧ move ∈ moves := by
  induction moves generalizing p before with
  | nil =>
    have hnil : [] = before ++ t :: after := (Prod.mk.inj (Option.some.inj hrun)).2
    cases before <;> cases hnil
  | cons move moves ih =>
    obtain ⟨q, told₁, told₂, hstep, hrest, htold⟩ := run_cons hrun
    rcases (Steps.of_step hstep).told_cases with rfl | ⟨t₁, rfl⟩
    · obtain rfl : before ++ t :: after = told₂ := htold
      obtain ⟨moves₁, move', r, r', hrun₁, ht, hmoves, hmove⟩ := ih hrest
      exact ⟨move :: moves₁, move', r, r', run_of_step hstep hrun₁, ht,
        List.cons_subset_cons move hmoves, List.mem_cons_of_mem _ hmove⟩
    · cases before with
      | nil =>
        obtain ⟨rfl, rfl⟩ := List.cons.inj htold
        exact ⟨[], move, p, q, rfl, .of_step hstep, nofun, List.mem_cons_self ..⟩
      | cons t₂ before =>
        obtain ⟨rfl, rfl⟩ := List.cons.inj htold
        obtain ⟨moves₁, move', r, r', hrun₁, ht, hmoves, hmove⟩ := ih hrest
        exact ⟨move :: moves₁, move', r, r', run_of_step hstep hrun₁, ht,
          List.cons_subset_cons move hmoves, List.mem_cons_of_mem _ hmove⟩

/-- What holds at the beginning, and is passed on by every step, holds after a run. -/
lemma run_induction {motive : Poller S α → List (Told O α) → Prop}
    (hstep : ∀ {p p' move told new}, motive p told → Steps news p move p' new → motive p' (told ++ new))
    (hp : motive p []) (hrun : p.run news moves = some (p', later)) : motive p' later := by
  suffices h : ∀ told, motive p told → motive p' (told ++ later) from h [] hp
  clear hp
  induction moves generalizing p later with
  | nil =>
    cases hrun
    intro told hp
    rwa [List.append_nil]
  | cons move moves ih =>
    obtain ⟨q, told₁, told₂, h, hrest, rfl⟩ := run_cons hrun
    intro told hp
    rw [← List.append_assoc]
    exact ih hrest _ (hstep hp (.of_step h))

/-- The outcomes of a run are those of its polls. -/
lemma poll_mem_of_outcome (hrun : p.run news moves = some (p', told))
    (h : outcome ∈ outcomes told) : .poll outcome ∈ moves := by
  obtain ⟨before, batch, after, rfl⟩ := exists_poll h
  obtain ⟨_, _, _, _, -, hstep, -, hmove⟩ := run_split hrun
  cases hstep with
  | polled => exact hmove

/-! ### Accounts -/

/-- What was sent and what is kept, after all that happened. -/
structure Accounts (news : S → O → List α × S) (config : PollConfig) (first : S)
    (told : List (Told O α)) (p : Poller S α) : Prop where
  last_eq : p.last = kept news first (outcomes told)
  room_eq : p.stream.room = config.streamRoom
  length_le : p.stream.items.length ≤ p.stream.room
  /-- What was sent, and what is still to send of the last batch, is what the batches begin with. -/
  sent_isPrefix : sent told ++ p.stream.blocked <+: batches told
  /-- Unless a cancellation was noticed it is all of them. -/
  sent_eq : p.stream.ended = false → sent told ++ p.stream.blocked = batches told
  blocked_eq : p.stream.ended = true → p.stream.blocked = []
  /-- What was noticed was signalled. -/
  cancelled_eq : p.stream.ended = true → p.stream.cancelled = true
  /-- What was taken, and what is still in the stream, is what the events sent begin with. -/
  taken_isPrefix : taken told ++ p.stream.items <+: sent told
  /-- Unless the consumer has let go it is all of them. -/
  taken_eq : p.stream.abandoned = false → taken told ++ p.stream.items = sent told

lemma Accounts.start (news : S → O → List α × S) (config : PollConfig) (first : S) :
    Accounts news config first [] (.start config first) where
  last_eq := rfl
  room_eq := rfl
  length_le := Nat.zero_le _
  sent_isPrefix := List.prefix_rfl
  sent_eq _ := rfl
  blocked_eq _ := rfl
  cancelled_eq := nofun
  taken_isPrefix := List.prefix_rfl
  taken_eq _ := rfl

/-- Every step keeps the accounts. -/
lemma Accounts.step {new : List (Told O α)} (ha : Accounts news config first told p)
    (h : Steps news p move p' new) : Accounts news config first (told ++ new) p' := by
  cases h with
  | polled outcome hopen hblocked =>
    have hsent : sent told = batches told := by
      have := ha.sent_eq hopen
      rwa [hblocked, List.append_nil] at this
    have hall : sent (told ++ [.polled outcome (news p.last outcome).1]) ++ (news p.last outcome).1 =
        batches (told ++ [.polled outcome (news p.last outcome).1]) := by
      rw [sent_append, batches_append, hsent]
      simp [sent, batches, Told.sentOne, Told.batch]
    refine ⟨?_, ha.room_eq, ha.length_le, hall ▸ List.prefix_rfl, fun _ => hall,
      fun h => absurd (hopen.symm.trans h) nofun, ha.cancelled_eq, ?_, fun hheld => ?_⟩
    · rw [outcomes_append, kept_append, ← ha.last_eq]
      rfl
    · simpa [taken, sent, Told.takenOne, Told.sentOne] using ha.taken_isPrefix
    · simpa [taken, sent, Told.takenOne, Told.sentOne] using ha.taken_eq hheld
  | @sent a blocked hblocked hheld hroom =>
    have hmoved : sent (told ++ [.sent a]) ++ blocked = sent told ++ p.stream.blocked := by
      simp [sent, Told.sentOne, hblocked]
    have hbatches : batches (told ++ [.sent a]) = batches told := by simp [batches, Told.batch]
    have htaken : taken (told ++ [.sent a]) ++ (p.stream.items ++ [a]) = sent (told ++ [.sent a]) := by
      have := ha.taken_eq hheld
      simp only [taken_append, sent_append, ← this]
      simp [taken, sent, Told.takenOne, Told.sentOne]
    refine ⟨?_, ha.room_eq, ?_, ?_, fun hopen => ?_, fun hended => ?_, ha.cancelled_eq,
      htaken ▸ List.prefix_rfl, fun _ => htaken⟩
    · simpa [outcomes, Told.outcome] using ha.last_eq
    · simpa using Nat.succ_le_of_lt hroom
    · rw [hmoved, hbatches]
      exact ha.sent_isPrefix
    · rw [hmoved, hbatches]
      exact ha.sent_eq hopen
    · cases hblocked.symm.trans (ha.blocked_eq hended)
  | @taken a items hitems =>
    have hmoved : taken (told ++ [.taken a]) ++ items = taken told ++ p.stream.items := by
      simp [taken, Told.takenOne, hitems]
    have hsent : sent (told ++ [.taken a]) = sent told := by simp [sent, Told.sentOne]
    have hbatches : batches (told ++ [.taken a]) = batches told := by simp [batches, Told.batch]
    have hlength := ha.length_le
    rw [hitems, List.length_cons] at hlength
    refine ⟨?_, ha.room_eq, Nat.le_of_succ_le hlength, ?_, fun hopen => ?_, ha.blocked_eq,
      ha.cancelled_eq, ?_, fun hheld => ?_⟩
    · simpa [outcomes, Told.outcome] using ha.last_eq
    · rw [hsent, hbatches]
      exact ha.sent_isPrefix
    · rw [hsent, hbatches]
      exact ha.sent_eq hopen
    · rw [hmoved, hsent]
      exact ha.taken_isPrefix
    · rw [hmoved, hsent]
      exact ha.taken_eq hheld
  | signalled =>
    rw [List.append_nil]
    exact { ha with cancelled_eq := fun _ => rfl }
  | ended hcancelled hgoing =>
    rw [List.append_nil]
    refine ⟨ha.last_eq, ha.room_eq, ha.length_le, ?_, nofun, fun _ => rfl, fun _ => hcancelled,
      ha.taken_isPrefix, ha.taken_eq⟩
    show sent told ++ [] <+: batches told
    rw [List.append_nil]
    exact (List.prefix_append ..).trans ha.sent_isPrefix
  | hungUp =>
    rw [List.append_nil]
    refine ⟨ha.last_eq, ha.room_eq, Nat.zero_le _, ha.sent_isPrefix, ha.sent_eq, ha.blocked_eq,
      ha.cancelled_eq, ?_, nofun⟩
    show taken told ++ [] <+: sent told
    rw [List.append_nil]
    exact (List.prefix_append ..).trans ha.taken_isPrefix

/-- The accounts are right after a run that goes on. -/
lemma Accounts.run (ha : Accounts news config first told p) (h : p.run news moves = some (p', later)) :
    Accounts news config first (told ++ later) p' := by
  have hstep {p p' : Poller S α} {move : Move O} {past new : List (Told O α)}
      (hp : Accounts news config first (told ++ past) p) (h : Steps news p move p' new) :
      Accounts news config first (told ++ (past ++ new)) p' := by
    rw [← List.append_assoc]
    exact hp.step h
  refine run_induction (motive := fun p past => Accounts news config first (told ++ past) p) hstep ?_ h
  rwa [List.append_nil]

/-- The accounts are right after any run. -/
lemma Accounts.of_run (h : (Poller.start config first).run news moves = some (p, told)) :
    Accounts news config first told p :=
  (Accounts.start news config first).run h

/-- Everything was sent when an observer is free to poll. -/
lemma Accounts.sent_of_idle (ha : Accounts news config first told p)
    (hidle : p.stream.isIdle = true) : sent told = batches told := by
  obtain ⟨hopen, hblocked⟩ := isIdle_iff.1 hidle
  have hall := ha.sent_eq hopen
  rwa [hblocked, List.append_nil] at hall

/-- A poll is made by an observer that has sent everything before, and its batch comes of its outcome
and of what the observer keeps. -/
lemma Accounts.at_poll
    (hrun : (Poller.start config first).run news moves =
      some (p, before ++ .polled outcome batch :: after)) :
    ∃ moves₁ q, (Poller.start config first).run news moves₁ = some (q, before) ∧
      (∀ m ∈ moves₁, m ∈ moves) ∧ .poll outcome ∈ moves ∧ sent before = batches before ∧
      q.last = kept news first (outcomes before) ∧ batch = (news q.last outcome).1 := by
  obtain ⟨moves₁, move, q, q', hrun₁, hstep, hmoves, hmove⟩ := run_split hrun
  have ha : Accounts news config first before q := .of_run hrun₁
  cases hstep with
  | polled _ hopen hblocked =>
    exact ⟨moves₁, q, hrun₁, hmoves, hmove, ha.sent_of_idle (isIdle_iff.2 ⟨hopen, hblocked⟩),
      ha.last_eq, rfl⟩

/-- What is sent is next in the batch of the last poll. -/
lemma Accounts.at_send {a : α} (hrun : (Poller.start config first).run news moves = some (p, told))
    (h : Steps news p .send p' [.sent a]) :
    ∃ before outcome batch after rest, told = before ++ .polled outcome batch :: after ∧
      outcomes after = [] ∧ batch = sent after ++ a :: rest := by
  have ha : Accounts news config first told p := .of_run hrun
  cases h with
  | @sent _ rest hblocked =>
    have hopen : p.stream.ended = false := by
      refine eq_false_of_ne_true fun hended => ?_
      cases hblocked.symm.trans (ha.blocked_eq hended)
    have hall := ha.sent_eq hopen
    rw [hblocked] at hall
    have hsome : batches told ≠ [] := hall ▸ by simp
    obtain ⟨before, outcome, batch, after, rfl, houtcomes, hbatches⟩ := exists_last_poll hsome
    obtain ⟨-, -, -, -, -, hbefore, -⟩ := Accounts.at_poll hrun
    refine ⟨before, outcome, batch, after, rest, rfl, houtcomes, ?_⟩
    have hsent : sent (.polled outcome batch :: after) = sent after := rfl
    have hbatch : batches (.polled outcome batch :: after) = batch := by
      show batch ++ batches after = batch
      rw [hbatches, List.append_nil]
    rw [sent_append, batches_append, hsent, hbatch, hbefore, List.append_assoc] at hall
    exact (List.append_cancel_left hall).symm

/-- A cancellation stays noticed. -/
lemma ended_of_run (hended : p.stream.ended = true)
    (h : p.run news moves = some (p', told)) : p'.stream.ended = true := by
  refine run_induction (motive := fun p _ => p.stream.ended = true) ?_ hended h
  intro p p' move told new hp hstep
  cases hstep with
  | polled | sent | taken | signalled | hungUp => exact hp
  | ended => rfl

/-- From some moment on what was to be sent then is sent, and after it the batches of later polls. -/
lemma Accounts.sent_since (ha : Accounts news config first told p)
    (h : p.run news moves = some (p', later)) (hopen : p'.stream.ended = false) :
    sent later ++ p'.stream.blocked = p.stream.blocked ++ batches later := by
  have hall := (ha.run h).sent_eq hopen
  have hopen₀ : p.stream.ended = false := by
    refine eq_false_of_ne_true fun hended => ?_
    cases hopen.symm.trans (ended_of_run hended h)
  rw [sent_append, batches_append, ← ha.sent_eq hopen₀, List.append_assoc, List.append_assoc] at hall
  exact List.append_cancel_left hall

/-! ### The end of a stream -/

/-- Nothing can be sent any more: a cancellation was noticed, or nobody takes. -/
def IsOver (p : Poller S α) : Prop :=
  (p.stream.ended = true ∧ p.stream.blocked = []) ∨ p.stream.abandoned = true

/-- What is over stays over, and nothing is sent. -/
lemma IsOver.step (hover : p.IsOver) (h : Steps news p move p' told) : p'.IsOver ∧ sent told = [] := by
  cases h with
  | polled outcome hopen =>
    refine ⟨.inr (hover.resolve_left ?_), rfl⟩
    rintro ⟨hended, -⟩
    cases hopen.symm.trans hended
  | sent hblocked hheld =>
    rcases hover with ⟨-, hnone⟩ | habandoned
    · cases hblocked.symm.trans hnone
    · cases hheld.symm.trans habandoned
  | taken | signalled => exact ⟨hover, rfl⟩
  | ended => exact ⟨hover.imp (fun _ => ⟨rfl, rfl⟩) id, rfl⟩
  | hungUp => exact ⟨.inr rfl, rfl⟩

/-- Once it is over nothing more is sent, whatever happens. -/
lemma IsOver.run (hover : p.IsOver) (h : p.run news moves = some (p', told)) :
    p'.IsOver ∧ sent told = [] := by
  have hstep {p p' : Poller S α} {move : Move O} {told new : List (Told O α)}
      (hp : p.IsOver ∧ sent told = []) (h : Steps news p move p' new) :
      p'.IsOver ∧ sent (told ++ new) = [] := by
    obtain ⟨hover', hnew⟩ := hp.1.step h
    exact ⟨hover', by rw [sent_append, hp.2, hnew]; rfl⟩
  exact run_induction (motive := fun p told => p.IsOver ∧ sent told = []) hstep ⟨hover, rfl⟩ h

/-- After a cancellation was noticed or the consumer has let go nothing more is sent. -/
lemma Accounts.silent (ha : Accounts news config first told p)
    (hover : p.stream.ended = true ∨ p.stream.abandoned = true)
    (h : p.run news moves = some (p', later)) : sent later = [] := by
  refine (IsOver.run ?_ h).2
  exact hover.imp (fun hended => ⟨hended, ha.blocked_eq hended⟩) id

/-! ### Progress -/

/-- A move by which a batch goes on its way. -/
def Move.IsTraffic (move : Move O) : Prop :=
  move = .send ∨ move = .take

/-- An open stream takes the whole batch in the end, if what is in it is taken where it is full. -/
lemma exists_idle (news : S → O → List α × S) (hopen : p.stream.ended = false)
    (hheld : p.stream.abandoned = false) (hroom : 0 < p.stream.room) :
    ∃ moves p' told, (∀ move ∈ moves, move.IsTraffic) ∧ p.run news moves = some (p', told) ∧
      p'.stream.isIdle = true ∧ outcomes told = [] := by
  generalize hn : 2 * p.stream.blocked.length + p.stream.items.length = n
  induction n using Nat.strongRecOn generalizing p with
  | ind n ih =>
    cases hblocked : p.stream.blocked with
    | nil => exact ⟨[], p, [], nofun, rfl, isIdle_iff.2 ⟨hopen, hblocked⟩, rfl⟩
    | cons a blocked =>
      -- Either step brings the sum down, as sending counts double.
      have hgo : ∃ move p₁ t, move.IsTraffic ∧ p.step news move = some (p₁, [t]) ∧
          p₁.stream.ended = false ∧ p₁.stream.abandoned = false ∧ 0 < p₁.stream.room ∧
          2 * p₁.stream.blocked.length + p₁.stream.items.length < n ∧ t.outcome = [] := by
        rw [hblocked, List.length_cons] at hn
        by_cases hfull : p.stream.items.length < p.stream.room
        · refine ⟨.send, ⟨p.last, { p.stream with items := p.stream.items ++ [a], blocked := blocked }⟩,
            .sent a, .inl rfl, ?_, hopen, hheld, hroom, ?_, rfl⟩
          · simp [step, PollStream.push?, hblocked, hheld, hfull]
          · simp only [List.length_append, List.length_singleton]
            omega
        · obtain ⟨b, items, hitems⟩ := List.exists_cons_of_length_pos
            (Nat.lt_of_lt_of_le hroom (Nat.le_of_not_lt hfull))
          refine ⟨.take, ⟨p.last, { p.stream with items := items }⟩, .taken b, .inr rfl, ?_, hopen,
            hheld, hroom, ?_, rfl⟩
          · simp [step, PollStream.pop?, hitems]
          · rw [hitems, List.length_cons] at hn
            simp only [hblocked, List.length_cons]
            omega
      obtain ⟨move, p₁, t, hmove, hstep, hopen₁, hheld₁, hroom₁, hless, hnone⟩ := hgo
      obtain ⟨moves, p', told, hmoves, hrun, hidle, houtcomes⟩ :=
        ih _ hless hopen₁ hheld₁ hroom₁ rfl
      refine ⟨move :: moves, p', t :: told, List.forall_mem_cons.2 ⟨hmove, hmoves⟩, ?_, hidle, ?_⟩
      · simp [run, hstep, hrun]
      · rw [← List.singleton_append, outcomes_append, houtcomes]
        simp [outcomes, hnone]

/-- As long as the stream is open the observer comes to its next poll, whatever the outcome. -/
lemma Accounts.pollable (ha : Accounts news config first told p)
    (hopen : p.stream.ended = false) (hheld : p.stream.abandoned = false) (outcome : O) :
    ∃ moves p' later, (∀ move ∈ moves, move.IsTraffic) ∧
      p.run news (moves ++ [.poll outcome]) = some (p', later) ∧ outcomes later = [outcome] := by
  have hroom : 0 < p.stream.room := ha.room_eq ▸ Nat.lt_of_lt_of_le Nat.one_pos (Nat.le_max_right ..)
  obtain ⟨moves, q, told, hmoves, hrun, hidle, hnone⟩ := exists_idle news hopen hheld hroom
  have hpoll : q.run news [.poll outcome] = some (⟨(news q.last outcome).2,
      q.stream.load (news q.last outcome).1⟩, [.polled outcome (news q.last outcome).1]) := by
    simp [Poller.run, Poller.step, hidle]
  refine ⟨moves, _, _, hmoves, run_append hrun hpoll, ?_⟩
  rw [outcomes_append, hnone]
  rfl

end WatchHub.Poller
