import WatchHub.Proofs.Grace
import WatchHub.Proofs.Hub.Sweep
import WatchHub.Proofs.Leftover

/-!
# Shutdowns that overlap

Whenever a shutdown ends, no key is bound and the logs are empty. The rest it knows of only if it
unbound the keys itself or is the last one to end: then everything is down for good, but for ingests that
were told to end and are yet to be dropped (`torn_down_of_return`). One that comes while another still
waits for the ingests, or after it has given them up, finds no key, waits for nothing and is answered as
if all were done (`at_work_after_return`).
-/

namespace WatchHub

variable {P : Type}

namespace Hub

variable {h h' : Hub P} {action : Action P} {told : List (Fact P)} {config : HubConfig}
  {actions more : List (Action P)} {facts : List (Fact P)} {n : Nat}

/-- A shutdown ends by the step of a call that has closed every audience, and this call is answered. -/
lemma Sound.ended_of_told (hs : h.Sound) (hstep : h.step action = some (h', told))
    (hn : .stopped n ∈ told) :
    ∃ id reply, action = .resume id ∧ h.calls.get? id = some (.closing [] n reply) ∧
      told = [.stopped n, .returned id reply] ∧ h' = { h with log := h.log.clear }.dismiss id := by
  have hiscall := (hs.changes hstep).isCall_of_told hn rfl
  cases Conducts.of_step hstep hiscall with
  | opened | turnedAway | halted => simp at hn
  | proceeded hcall hp =>
    cases hp with
    | ended =>
      obtain rfl : n = _ := by simpa using hn
      exact ⟨_, _, rfl, hcall, rfl, rfl⟩
    | awaited => cases mem_obituary hn
    | expired => cases (not_halt_of_obituaries hn).2
    | aborted =>
      rcases List.mem_append.1 hn with hn | hn
      · cases (not_halt_of_obituaries hn).2
      · simp at hn
    | joined => cases isMembership_joined hn
    | left => cases isMembership_left hn
    | closed => cases Audience.isMembership_closeAll hn
    | _ => simp at hn

/-- Everything stays down, whatever happens. -/
lemma Over.run (ho : h.Over) (hr : Reached config actions facts h)
    (hrun : h.run more = some (h', told)) : h'.Over := by
  induction more generalizing actions facts h told with
  | nil =>
    cases hrun
    exact ho
  | cons action more ih =>
    obtain ⟨h₁, told₁, told₂, hstep, hrest, rfl⟩ := run_cons hrun
    exact ih (ho.step hr.sound hstep) (hr.step hstep) hrest

/-- When a shutdown ends that has unbound keys, everything is down, and if it answers that all is stopped
every ingest has come to its end. -/
lemma Reached.isDown_of_unbound (hr : Reached config actions facts h)
    (hstep : h.step action = some (h', told)) (hn : .stopped n ∈ told) (hsome : n ≠ 0) {key : Key}
    {r : Registration P} (hreg : h'.registration? key = some r) :
    r.IsDown ∧ (∀ id, .returned id .stopped ∈ told → r.ingest.isFinished = true) := by
  obtain ⟨id, reply, rfl, hcall, rfl, rfl⟩ := hr.sound.ended_of_told hstep hn
  obtain ⟨hunbound, hdismissed, hfinished, hrest⟩ := hr.swept.taken hcall rfl hsome hreg
  refine ⟨⟨hunbound, hdismissed, hrest.resolve_left List.not_mem_nil⟩, fun id' hreply => ?_⟩
  obtain ⟨-, rfl⟩ : id' = id ∧ .stopped = reply := by simpa using hreply
  exact hfinished rfl

/-- Whenever a shutdown ends, no key is bound, the logs are empty, and every registration is down or
some call in progress takes it down. If the shutdown that ends has unbound the keys or no other one is in
progress, everything is down, and stays so: every ingest has come to its end, but for those that some
shutdown reported and told to end, and these write nothing but in the turn in which they were told. If it
has unbound the keys and answers that all is stopped, all have. -/
theorem torn_down_of_return (hrun : (Hub.new config).run actions = some (h, facts))
    (hstep : h.step action = some (h', told)) :
    (∀ id reply, .returned id reply ∈ told → (requests actions)[id]? = some .shutdown →
      ∃ n, told = [.stopped n, .returned id reply]) ∧
    ∀ n, .stopped n ∈ told →
      h'.keys = [] ∧
      (∀ key, h'.log.length key = 0 ∧ h'.log.latest? key = none ∧ h'.log.versions key = []) ∧
      (∀ key r, h'.registration? key = some r → h'.TakesDown key r) ∧
      (n ≠ 0 ∨ (∀ id call, h'.calls.get? id = some call → call.isStopping = false) →
        (∀ key r, h'.registration? key = some r →
          r.ingest.isFinished = true ∨ r.ingest.aborted = true ∧ IsReported facts key) ∧
        h'.Ebbs ∧
        ∀ more h'' later, h'.run more = some (h'', later) →
          h'.TornDown (facts ++ told ++ later) ∧ h''.Over) ∧
      (n ≠ 0 → ∀ id, .returned id .stopped ∈ told →
        ∀ key r, h'.registration? key = some r → r.ingest.isFinished = true) := by
  have hr : Reached config actions facts h := .of_run hrun
  have hr' := hr.step hstep
  refine ⟨fun id reply hreply hrequest => ?_, fun n hn => ?_⟩
  · obtain ⟨drained, -, hout, -⟩ := hr.shutdown_answered hstep hreply hrequest
    exact ⟨drained, (Prod.mk.inj hout).2⟩
  · have hstopped : h'.stopped = true := hr'.stopped_of_told (List.mem_append_right facts hn)
    have hlogs : ∀ key, h'.log.length key = 0 ∧ h'.log.latest? key = none ∧
        h'.log.versions key = [] := by
      obtain ⟨id, reply, -, -, -, rfl⟩ := hr.sound.ended_of_told hstep hn
      exact fun key => ⟨rfl, rfl, rfl⟩
    have hreported : ∀ key r, h'.registration? key = some r → r.ingest.aborted = true →
        IsReported facts key := by
      obtain ⟨id, reply, -, -, -, rfl⟩ := hr.sound.ended_of_told hstep hn
      exact fun key r hreg => hr.isReported (show h.registration? key = some r from hreg)
    refine ⟨keys_eq_nil ?_, hlogs, fun key r => hr'.takenDown hstopped, fun hlast => ?_,
      fun hsome id hreply key r hreg => (hr.isDown_of_unbound hstep hn hsome hreg).2 id hreply⟩
    · obtain ⟨id, reply, rfl, hcall, -, rfl⟩ := hr.sound.ended_of_told hstep hn
      exact fun hreg => hr.swept.unbound hcall rfl hreg
    · have hdown : ∀ {key r}, h'.registration? key = some r → r.IsDown := fun hreg =>
        hlast.elim (fun hsome => (hr.isDown_of_unbound hstep hn hsome hreg).1)
          fun hidle => hr'.isDown hstopped hidle hreg
      have hover : h'.Over := ⟨hstopped, hdown⟩
      refine ⟨fun key r hreg => ?_, hr'.ebbs hstopped fun _ _ hreg => (hdown hreg).dismissed,
        fun more h'' later hlater => ⟨?_, hover.run hr' hlater⟩⟩
      · refine ((Bool.or_eq_true ..).mp (hdown hreg).dismissed).imp_right fun haborted => ?_
        exact ⟨haborted, hreported key r hreg haborted⟩
      · exact (hr'.tornDown_of_down hlogs hdown).later hr' hstopped hlater

/-- One consumer has subscribed, and the ingest has taken an event when two shutdowns begin. -/
def bothCalled : List (Action Nat) :=
  [.start (.register default ⟨1, "o"⟩), .resume 0, .ingest default .start,
    .ingest default (.answer (.ok ())), .start (.subscribe default none), .resume 1, .resume 1,
    .send default (.added 3), .ingest default .take, .start .shutdown, .start .shutdown, .resume 2]

/-- The ingest adds to the log the event that it has taken, and fans it out. -/
def publish : List (Action Nat) :=
  [.ingest default (.locate 7), .ingest default .record, .ingest default .emit]

/-- The first shutdown waits until the ingest has stopped, and closes the audience. -/
def firstAlone : List (Action Nat) :=
  publish ++ [.ingest default .stop, .resume 2, .resume 2, .resume 2]

/-- The second shutdown finds no key, and nothing to wait for. -/
def secondAhead : List (Action Nat) :=
  [.resume 3, .resume 3]

theorem torn_down_of_first :
    ∃ h facts h' h'' later, (new .standard).run (bothCalled ++ firstAlone) = some (h, facts) ∧
      h.step (.resume 2) = some (h', [.stopped 1, .returned 2 .stopped]) ∧
      h'.calls.get? 3 = some .draining ∧ h'.keys = [] ∧ h'.log.length default = 0 ∧
      (∀ key r, h'.registration? key = some r → r.ingest.isFinished = true) ∧
      h'.run (secondAhead ++ [.resume 3]) = some (h'', later) ∧
      later = [.stopped 0, .returned 3 .stopped] ∧
      h'.TornDown (facts ++ [.stopped 1, .returned 2 .stopped] ++ later) ∧ h''.Over := by
  have hrun : (new .standard).run (bothCalled ++ firstAlone) = some (_, _) := rfl
  obtain ⟨-, hended⟩ :=
    torn_down_of_return hrun (show Hub.step _ (.resume 2) = some (_, _) from rfl)
  obtain ⟨hkeys, hlogs, -, hdown, hfinished⟩ := hended 1 (List.mem_cons_self ..)
  obtain ⟨-, -, hover⟩ := hdown (.inl Nat.one_ne_zero)
  obtain ⟨htorn, hover⟩ := hover (secondAhead ++ [.resume 3]) _ _ rfl
  exact ⟨_, _, _, _, _, hrun, rfl, rfl, hkeys, (hlogs default).1,
    hfinished Nat.one_ne_zero 2 (List.mem_cons_of_mem _ (List.mem_cons_self ..)), rfl, rfl, htorn, hover⟩

/-- An observer streams when a hub that grants no grace is shut down. -/
def streaming : List (Action Nat) :=
  [.start (.register ⟨"test", "v1", "things", "default", "a"⟩ ⟨1, "o"⟩), .resume 0,
    .ingest ⟨"test", "v1", "things", "default", "a"⟩ .start,
    .ingest ⟨"test", "v1", "things", "default", "a"⟩ (.answer (.ok ())),
    .ingest ⟨"test", "v1", "things", "default", "a"⟩ .rest, .start .shutdown, .resume 1]

/-- The grace is over, the shutdown is answered, and another one begins. -/
def twice : List (Action Nat) :=
  [.expire 1 1, .resume 1, .resume 1, .start .shutdown, .resume 2, .resume 2]

/-- A shutdown comes after another one whose grace was exceeded, and is answered that all is stopped: the
ingest has not come to its end, and its observer still sends. Or it comes while the other one waits: after
its answer an event is logged, fanned out and received, as the ingest is still at work and the subscription
still open. -/
theorem at_work_after_return :
    (∃ h₀ facts₀ h facts h' r h'' r', (new hasty).run streaming = some (h₀, facts₀) ∧
      h₀.run twice = some (h, facts) ∧
      .returned 1 (.failed (.graceExceeded (.ofMillis 0)
        [⟨"test", "v1", "things", "default", "a"⟩])) ∈ facts ∧
      h.step (.resume 2) = some (h', [.stopped 0, .returned 2 .stopped]) ∧
      h'.registration? ⟨"test", "v1", "things", "default", "a"⟩ = some r ∧
      r.ingest.isFinished = false ∧
      h'.step (.send ⟨"test", "v1", "things", "default", "a"⟩ (.added 1)) = some (h'', []) ∧
      h''.registration? ⟨"test", "v1", "things", "default", "a"⟩ = some r' ∧
      r'.ingest.inbox = [.added 1]) ∧
    ∃ h facts h' r s h'', (new .standard).run (bothCalled ++ secondAhead) = some (h, facts) ∧
      (requests (bothCalled ++ secondAhead))[3]? = some .shutdown ∧
      h.step (.resume 3) = some (h', [.stopped 0, .returned 3 .stopped]) ∧
      h'.registration? default = some r ∧ r.ingest.isFinished = false ∧
      h'.subscription? default ⟨1⟩ = some s ∧ s.closed = false ∧
      h'.run (publish ++ [.receive default ⟨1⟩]) = some (h'',
        [.opened default 7, .logged default .ingest 0 (.added 3) ⟨7, 1⟩,
          .emitted default (.versioned (.added 3) ⟨7, 1⟩),
          .reached default ⟨1⟩ (.versioned (.added 3) ⟨7, 1⟩) .accepted,
          .received default ⟨1⟩ (.versioned (.added 3) ⟨7, 1⟩)]) ∧
      h''.log.length default = 1 := by
  refine ⟨?_, ⟨_, _, _, _, _, _, rfl, rfl, rfl, rfl, rfl, rfl, rfl, rfl, rfl⟩⟩
  exact ⟨_, _, _, _, _, _, _, _, rfl, run_of_step (expire_singleton 1 rfl rfl) rfl,
    .tail _ (.tail _ (.head _)), rfl, rfl, rfl, rfl, rfl, rfl⟩

end Hub

end WatchHub
