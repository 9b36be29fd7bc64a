import WatchHub.Proofs.Hub.Verdict
import WatchHub.Proofs.Text.Numeral
import WatchHub.Proofs.Shutdown

/-!
# The grace of a shutdown

What the only shutdown of a hub answers is what its wait for the ingests ended with, and either way
everything is down when it does (`reported_of_shutdown`). Once all ingests have come to their end it
answers so, by steps of its own; while one is at work, only the end of the grace lets it answer. If the
grace ends in a turn in which it cannot look at all that are left, it answers that the grace was exceeded
though none may be at work any more, and reports none (`overlooked`).
-/

namespace WatchHub

variable {P : Type}

/-- A call that waits for the ingests, or has waited and reports none of them. -/
def Call.IsClear (grace : Duration) : Call → Prop
  | awaiting _ _ => True
  | closing _ _ reply => reply = .stopped ∨ reply = .failed (.graceExceeded grace [])
  | _ => False

namespace Hub

variable {h h' : Hub P} {action : Action P} {told : List (Fact P)} {id : CallId} {n : Nat}
  {left drained : List Key} {reply : Reply} {config : HubConfig} {actions more : List (Action P)}
  {facts : List (Fact P)}

lemma hasFinished_of_all
    (hall : ∀ key r, h.registration? key = some r → r.ingest.isFinished = true) (key : Key) :
    h.hasFinished key = true := by
  refine eq_true_of_ne_false fun hwork => ?_
  obtain ⟨r, hreg, hnot⟩ := hasFinished_eq_false_iff.1 hwork
  cases hnot.symm.trans (hall key r hreg)

/-- A call that closes the audiences answers by steps of its own. -/
lemma answers_of_closing (hcall : h.calls.get? id = some (.closing left n reply)) :
    ∃ h' told, h.run (List.replicate (left.length + 1) (.resume id)) = some (h', told) ∧
      .returned id reply ∈ told := by
  induction left generalizing h with
  | nil =>
    have hstep : h.step (.resume id) = some (h.close id [] n reply) := by
      simp [Hub.step, Hub.resume, hcall]
    exact ⟨_, _, run_singleton hstep, List.mem_append_right _ (List.mem_singleton_self _)⟩
  | cons key left ih =>
    have hstep : h.step (.resume id) = some (h.close id (key :: left) n reply) := by
      simp [Hub.step, Hub.resume, hcall]
    have hcall' : (h.close id (key :: left) n reply).1.calls.get? id =
        some (.closing left n reply) := by
      cases hreg : h.registration? key <;> simp [Hub.close, hreg, putCall]
    obtain ⟨h', told, hrest, hreply⟩ := ih hcall'
    exact ⟨h', _, run_of_step hstep hrest, List.mem_append_right _ hreply⟩

/-- A call that waits for ingests that have all come to their end goes on by steps of its own. -/
lemma closing_of_awaiting (hcall : h.calls.get? id = some (.awaiting left drained))
    (hleft : ∀ key ∈ left, h.hasFinished key = true) :
    ∃ h' told, h.run (List.replicate (left.length + 1) (.resume id)) = some (h', told) ∧
      h'.calls.get? id = some (.closing drained drained.length .stopped) := by
  induction left generalizing h with
  | nil =>
    have hstep : h.step (.resume id) =
        some (h.putCall id (.closing drained drained.length .stopped), []) := by
      simp [Hub.step, Hub.resume, hcall, Hub.await]
    exact ⟨_, _, run_singleton hstep, Table.get?_put_self ..⟩
  | cons key left ih =>
    have hfinished : h.hasFinished key = true := hleft key (List.mem_cons_self ..)
    have hstep : h.step (.resume id) =
        some (h.putCall id (.awaiting left drained), h.obituary key) := by
      simp [Hub.step, Hub.resume, hcall, Hub.await, hfinished]
    have hrest : ∀ key ∈ left, (h.putCall id (.awaiting left drained)).hasFinished key = true :=
      fun key hmem => hleft key (List.mem_cons_of_mem _ hmem)
    obtain ⟨h', told, hrun, hcall'⟩ := ih (Table.get?_put_self ..) hrest
    exact ⟨h', _, run_of_step hstep hrun, hcall'⟩

/-- The end of the grace by a rule for a call that waits. -/
lemma proceeds_of_expired (hcall : h.calls.get? id = some (.awaiting left drained)) (looks : Nat) :
    ∃ h' told, h.step (.expire id looks) = some (h', told) ∧
      h.Proceeds id (.awaiting left drained) (.expire id looks) told h' := by
  refine ⟨_, _, ?_, .endGrace h id looks left drained⟩
  simp [Hub.step, Hub.expire, hcall]

/-- A call that looks at all that are left in its last turn goes on as if the grace were not over, if all
have come to their end. -/
lemma closing_of_looked (hcall : h.calls.get? id = some (.awaiting left drained)) {looks : Nat}
    (hlooks : left.length ≤ looks) (hleft : ∀ key ∈ left, h.hasFinished key = true) :
    ∃ h' told, h.step (.expire id looks) = some (h', told) ∧
      h'.calls.get? id = some (.closing drained drained.length .stopped) := by
  obtain ⟨h', told, hstep, hp⟩ := proceeds_of_expired hcall looks
  refine ⟨h', told, hstep, ?_⟩
  cases hp with
  | expired => exact Table.get?_put_self ..
  | aborted seen late hwaits hsome _ hwhy =>
    subst hwaits
    rcases hwhy with rfl | ⟨key, hmem, hwork⟩
    · rw [List.length_append] at hlooks
      have := List.length_pos_iff.2 hsome
      omega
    · cases hwork.symm.trans (hleft key (List.mem_append_right _ hmem))

/-- A call that cannot look at all that are left, or that waits for an ingest that is at work, goes on
when the grace is over. -/
lemma closing_of_expired (hcall : h.calls.get? id = some (.awaiting left drained)) {looks : Nat}
    (hlate : looks < left.length ∨ ∃ key ∈ left, h.hasFinished key = false) :
    ∃ h' told stuck, h.step (.expire id looks) = some (h', told) ∧
      .graceExceeded h.config.grace stuck ∈ told ∧
      (∀ key ∈ stuck, h.hasFinished key = false) ∧
      h'.calls.get? id =
        some (.closing drained drained.length (.failed (.graceExceeded h.config.grace stuck))) := by
  obtain ⟨h', told, hstep, hp⟩ := proceeds_of_expired hcall looks
  cases hp with
  | expired hlooks hall =>
    rcases hlate with hlate | ⟨key, hmem, hwork⟩
    · exact absurd hlate (Nat.not_lt.2 hlooks)
    · cases hwork.symm.trans (hall key hmem)
  | @aborted _ _ _ stuck seen late _ _ _ _ hstuck =>
    refine ⟨_, _, stuck, hstep, List.mem_append_right _ (List.mem_singleton_self _), fun key hmem => ?_,
      Table.get?_put_self ..⟩
    rw [hstuck, Key.mem_sort, List.mem_filter] at hmem
    simpa using hmem.2

/-- Where all ingests have come to their end, a wait for them ends with an answer that reports none. -/
lemma Reached.isClear_of_step (hr : Reached config actions facts h)
    (hstep : h.step action = some (h', told)) (hmade : id < h.made)
    (hall : ∀ key, h.hasFinished key = true)
    (hclear : ∀ call, h.calls.get? id = some call → call.IsClear config.grace) (call' : Call)
    (hcall' : h'.calls.get? id = some call') : call'.IsClear config.grace := by
  rcases came_of_step hstep hcall' with hcall | ⟨rfl, -⟩ | ⟨call, hcall, hp, hled⟩
  · exact hclear call' hcall
  · exact absurd hmade (Nat.lt_irrefl _)
  · have hbefore := hclear call hcall
    cases hled with
    | stops | finds | breaks | leaves | drains => exact hbefore.elim
    | awaits => trivial
    | goesOn => exact hbefore
    | closes =>
      cases hp with
      | refused hrefuses => cases hrefuses
      | awaited => cases hcall'.symm.trans (Table.get?_put_self ..)
      | awaitedAll | expired =>
        cases hcall'.symm.trans (Table.get?_put_self ..)
        exact .inl rfl
      | @aborted _ _ _ stuck seen late _ _ _ _ hstuck =>
        cases hcall'.symm.trans (Table.get?_put_self ..)
        obtain rfl : stuck = [] := hstuck.trans (by simp [hall, Key.sort])
        exact .inr (by rw [hr.config_eq])

/-- Where all ingests have come to their end, the end of the grace leads to the answer that all are
stopped if the call looks at all that are left, and otherwise to one that reports none. -/
lemma answers_of_expired (hcall : h.calls.get? id = some (.awaiting left drained))
    (hall : ∀ key, h.hasFinished key = true) (looks : Nat) :
    ∃ h' told, h.run (.expire id looks :: List.replicate (drained.length + 1) (.resume id)) =
        some (h', told) ∧
      .returned id (if left.length ≤ looks then .stopped
        else .failed (.graceExceeded h.config.grace [])) ∈ told := by
  have hgoes : ∀ {reply}, (∃ h' told, h.step (.expire id looks) = some (h', told) ∧
      h'.calls.get? id = some (.closing drained drained.length reply)) →
      ∃ h' told, h.run (.expire id looks :: List.replicate (drained.length + 1) (.resume id)) =
        some (h', told) ∧ .returned id reply ∈ told := by
    rintro reply ⟨h₁, told₁, hstep, hclosing⟩
    obtain ⟨h₂, told₂, hclose, hreply⟩ := answers_of_closing hclosing
    exact ⟨h₂, told₁ ++ told₂, run_of_step hstep hclose, List.mem_append_right _ hreply⟩
  split
  · exact hgoes (closing_of_looked hcall ‹_› fun key _ => hall key)
  · rename_i hlooks
    obtain ⟨h₁, told₁, stuck, hstep, -, hstuck, hclosing⟩ :=
      closing_of_expired hcall (.inl (Nat.lt_of_not_le hlooks))
    have hnone : stuck = [] := List.eq_nil_iff_forall_not_mem.2 fun key hmem => by
      cases (hstuck key hmem).symm.trans (hall key)
    exact hgoes ⟨h₁, told₁, hstep, hnone ▸ hclosing⟩

/-- Once all ingests have come to their end, a wait for them ends with an answer that reports none,
whatever happens. -/
lemma Reached.isClear_of_run (hr : Reached config actions facts h) (hstopped : h.stopped = true)
    (hmade : id < h.made) (hall : ∀ key r, h.registration? key = some r → r.ingest.isFinished = true)
    (hclear : ∀ call, h.calls.get? id = some call → call.IsClear config.grace)
    (hrun : h.run more = some (h', told)) (call' : Call) (hcall' : h'.calls.get? id = some call') :
    call'.IsClear config.grace := by
  induction more generalizing actions facts h told with
  | nil =>
    cases hrun
    exact hclear call' hcall'
  | cons action more ih =>
    obtain ⟨h₁, told₁, told₂, hstep, hrest, rfl⟩ := run_cons hrun
    have hfinished : ∀ key, h.hasFinished key = true := hasFinished_of_all hall
    have hstopped₁ : h₁.stopped = true := (Follows.of_step hstep).stopped hstopped
    have hclear₁ : ∀ call, h₁.calls.get? id = some call → call.IsClear config.grace :=
      hr.isClear_of_step hstep hmade hfinished hclear
    refine ih (hr.step hstep) hstopped₁ ?_ ?_ hclear₁ hrest
    · exact Nat.lt_of_lt_of_le hmade (made_of_step hstep ▸ Nat.le_add_right ..)
    · intro key r₁ hreg₁
      obtain ⟨r, hreg⟩ := hr.sound.exists_before hstep hstopped₁ hreg₁
      obtain ⟨r₁', hreg₁', hages⟩ := hr.sound.ages hstep hreg
      cases hreg₁.symm.trans hreg₁'
      exact hages.finished (hall key r hreg)

/-- The only shutdown of a hub answers what its wait for the ingests ended with, when everything is
down. If all ingests have come to their end it answers that all are stopped, unless the grace ends in a
turn in which it cannot look at all; if some are at work when the grace is over, it answers with these. -/
theorem reported_of_shutdown (hrun : (Hub.new config).run actions = some (h, facts))
    (honce : facts.countP Fact.isHalt ≤ 1) (hrequest : (requests actions)[id]? = some .shutdown) :
    -- the answer
    (∀ action h' told reply, h.step action = some (h', told) → .returned id reply ∈ told →
      Decided config actions h id reply ∧
        (∀ key r, h'.registration? key = some r →
          r.IsDown ∧ (reply = .stopped → r.ingest.isFinished = true)) ∧
        ∀ key, h'.log.length key = 0 ∧ h'.log.latest? key = none ∧ h'.log.versions key = []) ∧
    ∀ left drained, h.calls.get? id = some (.awaiting left drained) →
      -- the wait, once all ingests have come to their end
      ((∀ key r, h.registration? key = some r → r.ingest.isFinished = true) →
        (∃ h' told, h.run (List.replicate (left.length + 1 + (drained.length + 1)) (.resume id)) =
          some (h', told) ∧ .returned id .stopped ∈ told) ∧
        (∀ looks, ∃ h' told,
          h.run (.expire id looks :: List.replicate (drained.length + 1) (.resume id)) =
            some (h', told) ∧
          .returned id (if left.length ≤ looks then .stopped
            else .failed (.graceExceeded config.grace [])) ∈ told) ∧
        ∀ more h' told reply, h.run more = some (h', told) → .returned id reply ∈ told →
          reply = .stopped ∨ reply = .failed (.graceExceeded config.grace [])) ∧
      -- the end of the grace, while some are at work
      ((∃ key r, h.registration? key = some r ∧ r.ingest.isFinished = false) →
        ∀ looks, ∃ h₁ told₁ stuck h' told, h.step (.expire id looks) = some (h₁, told₁) ∧
          .graceExceeded config.grace stuck ∈ told₁ ∧
          h₁.run (List.replicate (drained.length + 1) (.resume id)) = some (h', told) ∧
          .returned id (.failed (.graceExceeded config.grace stuck)) ∈ told) := by
  have hr : Reached config actions facts h := .of_run hrun
  have hmade : id < h.made := hr.served.made_eq ▸ (List.getElem?_eq_some_iff.1 hrequest).1
  refine ⟨fun action h' told reply hstep hreply => ?_, fun left drained hcall =>
    ⟨fun hall => ⟨?_, fun looks => ?_, fun more h' told reply hmore hreply => ?_⟩,
      fun ⟨key, r, hreg, hwork⟩ looks => ?_⟩⟩
  · obtain ⟨n, hcall, -⟩ := hr.shutdown_answered hstep hreply hrequest
    exact ⟨hr.decided honce hcall rfl,
      fun key r => hr.isDown_of_return hstep hreply hrequest honce,
      (hr.tornDown hstep hreply hrequest honce).logs⟩
  · obtain ⟨h₁, told₁, hwait, hclosing⟩ :=
      closing_of_awaiting hcall fun key _ => hasFinished_of_all hall key
    obtain ⟨h₂, told₂, hclose, hreply⟩ := answers_of_closing hclosing
    refine ⟨h₂, told₁ ++ told₂, ?_, List.mem_append_right _ hreply⟩
    rw [List.replicate_add]
    exact run_of_run hwait hclose
  · obtain rfl := hr.config_eq
    exact answers_of_expired hcall (hasFinished_of_all hall) looks
  · obtain ⟨actions₀, action, actions₁, h₀, told₀, h₁, told₁, rfl, hrun₀, hstep, hreply⟩ :=
      step_of_told hmore hreply
    have hr₀ := hr.run hrun₀
    obtain ⟨n, hclosing, -⟩ :=
      hr₀.shutdown_answered hstep hreply (getElem?_requests hrequest actions₀)
    refine hr.isClear_of_run (hr.sound.stopping hcall rfl) hmade hall (fun call hcall' => ?_) hrun₀
      _ hclosing
    cases hcall.symm.trans hcall'
    trivial
  · have hlate : looks < left.length ∨ ∃ key ∈ left, h.hasFinished key = false :=
      .inr ⟨key, hr.mem_left honce hcall hreg hwork, hasFinished_eq_false_iff.2 ⟨r, hreg, hwork⟩⟩
    obtain ⟨h₁, told₁, stuck, hstep, hmem, -, hclosing⟩ := closing_of_expired hcall hlate
    obtain ⟨h', told, hclose, hreply⟩ := answers_of_closing hclosing
    obtain rfl := hr.config_eq
    exact ⟨h₁, told₁, stuck, h', told, hstep, hmem, hclose, hreply⟩

/-- No grace at all. -/
def hasty : HubConfig :=
  { HubConfig.standard with grace := .ofMillis 0 }

/-- Of two observers one has not answered when the hub is shut down, and one has broken down. -/
def unanswered : List (Action Nat) :=
  [.start (.register ⟨"g", "v1", "r", "s", "n"⟩ ⟨1, "o"⟩), .resume 0,
    .start (.register default ⟨2, "p"⟩), .resume 1, .ingest ⟨"g", "v1", "r", "s", "n"⟩ .start,
    .ingest default .start, .ingest default (.answer .crashed), .start .shutdown, .resume 2]

def toldUnanswered : List (Fact Nat) :=
  [.registered ⟨"g", "v1", "r", "s", "n"⟩ "o", .returned 0 .registered, .registered default "p",
    .returned 1 .registered, .watched ⟨"g", "v1", "r", "s", "n"⟩, .watched default,
    .shutdownRequested]

/-- The first ingest stops after all, and the audiences are closed. -/
def inTime : List (Action Nat) :=
  [.ingest ⟨"g", "v1", "r", "s", "n"⟩ .stop, .expire 2 2, .resume 2, .resume 2]

theorem reported_of_unanswered :
    (∃ h h₁ told₁ stuck h' told, (new hasty).run unanswered = some (h, toldUnanswered) ∧
      h.step (.expire 2 2) = some (h₁, told₁) ∧ .graceExceeded (.ofMillis 0) stuck ∈ told₁ ∧
      h₁.run (List.replicate 3 (.resume 2)) = some (h', told) ∧
      .returned 2 (.failed (.graceExceeded (.ofMillis 0) stuck)) ∈ told) ∧
    ∃ h h', (new hasty).run (unanswered ++ inTime) =
        some (h, toldUnanswered ++ [.ingestCrashed default]) ∧
      h.step (.resume 2) = some (h', [.stopped 2, .returned 2 .stopped]) ∧
      Decided hasty (unanswered ++ inTime) h 2 .stopped ∧
      ∀ key r, h'.registration? key = some r → r.IsDown ∧ r.ingest.isFinished = true := by
  constructor
  · have hrun : (new hasty).run unanswered = some (_, toldUnanswered) := rfl
    have hrequest : (requests unanswered)[2]? = some .shutdown := rfl
    obtain ⟨-, hwait⟩ := reported_of_shutdown hrun (Nat.le_refl 1) hrequest
    obtain ⟨h₁, told₁, stuck, h', told, hstep, hmem, hclose, hreply⟩ :=
      (hwait _ _ rfl).2 ⟨⟨"g", "v1", "r", "s", "n"⟩, _, rfl, rfl⟩ 2
    exact ⟨_, h₁, told₁, stuck, h', told, hrun, hstep, hmem, hclose, hreply⟩
  · have hrun : (new hasty).run (unanswered ++ inTime) =
      some (_, toldUnanswered ++ [.ingestCrashed default]) := rfl
    have hrequest : (requests (unanswered ++ inTime))[2]? = some .shutdown := rfl
    obtain ⟨hanswer, -⟩ := reported_of_shutdown hrun (Nat.le_refl 1) hrequest
    obtain ⟨hdecided, hdown, -⟩ := hanswer (.resume 2) _ [.stopped 2, .returned 2 .stopped] .stopped
      rfl (List.mem_cons_of_mem _ (List.mem_cons_self ..))
    exact ⟨_, _, hrun, rfl, hdecided, fun key r hreg => (hdown key r hreg).imp_right fun h => h rfl⟩

/-- An observer is registered that cannot be watched: its ingest logs the failure and ends. -/
def unwatchable (id : CallId) (key : Key) : List (Action Nat) :=
  [.start (.register key ⟨id, "o"⟩), .resume id, .ingest key .start,
    .ingest key (.answer (.failed (.setup "o" "no"))), .ingest key (.locate (.ofNat (id + 1))),
    .ingest key .record, .ingest key .emit]

/-- One such observer after the other is registered, by calls that are numbered from the given one on. -/
def unwatchables (id : CallId) : List Key → List (Action Nat)
  | [] => []
  | key :: keys => unwatchable id key ++ unwatchables (id + 1) keys

variable {key : Key} {keys fresh : List Key} {r : Registration P}

/-- A running hub that holds the registration of one key after those of other keys, all of which are
bound and whose ingests have come to their end. -/
structure Holds (keys : List Key) (key : Key) (r : Registration P) (h : Hub P) : Prop where
  running : h.stopped = false
  keys_eq : h.registrations.keys = keys ++ [key]
  self : h.registration? key = some r
  others : ∀ {key' r'}, key ≠ key' → h.registration? key' = some r' →
    r'.bound = true ∧ r'.ingest.isFinished = true

/-- A running hub whose keys are all bound, to observers whose ingests have come to their end. -/
structure AtRest (keys : List Key) (h : Hub P) : Prop where
  running : h.stopped = false
  keys_eq : h.registrations.keys = keys
  ended : ∀ {key r}, h.registration? key = some r → r.bound = true ∧ r.ingest.isFinished = true

/-- A step of the ingest of the last key. -/
lemma Holds.ingest (hh : h.Holds keys key r) (move : Ingest.Move) {out : Ingested P}
    (hout : r.step false h.log move = some out) :
    ∃ h' told, h.step (.ingest key move) = some (h', told) ∧ h'.Holds keys key out.registration ∧
      h'.made = h.made := by
  have hstep : h.step (.ingest key move) =
      some ({ h with log := out.log }.putRegistration key out.registration, out.facts) := by
    simp [Hub.step, within, hh.self, hh.running, hout]
  refine ⟨_, _, hstep, ⟨hh.running, ?_, registration?_of_put rfl, fun hne hreg => ?_⟩, rfl⟩
  · exact (Table.keys_put ..).trans ((if_pos (Table.mem_keys_of_get? hh.self)).trans hh.keys_eq)
  · exact hh.others hne ((registration?_of_put_ne rfl hne).symm.trans hreg)

/-- A call that finds its key free registers its observer. -/
lemma step_registering {observer : ObserverRef} (hrunning : h.stopped = false)
    (hfree : h.registration? key = none) (hcall : h.calls.get? id = some (.registering key observer)) :
    h.step (.resume id) = some ((h.putRegistration key (.new key observer)).dismiss id,
      [.registered key observer.name, .returned id .registered]) := by
  have hbound : h.bound? key = none := by simp [bound?, hfree]
  simp [Hub.step, Hub.resume, hcall, Hub.register, hrunning, hbound, reply, dismiss]

/-- An observer is registered under a new key. -/
lemma AtRest.register (hi : h.AtRest keys) (hnew : key ∉ keys) (observer : ObserverRef) :
    ∃ h' told, h.run [.start (.register key observer), .resume h.made] = some (h', told) ∧
      h'.Holds keys key (.new key observer) ∧ h'.made = h.made + 1 := by
  rw [← hi.keys_eq] at hnew
  have hresume := step_registering (h := h.count.putCall h.made (.registering key observer))
    hi.running (Table.find?_eq_none hnew) (Table.get?_put_self ..)
  refine ⟨_, _, run_of_step rfl (run_singleton hresume), ⟨hi.running, ?_, registration?_of_put rfl,
    fun hne hreg => ?_⟩, rfl⟩
  · exact (Table.keys_put ..).trans ((if_neg hnew).trans (by rw [← hi.keys_eq]; rfl))
  · exact hi.ended ((registration?_of_put_ne rfl hne).symm.trans hreg)

/-- Another observer comes that cannot be watched. -/
lemma AtRest.unwatchable {h : Hub Nat} (hi : h.AtRest keys) (hnew : key ∉ keys) :
    ∃ h' told, h.run (unwatchable h.made key) = some (h', told) ∧ h'.AtRest (keys ++ [key]) ∧
      h'.made = h.made + 1 := by
  obtain ⟨h₁, told₁, hregister, hh, hmade₁⟩ := hi.register hnew ⟨h.made, "o"⟩
  obtain ⟨h₂, told₂, hstart, hh, hmade₂⟩ := hh.ingest .start rfl
  obtain ⟨h₃, told₃, hanswer, hh, hmade₃⟩ :=
    hh.ingest (.answer (.failed (.setup "o" "no"))) rfl
  obtain ⟨h₄, told₄, hlocate, hh, hmade₄⟩ := hh.ingest (.locate (.ofNat (h.made + 1))) rfl
  obtain ⟨h₅, told₅, hrecord, hh, hmade₅⟩ := hh.ingest .record rfl
  obtain ⟨h₆, told₆, hemit, hh, hmade₆⟩ := hh.ingest .emit rfl
  refine ⟨h₆, _, run_of_run hregister (run_of_step hstart (run_of_step hanswer (run_of_step hlocate
    (run_of_step hrecord (run_singleton hemit))))),
    ⟨hh.running, hh.keys_eq, fun {key' r'} hreg => ?_⟩, ?_⟩
  · by_cases heq : key = key'
    · subst heq
      cases hh.self.symm.trans hreg
      exact ⟨rfl, rfl⟩
    · exact hh.others heq hreg
  · rw [hmade₆, hmade₅, hmade₄, hmade₃, hmade₂, hmade₁]

/-- Any number of such observers come. -/
lemma AtRest.unwatchables {h : Hub Nat} (hi : h.AtRest keys) (hnodup : (keys ++ fresh).Nodup) :
    ∃ h' told, h.run (unwatchables h.made fresh) = some (h', told) ∧ h'.AtRest (keys ++ fresh) ∧
      h'.made = h.made + fresh.length := by
  induction fresh generalizing h keys with
  | nil => exact ⟨h, [], rfl, by simpa using hi, rfl⟩
  | cons key fresh ih =>
    have hassoc : keys ++ key :: fresh = keys ++ [key] ++ fresh := by simp
    rw [hassoc] at hnodup ⊢
    have hnew : key ∉ keys := fun hmem =>
      (List.nodup_append.1 (List.nodup_append.1 hnodup).1).2.2 key hmem key
        (List.mem_singleton_self _) rfl
    obtain ⟨h₁, told₁, hrun, hi₁, hmade⟩ := hi.unwatchable hnew
    obtain ⟨h', told', hrest, hi', hmade'⟩ := ih hi₁ hnodup
    rw [hmade] at hrest hmade'
    exact ⟨h', _, run_of_run hrun hrest, hi', by rw [hmade', List.length_cons]; omega⟩

/-- Where all keys are bound, they are the keys of the table. -/
lemma AtRest.boundKeys_eq (hi : h.AtRest keys) : h.boundKeys = keys := by
  rw [boundKeys, List.filter_eq_self.2 fun row hrow => ?_]
  · exact hi.keys_eq
  · exact (hi.ended (Table.get?_eq_some_iff.2 hrow)).1

/-- A shutdown comes whose grace is over when it looks at the ingests for the first time, and all have
come to their end. If it cannot look at all of them in one turn, it answers that the grace was exceeded,
by none. -/
lemma AtRest.exceeded (hi : h.AtRest keys) (looks : Nat) (hmany : looks < keys.length) :
    ∃ h' told, h.run (.start .shutdown :: .resume h.made :: .expire h.made looks ::
        List.replicate (keys.length + 1) (.resume h.made)) = some (h', told) ∧
      .returned h.made (.failed (.graceExceeded h.config.grace [])) ∈ told := by
  have hcall : (h.count.halt.putCall h.made .draining).calls.get? h.made = some .draining :=
    Table.get?_put_self ..
  have hdrain : (h.count.halt.putCall h.made .draining).step (.resume h.made) =
      some ((h.count.halt.putCall h.made .draining).drain h.made) := by
    simp [Hub.step, Hub.resume, hcall]
  have hall : ∀ key,
      ((h.count.halt.putCall h.made .draining).drain h.made).1.hasFinished key = true := by
    refine hasFinished_of_all fun key r' hreg' => ?_
    obtain ⟨r, hreg, rfl⟩ := Option.map_eq_some_iff.1 ((Table.get?_mapValues ..).symm.trans hreg')
    exact (hi.ended hreg).2
  have hawaiting : ((h.count.halt.putCall h.made .draining).drain h.made).1.calls.get? h.made =
      some (.awaiting keys keys) := by
    have hkeys : (h.count.halt.putCall h.made .draining).boundKeys = keys := hi.boundKeys_eq
    rw [drain, hkeys]
    exact Table.get?_put_self ..
  obtain ⟨h', told, hrest, hreply⟩ := answers_of_expired hawaiting hall looks
  rw [if_neg (Nat.not_le.2 hmany)] at hreply
  exact ⟨h', _, run_of_step rfl (run_of_step hdrain hrest),
    List.mem_append_right _ (List.mem_append_right _ hreply)⟩

/-- The keys of a hundred and thirty observers. -/
def crowd : List Key :=
  (List.range 130).map fun n => ⟨"t", "v1", "r", "d", Numeral.decimal n⟩

lemma nodup_crowd : crowd.Nodup := by
  refine List.Pairwise.map _ (fun m n hne heq => hne ?_) List.nodup_range
  have hdigits : Numeral.digits 10 m = Numeral.digits 10 n :=
    String.ofList_injective (congrArg Key.name heq)
  have hm := Numeral.spells_digits (n := m) (show 1 < 10 by decide) (by decide)
  have hn := Numeral.spells_digits (n := n) (show 1 < 10 by decide) (by decide)
  rw [← Numeral.value?_eq_some_iff (by decide)] at hm hn
  rw [hdigits] at hm
  exact Option.some.inj (hm.symm.trans hn)

/-- The shutdown comes when the ingests of all observers have come to their end, and it may look at 128
of them in its turn: it answers that the grace was exceeded, though no ingest is left that could have. -/
theorem overlooked :
    ∃ h facts h' told, (new hasty).run (unwatchables 0 crowd) = some (h, facts) ∧
      h.registrations.keys = crowd ∧
      (∀ key r, h.registration? key = some r → r.ingest.isFinished = true) ∧
      h.run (.start .shutdown :: .resume 130 :: .expire 130 128 :: List.replicate 131 (.resume 130)) =
        some (h', told) ∧
      .returned 130 (.failed (.graceExceeded (.ofMillis 0) [])) ∈ told := by
  have hnew : (new hasty : Hub Nat).AtRest [] := ⟨rfl, rfl, fun hreg => by cases hreg⟩
  obtain ⟨h, facts, hrun, hi, hmade⟩ := hnew.unwatchables (show ([] ++ crowd).Nodup from nodup_crowd)
  have hlength : crowd.length = 130 := by simp [crowd]
  obtain ⟨h', told, hmore, hreply⟩ := hi.exceeded 128 (by simp [hlength])
  have hr : Reached hasty _ facts h := .of_run hrun
  have hmade' : h.made = 130 := by rw [hmade, hlength]; rfl
  rw [hmade', List.nil_append, hlength] at hmore
  rw [hmade', hr.config_eq] at hreply
  exact ⟨h, facts, h', told, hrun, hi.keys_eq, fun _ _ hreg => (hi.ended hreg).2, hmore, hreply⟩

end Hub

end WatchHub
