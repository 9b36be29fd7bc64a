import WatchHub.Proofs.Hub.Admission
import WatchHub.Proofs.Log.Conversation
import WatchHub.Proofs.Shutdown
import WatchHub.Rehearsal.Commands

/-!
# Refused calls

A call that is refused leaves the hub as it was: the same run can be made without it, and everybody else
is told the same, under the same handles. Only a subscriber that the hub lets in and then finds stopped
uses up a number. A hub that runs lets in every subscriber of a key that it knows, unless it was set to
make larger queues than there can be (`unchanged_of_refusal`).
-/

namespace WatchHub

variable {P : Type}

namespace Hub

variable {h h' h₁ h₂ : Hub P} {action : Action P} {told past rest facts : List (Fact P)}
  {config : HubConfig} {before after actions more : List (Action P)} {id : CallId} {key : Key}
  {handle : Handle} {checkpoint : Option Version} {failure : WatchFailure}

/-- A subscriber came while the hub ran, and was refused as the hub was stopped in between. -/
def Overtaken (config : HubConfig) (actions : List (Action P)) (id : CallId)
    (failure : WatchFailure) : Prop :=
  failure = .stopped ∧ ∃ key checkpoint, Begun config actions id key checkpoint

/-- The request of a call in progress is the one that it is made for in the end. -/
lemma Reached.serves_request (hr : Reached config before past h) {call : Call}
    (hcall : h.calls.get? id = some call) {request : Request}
    (hrequest : (requests (before ++ more))[id]? = some request) : call.Serves request := by
  obtain ⟨request', hrequest', hserves, -⟩ := hr.served.serves hcall
  cases hrequest.symm.trans (getElem?_requests hrequest' more)
  exact hserves

/-- A step of a call that is refused in the end does nothing but refuse it. It may draw a handle, if the
refusal comes from a stop in between. -/
lemma Reached.step_of_refused (hr : Reached config before past h₁)
    (hstep : h₁.step action = some (h₂, told)) (hcaller : h₁.caller? action = some id)
    (hrest : h₂.run after = some (h, rest))
    (hreply : .returned id (.refused failure) ∈ past ++ told ++ rest) :
    Unmoved h₁ h₂ ∧ (told = [] ∨ told = [.returned id (.refused failure)]) ∧
      (h₂.issued = h₁.issued ∨
        (h₂.issued = h₁.issued + 1 ∧ Overtaken config before id failure)) := by
  have hserved := ((hr.step hstep).run hrest).served
  obtain ⟨request, hrequest, hadmits, -, -⟩ := hserved.answered hreply
  rw [List.append_assoc] at hrequest
  -- the call gets no other reply
  have hunique : ∀ {reply}, .returned id reply ∈ told → reply = .refused failure :=
    fun hreply' => hserved.reply_unique
      (List.mem_append_left _ (List.mem_append_right _ hreply')) hreply
  have hentry : request.isEntry = true := by
    cases request with
    | register | subscribe => rfl
    | unsubscribe => cases hadmits
    | shutdown | guard => rcases hadmits with hx | ⟨_, _, hx⟩ <;> cases hx
  cases Conducts.of_step hstep (isCall_of_caller hcaller) with
  | opened => exact ⟨⟨rfl, rfl, rfl, rfl, rfl⟩, .inl rfl, .inl rfl⟩
  | turnedAway =>
    cases hcaller
    cases hunique (List.mem_singleton_self _)
    exact ⟨⟨rfl, rfl, rfl, rfl, rfl⟩, .inr rfl, .inl rfl⟩
  | halted =>
    cases hcaller
    have hmade : (requests (before ++ [.start .shutdown]))[h₁.made]? = some .shutdown := by
      rw [requests_of_some rfl, hr.served.getElem?_concat, if_pos rfl]
    have hfinal := getElem?_requests hmade after
    rw [List.append_assoc] at hfinal
    cases hrequest.symm.trans hfinal
    cases hentry
  | proceeded hcall hp =>
    cases hcaller.symm.trans hp.caller
    have hserves := hr.serves_request hcall hrequest
    have hpast : ∀ {reply}, .returned id reply ∉ past := fun hx => by
      obtain ⟨-, -, -, hnone, -⟩ := hr.served.answered hx
      cases hnone.symm.trans hcall
    -- Only the steps of a call that would bring something in are left.
    rw [← hserves.isEntry_eq] at hentry
    cases hp with
    | refused =>
      cases hunique (List.mem_singleton_self _)
      exact ⟨⟨rfl, rfl, rfl, rfl, rfl⟩, .inr rfl, .inl rfl⟩
    | registered => cases @hunique .registered (by simp)
    | @found key checkpoint =>
      have hreply' : .returned id (.refused failure) ∈ rest := by simpa [hpast] using hreply
      -- From now on the call is about to join, so only a stop can have refused it.
      rcases (hr.step hstep).joining_answered (Table.get?_put_self ..) hrest hreply' with hx | hx <;>
        cases hx
      exact ⟨⟨rfl, rfl, rfl, rfl, rfl⟩, .inl rfl, .inr ⟨rfl, rfl, key, checkpoint, hr.begun hcall⟩⟩
    | brokeDown =>
      have hreply' : .returned id (.refused failure) ∈ rest := by simpa [hpast] using hreply
      exact absurd hreply' ((hr.step hstep).silent_of_broken (Table.get?_put_self ..) hrest)
    | @joined _ handle => cases @hunique (.subscribed handle) (by simp)
    | _ => cases hentry

/-- Up to where it looks for the registration to leave, a call to unsubscribe has done nothing. -/
lemma Reached.idles_of_leaving (hr : Reached config actions facts h)
    (hcall : h.made ≤ id ∨ h.calls.get? id = some (.leaving key handle)) :
    (Hub.new config).Idles id actions := by
  induction hr with
  | new =>
    intro before action after _ _ _ _ heq
    simp at heq
  | @step actions past h action h' told hr hstep ih =>
    by_cases hcaller : h.caller? action = some id
    · have hunmade : h'.made ≤ id → h.calls.get? id = none := fun hmade =>
        (hr.served.unmade (Nat.le_trans (made_of_step hstep ▸ Nat.le_add_right ..) hmade)).1
      cases Conducts.of_step hstep (isCall_of_caller hcaller) with
      | opened =>
        cases hcaller
        refine (ih (.inl (Nat.le_refl _))).append hr.run_eq (.step fun h₁ told₁ hstep₁ _ => ?_)
        cases hstep.symm.trans hstep₁
        exact ⟨⟨rfl, rfl, rfl, rfl, rfl⟩, rfl, by simp⟩
      | turnedAway | halted =>
        cases hcaller
        rcases hcall with hmade | hcall
        · exact absurd hmade (Nat.not_succ_le_self _)
        · simp [Table.get?_erase] at hcall
      | proceeded hcall' hp =>
        cases hcaller.symm.trans hp.caller
        rcases hcall with hmade | hcall
        · cases (hunmade hmade).symm.trans hcall'
        · cases hp.leads hcall
    · refine (ih ?_).append hr.run_eq (.step fun _ _ _ hcaller' => absurd hcaller' hcaller)
      refine hcall.imp (fun hmade => ?_) fun hcall => (calls_of_step_ne hstep hcaller).symm.trans hcall
      exact Nat.le_trans (made_of_step hstep ▸ Nat.le_add_right ..) hmade

/-- The run without a call comes to the same hub, and tells the same to everybody else. -/
def GoesWithout (config : HubConfig) (actions : List (Action P)) (facts : List (Fact P)) (h : Hub P)
    (id : CallId) : Prop :=
  ∃ h₀, (Hub.new config).run (Action.without id 0 actions) =
      some (h₀, facts.filterMap (Fact.bypass? id)) ∧ Bypassed id h₀ h

lemma goesWithout_of_idles (hrun : (Hub.new config).run actions = some (h, facts))
    (hidles : (Hub.new config).Idles id actions) : GoesWithout config actions facts h id :=
  (Bypassed.new id config).run .new hrun hidles

/-- What is refused leaves everything as it was. A running hub lets in every subscriber of a key that it
knows, with a fresh subscription under a handle that nobody had, if it can make the queue; otherwise the
call breaks down with its handle drawn, and is never answered. -/
theorem unchanged_of_refusal (hrun : (Hub.new config).run actions = some (h, facts)) :
    -- a call that is refused
    (∀ id failure, .returned id (.refused failure) ∈ facts →
      (∀ before action after h₁ past h₂ told, actions = before ++ action :: after →
        (Hub.new config).run before = some (h₁, past) → h₁.step action = some (h₂, told) →
        h₁.caller? action = some id →
        Unmoved h₁ h₂ ∧ (told = [] ∨ told = [.returned id (.refused failure)]) ∧
          (h₂.issued = h₁.issued ∨
            (h₂.issued = h₁.issued + 1 ∧ Overtaken config actions id failure))) ∧
      (Overtaken config actions id failure ∨ GoesWithout config actions facts h id)) ∧
    -- a call to unsubscribe that finds no registration
    (∀ before after id key handle h₁ past, actions = before ++ .resume id :: after →
      (Hub.new config).run before = some (h₁, past) →
      h₁.calls.get? id = some (.leaving key handle) → h₁.bound? key = none →
      (Hub.new config).Idles id actions ∧ GoesWithout config actions facts h id) ∧
    -- a checkpoint in its text form that is no version, and a history that is not there
    (∀ (s : Rehearsal P) d key name text,
      (∃ checkpoint, readCheckpoint key text = .ok checkpoint ∧
        s.subscribeText d key name text = s.subscribe d key name checkpoint) ∨
      s.subscribeText d key name text = (.error (.versionNotFound key text), s)) ∧
    (∀ key v failure, h.log.replayAfter key v = .error failure →
      (failure = .noSuchResource key ∨ failure = .versionNotFound key v.text) ∧
        (h.log.perform (.replayAfter key v)).2 = h.log) ∧
    -- whoever subscribes to a key that a running hub knows
    (h.stopped = false → ∀ key r, h.bound? key = some r → ∀ checkpoint,
      ∃ h₁, h.step (.start (.subscribe key checkpoint)) = some (h₁, []) ∧
        ∀ more h₂ told, h₁.run more = some (h₂, told) → h₂.stopped = false →
          (config.queueRoom ≤ Room.limit →
            ∃ n ≤ 2, ∃ h₃ rest handle,
              h₂.run (List.replicate n (.resume h.made)) = some (h₃, rest) ∧
                .returned h.made (.subscribed handle) ∈ told ++ rest ∧
                h₁.OpensFresh (more ++ List.replicate n (.resume h.made)) key handle checkpoint ∧
                ((facts ++ (told ++ rest)).filterMap Fact.admission?).Nodup) ∧
          (Room.limit < config.queueRoom →
            ∃ n ≤ 1, ∃ h₃ message,
              h₂.run (List.replicate n (.resume h.made)) = some (h₃, []) ∧
                Unmoved h₂ h₃ ∧ h₃.issued = h₂.issued + n ∧
                h₃.calls.get? h.made = some (.broken message) ∧
                ∀ later h₄ rest, h₃.run later = some (h₄, rest) →
                  ∀ reply, .returned h.made reply ∉ told ++ rest)) := by
  have hr : Reached config actions facts h := .of_run hrun
  refine ⟨fun id failure hreply => ?_, ?_, fun s d key name text => ?_,
    fun key v failure hreplay => ?_, fun hrunning key r hbound checkpoint => ?_⟩
  · have hsteps : ∀ before action after h₁ past h₂ told, actions = before ++ action :: after →
        (Hub.new config).run before = some (h₁, past) → h₁.step action = some (h₂, told) →
        h₁.caller? action = some id →
        Unmoved h₁ h₂ ∧ (told = [] ∨ told = [.returned id (.refused failure)]) ∧
          (h₂.issued = h₁.issued ∨
            (h₂.issued = h₁.issued + 1 ∧ Overtaken config actions id failure)) := by
      rintro before action after h₁ past h₂ told rfl hbefore hstep hcaller
      obtain ⟨rest, hrest, rfl⟩ := run_append hbefore hrun
      obtain ⟨h₂', told', rest', hstep', hafter, rfl⟩ := run_cons hrest
      cases hstep.symm.trans hstep'
      obtain ⟨huntouched, htold, hissued⟩ := (Reached.of_run hbefore).step_of_refused hstep hcaller
        hafter (by rwa [List.append_assoc])
      refine ⟨huntouched, htold, hissued.imp_right fun ⟨hnext, hovertaken⟩ => ⟨hnext, ?_⟩⟩
      obtain ⟨hfailure, key, checkpoint, hbegun⟩ := hovertaken
      exact ⟨hfailure, key, checkpoint, hbegun.append _⟩
    refine ⟨hsteps, or_iff_not_imp_left.2 fun hnot => goesWithout_of_idles hrun ?_⟩
    intro before action after h₁ past h₂ told heq hbefore hstep hcaller
    obtain ⟨huntouched, htold, hissued⟩ := hsteps before action after h₁ past h₂ told heq hbefore
      hstep hcaller
    refine ⟨huntouched, hissued.resolve_right fun h => hnot h.2, ?_⟩
    rcases htold with rfl | rfl
    · simp
    · simp
  · rintro before after id key handle h₁ past rfl hbefore hcall hbound
    have hr₁ : Reached config before past h₁ := .of_run hbefore
    have hmade : id < h₁.made := Nat.lt_of_not_le fun hle => by
      cases (hr₁.served.unmade hle).1.symm.trans hcall
    have hstep : h₁.step (.resume id) = some (h₁.dismiss id, [.returned id .unsubscribed]) := by
      simp only [Hub.step, Hub.resume, hcall, Hub.leave, hbound]
      rfl
    have hidles : (Hub.new config).Idles id (before ++ .resume id :: after) := by
      refine (hr₁.idles_of_leaving (.inr hcall)).append hbefore ?_
      have hfirst : h₁.Idles id [.resume id] := .step fun h₂ told hstep' _ => by
        cases hstep.symm.trans hstep'
        exact ⟨⟨rfl, rfl, rfl, rfl, rfl⟩, rfl, by simp⟩
      have hover : (h₁.dismiss id).calls.get? id = none := by simp [dismiss, Table.get?_erase]
      exact hfirst.append (run_of_step hstep rfl) (.of_over hover hmade after)
    exact ⟨hidles, goesWithout_of_idles hrun hidles⟩
  · unfold Rehearsal.subscribeText
    cases hread : readCheckpoint key text with
    | ok checkpoint => exact .inl ⟨checkpoint, rfl, rfl⟩
    | error failure =>
      unfold readCheckpoint at hread
      split at hread
      · cases hread
      · split at hread <;> cases hread
        exact .inr rfl
  · refine ⟨?_, rfl⟩
    unfold EventLog.replayAfter at hreplay
    split at hreplay
    · unfold EventLog.replayOf at hreplay
      split at hreplay <;> cases hreplay
      exact .inr rfl
    · cases hreplay
      exact .inl rfl
  · have hstep : h.step (.start (.subscribe key checkpoint)) =
        some (h.count.putCall h.made (.finding key checkpoint), []) := by
      simp [Hub.step, Hub.start, hrunning, count, putCall]
    refine ⟨_, hstep, fun more h₂ told hmore hrunning₂ => ⟨fun hroom => ?_, fun hroom => ?_⟩⟩
    · obtain ⟨n, hn, h₃, rest, handle, hrest, hreturned, hsubscribed⟩ :=
        hr.admitted hbound hstep hmore hrunning₂ (Room.breakdown?_eq_none hroom)
      have hr₁ := hr.step hstep
      refine ⟨n, hn, h₃, rest, handle, hrest, hreturned,
        hr₁.opensFresh (run_of_run hmore hrest) hsubscribed, ?_⟩
      simpa using ((hr₁.run hmore).run hrest).nodup_admissions
    · obtain ⟨message, hmessage⟩ := Room.exists_breakdown? hroom
      obtain ⟨n, hn, h₃, hrest⟩ := hr.stranded hbound hstep hmore hrunning₂ hmessage
      exact ⟨n, hn, h₃, message, hrest⟩

/-- A second observer is turned away, and somebody leaves a key that nobody is registered for. -/
def turnedAway : List (Action Nat) :=
  [.start (.register default ⟨1, "o"⟩), .resume 0, .start (.register default ⟨2, "p"⟩), .resume 1,
    .start (.unsubscribe ⟨"", "", "", "", "o"⟩ ⟨1⟩), .resume 2]

def toldTurnedAway : List (Fact Nat) :=
  [.registered default "o", .returned 0 .registered,
    .returned 1 (.refused (.alreadyRegistered default)), .returned 2 .unsubscribed]

theorem unchanged_of_turnedAway :
    ∃ h, (new .standard).run turnedAway = some (h, toldTurnedAway) ∧
      GoesWithout .standard turnedAway toldTurnedAway h 1 ∧
      GoesWithout .standard turnedAway toldTurnedAway h 2 ∧
      ∃ h₁, h.step (.start (.subscribe default none)) = some (h₁, []) ∧
        ∃ n ≤ 2, ∃ h₃ rest handle,
          h₁.run (List.replicate n (.resume h.made)) = some (h₃, rest) ∧
            .returned h.made (.subscribed handle) ∈ rest := by
  have hrun : (new .standard).run turnedAway = some (_, toldTurnedAway) := rfl
  obtain ⟨hrefused, hleft, -, -, hjoins⟩ := unchanged_of_refusal hrun
  obtain ⟨-, hsecond⟩ := hrefused 1 (.alreadyRegistered default) (by simp [toldTurnedAway])
  obtain ⟨-, hthird⟩ := hleft (turnedAway.take 5) [] 2 _ _ _ _ rfl rfl rfl rfl
  obtain ⟨h₁, hstep, hlater⟩ := hjoins rfl default _ rfl none
  obtain ⟨hroomy, -⟩ := hlater [] h₁ [] rfl (by cases hstep; rfl)
  obtain ⟨n, hn, h₃, rest, handle, hrest, hreturned, -⟩ := hroomy (by decide)
  exact ⟨_, hrun, hsecond.resolve_left (by rintro ⟨hstopped, -⟩; cases hstopped), hthird, h₁, hstep,
    n, hn, h₃, rest, handle, hrest, hreturned⟩

/-- The queues are to have one slot more than there can be. -/
def roomy : HubConfig :=
  { HubConfig.standard with queueCapacity := 2305843009213693952 }

def things : Key :=
  ⟨"test", "v1", "things", "default", "a"⟩

/-- The hub runs and knows the key; the subscriber breaks down with the first handle drawn, and whatever
happens then, it is not answered. -/
theorem stranded_subscriber :
    ∃ h h₁, (new roomy : Hub Nat).run [.start (.register things ⟨1, "o"⟩), .resume 0] =
        some (h, [.registered things "o", .returned 0 .registered]) ∧
      h.stopped = false ∧ (h.bound? things).isSome = true ∧
      h.run [.start (.subscribe things none), .resume 1] = some (h₁, []) ∧
      h₁.stopped = false ∧ h₁.issued = 1 ∧
      h₁.calls.get? 1 = some (.broken
        "a semaphore may not have more than MAX_PERMITS permits (2305843009213693951)") ∧
      ∀ later h₂ told, h₁.run later = some (h₂, told) → ∀ reply, .returned 1 reply ∉ told := by
  let actions : List (Action Nat) := [.start (.register things ⟨1, "o"⟩), .resume 0]
  let more : List (Action Nat) := [.start (.subscribe things none), .resume 1]
  have hrun : (new roomy : Hub Nat).run (actions ++ more) =
      some (_, [.registered things "o", .returned 0 .registered]) := rfl
  refine ⟨_, _, (rfl : (new roomy : Hub Nat).run actions = some (_, _)), rfl, rfl, rfl, rfl, rfl, rfl,
    fun later h₂ told hlater reply => ?_⟩
  exact (Reached.of_run hrun).silent_of_broken rfl hlater

end Hub

end WatchHub
