import WatchHub.Proofs.Hub.Registrations
import WatchHub.Proofs.Hub.Later

/-!
# How a hub is torn down

From the moment a hub is stopped, each of its registrations is either down (its key unbound, its ingest
at its end or told to end, its subscriptions closed) or still on the list of a call that takes it down
(`Reached.takenDown`). No registration and no subscription comes any more, so when such a call has ended
and no other one is in progress, everything is down for good. A call that is about to answer that all
ingests have ended has waited for all of them.
-/

namespace WatchHub

variable {P : Type}

/-- Every subscription of an audience is closed. -/
def Audience.AllClosed (a : Audience P) : Prop :=
  ∀ handle s, a.get? handle = some s → s.closed = true

/-- A registration has been taken down: its ingest has come to its end or was told to. -/
structure Registration.IsDown (r : Registration P) : Prop where
  unbound : r.bound = false
  dismissed : r.ingest.isDismissed = true
  closed : r.audience.AllClosed

/-- What a call that tears the hub down has done with a registration so far, and that it will do the
rest. Only who has waited for the ingest to the end answers that all have ended. -/
def Call.TakesDown (key : Key) (r : Registration P) : Call → Prop
  | draining => r.bound = true
  | awaiting left drained =>
    r.bound = false ∧ key ∈ drained ∧ (key ∈ left ∨ r.ingest.isFinished = true)
  | closing left _ reply =>
    r.bound = false ∧ r.ingest.isDismissed = true ∧
      (reply = .stopped → r.ingest.isFinished = true) ∧ (key ∈ left ∨ r.audience.AllClosed)
  | _ => False

/-- Only a call that tears the hub down takes a registration down. -/
lemma Call.TakesDown.isStopping {key : Key} {r : Registration P} {call : Call}
    (h : call.TakesDown key r) : call.isStopping = true := by
  cases call <;> first | rfl | exact h.elim

/-- What a call has done stays done while the registration ages. -/
lemma Call.TakesDown.ages {key : Key} {r r' : Registration P} {call : Call}
    (h : call.TakesDown key r) (hages : r.Ages r') (hbound : r'.bound = r.bound)
    (hclosed : r.audience.AllClosed → r'.audience.AllClosed) : call.TakesDown key r' := by
  cases call with
  | draining => exact hbound.trans h
  | awaiting left drained =>
    obtain ⟨hunbound, hdrained, hrest⟩ := h
    exact ⟨hbound.trans hunbound, hdrained, hrest.imp id hages.finished⟩
  | closing left drained reply =>
    obtain ⟨hunbound, hdismissed, hfinished, hrest⟩ := h
    exact ⟨hbound.trans hunbound, hages.dismissed hdismissed,
      fun hreply => hages.finished (hfinished hreply), hrest.imp id hclosed⟩
  | _ => exact h.elim

lemma Registration.IsDown.ages {r r' : Registration P} (h : r.IsDown) (hages : r.Ages r')
    (hclosed : r.audience.AllClosed → r'.audience.AllClosed) : r'.IsDown where
  unbound := by
    refine eq_false_of_ne_true fun hbound => ?_
    cases h.unbound.symm.trans (hages.bound hbound)
  dismissed := hages.dismissed h.dismissed
  closed := hclosed h.closed

/-- Sorting keeps the keys. -/
lemma Key.mem_sort {key : Key} {keys : List Key} : key ∈ Key.sort keys ↔ key ∈ keys :=
  List.mem_mergeSort

namespace Subscription

/-- Nobody opens a subscription again. -/
lemma Turn.closed_of {key : Key} {handle : Handle} {s s' : Subscription P} {told : List (Fact P)}
    (h : Turn key handle s told s') (hclosed : s.closed = true) : s'.closed = true := by
  cases h with
  | rest | passed | hungUp => exact hclosed
  | @live d =>
    unfold Subscription.live
    split <;> exact hclosed
  | pruned | unsubscribed | closed => rfl
  | populated hp => exact hp.keeps.closed_eq.trans hclosed
  | received hreceive =>
    obtain ⟨queue, -, rfl⟩ := queue_receive hreceive
    exact hclosed

end Subscription

namespace Hub

variable {h h' : Hub P} {action : Action P} {told : List (Fact P)} {key : Key} {handle : Handle}
  {r r' : Registration P} {config : HubConfig} {actions : List (Action P)} {facts : List (Fact P)}

/-- A key leads to a bound registration exactly if it is among the bound keys. -/
lemma mem_boundKeys (hr : h.registration? key = some r) : key ∈ h.boundKeys ↔ r.bound = true := by
  unfold boundKeys
  rw [List.mem_map]
  constructor
  · rintro ⟨⟨key', r'⟩, hrow, rfl⟩
    obtain ⟨hrow, hbound⟩ := List.mem_filter.1 hrow
    cases hr.symm.trans (Table.get?_eq_some_iff.2 hrow)
    exact hbound
  · intro hbound
    exact ⟨(key, r), List.mem_filter.2 ⟨Table.get?_eq_some_iff.1 hr, hbound⟩, rfl⟩

lemma isFinished_of_hasFinished (hr : h.registration? key = some r)
    (hfinished : h.hasFinished key = true) : r.ingest.isFinished = true := by
  rwa [hasFinished, hr] at hfinished

/-- Nobody joins a hub that was stopped. -/
lemma Sound.allClosed (hs : h.Sound) (hstopped : h.stopped = true)
    (hstep : h.step action = some (h', told)) (hr : h.registration? key = some r)
    (hr' : h'.registration? key = some r') (hclosed : r.audience.AllClosed) :
    r'.audience.AllClosed := by
  intro handle s' hget'
  have hchanges := hs.changes hstep
  have hsub' := (subscription?_of_registration? hr' handle).trans hget'
  cases hget : r.audience.get? handle with
  | some s =>
    obtain ⟨s'', hsub'', hturn⟩ :=
      hchanges.turn hs ((subscription?_of_registration? hr handle).trans hget)
    cases hsub'.symm.trans hsub''
    exact hturn.closed_of (hclosed handle s hget)
  | none =>
    rcases hchanges.absent ((subscription?_of_registration? hr handle).trans hget) with
      hnone | ⟨before, checkpoint, after, htold⟩
    · cases hnone.symm.trans hsub'
    · obtain ⟨hrunning, -⟩ := hchanges.subscribed hs htold
      cases hrunning.symm.trans hstopped

/-- A registration is down, or some call takes it down. -/
def TakesDown (h : Hub P) (key : Key) (r : Registration P) : Prop :=
  r.IsDown ∨ ∃ id call, h.calls.get? id = some call ∧ call.TakesDown key r

/-- Once every ingest that was waited for has come to its end, so has the one that was waited for or had
come to its end before. -/
lemma finished_of_left {left : List Key} (hr : h.registration? key = some r)
    (hleft : ∀ key ∈ left, h.hasFinished key = true)
    (hrest : key ∈ left ∨ r.ingest.isFinished = true) : r.ingest.isFinished = true :=
  hrest.elim (fun hmem => isFinished_of_hasFinished hr (hleft key hmem)) id

/-- When the grace ends, an ingest has come to its end or is aborted. -/
lemma mem_stuck {seen late stuck : List Key} (hseen : ∀ key ∈ seen, h.hasFinished key = true)
    (hstuck : stuck = Key.sort (late.filter fun key => !h.hasFinished key))
    (hmem : key ∈ seen ++ late) : h.hasFinished key = true ∨ key ∈ stuck := by
  rcases List.mem_append.1 hmem with hmem | hmem
  · exact .inl (hseen key hmem)
  · cases hdone : h.hasFinished key with
    | true => exact .inl rfl
    | false =>
      rw [hstuck, Key.mem_sort]
      exact .inr (List.mem_filter.2 ⟨hmem, by rw [hdone]; rfl⟩)

/-- Whoever has left an audience is closed. -/
lemma Reached.closed_of_left (hr : Reached config actions facts h) (hreg : h.registration? key = some r)
    (handle : Handle) (s : Subscription P) (hget : r.audience.get? handle = some s)
    (hmember : s.member = false) : s.closed = true := by
  rw [(hr.ready ((subscription?_of_registration? hreg handle).trans hget)).closed_eq, hmember]
  rfl

/-- A call that takes a registration down goes on with it, or has come to its end and left it down. -/
lemma Proceeds.takesDown {id : CallId} {call : Call} (hp : h.Proceeds id call action told h')
    (hr : h.registration? key = some r) (hr' : h'.registration? key = some r')
    (hages : r.Ages r') (hbound : r'.bound = r.bound)
    (hclosed : r.audience.AllClosed → r'.audience.AllClosed)
    (hleft : ∀ handle s, r.audience.get? handle = some s → s.member = false → s.closed = true)
    (htakes : call.TakesDown key r) :
    (∃ call', h'.calls.get? id = some call' ∧ call'.TakesDown key r') ∨
      (h'.calls.get? id = none ∧ r'.IsDown) := by
  cases hp with
  | refused hrefuses => cases hrefuses <;> exact htakes.elim
  | drained =>
    -- The key was bound, and it is bound no more.
    have hreg : r' = { r with bound := false } := Option.some.inj (hr'.symm.trans
      ((Table.get?_mapValues h.registrations _ key).trans (congrArg _ hr)))
    rw [hreg] at hbound
    cases hbound.trans htakes
  | awaited hfinished =>
    cases hr'.symm.trans hr
    obtain ⟨hunbound, hdrained, hrest⟩ := htakes
    refine .inl ⟨_, Table.get?_put_self .., hunbound, hdrained, ?_⟩
    rcases hrest with hmem | hdone
    · rcases List.mem_cons.1 hmem with rfl | hmem
      · exact .inr (isFinished_of_hasFinished hr hfinished)
      · exact .inl hmem
    · exact .inr hdone
  | awaitedAll =>
    cases hr'.symm.trans hr
    obtain ⟨hunbound, hdrained, hrest⟩ := htakes
    have hfinished := finished_of_left hr (List.forall_mem_nil _) hrest
    exact .inl ⟨_, Table.get?_put_self .., hunbound, Ingest.isDismissed_of_isFinished hfinished,
      fun _ => hfinished, .inl hdrained⟩
  | expired _ hall =>
    cases hr'.symm.trans hr
    obtain ⟨hunbound, hdrained, hrest⟩ := htakes
    have hfinished := finished_of_left hr hall hrest
    exact .inl ⟨_, Table.get?_put_self .., hunbound, Ingest.isDismissed_of_isFinished hfinished,
      fun _ => hfinished, .inl hdrained⟩
  | @aborted _ _ _ stuck seen late hwaits _ hseen _ hstuck =>
    subst hwaits
    obtain ⟨hunbound, hdrained, hrest⟩ := htakes
    refine .inl ⟨_, Table.get?_put_self .., hbound.trans hunbound, ?_, nofun, .inl hdrained⟩
    have hreg : r' = if stuck.contains key then r.abort else r := Option.some.inj (hr'.symm.trans
      ((Table.get?_mapValues h.registrations _ key).trans (congrArg _ hr)))
    rcases hrest with hmem | hdone
    · rcases mem_stuck hseen hstuck hmem with hdone | hmem
      · exact Ingest.isDismissed_of_isFinished (hages.finished (isFinished_of_hasFinished hr hdone))
      · rw [hreg, if_pos (List.contains_iff_mem.2 hmem)]
        exact r.isDismissed_abort
    · exact Ingest.isDismissed_of_isFinished (hages.finished hdone)
  | closed hr₀ =>
    obtain ⟨hunbound, hdismissed, hfinished, hrest⟩ := htakes
    refine .inl ⟨_, Table.get?_put_self .., hbound.trans hunbound, hages.dismissed hdismissed,
      fun hreply => hages.finished (hfinished hreply), ?_⟩
    rcases hrest with hmem | hall
    · rcases List.mem_cons.1 hmem with rfl | hmem
      · cases hr₀.symm.trans hr
        have hreg : r' = { r with audience := r.audience.closeAll.1 } :=
          Option.some.inj (hr'.symm.trans (registration?_of_put rfl))
        refine .inr fun handle s hget => ?_
        rw [hreg, Audience.get?_closeAll, Option.map_eq_some_iff] at hget
        obtain ⟨s₀, hget, rfl⟩ := hget
        split
        · rfl
        · exact hleft handle s₀ hget (eq_false_of_ne_true ‹_›)
      · exact .inl hmem
    · exact .inr (hclosed hall)
  | passed hnone =>
    cases hr'.symm.trans hr
    obtain ⟨hunbound, hdismissed, hfinished, hrest⟩ := htakes
    refine .inl ⟨_, Table.get?_put_self .., hunbound, hdismissed, hfinished,
      hrest.imp (fun hmem => ?_) fun hall => hall⟩
    rcases List.mem_cons.1 hmem with rfl | hmem
    · cases hnone.symm.trans hr
    · exact hmem
  | ended =>
    cases hr'.symm.trans hr
    obtain ⟨hunbound, hdismissed, -, hrest⟩ := htakes
    exact .inr ⟨(Table.get?_erase ..).trans (if_pos rfl), hunbound, hdismissed,
      hrest.resolve_left List.not_mem_nil⟩
  | _ => exact htakes.elim

/-- A call that takes a registration down still does so after a step, or has come to its end and left it
down, unless its key is unbound right now. -/
lemma Reached.takesDown_step (hreached : Reached config actions facts h)
    (hstopped : h.stopped = true) (hstep : h.step action = some (h', told))
    (hr : h.registration? key = some r) (hr' : h'.registration? key = some r')
    (hbound : r'.bound = r.bound) {id : CallId} {call : Call}
    (hcall : h.calls.get? id = some call) (htakes : call.TakesDown key r) :
    (∃ call', h'.calls.get? id = some call' ∧ call'.TakesDown key r') ∨
      (h'.calls.get? id = none ∧ r'.IsDown) := by
  have hclosed := hreached.sound.allClosed hstopped hstep hr hr'
  obtain ⟨r'', hr'', hages⟩ := hreached.sound.ages hstep hr
  cases hr'.symm.trans hr''
  by_cases hcaller : h.caller? action = some id
  · exact (hreached.proceeds hstep hcaller hcall).takesDown hr hr' hages hbound hclosed
      (hreached.closed_of_left hr) htakes
  · exact .inl ⟨call, (calls_of_step_ne hstep hcaller).trans hcall, htakes.ages hages hbound hclosed⟩

/-- The key of a registration stays as it is, or a call unbinds it and takes the registration down. -/
lemma Sound.bound_cases (hs : h.Sound) (hstep : h.step action = some (h', told))
    (hr : h.registration? key = some r) (hr' : h'.registration? key = some r') :
    r'.bound = r.bound ∨
      ∃ id call, action = .resume id ∧ h.calls.get? id = some .draining ∧
        h'.calls.get? id = some call ∧ call.TakesDown key r' := by
  obtain ⟨r'', hr'', -, hbound | ⟨hwas, hunbound, id, hid, hdraining, hcall⟩⟩ :=
    hs.ages_or_unbinds hstep hr
  · cases hr'.symm.trans hr''
    exact .inl hbound
  · cases hr'.symm.trans hr''
    have hmem := (mem_boundKeys hr).2 hwas
    exact .inr ⟨id, _, hid, hdraining, hcall, hunbound, hmem, .inl hmem⟩

/-- A registration that is down stays down, and one that some call takes down is still taken down. -/
theorem TakesDown.step (htakes : h.TakesDown key r) (hreached : Reached config actions facts h)
    (hstopped : h.stopped = true) (hstep : h.step action = some (h', told))
    (hr : h.registration? key = some r) (hr' : h'.registration? key = some r') :
    h'.TakesDown key r' := by
  have hs := hreached.sound
  rcases hs.bound_cases hstep hr hr' with hbound | ⟨id, call, -, -, hcall, htakes'⟩
  · rcases htakes with hdown | ⟨id, call, hcall, htakes⟩
    · obtain ⟨r'', hr'', hages⟩ := hs.ages hstep hr
      cases hr'.symm.trans hr''
      exact .inl (hdown.ages hages (hs.allClosed hstopped hstep hr hr'))
    · rcases hreached.takesDown_step hstopped hstep hr hr' hbound hcall htakes with
        ⟨call', hcall', htakes'⟩ | ⟨-, hdown⟩
      · exact .inr ⟨id, call', hcall', htakes'⟩
      · exact .inl hdown
  · exact .inr ⟨id, call, hcall, htakes'⟩

/-- Whoever stops a running hub takes down all there is. -/
lemma TakesDown.halted (hs : h.Sound) (hrunning : h.stopped = false) (hstopped : h'.stopped = true)
    (hstep : h.step action = some (h', told)) (hr : h.registration? key = some r) :
    h'.registration? key = some r ∧ h'.TakesDown key r := by
  have hcall : action.isCall = true := by
    refine Bool.not_eq_false _ |>.mp fun hnone => ?_
    have := (Ignores.of_step hstep hnone).stopped_eq
    cases hstopped.symm.trans (this.trans hrunning)
  cases Conducts.of_step hstep hcall with
  | opened | turnedAway => cases hstopped.symm.trans hrunning
  | halted => exact ⟨hr, .inr ⟨_, _, Table.get?_put_self .., hs.bound hr hrunning⟩⟩
  | proceeded _ hp =>
    cases hp with
    | signalled => exact ⟨hr, .inr ⟨_, _, Table.get?_put_self .., hs.bound hr hrunning⟩⟩
    | _ => cases hstopped.symm.trans hrunning

/-- Once a hub is stopped, everything in it is down or taken down by some call. -/
theorem Reached.takenDown (hr : Reached config actions facts h) (hstopped : h.stopped = true)
    (hreg : h.registration? key = some r) : h.TakesDown key r := by
  induction hr generalizing r with
  | new => cases hstopped
  | @step actions past h action h' told hr hstep ih =>
    cases hold : h.registration? key with
    | none =>
      -- A registration that is new was made while the hub was running.
      rcases hr.sound.unregistered hstep hold with hnone | ⟨_, _, -, -, -, -, -, hrunning⟩
      · cases hnone.symm.trans hreg
      · cases hrunning.symm.trans hstopped
    | some r₀ =>
      cases hwas : h.stopped with
      | false =>
        obtain ⟨hreg', htakes⟩ := TakesDown.halted hr.sound hwas hstopped hstep hold
        cases hreg.symm.trans hreg'
        exact htakes
      | true => exact (ih hwas hold).step hr hwas hstep hold hreg

/-- When no call tears the hub down any more, everything is down. -/
theorem Reached.isDown (hr : Reached config actions facts h) (hstopped : h.stopped = true)
    (hidle : ∀ id call, h.calls.get? id = some call → call.isStopping = false)
    (hreg : h.registration? key = some r) : r.IsDown := by
  rcases hr.takenDown hstopped hreg with hdown | ⟨id, call, hcall, htakes⟩
  · exact hdown
  · cases (hidle id call hcall).symm.trans htakes.isStopping

end Hub

end WatchHub
