import WatchHub.Proofs.Beside.Calls
import WatchHub.Proofs.Hub.Listing

/-!
# Steps in two runs

A step of somebody else is made in both runs, but for a step of a population that cannot be made without
the guest any more (`Hub.Beside.step_other`); a step of the guest is left out of the second run
(`Hub.Beside.step_guest`). Either way the two hubs stand beside each other after it.
-/

namespace WatchHub

variable {P : Type}

open WatchHub.Fact (Owns listing?)
open WatchHub.EventLog (Agree InStep)

lemma Audience.put_self {a : Audience P} {handle : Handle} {s : Subscription P}
    (hs : a.get? handle = some s) : a.put handle s = a := by
  rw [Audience.put, Table.put_self hs]

lemma Registration.populate_eq_map (r : Registration P) {handle : Handle} {s : Subscription P}
    (hs : r.audience.get? handle = some s) (log : EventLog P) (move : Population.Move P) :
    r.populate log handle move = (s.populate r.key handle log move).map fun p =>
      ⟨p.log, { r with audience := r.audience.put handle p.subscription }, p.facts⟩ := by
  cases hp : s.populate r.key handle log move <;> simp [populate, hs, hp]

namespace Hub

lemma putRegistration_self {h : Hub P} {key : Key} {r : Registration P}
    (hr : h.registration? key = some r) : h.putRegistration key r = h := by
  rw [putRegistration, Table.put_self hr]

/-- Lists whose members correspond have corresponding members at each place. -/
lemma exists_getElem?_of_forall₂ {A B : Type} {R : A → B → Prop} {l : List A} {l' : List B}
    (hl : List.Forall₂ R l l') {i : Nat} {a : A} (ha : l[i]? = some a) :
    ∃ b, l'[i]? = some b ∧ R a b := by
  induction hl generalizing i with
  | nil => cases ha
  | @cons a' b' l l' hhead _ ih =>
    cases i with
    | zero =>
      cases ha
      exact ⟨b', rfl, hhead⟩
    | succ i => exact ih ha

lemma within_of {h : Hub P} {key : Key} {f : Registration P → Option (Ingested P)}
    {r : Registration P} {out : Ingested P} (hr : h.registration? key = some r)
    (hf : f r = some out) :
    h.within key f = some ({ h with log := out.log }.putRegistration key out.registration,
      out.facts) := by
  simp [within, hr, hf]

/-- What a step makes of a hub where a population may be passed over. -/
inductive Plays (h : Hub P) (action : Action P) (spare : Prop) : Outcome P → Prop where
  | made {out} : h.step action = some out → Plays h action spare out
  | passed :
    spare → action.isPopulation = true → h.step action = none → Plays h action spare (h, [])

lemma Plays.play_eq {h : Hub P} {action : Action P} {spare : Prop} {out : Outcome P}
    (hp : Plays h action spare out) : h.play [action] = some out := by
  cases hp with
  | made hstep => simp [play, hstep]
  | passed _ hpopulation hstep => simp [play, hstep, hpopulation]

/-- The population of a subscription need not go on in the second run: its consumer is gone, or the logs
of its key differ and nobody is to be compared by it. -/
def Spares (like : Key → Likeness P) (bystander : Key → Handle → Prop) (h : Hub P) (key : Key)
    (handle : Handle) : Prop :=
  ∃ s, h.subscription? key handle = some s ∧
    (s.queue.receiving = true → ¬ (like key).exact ∧ ¬ bystander key handle)

/-- A step that the second run may pass over. -/
def SparesStep (like : Key → Likeness P) (bystander : Key → Handle → Prop) (h : Hub P)
    (action : Action P) : Prop :=
  ∃ key handle move, action = .populate key handle move ∧ h.Spares like bystander key handle

/-- What is known of two runs after some steps of the first one: the guest may have opened logs and has
logged its items. -/
def trace (h : Hub P) (g : Guest) (like : Key → Likeness P) (actions : List (Action P))
    (told : List (Fact P)) : Key → Likeness P :=
  fun key => (like key).add (h.Opens key g.handle actions) (told.filterMap (listing? key g.handle))

lemma le_trace (h : Hub P) (g : Guest) (like : Key → Likeness P) (actions : List (Action P))
    (told : List (Fact P)) (key : Key) : (like key).Le (h.trace g like actions told key) :=
  (like key).le_add ..

lemma trace_initial (h : Hub P) (g : Guest) (exact : Key → Prop) (actions : List (Action P))
    (told : List (Fact P)) (key : Key) :
    h.trace g (fun key => .initial (exact key)) actions told key =
      ⟨exact key, h.Opens key g.handle actions, told.filterMap (listing? key g.handle)⟩ := by
  simp [trace, Likeness.add, Likeness.initial]

namespace Beside

variable {g : Guest} {like like' : Key → Likeness P} {same : Key → LogId → LogId → Prop}
  {bystander : Key → Handle → Prop} {facts facts' : List (Fact P)} {h h' : Hub P} {key : Key}
  {handle : Handle} {out : Outcome P}

section Others

variable (hb : Beside g like same bystander facts facts' h h')
include hb

/-- What changes a registration in both runs alike. -/
lemma within {f f' : Registration P → Option (Ingested P)} (hout : h.within key f = some out)
    (hf : ∀ {r r' ingested},
      r.Beside g (like key) (same key) (bystander key) r' → f r = some ingested →
      ∃ ingested', f' r' = some ingested' ∧ ingested.log = h.log ∧ ingested'.log = h'.log ∧
        ingested.registration.Beside g (like key) (same key) (bystander key)
          ingested'.registration) :
    ∃ out', h'.within key f' = some out' ∧
      Beside g like same bystander facts facts' out.1 out'.1 := by
  obtain ⟨r, ingested, hr, hfr, rfl⟩ := within_eq_some hout
  obtain ⟨r', hr', hbeside⟩ := hb.registration? hr
  obtain ⟨ingested', hfr', hlog, hlog', hbeside'⟩ := hf hbeside hfr
  refine ⟨_, within_of hr' hfr', ?_⟩
  rw [hlog, hlog']
  exact hb.put hbeside'

lemma receive (hne : handle ≠ g.handle) (hout : h.step (.receive key handle) = some out) :
    ∃ out', h'.step (.receive key (g.rename handle)) = some out' ∧
      Beside g like same bystander facts facts' out.1 out'.1 := by
  refine hb.within hout fun {r r' ingested} hbeside hf => ?_
  obtain ⟨s, hs, hf⟩ := Option.bind_eq_some_iff.1 hf
  cases hf
  obtain ⟨s', hs', hbeside'⟩ :=
    hbeside.consume (f := fun s => s.receive.2) hne hs fun hpair => hpair.receive
  exact ⟨_, Option.bind_eq_some_iff.2 ⟨s', hs', rfl⟩, rfl, rfl, hbeside'⟩

lemma hangUp (hne : handle ≠ g.handle) (hout : h.step (.hangUp key handle) = some out) :
    ∃ out', h'.step (.hangUp key (g.rename handle)) = some out' ∧
      Beside g like same bystander facts facts' out.1 out'.1 := by
  refine hb.within hout fun {r r' ingested} hbeside hf => ?_
  obtain ⟨s, hs, hf⟩ := Option.bind_eq_some_iff.1 hf
  cases hf
  obtain ⟨s', hs', hbeside'⟩ :=
    hbeside.consume (f := fun s => { s with queue := s.queue.hangUp }) hne hs
      fun hpair => hpair.hangUp
  exact ⟨_, Option.bind_eq_some_iff.2 ⟨s', hs', rfl⟩, rfl, rfl, hbeside'⟩

lemma send (event : Event P) (hout : h.step (.send key event) = some out) :
    ∃ out', h'.step (.send key event) = some out' ∧
      Beside g like same bystander facts facts' out.1 out'.1 := by
  refine hb.within hout fun {r r' ingested} hbeside hf => ?_
  cases hf
  exact ⟨_, rfl, rfl, rfl, hbeside.send event⟩

lemma endStream (hout : h.step (.endStream key) = some out) :
    ∃ out', h'.step (.endStream key) = some out' ∧
      Beside g like same bystander facts facts' out.1 out'.1 := by
  refine hb.within hout fun {r r' ingested} hbeside hf => ?_
  cases hf
  exact ⟨_, rfl, rfl, rfl, hbeside.endStream⟩

lemma clear (hout : h.step .clear = some out) :
    ∃ out', h'.step .clear = some out' ∧
      Beside g like same bystander facts facts' out.1 out'.1 := by
  cases hout
  exact ⟨_, rfl, hb.clearLog⟩

variable (hbook : h.Booked facts) (hbook' : h'.Booked facts')
include hbook hbook'

lemma locate (epoch : UInt64) (event : Event P)
    (hout : h.step (.locate key epoch event) = some out) :
    ∃ out' same', h'.step (.locate key epoch event) = some out' ∧
      Beside g like same' bystander (facts ++ out.2) (facts' ++ out'.2) out.1 out'.1 := by
  cases hout
  have hlocated := hb.inStep (.locate hb.logs hb.owning hbook.ledger hbook'.ledger key epoch)
  refine ⟨_, _, rfl, hlocated.withAppending (List.rel_append hlocated.appending ?_)⟩
  exact .cons ⟨rfl, rfl, .inr ⟨rfl, rfl, rfl⟩⟩ .nil

omit hbook' in
lemma record (place : Nat) (hout : h.step (.record place) = some out) :
    ∃ out' same', h'.step (.record place) = some out' ∧
      Beside g like same' bystander (facts ++ out.2) (facts' ++ out'.2) out.1 out'.1 := by
  obtain ⟨a, ha, hout⟩ := Option.bind_eq_some_iff.1 hout
  obtain ⟨a', ha', hbeside⟩ := exists_getElem?_of_forall₂ hb.appending ha
  cases hout
  have hrecorded := hb.inStep
    (.record hb.logs hb.owning hbook.ledger hbeside.log a.event
      [.logged a.key .owner a.log a.event (h.log.record a.log a.event).1]
      [.logged a'.key .owner a'.log a'.event (h'.log.record a'.log a'.event).1])
  have hrest : List.Forall₂ (Appending.Beside same) (h.appending.eraseIdx place)
      (h'.appending.eraseIdx place) := by
    rw [List.eraseIdx_eq_take_drop_succ, List.eraseIdx_eq_take_drop_succ]
    exact List.rel_append (List.forall₂_take place hb.appending)
      (List.forall₂_drop (place + 1) hb.appending)
  refine ⟨_, same, Option.bind_eq_some_iff.2 ⟨a', ha', rfl⟩, ?_⟩
  have hfinal := hrecorded.withAppending hrest
  rw [← hbeside.event_eq] at hfinal ⊢
  exact hfinal

variable (hs : h.Sound)
include hs

lemma ingest {move : Ingest.Move} (hout : h.step (.ingest key move) = some out) :
    ∃ out' same', h'.step (.ingest key move) = some out' ∧
      Beside g like same' bystander (facts ++ out.2) (facts' ++ out'.2) out.1 out'.1 := by
  obtain ⟨r, ingested, hr, hf, rfl⟩ := within_eq_some hout
  obtain ⟨r', hr', hbeside⟩ := hb.registration? hr
  obtain rfl := hs.keyed hr
  obtain ⟨ingested', same', hi', hlog, hbeside'⟩ :=
    hbeside.step hb.logs hb.owning hbook.ledger hbook'.ledger (.of_step hf)
  refine ⟨_, same', within_of hr' ?_, (hb.inStep hlog).put hbeside'⟩
  rw [hb.stopped_eq]
  exact hi'.step_eq

lemma populate (hne : handle ≠ g.handle) {move : Population.Move P}
    (hout : h.step (.populate key handle move) = some out) :
    ∃ out' same', h'.Plays (.populate key (g.rename handle) move)
        (h.SparesStep like bystander (.populate key handle move)) out' ∧
      Beside g like same' bystander (facts ++ out.2) (facts' ++ out'.2) out.1 out'.1 := by
  obtain ⟨r, ingested, hr, hf, rfl⟩ := within_eq_some hout
  obtain ⟨s, hget, hf⟩ := Option.bind_eq_some_iff.1 hf
  obtain ⟨populated, hp, hf⟩ := Option.bind_eq_some_iff.1 hf
  cases hf
  obtain ⟨r', hr', hbeside⟩ := hb.registration? hr
  obtain rfl := hs.keyed hr
  obtain ⟨s', out', same', hget', hechoes, hlog, hbeside'⟩ := hbeside.populates hb.logs hb.owning
    hbook.ledger hbook'.ledger hne hget (.of_populate hp)
  have hmoved := (hb.inStep hlog).put hbeside'
  have hpopulate := r'.populate_eq_map hget' h'.log move
  rw [hbeside.key_eq] at hpopulate
  cases hechoes with
  | made hp' =>
    rw [hp', Option.map_some] at hpopulate
    exact ⟨_, same', .made (within_of hr' hpopulate), hmoved⟩
  | passed hspare hp' =>
    have hsub := (subscription?_of_registration? hr handle).trans hget
    refine ⟨_, same', .passed ⟨_, _, _, rfl, s, hsub, hspare⟩ rfl ?_, ?_⟩
    · simp [Hub.step, Hub.within, hr', hpopulate, hp']
    · rw [Audience.put_self hget'] at hmoved
      change Beside g like same' bystander _ _ _ (h'.putRegistration r.key r') at hmoved
      rwa [putRegistration_self hr'] at hmoved

end Others

section Own

variable (hb : Beside g like same bystander facts facts' h h')
include hb

/-- What changes the row of the guest. -/
lemma put_guest {r : Registration P} (hr : h.registration? key = some r) (s : Subscription P) :
    Beside g like same bystander facts facts'
      (h.putRegistration key { r with audience := r.audience.put g.handle s }) h' := by
  obtain ⟨r', hr', hbeside⟩ := hb.registration? hr
  exact hb.put_left hr hr' (hbeside.withAudience_left (hbeside.audience.put_guest s) rfl)

lemma receive_guest (hout : h.step (.receive key g.handle) = some out) :
    Beside g like same bystander facts facts' out.1 h' := by
  obtain ⟨r, ingested, hr, hf, rfl⟩ := within_eq_some hout
  obtain ⟨s, hs, hf⟩ := Option.bind_eq_some_iff.1 hf
  cases hf
  exact hb.put_guest hr _

lemma hangUp_guest (hout : h.step (.hangUp key g.handle) = some out) :
    Beside g like same bystander facts facts' out.1 h' := by
  obtain ⟨r, ingested, hr, hf, rfl⟩ := within_eq_some hout
  obtain ⟨s, hs, hf⟩ := Option.bind_eq_some_iff.1 hf
  cases hf
  exact hb.put_guest hr _

/-- The guest adds nothing to a log but the items that it lists. -/
lemma agree_of_guest {s : Subscription P} {move : Population.Move P} {populated : Populated P}
    (hbook : h.Booked facts) (hsub : h.subscription? key g.handle = some s)
    (hp : s.Populates key g.handle h.log move populated)
    (hquiet : (like key).exact → s.population.stage.isQuiet = true) :
    Agree (h.trace g like [.populate key g.handle move] populated.facts) same populated.log
      h'.log := by
  have hle := h.le_trace g like [.populate key g.handle move] populated.facts
  cases hwriting : move.isWriting with
  | false =>
    rw [hp.log_eq hwriting]
    exact hb.logs.weaken hle
  | true =>
    have hnot : ¬ (like key).exact := fun hexact => by
      cases (hp.quiet (hquiet hexact)).1.symm.trans hwriting
    cases hp with
    | @locate _ _ epoch =>
      exact hb.logs.locate_guest hbook.ledger.sound key epoch hnot hle fun hnone =>
        .inr ⟨[], epoch, [], h, [], rfl, rfl, hnone⟩
    | @record id event rest hstage =>
      have hown : Owns facts key id := hbook.populations hsub (by rw [Population.log?, hstage])
      refine hb.logs.record_guest hb.owning hbook.ledger hnot hown
        (h.Opens key g.handle [.populate key g.handle .record]) ?_ hle
      simp [trace, listing?]
    | _ => cases hwriting

lemma populate_guest (hs : h.Sound) (hbook : h.Booked facts) {move : Population.Move P}
    (hout : h.step (.populate key g.handle move) = some out)
    (hquiet : ∀ {s}, h.subscription? key g.handle = some s → (like key).exact →
      s.population.stage.isQuiet = true) :
    Beside g (h.trace g like [.populate key g.handle move] out.2) same bystander facts facts' out.1
      h' := by
  obtain ⟨r, ingested, hr, hf, rfl⟩ := within_eq_some hout
  obtain ⟨s, hget, hf⟩ := Option.bind_eq_some_iff.1 hf
  obtain ⟨populated, hp, hf⟩ := Option.bind_eq_some_iff.1 hf
  cases hf
  obtain rfl := hs.keyed hr
  have hsub := (subscription?_of_registration? hr g.handle).trans hget
  have hagree := hb.agree_of_guest hbook hsub (.of_populate hp) (hquiet hsub)
  exact (hb.withLog (h.le_trace g like _ _) id hagree).put_guest hr populated.subscription

end Own

variable {action : Action P}

/-- A step of somebody else is made in both runs, or passed over in the second. -/
theorem step_other (hb : Beside g like same bystander facts facts' h h') (hs : h.Sound)
    (hbook : h.Booked facts) (hbook' : h'.Booked facts') (hout : h.step action = some out)
    {action' : Action P} (hother : g.action? h.made action = some action')
    (hroom : Room.breakdown? h.config.queueRoom = none) (hk : g.Known h) (hk₁ : g.Known out.1)
    (hby : ∀ {key handle}, h.subscription? key handle = none → ¬ (like key).exact →
      ¬ bystander key handle) :
    ∃ out' same', h'.Plays action' (h.SparesStep like bystander action) out' ∧
      Beside g like same' bystander (facts ++ out.2) (facts' ++ out'.2) out.1 out'.1 := by
  have hmade : ∀ {id : CallId} {action₀ : Action P},
      (if g.made id then none else some action₀) = some action' →
      g.made id = false ∧ action₀ = action' := by
    intro id action₀ h
    obtain ⟨hid, heq⟩ := Option.ite_none_left_eq_some.1 h
    exact ⟨eq_false_of_ne_true hid, Option.some.inj heq⟩
  have hhandle : ∀ {handle : Handle} {action₀ : Action P},
      (if handle = g.handle then none else some action₀) = some action' →
      handle ≠ g.handle ∧ action₀ = action' := by
    intro handle action₀ h
    obtain ⟨hne, heq⟩ := Option.ite_none_left_eq_some.1 h
    exact ⟨hne, Option.some.inj heq⟩
  -- Most steps leave the logs as they are, and all but those of a population are made.
  have hplays : (∃ out', h'.step action' = some out' ∧
      Beside g like same bystander facts facts' out.1 out'.1) →
      ∃ out' same', h'.Plays action' (h.SparesStep like bystander action) out' ∧
        Beside g like same' bystander (facts ++ out.2) (facts' ++ out'.2) out.1 out'.1 :=
    fun ⟨out', hstep, hbeside⟩ => ⟨out', same, .made hstep, hbeside.tell _ _⟩
  have hwrites : (∃ out' same', h'.step action' = some out' ∧
      Beside g like same' bystander (facts ++ out.2) (facts' ++ out'.2) out.1 out'.1) →
      ∃ out' same', h'.Plays action' (h.SparesStep like bystander action) out' ∧
        Beside g like same' bystander (facts ++ out.2) (facts' ++ out'.2) out.1 out'.1 :=
    fun ⟨out', same', hstep, hbeside⟩ => ⟨out', same', .made hstep, hbeside⟩
  cases action with
  | start request =>
    obtain ⟨hid, rfl⟩ := hmade hother
    cases hout
    exact hplays ⟨_, rfl, hb.start hid request⟩
  | resume id =>
    obtain ⟨hid, rfl⟩ := hmade hother
    exact hplays (hb.resume hid hout hroom hk hk₁ fun hcall =>
      hby (hs.fresh hcall _))
  | expire id looks =>
    obtain ⟨hid, rfl⟩ := hmade hother
    exact hplays (hb.expire hid looks hout)
  | signal id name =>
    obtain ⟨hid, rfl⟩ := hmade hother
    exact hplays (hb.signal hid name hout)
  | ingest key move =>
    cases hother
    exact hwrites (hb.ingest hbook hbook' hs hout)
  | populate key handle move =>
    obtain ⟨hne, rfl⟩ := hhandle hother
    exact hb.populate hbook hbook' hs hne hout
  | receive key handle =>
    obtain ⟨hne, rfl⟩ := hhandle hother
    exact hplays (hb.receive hne hout)
  | hangUp key handle =>
    obtain ⟨hne, rfl⟩ := hhandle hother
    exact hplays (hb.hangUp hne hout)
  | send key event =>
    cases hother
    exact hplays (hb.send event hout)
  | endStream key =>
    cases hother
    exact hplays (hb.endStream hout)
  | locate key epoch event =>
    cases hother
    exact hwrites (hb.locate hbook hbook' epoch event hout)
  | record place =>
    cases hother
    exact hwrites (hb.record hbook place hout)
  | clear =>
    cases hother
    exact hplays (hb.clear hout)

/-- A step of the guest is left out of the second run. -/
theorem step_guest (hb : Beside g like same bystander facts facts' h h') (hs : h.Sound)
    (hbook : h.Booked facts) (hout : h.step action = some out) (hown : g.action? h.made action = none)
    (hroom : Room.breakdown? h.config.queueRoom = none) (hk : g.Known h) (hk₁ : g.Known out.1)
    (hjoin : ∀ key checkpoint, .subscribed key g.handle checkpoint ∉ out.2)
    (hquiet : ∀ {key s}, h.subscription? key g.handle = some s → (like key).exact →
      s.population.stage.isQuiet = true) :
    Beside g (h.trace g like [action] out.2) same bystander facts facts' out.1 h' := by
  have hmade : ∀ {id : CallId} {action₀ : Action P},
      (if g.made id then none else some action₀) = none → g.made id = true := by
    intro id action₀ h
    by_contra hid
    simp [hid] at h
  have hhandle : ∀ {handle : Handle} {action₀ : Action P},
      (if handle = g.handle then none else some action₀) = none → handle = g.handle := by
    intro handle action₀ h
    by_contra hne
    simp [hne] at h
  have hweaken : Beside g like same bystander facts facts' out.1 h' →
      Beside g (h.trace g like [action] out.2) same bystander facts facts' out.1 h' :=
    fun hbeside => hbeside.weaken (h.le_trace g like _ _) (.inl id)
  cases action with
  | start request =>
    cases hout
    exact hweaken (hb.start_guest (hmade hown) request hk₁)
  | resume id => exact hweaken (hb.resume_guest (hmade hown) hout hroom hk hk₁ hjoin)
  | expire id looks =>
    change h.expire id looks = some out at hout
    unfold Hub.expire at hout
    split at hout
    · -- A call of the guest does not wait for a shutdown.
      rename_i hcall
      cases hk.own (hmade hown) hcall
    · cases hout
  | signal id name =>
    change h.signal id name = some out at hout
    unfold Hub.signal at hout
    split at hout
    · rename_i hcall
      cases hk.own (hmade hown) hcall
    · cases hout
  | populate key handle move =>
    obtain rfl := hhandle hown
    exact hb.populate_guest hs hbook hout hquiet
  | receive key handle =>
    obtain rfl := hhandle hown
    exact hweaken (hb.receive_guest hout)
  | hangUp key handle =>
    obtain rfl := hhandle hown
    exact hweaken (hb.hangUp_guest hout)
  | ingest | send | endStream | locate | record | clear => cases hown

end Beside

end Hub

end WatchHub
