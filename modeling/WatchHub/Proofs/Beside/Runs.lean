import WatchHub.Proofs.Beside.Presence
import WatchHub.Proofs.Beside.Views

/-!
# Runs with and without the guest

Two hubs that stand beside each other are taken through the same steps, without those of the guest in
the second run (`Hub.Parallel`). Such runs can be put one after the other (`Hub.Parallel.trans`), and
every run in which the guest does not join is one of them (`Hub.Parallel.of_run`).
-/

namespace WatchHub

variable {P : Type}

open WatchHub.Fact (acceptance? listing?)

namespace Guest

/-- The steps of two parts of a run are those of the parts. -/
lemma without_append (g : Guest) (made : CallId) (actions more : List (Action P)) :
    g.without made (actions ++ more) =
      g.without made actions ++ g.without (made + (requests actions).length) more := by
  induction actions generalizing made with
  | nil => rfl
  | cons action actions ih =>
    have hmade : made + (action.request?.elim 0 fun _ => 1) + (requests actions).length =
        made + (requests (action :: actions)).length := by
      cases hrequest : action.request? <;>
        simp [requests, hrequest, Nat.add_assoc, Nat.add_comm]
    rw [List.cons_append, without, without, ih, List.append_assoc, hmade]

end Guest

namespace Hub

variable {h h₁ h₂ : Hub P} {actions more : List (Action P)} {told told₁ : List (Fact P)}

lemma play_append (hplay : h.play actions = some (h₁, told)) (more : List (Action P)) :
    h.play (actions ++ more) = (h₁.play more).map fun out => (out.1, told ++ out.2) := by
  induction actions generalizing h told with
  | nil =>
    cases hplay
    simp
  | cons action actions ih =>
    rw [play] at hplay
    rw [List.cons_append, play]
    cases hstep : h.step action with
    | some out =>
      simp only [hstep, Option.map_eq_some_iff] at hplay
      obtain ⟨out', hrest, heq⟩ := hplay
      cases heq
      simp [ih hrest, Function.comp_def]
    | none =>
      simp only [hstep] at hplay ⊢
      split at hplay
      · rw [if_pos ‹_›, ih hplay]
      · cases hplay

lemma skipped_append (hplay : h.play actions = some (h₁, told)) (more : List (Action P)) :
    h.skipped (actions ++ more) = h.skipped actions ++ h₁.skipped more := by
  induction actions generalizing h told with
  | nil =>
    cases hplay
    rfl
  | cons action actions ih =>
    rw [play] at hplay
    rw [List.cons_append, skipped, skipped]
    cases hstep : h.step action with
    | some out =>
      simp only [hstep, Option.map_eq_some_iff] at hplay
      obtain ⟨out', hrest, heq⟩ := hplay
      cases heq
      exact ih hrest
    | none =>
      simp only [hstep] at hplay ⊢
      split at hplay
      · rw [ih hplay, List.cons_append]
      · cases hplay

lemma finds_append (hplay : h.play actions = some (h₁, told)) (key : Key) (handle : Handle)
    (more : List (Action P)) :
    h.finds key handle (actions ++ more) =
      h.finds key handle actions ++ h₁.finds key handle more := by
  induction actions generalizing h told with
  | nil =>
    cases hplay
    rfl
  | cons action actions ih =>
    rw [play] at hplay
    rw [List.cons_append, finds, finds, List.append_assoc]
    congr 1
    cases hstep : h.step action with
    | some out =>
      simp only [hstep, Option.map_eq_some_iff] at hplay
      obtain ⟨out', hrest, heq⟩ := hplay
      cases heq
      exact ih hrest
    | none =>
      simp only [hstep] at hplay ⊢
      split at hplay
      · exact ih hplay
      · cases hplay

lemma finds_singleton (h : Hub P) (key : Key) (handle : Handle) (action : Action P) :
    h.finds key handle [action] = (h.found? key handle action).toList := by
  cases hstep : h.step action <;> simp [finds, hstep]

lemma Plays.skipped_eq {action : Action P} {spare : Prop} {out : Outcome P}
    (hp : h.Plays action spare out) :
    h.skipped [action] = [] ∨ h.skipped [action] = [action] ∧ spare := by
  cases hp with
  | made hstep => exact .inl (by simp [skipped, hstep])
  | passed hspare _ hstep => exact .inr ⟨by simp [skipped, hstep], hspare⟩

/-- A run is played without anything being passed over. -/
lemma play_of_run (hrun : h.run actions = some (h₁, told)) : h.play actions = some (h₁, told) := by
  induction actions generalizing h told with
  | nil => exact hrun
  | cons action actions ih =>
    obtain ⟨h₂, told₁, rest, hstep, hrest, rfl⟩ := run_cons hrun
    simp [play, hstep, ih hrest]

/-- What was played is a run. -/
lemma Reached.play {config : HubConfig} {past : List (Action P)} {facts : List (Fact P)}
    (hr : Reached config past facts h) (hplay : h.play actions = some (h₁, told)) :
    ∃ past', Reached config past' (facts ++ told) h₁ := by
  induction actions generalizing past facts h told with
  | nil =>
    cases hplay
    exact ⟨past, by simpa using hr⟩
  | cons action actions ih =>
    unfold Hub.play at hplay
    cases hstep : h.step action with
    | some out =>
      simp only [hstep, Option.map_eq_some_iff] at hplay
      obtain ⟨out', hrest, heq⟩ := hplay
      cases heq
      obtain ⟨past', hr'⟩ := ih (hr.step hstep) hrest
      exact ⟨past', by simpa using hr'⟩
    | none =>
      simp only [hstep] at hplay
      split at hplay
      · exact ih hr hplay
      · cases hplay

variable {config : HubConfig} {past past' : List (Action P)} {facts facts' told' told₁' : List (Fact P)}
  {g : Guest} {like like' : Key → Likeness P} {bystander : Key → Handle → Prop}
  {h' h₁' h₂' : Hub P} {action : Action P} {key : Key} {handle : Handle}

/-- The calls that are counted are those of the steps. -/
lemma Reached.made_of_run (hr : Reached config past facts h)
    (hrun : h.run actions = some (h₁, told)) : h.made + (requests actions).length = h₁.made := by
  rw [hr.served.made_eq, (hr.run hrun).served.made_eq, requests_append, List.length_append]

lemma Opens.append (hopens : h.Opens key handle actions) (more : List (Action P)) :
    h.Opens key handle (actions ++ more) := by
  obtain ⟨before, epoch, after, h₀, told, rfl, hrun, hnone⟩ := hopens
  exact ⟨before, epoch, after ++ more, h₀, told, by simp, hrun, hnone⟩

lemma Opens.after (hopens : h₁.Opens key handle more) (hrun : h.run actions = some (h₁, told)) :
    h.Opens key handle (actions ++ more) := by
  obtain ⟨before, epoch, after, h₀, told₀, rfl, hrun₀, hnone⟩ := hopens
  exact ⟨actions ++ before, epoch, after, h₀, told ++ told₀, by simp, run_of_run hrun hrun₀, hnone⟩

/-- What the guest does in two parts of a run it does in the run. -/
lemma trace_trace_le (hrun : h.run actions = some (h₁, told)) (g : Guest) (like : Key → Likeness P)
    (more : List (Action P)) (told₁ : List (Fact P)) (key : Key) :
    (h₁.trace g (h.trace g like actions told) more told₁ key).Le
      (h.trace g like (actions ++ more) (told ++ told₁) key) := by
  refine ⟨id, ?_, ?_⟩
  · rintro ((hopened | hopens) | hopens)
    · exact .inl hopened
    · exact .inr (hopens.append more)
    · exact .inr (hopens.after hrun)
  · simp only [trace, Likeness.add, List.filterMap_append, List.append_assoc]
    exact List.Sublist.refl _

/-- Whoever need not go on need not do so later. -/
lemma Reached.spares (hr : Reached config past facts h) (hrun : h.run actions = some (h₁, told))
    (hspares : h.Spares like bystander key handle) : h₁.Spares like bystander key handle := by
  obtain ⟨s, hsub, hspare⟩ := hspares
  obtain ⟨s₁, hsub₁, hlater⟩ := hr.later hrun hsub
  exact ⟨s₁, hsub₁, fun hreceiving => hspare (hlater.receiving hreceiving)⟩

/-- A run with the guest, and the same steps without it from a hub that stands beside. -/
structure Parallel (g : Guest) (like : Key → Likeness P) (bystander : Key → Handle → Prop)
    (facts facts' : List (Fact P)) (h h' : Hub P) (actions : List (Action P))
    (told : List (Fact P)) (h₁ h₁' : Hub P) (told' : List (Fact P)) : Prop where
  play : h'.play (g.without h.made actions) = some (h₁', told')
  beside : ∃ same, Beside g (h.trace g like actions told) same bystander (facts ++ told)
    (facts' ++ told') h₁ h₁'
  skipped : ∀ action ∈ h'.skipped (g.without h.made actions), ∃ key handle move,
    action = .populate key (g.rename handle) move ∧ handle ≠ g.handle ∧
      h₁.Spares like bystander key handle
  seen : ∀ {key handle}, handle ≠ g.handle →
    (∀ {s}, h₁.subscription? key handle = some s →
      bystander key handle ∧ s.queue.receiving = true) →
    SeenAlike (h.trace g like actions told key) (told.filterMap (Fact.acceptance? key handle))
      (told'.filterMap (Fact.acceptance? key (g.rename handle)))
      (h.finds key handle actions)
      (h'.finds key (g.rename handle) (g.without h.made actions))

namespace Parallel

lemma nil {same : Key → LogId → LogId → Prop}
    (hb : Beside g like same bystander facts facts' h h') :
    Parallel g like bystander facts facts' h h' [] [] h h' [] where
  play := rfl
  beside := ⟨same, (hb.weaken (h.le_trace g like [] []) (.inl id)).tell [] []⟩
  skipped _ hmem := absurd hmem List.not_mem_nil
  seen _ _ := .nil _

/-- Two runs, one after the other. -/
lemma trans (hr : Reached config past facts h) (hrun : h.run actions = some (h₁, told))
    (hmore : h₁.run more = some (h₂, told₁))
    (hp : Parallel g like bystander facts facts' h h' actions told h₁ h₁' told')
    (hq : Parallel g (h.trace g like actions told) bystander (facts ++ told) (facts' ++ told')
      h₁ h₁' more told₁ h₂ h₂' told₁') :
    Parallel g like bystander facts facts' h h' (actions ++ more) (told ++ told₁) h₂ h₂'
      (told' ++ told₁') := by
  have hwithout : g.without h.made (actions ++ more) =
      g.without h.made actions ++ g.without h₁.made more := by
    rw [g.without_append, hr.made_of_run hrun]
  have hle := trace_trace_le hrun g like more told₁
  refine ⟨?_, ?_, fun action hmem => ?_, fun {key handle} hne hrow => ?_⟩
  · rw [hwithout, play_append hp.play, hq.play, Option.map_some]
  · obtain ⟨same, hbeside⟩ := hq.beside
    rw [← List.append_assoc, ← List.append_assoc]
    exact ⟨same, hbeside.weaken hle (.inl id)⟩
  · rw [hwithout, skipped_append hp.play, List.mem_append] at hmem
    rcases hmem with hmem | hmem
    · obtain ⟨key, handle, move, rfl, hne, hspares⟩ := hp.skipped action hmem
      exact ⟨key, handle, move, rfl, hne, (hr.run hrun).spares hmore hspares⟩
    · exact hq.skipped action hmem
  · have hrow₁ : ∀ {s}, h₁.subscription? key handle = some s →
        bystander key handle ∧ s.queue.receiving = true := by
      intro s hsub
      obtain ⟨s₂, hsub₂, hlater⟩ := (hr.run hrun).later hmore hsub
      obtain ⟨hby, hreceiving⟩ := hrow hsub₂
      exact ⟨hby, hlater.receiving hreceiving⟩
    rw [hwithout, List.filterMap_append, List.filterMap_append,
      finds_append (play_of_run hrun), finds_append hp.play]
    exact ((hp.seen hne hrow₁).weaken ((h₁.le_trace ..).trans (hle key))).append
      ((hq.seen hne hrow).weaken (hle key))

/-- From the end of a run on the logs may differ. -/
lemma weaken (hp : Parallel g like bystander facts facts' h h' actions told h₁ h₁' told')
    (hle : ∀ key, (like key).Le (like' key)) (hexact : ∀ key, (like key).exact)
    (hby : ∀ {key handle s}, bystander key handle → h₁.subscription? key handle = some s →
      s.population.isFinished = true) :
    Parallel g like' bystander facts facts' h h' actions told h₁ h₁' told' := by
  have hle' : ∀ key, (h.trace g like actions told key).Le (h.trace g like' actions told key) :=
    fun key => (hle key).add ..
  refine ⟨hp.play, ?_, fun action hmem => ?_, fun {key _} hne hrow =>
    (hp.seen hne hrow).weaken (hle' key)⟩
  · obtain ⟨same, hbeside⟩ := hp.beside
    exact ⟨same, hbeside.weaken hle' (.inr hby)⟩
  · obtain ⟨key, handle, move, rfl, hne, s, hsub, hspare⟩ := hp.skipped action hmem
    exact ⟨key, handle, move, rfl, hne, s, hsub, fun hreceiving =>
      absurd (hexact key) (hspare hreceiving).1⟩

end Parallel

end Hub

/-- Subscriptions get their queues, of every call it can be told whose it is, and a guest that must leave
a log as it is does not write to it. -/
structure Guest.Settled (g : Guest) (like : Key → Likeness P) (h : Hub P) : Prop where
  room : Room.breakdown? h.config.queueRoom = none
  known : g.Known h
  quiet : ∀ {key s}, h.subscription? key g.handle = some s → (like key).exact →
    s.population.stage.isQuiet = true

namespace Hub.Parallel

variable {config : HubConfig} {past past' : List (Action P)} {facts facts' told : List (Fact P)}
  {g : Guest} {like : Key → Likeness P} {same : Key → LogId → LogId → Prop}
  {bystander : Key → Handle → Prop} {h h' h₁ : Hub P} {action : Action P} {actions : List (Action P)}

/-- A step of the guest shows nobody anything. -/
lemma of_guest (hr : Reached config past facts h) (hstep : h.step action = some (h₁, told))
    (haction : g.action? h.made action = none)
    (hb : Beside g (h.trace g like [action] told) same bystander facts facts' h₁ h') :
    Parallel g like bystander facts facts' h h' [action] told h₁ h' [] := by
  have hwithout : g.without h.made [action] = (none : Option (Action P)).toList :=
    haction ▸ List.append_nil _
  refine ⟨hwithout ▸ rfl, ⟨same, hb.tell told []⟩, hwithout ▸ nofun, fun {key handle} hne _ => ?_⟩
  obtain ⟨haccepted, hfound⟩ := Beside.sees_guest key hr.sound hstep haction hne
  rw [hwithout, haccepted, finds_singleton, hfound]
  exact .nil _

/-- One step of a run. -/
lemma of_step (hr : Reached config past facts h) (hr' : Reached config past' facts' h')
    (hb : Beside g like same bystander facts facts' h h') (hstep : h.step action = some (h₁, told))
    (hsettled : g.Settled like h) (hsettled₁ : g.Settled like h₁)
    (hjoin : ∀ key checkpoint, .subscribed key g.handle checkpoint ∉ told)
    (hby : ∀ {key handle}, h.subscription? key handle = none → ¬ (like key).exact →
      ¬ bystander key handle) :
    ∃ h₁' told', Parallel g like bystander facts facts' h h' [action] told h₁ h₁' told' := by
  have hle := h.le_trace g like [action] told
  cases haction : g.action? h.made action with
  | none =>
    have hbeside := hb.step_guest hr.sound hr.booked hstep haction hsettled.room hsettled.known
      hsettled₁.known hjoin hsettled.quiet
    exact ⟨h', [], .of_guest hr hstep haction hbeside⟩
  | some action' =>
    have hwithout : g.without h.made [action] = (some action').toList :=
      haction ▸ List.append_nil _
    obtain ⟨⟨h₁', told'⟩, same', hplays, hbeside⟩ := hb.step_other hr.sound hr.booked hr'.booked
      hstep haction hsettled.room hsettled.known hsettled₁.known hby
    refine ⟨h₁', told', hwithout ▸ hplays.play_eq, ⟨same', hbeside.weaken hle (.inl id)⟩,
      fun action₀ hmem => ?_, fun {key handle} hne hrow => ?_⟩
    · rw [hwithout] at hmem
      rcases hplays.skipped_eq with hskipped | ⟨hskipped, key, handle, move, rfl, hspares⟩
      · exact absurd (hskipped ▸ hmem) List.not_mem_nil
      · obtain rfl := List.mem_singleton.1 (hskipped ▸ hmem)
        obtain ⟨hne, heq⟩ := Option.ite_none_left_eq_some.1 haction
        exact ⟨key, handle, move, (Option.some.inj heq).symm, hne,
          hr.spares (run_singleton hstep) hspares⟩
    · rw [hwithout, Option.toList_some, finds_singleton, finds_singleton]
      refine (hb.sees_other hr.sound hr'.sound hstep haction hplays hne fun {s} hsub => ?_).weaken
        (hle key)
      obtain ⟨s₁, hsub₁, hlater⟩ := hr.later (run_singleton hstep) hsub
      obtain ⟨hbystander, hreceiving⟩ := hrow hsub₁
      exact ⟨hbystander, hlater.receiving hreceiving⟩

/-- A run in which the guest does not join, with it and without it. -/
theorem of_run (hr : Reached config past facts h) (hr' : Reached config past' facts' h')
    (hb : Beside g like same bystander facts facts' h h') (hrun : h.run actions = some (h₁, told))
    (hsettled : ∀ {part told₀ h₀}, part <+: actions → h.run part = some (h₀, told₀) →
      g.Settled like h₀)
    (hjoin : ∀ key checkpoint, .subscribed key g.handle checkpoint ∉ told)
    (hby : ∀ {key handle}, ¬ (like key).exact → bystander key handle →
      (h.subscription? key handle).isSome) :
    ∃ h₁' told', Parallel g like bystander facts facts' h h' actions told h₁ h₁' told' := by
  induction actions generalizing past past' facts facts' h h' like same told with
  | nil =>
    cases hrun
    exact ⟨h', [], .nil hb⟩
  | cons action actions ih =>
    obtain ⟨h₂, told₁, told₂, hstep, hrest, rfl⟩ := run_cons hrun
    have hone := run_singleton hstep
    obtain ⟨h₂', told₁', hfirst⟩ := of_step hr hr' hb hstep (hsettled List.nil_prefix rfl)
      (hsettled (List.prefix_cons_inj action |>.2 List.nil_prefix) hone)
      (fun key checkpoint hmem => hjoin key checkpoint (List.mem_append_left _ hmem))
      fun hnone hnot hbystander => by
        simpa [hnone] using hby hnot hbystander
    obtain ⟨past₂', hr₂'⟩ := hr'.play hfirst.play
    obtain ⟨same', hbeside⟩ := hfirst.beside
    obtain ⟨h₁', told₂', hothers⟩ := ih (hr.step hstep) hr₂' hbeside hrest
      (fun hpart hrun₀ => by
        have hs := hsettled ((List.prefix_cons_inj action).2 hpart) (run_of_step hstep hrun₀)
        exact ⟨hs.room, hs.known, hs.quiet⟩)
      (fun key checkpoint hmem => hjoin key checkpoint (List.mem_append_right _ hmem))
      fun {key handle} hnot hbystander => by
        obtain ⟨s, hsub⟩ := Option.isSome_iff_exists.1 (hby hnot hbystander)
        obtain ⟨s₂, hsub₂, -⟩ := hr.later hone hsub
        rw [hsub₂, Option.isSome_some]
    exact ⟨h₁', told₁' ++ told₂', hfirst.trans hr hone hrest hothers⟩

end Hub.Parallel

end WatchHub
