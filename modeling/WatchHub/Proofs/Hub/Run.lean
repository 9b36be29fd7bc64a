import WatchHub.Proofs.Hub.Change

/-!
# Runs of a hub

`Hub.Reached` lists the steps of a run together with all that was told, the last step at the end; so
what holds along a run is shown by an induction with one case for the step. A fact that was told was
told by one of the steps: `Hub.Reached.moment` finds it.
-/

namespace WatchHub

variable {P : Type}

/-- An element of two lists put together lies in the first or in the second of them. -/
lemma append_eq_append_cons {A : Type} {past told before after : List A} {x : A}
    (h : past ++ told = before ++ x :: after) :
    (∃ rest, past = before ++ x :: rest ∧ after = rest ++ told) ∨
      ∃ rest, before = past ++ rest ∧ told = rest ++ x :: after := by
  rcases List.append_eq_append_iff.1 h with ⟨rest, hbefore, htold⟩ | ⟨rest, hpast, hrest⟩
  · exact .inr ⟨rest, hbefore, htold⟩
  · cases rest with
    | nil => exact .inr ⟨[], by simpa using hpast.symm, hrest.symm⟩
    | cons y rest =>
      obtain ⟨rfl, hafter⟩ := List.cons.inj hrest
      exact .inl ⟨rest, hpast, hafter⟩

namespace Hub

/-- A run makes its first step and then the others. -/
lemma run_cons {h h₂ : Hub P} {action : Action P} {actions : List (Action P)}
    {facts : List (Fact P)} (hrun : h.run (action :: actions) = some (h₂, facts)) :
    ∃ h₁ told rest, h.step action = some (h₁, told) ∧ h₁.run actions = some (h₂, rest) ∧
      facts = told ++ rest := by
  obtain ⟨⟨h₁, told⟩, hstep, hrun⟩ := Option.bind_eq_some_iff.1 hrun
  obtain ⟨⟨h₂', rest⟩, hrest, heq⟩ := Option.bind_eq_some_iff.1 hrun
  cases heq
  exact ⟨h₁, told, rest, hstep, hrest, rfl⟩

lemma run_of_step {h h₁ h₂ : Hub P} {action : Action P} {actions : List (Action P)}
    {told more : List (Fact P)} (hstep : h.step action = some (h₁, told))
    (hrun : h₁.run actions = some (h₂, more)) :
    h.run (action :: actions) = some (h₂, told ++ more) := by
  simp [Hub.run, hstep, hrun]

lemma run_singleton {h h₁ : Hub P} {action : Action P} {told : List (Fact P)}
    (hstep : h.step action = some (h₁, told)) : h.run [action] = some (h₁, told) := by
  simp [Hub.run, hstep]

/-- A run over some actions and then over others. -/
lemma run_append {h h₁ h₂ : Hub P} {actions more : List (Action P)} {told facts : List (Fact P)}
    (hrun : h.run actions = some (h₁, told)) (hall : h.run (actions ++ more) = some (h₂, facts)) :
    ∃ rest, h₁.run more = some (h₂, rest) ∧ facts = told ++ rest := by
  induction actions generalizing h told facts with
  | nil =>
    cases hrun
    exact ⟨facts, hall, rfl⟩
  | cons action actions ih =>
    obtain ⟨h', told', told'', hstep, hrun', rfl⟩ := run_cons hrun
    obtain ⟨h'', more', more'', hstep', hall', rfl⟩ := run_cons hall
    cases hstep.symm.trans hstep'
    obtain ⟨rest, hrest, rfl⟩ := ih hrun' hall'
    exact ⟨rest, hrest, by rw [List.append_assoc]⟩

/-- A run over some actions and then over others has come to the place between them. -/
lemma run_split {h h₂ : Hub P} {actions more : List (Action P)} {facts : List (Fact P)}
    (hall : h.run (actions ++ more) = some (h₂, facts)) :
    ∃ h₁ told rest, h.run actions = some (h₁, told) ∧ h₁.run more = some (h₂, rest) ∧
      facts = told ++ rest := by
  induction actions generalizing h facts with
  | nil => exact ⟨h, [], facts, rfl, hall, rfl⟩
  | cons action actions ih =>
    obtain ⟨h', told', rest', hstep, hall', rfl⟩ := run_cons hall
    obtain ⟨h₁, told, rest, hrun, hmore, rfl⟩ := ih hall'
    exact ⟨h₁, told' ++ told, rest, run_of_step hstep hrun, hmore, (List.append_assoc ..).symm⟩

/-- One run goes on where another one ended. -/
lemma run_of_run {h h₁ h₂ : Hub P} {actions more : List (Action P)} {told rest : List (Fact P)}
    (hrun : h.run actions = some (h₁, told)) (hmore : h₁.run more = some (h₂, rest)) :
    h.run (actions ++ more) = some (h₂, told ++ rest) := by
  induction actions generalizing h told with
  | nil =>
    cases hrun
    exact hmore
  | cons action actions ih =>
    obtain ⟨h', told', told'', hstep, hrun', rfl⟩ := run_cons hrun
    rw [List.append_assoc]
    exact run_of_step hstep (ih hrun')

/-- What a run tells is told by one of its steps. -/
lemma step_of_told {h h' : Hub P} {actions : List (Action P)} {told : List (Fact P)}
    (hrun : h.run actions = some (h', told)) {x : Fact P} (hx : x ∈ told) :
    ∃ actions₀ action actions₁ h₀ told₀ h₁ told₁, actions = actions₀ ++ action :: actions₁ ∧
      h.run actions₀ = some (h₀, told₀) ∧ h₀.step action = some (h₁, told₁) ∧ x ∈ told₁ := by
  induction actions generalizing h told with
  | nil =>
    cases hrun
    cases hx
  | cons action actions ih =>
    obtain ⟨h₁, told₁, rest, hstep, hrest, rfl⟩ := run_cons hrun
    rcases List.mem_append.1 hx with hx | hx
    · exact ⟨[], action, actions, h, [], h₁, told₁, rfl, rfl, hstep, hx⟩
    · obtain ⟨actions₀, action', actions₁, h₀, told₀, h₂, told₂, rfl, hrun₀, hstep', hx⟩ :=
        ih hrest hx
      exact ⟨action :: actions₀, action', actions₁, h₀, told₁ ++ told₀, h₂, told₂, rfl,
        run_of_step hstep hrun₀, hstep', hx⟩

/-- A hub after some actions from the beginning, with all that was told. -/
inductive Reached (config : HubConfig) : List (Action P) → List (Fact P) → Hub P → Prop where
  | new : Reached config [] [] (.new config)
  | step {actions past h action h' told} :
    Reached config actions past h → h.step action = some (h', told) →
    Reached config (actions ++ [action]) (past ++ told) h'

variable {config : HubConfig} {actions : List (Action P)} {facts : List (Fact P)} {h : Hub P}

lemma Reached.run (hr : Reached config actions facts h) {more : List (Action P)} {h' : Hub P}
    {told : List (Fact P)} (hrun : h.run more = some (h', told)) :
    Reached config (actions ++ more) (facts ++ told) h' := by
  induction more generalizing actions facts h told with
  | nil =>
    cases hrun
    simpa using hr
  | cons action more ih =>
    obtain ⟨h₁, told₁, told₂, hstep, hrest, rfl⟩ := run_cons hrun
    have := ih (hr.step hstep) hrest
    simpa using this

/-- Every run from the beginning is listed. -/
theorem Reached.of_run (hrun : (Hub.new config).run actions = some (h, facts)) :
    Reached config actions facts h :=
  Reached.new.run hrun

lemma Reached.run_eq (hr : Reached config actions facts h) :
    (Hub.new config).run actions = some (h, facts) := by
  induction hr with
  | new => rfl
  | step _ hstep ih => exact run_of_run ih (run_singleton hstep)

lemma Reached.sound (hr : Reached config actions facts h) : h.Sound := by
  induction hr with
  | new => exact .new config
  | step _ hstep ih => exact ih.step hstep

lemma Reached.config_eq (hr : Reached config actions facts h) : h.config = config := by
  induction hr with
  | new => rfl
  | step _ hstep ih => exact (Follows.of_step hstep).config_eq.trans ih

/-- A fact that was told was told by one step, after all that was told by the steps before. -/
theorem Reached.moment (hr : Reached config actions facts h) {before after : List (Fact P)}
    {x : Fact P} (hx : facts = before ++ x :: after) :
    ∃ actions₀ past h₀ action h₁ told told', Reached config actions₀ past h₀ ∧
      h₀.step action = some (h₁, told ++ x :: told') ∧ before = past ++ told ∧
      told' <+: after ∧ actions₀ ++ [action] <+: actions := by
  induction hr generalizing after with
  | new => simp at hx
  | @step actions past h action h' told hr hstep ih =>
    rcases append_eq_append_cons hx with ⟨rest, hpast, rfl⟩ | ⟨rest, rfl, rfl⟩
    · obtain ⟨actions₀, past₀, h₀, action₀, h₁, told₀, told₀', hr₀, hstep₀, hbefore, hafter,
        hactions⟩ := ih hpast
      exact ⟨actions₀, past₀, h₀, action₀, h₁, told₀, told₀', hr₀, hstep₀, hbefore,
        hafter.trans (List.prefix_append rest told),
        hactions.trans (List.prefix_append actions [action])⟩
    · exact ⟨actions, past, h, action, h', rest, after, hr, hstep, rfl, List.prefix_rfl,
        List.prefix_rfl⟩

end Hub

end WatchHub
