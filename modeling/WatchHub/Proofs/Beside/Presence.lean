import WatchHub.Proofs.Beside.Calls
import WatchHub.Proofs.Beside.Guest
import WatchHub.Proofs.Closing
import WatchHub.Proofs.Hub.Work

/-!
# The guest along a run

From its first step to the one that opens its subscription, the call of the guest is on its way to the
handle that it will join under (`Hub.Awaits`), and afterwards the handle is taken. So at every moment of
the run it can be told of each call whether it is the guest's (`Reached.known_before`,
`Reached.known_after`). A guest that came with a checkpoint never adds to a log
(`Reached.quiet_of_quiet`).
-/

namespace WatchHub

variable {P : Type}

namespace Hub

variable {h h' h₀ h₁ : Hub P} {action : Action P} {told : List (Fact P)} {id n : CallId}
  {key : Key} {handle m : Handle} {checkpoint : Option Version}

/-- A call is about to join under a handle, or has still to draw it. -/
def Awaits (h : Hub P) (id : CallId) (key : Key) (handle : Handle) (checkpoint : Option Version) :
    Prop :=
  h.calls.get? id = some (.joining key handle checkpoint) ∨
    (h.issued < handle.number ∧
      (h.calls.get? id = some (.finding key checkpoint) ∨ h.made ≤ id))

/-- Handles and calls are counted up. -/
lemma counts_le_of_step (hstep : h.step action = some (h', told)) :
    h.issued ≤ h'.issued ∧ h.made ≤ h'.made := by
  refine ⟨?_, made_of_step hstep ▸ Nat.le_add_right ..⟩
  by_cases hcall : action.isCall = true
  · cases Conducts.of_step hstep hcall with
    | opened | turnedAway | halted => exact Nat.le_refl _
    | proceeded _ hp =>
      cases hp with
      | found | brokeDown => exact Nat.le_succ _
      | _ => exact Nat.le_refl _
  · exact (Ignores.of_step hstep (eq_false_of_ne_true hcall)).issued_eq ▸ Nat.le_refl _

/-- What a call waits for after a step, it waited for before. -/
lemma Awaits.of_step (hstep : h.step action = some (h', told))
    (ha : h'.Awaits id key handle checkpoint) : h.Awaits id key handle checkpoint := by
  obtain ⟨hissued, hmade⟩ := counts_le_of_step hstep
  rcases ha with hcall' | ⟨hlt, hcall' | hlate⟩
  · rcases came_of_step hstep hcall' with hcall | ⟨-, request, -, hopens, -⟩ | ⟨call, hcall, -, hled⟩
    · exact .inl hcall
    · cases request <;> cases hopens
    · cases hled with
      | finds => exact .inr ⟨Nat.lt_succ_self _, .inl hcall⟩
  · have hlt := Nat.lt_of_le_of_lt hissued hlt
    rcases came_of_step hstep hcall' with hcall | ⟨rfl, -⟩ | ⟨call, -, -, hled⟩
    · exact .inr ⟨hlt, .inl hcall⟩
    · exact .inr ⟨hlt, .inr (Nat.le_refl _)⟩
    · cases hled
  · exact .inr ⟨Nat.lt_of_le_of_lt hissued hlt, .inr (Nat.le_trans hmade hlate)⟩

/-- What a call waits for at the end of a run, it waited for all along. -/
lemma Awaits.of_run {actions : List (Action P)} (hrun : h.run actions = some (h', told))
    (ha : h'.Awaits id key handle checkpoint) : h.Awaits id key handle checkpoint := by
  induction actions generalizing h told with
  | nil =>
    cases hrun
    exact ha
  | cons action actions ih =>
    obtain ⟨h₁, told₁, rest, hstep, hrest, -⟩ := run_cons hrun
    exact (ih hrest).of_step hstep

variable {config : HubConfig} {actions all more : List (Action P)} {facts : List (Fact P)}

/-- A call is the guest's if it came with its subscription, or is one to leave under its handle. -/
lemma made_ofRun_iff :
    (Guest.ofRun all n m).made id = true ↔
      id = n ∨ ∃ key, (requests all)[id]? = some (.unsubscribe key m) := by
  rw [Guest.ofRun, Bool.or_eq_true, decide_eq_true_eq]
  refine or_congr Iff.rfl ?_
  split
  · rename_i key handle heq
    simp [heq]
  · rename_i hnone
    simp only [Bool.false_eq_true, false_iff, not_exists]
    exact fun key => hnone key m

/-- It can be told of each call whose it is, if only the guest's waits to join under its handle. -/
lemma Reached.known (hr : Reached config actions facts h)
    (hn : (requests (actions ++ more))[n]? = some (.subscribe key checkpoint))
    (hjoining : ∀ {id key' handle checkpoint'},
      h.calls.get? id = some (.joining key' handle checkpoint') → (id = n ↔ handle = m)) :
    (Guest.ofRun (actions ++ more) n m).Known h := by
  have hserves : ∀ {id call}, h.calls.get? id = some call →
      ∃ request, (requests (actions ++ more))[id]? = some request ∧ call.Serves request := by
    intro id call hcall
    obtain ⟨request, hrequest, hserves, -⟩ := hr.served.serves hcall
    exact ⟨request, getElem?_requests hrequest more, hserves⟩
  refine ⟨fun {id call} hid hcall => ?_, fun {id call} hid hcall => ?_⟩
  · obtain ⟨request, hrequest, hcallserves⟩ := hserves hcall
    rcases made_ofRun_iff.1 hid with rfl | ⟨key', hleave⟩
    · cases hn.symm.trans hrequest
      cases call with
      | finding | broken => trivial
      | joining => exact (hjoining hcall).1 rfl
      | registering | leaving | removing | guarding => cases hcallserves
      | draining | awaiting => exact hcallserves.elim nofun nofun
      | closing => exact hcallserves.1.elim nofun nofun
    · cases hleave.symm.trans hrequest
      cases call with
      | leaving | removing =>
        cases hcallserves
        rfl
      | registering | finding | joining | guarding => cases hcallserves
      | broken => trivial
      | draining | awaiting => exact hcallserves.elim nofun nofun
      | closing => exact hcallserves.1.elim nofun nofun
  · have hnot : ¬ (id = n ∨ ∃ key, (requests (actions ++ more))[id]? = some (.unsubscribe key m)) :=
      fun h => by cases hid.symm.trans (made_ofRun_iff.2 h)
    obtain ⟨request, hrequest, hcallserves⟩ := hserves hcall
    cases call with
    | joining => exact fun heq => hnot (.inl ((hjoining hcall).2 heq))
    | leaving key' handle | removing key' handle =>
      cases hcallserves
      rintro rfl
      exact hnot (.inr ⟨key', hrequest⟩)
    | _ => trivial

/-- Until its subscription is opened, the call of the guest is the only one on its way to the handle. -/
lemma Reached.known_before (hr : Reached config actions facts h)
    (hn : (requests (actions ++ more))[n]? = some (.subscribe key checkpoint))
    (ha : h.Awaits n key m checkpoint) : (Guest.ofRun (actions ++ more) n m).Known h := by
  refine hr.known hn fun {id key' handle checkpoint'} hcall => ⟨?_, ?_⟩
  · rintro rfl
    rcases ha with hjoining | ⟨-, hfinding | hmade⟩
    · cases hjoining.symm.trans hcall
      rfl
    · cases hfinding.symm.trans hcall
    · cases (hr.served.unmade hmade).1.symm.trans hcall
  · rintro rfl
    rcases ha with hjoining | ⟨hlt, -⟩
    · exact hr.sound.apart hcall hjoining
    · exact absurd (hr.sound.drawn hcall) (Nat.not_le_of_lt hlt)

/-- Once its subscription is there, nobody is on its way to the handle. -/
lemma Reached.known_after (hr : Reached config actions facts h)
    (hn : (requests (actions ++ more))[n]? = some (.subscribe key checkpoint))
    (hover : h.calls.get? n = none) {s : Subscription P} (hsub : h.subscription? key m = some s) :
    (Guest.ofRun (actions ++ more) n m).Known h := by
  refine hr.known hn fun {id key' handle checkpoint'} hcall => ⟨?_, ?_⟩
  · rintro rfl
    cases hover.symm.trans hcall
  · rintro rfl
    cases (hr.sound.fresh hcall key).symm.trans hsub

/-- A population that writes no more goes on not to, as long as its handle is not given away. -/
lemma Reached.quiet_of_quiet (hr : Reached config actions facts h)
    (hrun : h.run more = some (h', told))
    (hjoin : ∀ checkpoint, .subscribed key handle checkpoint ∉ told)
    (hquiet : ∀ {s}, h.subscription? key handle = some s →
      s.population.stage.isQuiet = true) {s : Subscription P}
    (hsub : h'.subscription? key handle = some s) : s.population.stage.isQuiet = true := by
  induction more generalizing actions facts h told with
  | nil =>
    cases hrun
    exact hquiet hsub
  | cons action more ih =>
    obtain ⟨h₁, told₁, rest, hstep, hrest, rfl⟩ := run_cons hrun
    refine ih (hr.step hstep) hrest (fun checkpoint hmem =>
      hjoin checkpoint (List.mem_append_right _ hmem)) fun {s₁} hsub₁ => ?_
    have hpop₁ : h₁.population? key handle = some s₁.population := by
      rw [population?, hsub₁, Option.map_some]
    cases (hr.sound.changes hstep).works key handle with
    | other hpop =>
      rw [hpop, population?, Option.map_eq_some_iff] at hpop₁
      obtain ⟨s₀, hsub₀, heq⟩ := hpop₁
      exact heq ▸ hquiet hsub₀
    | joined checkpoint _ _ _ htold =>
      obtain ⟨before, after, htold, -⟩ := htold
      dsimp only at htold
      exact absurd (by simp [htold]) (hjoin checkpoint)
    | own hsub₀ hp hpop =>
      rw [show h₁.population? key handle = _ from hpop] at hpop₁
      rw [← Option.some.inj hpop₁]
      exact (hp.quiet (hquiet hsub₀)).2

end Hub

end WatchHub
