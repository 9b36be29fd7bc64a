import WatchHub.Proofs.Hub.Halt

/-!
# Who unbinds the keys

All keys are unbound at once, by the first call that tears the hub down and gets that far. So that call
takes every registration down (`Swept.taken`), and all other calls find no key to unbind.
-/

namespace WatchHub

variable {P : Type}

/-- How many keys a call has unbound, if it has got that far. -/
def Call.unbound? : Call → Option Nat
  | awaiting _ drained => some drained.length
  | closing _ drained _ => some drained
  | _ => none

/-- Only a call that tears the hub down unbinds keys. -/
lemma Call.isStopping_of_unbound {call : Call} {n : Nat} (h : call.unbound? = some n) :
    call.isStopping = true := by
  cases call <;> first | rfl | cases h

namespace Hub

variable {h h' : Hub P} {action : Action P} {told : List (Fact P)} {key : Key} {r : Registration P}
  {id : CallId} {call' : Call} {n : Nat}

/-- A call that has unbound keys had done so before a step, or does so by it. -/
lemma unbound_cases (hstep : h.step action = some (h', told)) (hcall' : h'.calls.get? id = some call')
    (hn : call'.unbound? = some n) :
    (∃ call, h.calls.get? id = some call ∧ call.unbound? = some n) ∨
      (action = .resume id ∧ h.calls.get? id = some .draining ∧ n = h.boundKeys.length) := by
  rcases came_of_step hstep hcall' with hcall | ⟨-, request, -, rfl, -⟩ | ⟨call, hcall, hp, hled⟩
  · exact .inl ⟨call', hcall, hn⟩
  · cases request <;> cases hn
  · cases hled with
    | stops | finds | breaks | leaves => cases hn
    | drains =>
      cases hn
      cases hp with
      | drained => exact .inr ⟨rfl, hcall, rfl⟩
      | refused hrefuses => cases hrefuses
    | awaits | closes | goesOn => exact .inl ⟨_, hcall, hn⟩

/-- A call that unbinds the keys unbinds all of them. -/
lemma unbound_of_drain (hstep : h.step (.resume id) = some (h', told))
    (hcall : h.calls.get? id = some .draining) :
    h'.calls.get? id = some (.awaiting h.boundKeys h.boundKeys) ∧
      ∀ {key r'}, h'.registration? key = some r' → r'.bound = false := by
  have hout : h.drain id = (h', told) := by
    simpa [Hub.step, Hub.resume, hcall] using hstep
  obtain ⟨rfl, -⟩ := Prod.mk.inj hout
  refine ⟨Table.get?_put_self .., fun {key r'} hr' => ?_⟩
  have hmap : (h.registrations.get? key).map (fun r => { r with bound := false }) = some r' :=
    (Table.get?_mapValues h.registrations _ key).symm.trans hr'
  obtain ⟨r, -, rfl⟩ := Option.map_eq_some_iff.1 hmap
  rfl

/-- Who has unbound the keys, and who takes down what was registered under them. -/
structure Swept (h : Hub P) : Prop where
  /-- The keys are all bound or all unbound. -/
  level : (∀ {key r}, h.registration? key = some r → r.bound = true) ∨
    ∀ {key r}, h.registration? key = some r → r.bound = false
  unbound : ∀ {id call n}, h.calls.get? id = some call → call.unbound? = some n →
    ∀ {key r}, h.registration? key = some r → r.bound = false
  /-- A call that has unbound a key takes everything down. -/
  taken : ∀ {id call n}, h.calls.get? id = some call → call.unbound? = some n → n ≠ 0 →
    ∀ {key r}, h.registration? key = some r → call.TakesDown key r

variable {config : HubConfig} {actions : List (Action P)} {facts : List (Fact P)}

/-- What is unbound stays unbound. -/
lemma Sound.unbound_step (hs : h.Sound) (hstep : h.step action = some (h', told))
    (hr : h.registration? key = some r) {r' : Registration P} (hr' : h'.registration? key = some r')
    (hunbound : r.bound = false) : r'.bound = false := by
  obtain ⟨r'', hr'', hages⟩ := hs.ages hstep hr
  cases hr'.symm.trans hr''
  refine eq_false_of_ne_true fun hbound => ?_
  cases hunbound.symm.trans (hages.bound hbound)

/-- The keys of a stopped hub are all bound or all unbound, whatever happens. -/
lemma Swept.level_step (hw : h.Swept) (hs : h.Sound) (hstep : h.step action = some (h', told))
    (hstopped : h'.stopped = true) :
    (∀ {key r}, h'.registration? key = some r → r.bound = true) ∨
      ∀ {key r}, h'.registration? key = some r → r.bound = false := by
  by_cases hdrains : ∃ id, action = .resume id ∧ h.calls.get? id = some .draining
  · obtain ⟨id, rfl, hdraining⟩ := hdrains
    exact .inr (unbound_of_drain hstep hdraining).2
  · have hsame : ∀ {key r'}, h'.registration? key = some r' →
        ∃ r, h.registration? key = some r ∧ r'.bound = r.bound := by
      intro key r' hr'
      obtain ⟨r, hr⟩ := hs.exists_before hstep hstopped hr'
      refine ⟨r, hr, (hs.bound_cases hstep hr hr').resolve_right ?_⟩
      rintro ⟨id, -, hid, hdraining, -⟩
      exact hdrains ⟨id, hid, hdraining⟩
    rcases hw.level with hall | hnone
    · refine .inl fun {key r'} hr' => ?_
      obtain ⟨r, hr, hbound⟩ := hsame hr'
      exact hbound.trans (hall hr)
    · refine .inr fun {key r'} hr' => ?_
      obtain ⟨r, hr, hbound⟩ := hsame hr'
      exact hbound.trans (hnone hr)

/-- Where one key is bound all are. -/
lemma Swept.mem_boundKeys (hw : h.Swept) (hsome : h.boundKeys.length ≠ 0)
    (hr : h.registration? key = some r) : key ∈ h.boundKeys := by
  refine (Hub.mem_boundKeys hr).2 ?_
  obtain ⟨key₀, hmem⟩ := List.exists_mem_of_ne_nil _ (mt List.length_eq_zero_iff.2 hsome)
  obtain ⟨⟨key₁, r₁⟩, hrow, rfl⟩ := List.mem_map.1 hmem
  obtain ⟨hrow, hbound⟩ := List.mem_filter.1 hrow
  rcases hw.level with hall | hnone
  · exact hall hr
  · cases (hnone (Table.get?_eq_some_iff.2 hrow)).symm.trans hbound

/-- After a call has unbound keys every key is unbound, whatever happens. -/
lemma Swept.unbound_step (hw : h.Swept) (hs : h.Sound) (hstep : h.step action = some (h', told))
    (hcall' : h'.calls.get? id = some call') (hn : call'.unbound? = some n)
    (hr : h.registration? key = some r) {r' : Registration P} (hr' : h'.registration? key = some r') :
    r'.bound = false := by
  rcases unbound_cases hstep hcall' hn with ⟨call, hcall, hn⟩ | ⟨rfl, hdraining, -⟩
  · exact hs.unbound_step hstep hr hr' (hw.unbound hcall hn hr)
  · exact (unbound_of_drain hstep hdraining).2 hr'

/-- A call that has unbound keys takes everything down, whatever happens. -/
lemma Swept.taken_step (hw : h.Swept) (hreached : Reached config actions facts h)
    (hstep : h.step action = some (h', told)) (hcall' : h'.calls.get? id = some call')
    (hn : call'.unbound? = some n) (hsome : n ≠ 0) (hr : h.registration? key = some r)
    {r' : Registration P} (hr' : h'.registration? key = some r') : call'.TakesDown key r' := by
  have hs := hreached.sound
  have hnow := hw.unbound_step hs hstep hcall' hn hr hr'
  rcases unbound_cases hstep hcall' hn with ⟨call, hcall, hn⟩ | ⟨rfl, hdraining, rfl⟩
  · have hstopped := hs.stopping hcall (Call.isStopping_of_unbound hn)
    have hbound := hnow.trans (hw.unbound hcall hn hr).symm
    rcases hreached.takesDown_step hstopped hstep hr hr' hbound hcall (hw.taken hcall hn hsome hr)
      with ⟨call'', hcall'', htakes⟩ | ⟨hnone, -⟩
    · cases hcall'.symm.trans hcall''
      exact htakes
    · cases hnone.symm.trans hcall'
  · have hmem := hw.mem_boundKeys hsome hr
    cases hcall'.symm.trans (unbound_of_drain hstep hdraining).1
    exact ⟨hnow, hmem, .inl hmem⟩

/-- It is known of every hub who has unbound the keys. -/
theorem Reached.swept (hr : Reached config actions facts h) : h.Swept := by
  induction hr with
  | new => exact ⟨.inl nofun, nofun, nofun⟩
  | @step actions past h action h' told hr hstep ih =>
    have hs := hr.sound
    have hs' := (hr.step hstep).sound
    have hbefore {id call' n key r'} (hcall' : h'.calls.get? id = some call')
        (hn : call'.unbound? = some n) (hr' : h'.registration? key = some r') :
        ∃ r, h.registration? key = some r :=
      hs.exists_before hstep (hs'.stopping hcall' (Call.isStopping_of_unbound hn)) hr'
    refine ⟨?_, fun {id call' n} hcall' hn {key r'} hr' => ?_,
      fun {id call' n} hcall' hn hsome {key r'} hr' => ?_⟩
    · cases hstopped : h'.stopped with
      | false => exact .inl fun hr' => hs'.bound hr' hstopped
      | true => exact ih.level_step hs hstep hstopped
    · obtain ⟨r, hreg⟩ := hbefore hcall' hn hr'
      exact ih.unbound_step hs hstep hcall' hn hreg hr'
    · obtain ⟨r, hreg⟩ := hbefore hcall' hn hr'
      exact ih.taken_step hr hstep hcall' hn hsome hreg hr'

end Hub

end WatchHub
