import WatchHub.Proofs.Beside.Registrations
import WatchHub.Proofs.Hub.Calls

/-!
# A hub in two runs

A hub with a guest and the hub without it stand beside each other (`Hub.Beside`): everything but what is
the guest's own is the same in both, up to the numbers of calls and handles and to what the guest did to
the logs. What a call of somebody else does to both hubs keeps it.
-/

namespace WatchHub

variable {P : Type}

open WatchHub.EventLog (Agree InStep Owning)

/-- An event that the owner is adding in two runs. -/
structure Appending.Beside (same : Key → LogId → LogId → Prop) (a a' : Appending P) : Prop where
  key_eq : a'.key = a.key
  event_eq : a'.event = a.event
  log : same a.key a.log a'.log

/-- A hub in two runs, with a guest and without it. -/
structure Hub.Beside (g : Guest) (like : Key → Likeness P) (same : Key → LogId → LogId → Prop)
    (bystander : Key → Handle → Prop) (facts facts' : List (Fact P)) (h h' : Hub P) : Prop where
  config_eq : h'.config = h.config
  stopped_eq : h'.stopped = h.stopped
  logs : Agree like same h.log h'.log
  owning : Owning same facts facts'
  keys_eq : h'.registrations.keys = h.registrations.keys
  registrations : ∀ key,
    Option.Rel (Registration.Beside g (like key) (same key) (bystander key)) (h.registration? key)
      (h'.registration? key)
  issued_eq : h.issued = h'.issued + if g.handle.number ≤ h.issued then 1 else 0
  made_eq : h'.made = g.callId h.made
  calls : ∀ id, g.made id = false → h'.calls.get? (g.callId id) = (h.calls.get? id).map g.call
  appending : List.Forall₂ (Appending.Beside same) h.appending h'.appending

namespace Hub

variable {g : Guest} {like like' : Key → Likeness P} {same same' : Key → LogId → LogId → Prop}
  {bystander : Key → Handle → Prop} {facts facts' told told' : List (Fact P)} {h h' : Hub P}
  {key : Key} {id : CallId} {r r' r₁ r₁' : Registration P}

lemma registration?_putRegistration_ne (h : Hub P) {key key' : Key} (hne : key ≠ key')
    (r : Registration P) : (h.putRegistration key r).registration? key' = h.registration? key' :=
  registration?_of_put_ne rfl hne

namespace Beside

lemma new (g : Guest) (hg : 0 < g.handle.number) (like : Key → Likeness P) (config : HubConfig) :
    Beside g like (fun _ _ _ => False) bystander [] [] (.new config) (.new config : Hub P) where
  config_eq := rfl
  stopped_eq := rfl
  logs := .new like config.logRoom
  owning := False.elim
  keys_eq := rfl
  registrations _ := .none
  issued_eq := by
    change 0 = 0 + if g.handle.number ≤ 0 then 1 else 0
    rw [if_neg (Nat.not_le_of_lt hg)]
  made_eq := rfl
  calls _ _ := rfl
  appending := .nil

section Lookup

variable (hb : Beside g like same bystander facts facts' h h')
include hb

lemma registration? (hr : h.registration? key = some r) :
    ∃ r', h'.registration? key = some r' ∧
      r.Beside g (like key) (same key) (bystander key) r' :=
  exists_of_rel_some (hr ▸ hb.registrations key)

lemma registration?_eq_none (hr : h.registration? key = none) : h'.registration? key = none :=
  eq_none_of_rel_none (hr ▸ hb.registrations key)

lemma bound? (hr : h.bound? key = some r) :
    ∃ r', h'.bound? key = some r' ∧
      r.Beside g (like key) (same key) (bystander key) r' := by
  unfold Hub.bound? at hr ⊢
  cases hreg : h.registration? key with
  | none => simp [hreg] at hr
  | some r₀ =>
    obtain ⟨r', hr', hbeside⟩ := hb.registration? hreg
    rw [hreg] at hr
    obtain ⟨hbound, heq⟩ := Option.ite_none_right_eq_some.1 hr
    obtain rfl : r₀ = r := Option.some.inj heq
    rw [hr']
    exact ⟨r', if_pos (hbeside.bound_eq.trans hbound), hbeside⟩

lemma bound?_eq_none (hr : h.bound? key = none) : h'.bound? key = none := by
  unfold Hub.bound? at hr ⊢
  cases hreg : h.registration? key with
  | none => rw [hb.registration?_eq_none hreg]
  | some r₀ =>
    obtain ⟨r', hr', hbeside⟩ := hb.registration? hreg
    rw [hreg] at hr
    have hunbound : ¬ r₀.bound = true := fun hbound => by simp [hbound] at hr
    rw [hr']
    exact if_neg (by rwa [hbeside.bound_eq])

lemma boundKeys_eq : h'.boundKeys = h.boundKeys := by
  have hany : ∀ key, (h'.registrations.get? key).any Registration.bound =
      (h.registrations.get? key).any Registration.bound := by
    intro key
    have hrel := hb.registrations key
    unfold Hub.registration? at hrel
    generalize h.registrations.get? key = row at hrel ⊢
    generalize h'.registrations.get? key = row' at hrel ⊢
    cases hrel with
    | none => rfl
    | some hbeside => exact hbeside.bound_eq
  simp only [boundKeys, Table.keys_filter _ Registration.bound, hb.keys_eq, hany]

lemma hasFinished_eq (key : Key) : h'.hasFinished key = h.hasFinished key := by
  unfold Hub.hasFinished
  cases hr : h.registration? key with
  | none => rw [hb.registration?_eq_none hr]
  | some r =>
    obtain ⟨r', hr', hbeside⟩ := hb.registration? hr
    rw [hr']
    exact hbeside.ingest.isFinished_eq

end Lookup

/-- More is told of both runs. -/
lemma tell (hb : Beside g like same bystander facts facts' h h') (told told' : List (Fact P)) :
    Beside g like same bystander (facts ++ told) (facts' ++ told') h h' :=
  ⟨hb.config_eq, hb.stopped_eq, hb.logs, Owning.append hb.owning told told', hb.keys_eq,
    hb.registrations, hb.issued_eq, hb.made_eq, hb.calls, hb.appending⟩

/-- Less may be known of the runs. -/
lemma weaken (hb : Beside g like same bystander facts facts' h h')
    (hle : ∀ key, (like key).Le (like' key))
    (hby : ∀ {key}, ((like key).exact → (like' key).exact) ∨ ∀ {handle s}, bystander key handle →
      h.subscription? key handle = some s → s.population.isFinished = true) :
    Beside g like' same bystander facts facts' h h' := by
  refine ⟨hb.config_eq, hb.stopped_eq, hb.logs.weaken hle, hb.owning, hb.keys_eq, fun key => ?_,
    hb.issued_eq, hb.made_eq, hb.calls, hb.appending⟩
  refine rel_imp (hb.registrations key) fun hr _ hbeside =>
    hbeside.weaken (hle key) id (hby.imp_right fun hby {handle s} hbystander hs => ?_)
  exact hby hbystander ((subscription?_of_registration? hr _).trans hs)

section Update

variable (hb : Beside g like same bystander facts facts' h h')
include hb

/-- The logs change in both runs. -/
lemma inStep {l l' : EventLog P}
    (hlog : InStep like same same' (facts ++ told) (facts' ++ told') l l') :
    Beside g like same' bystander (facts ++ told) (facts' ++ told') { h with log := l }
      { h' with log := l' } := by
  refine ⟨hb.config_eq, hb.stopped_eq, hlog.agree, hlog.owning, hb.keys_eq, fun key => ?_,
    hb.issued_eq, hb.made_eq, hb.calls,
    hb.appending.imp fun _ _ ha => ⟨ha.key_eq, ha.event_eq, hlog.grows ha.log⟩⟩
  exact rel_imp (hb.registrations key) fun _ _ hbeside => hbeside.grow hlog.grows

/-- What the owner is adding changes in both runs. -/
lemma withAppending {as as' : List (Appending P)} (has : List.Forall₂ (Appending.Beside same) as as') :
    Beside g like same bystander facts facts' { h with appending := as }
      { h' with appending := as' } :=
  ⟨hb.config_eq, hb.stopped_eq, hb.logs, hb.owning, hb.keys_eq, hb.registrations, hb.issued_eq,
    hb.made_eq, hb.calls, has⟩

/-- The logs of all keys are given up in both runs. -/
lemma clearLog : Beside g like same bystander facts facts' { h with log := h.log.clear }
    { h' with log := h'.log.clear } :=
  ⟨hb.config_eq, hb.stopped_eq, hb.logs.clear, hb.owning, hb.keys_eq, hb.registrations,
    hb.issued_eq, hb.made_eq, hb.calls, hb.appending⟩

/-- The log changes in the first run only. -/
lemma withLog {l : EventLog P} (hle : ∀ key, (like key).Le (like' key))
    (hexact : ∀ {key}, (like key).exact → (like' key).exact) (hlogs : Agree like' same l h'.log) :
    Beside g like' same bystander facts facts' { h with log := l } h' :=
  ⟨hb.config_eq, hb.stopped_eq, hlogs, hb.owning, hb.keys_eq,
    (hb.weaken hle (.inl hexact)).registrations, hb.issued_eq, hb.made_eq, hb.calls, hb.appending⟩

/-- A registration is replaced in both runs. -/
lemma put (hr : r₁.Beside g (like key) (same key) (bystander key) r₁') :
    Beside g like same bystander facts facts' (h.putRegistration key r₁)
      (h'.putRegistration key r₁') := by
  refine ⟨hb.config_eq, hb.stopped_eq, hb.logs, hb.owning, ?_, fun key' => ?_, hb.issued_eq,
    hb.made_eq, hb.calls, hb.appending⟩
  · change (h'.registrations.put key r₁').keys = (h.registrations.put key r₁).keys
    rw [Table.keys_put, Table.keys_put, hb.keys_eq]
  · by_cases heq : key = key'
    · subst heq
      rw [registration?_of_put rfl, registration?_of_put rfl]
      exact .some hr
    · rw [registration?_putRegistration_ne h heq, registration?_putRegistration_ne h' heq]
      exact hb.registrations key'

/-- A registration is replaced in the first run only. -/
lemma put_left (hreg : h.registration? key = some r) (hreg' : h'.registration? key = some r')
    (hr : r₁.Beside g (like key) (same key) (bystander key) r') :
    Beside g like same bystander facts facts' (h.putRegistration key r₁) h' := by
  refine ⟨hb.config_eq, hb.stopped_eq, hb.logs, hb.owning, ?_, fun key' => ?_, hb.issued_eq,
    hb.made_eq, hb.calls, hb.appending⟩
  · change h'.registrations.keys = (h.registrations.put key r₁).keys
    rw [Table.keys_put, if_pos (Table.mem_keys_of_get? hreg), hb.keys_eq]
  · by_cases heq : key = key'
    · subst heq
      rw [registration?_of_put rfl, hreg']
      exact .some hr
    · rw [registration?_putRegistration_ne h heq]
      exact hb.registrations key'

/-- Every registration changes in both runs. -/
lemma mapValues {f : Key → Registration P → Registration P}
    (hf : ∀ key {r r'}, r.Beside g (like key) (same key) (bystander key) r' →
      (f key r).Beside g (like key) (same key) (bystander key) (f key r')) :
    Beside g like same bystander facts facts' { h with registrations := h.registrations.mapValues f }
      { h' with registrations := h'.registrations.mapValues f } := by
  refine ⟨hb.config_eq, hb.stopped_eq, hb.logs, hb.owning, ?_, fun key => ?_, hb.issued_eq,
    hb.made_eq, hb.calls, hb.appending⟩
  · change (h'.registrations.mapValues f).keys = (h.registrations.mapValues f).keys
    rw [Table.keys_mapValues, Table.keys_mapValues, hb.keys_eq]
  · change Option.Rel _ ((h.registrations.mapValues f).get? key)
      ((h'.registrations.mapValues f).get? key)
    rw [Table.get?_mapValues, Table.get?_mapValues]
    have hrel := hb.registrations key
    unfold Hub.registration? at hrel
    generalize h.registrations.get? key = row at hrel ⊢
    generalize h'.registrations.get? key = row' at hrel ⊢
    cases hrel with
    | none => exact .none
    | some hr => exact .some (hf key hr)

/-- A call of somebody else comes to another place. -/
lemma putCall (hid : g.made id = false) (call : Call) :
    Beside g like same bystander facts facts' (h.putCall id call)
      (h'.putCall (g.callId id) (g.call call)) := by
  refine ⟨hb.config_eq, hb.stopped_eq, hb.logs, hb.owning, hb.keys_eq, hb.registrations,
    hb.issued_eq, hb.made_eq, fun id' hid' => ?_, hb.appending⟩
  change (h'.calls.put _ _).get? _ = ((h.calls.put _ _).get? _).map g.call
  by_cases heq : id = id'
  · subst heq
    rw [Table.get?_put_self, Table.get?_put_self]
    rfl
  · rw [Table.get?_put_ne _ heq, Table.get?_put_ne _ (g.callId_ne hid hid' heq)]
    exact hb.calls id' hid'

/-- A call of the guest comes to another place. -/
lemma putCall_left (hid : g.made id = true) (call : Call) :
    Beside g like same bystander facts facts' (h.putCall id call) h' := by
  refine ⟨hb.config_eq, hb.stopped_eq, hb.logs, hb.owning, hb.keys_eq, hb.registrations,
    hb.issued_eq, hb.made_eq, fun id' hid' => ?_, hb.appending⟩
  have hne : id ≠ id' := by
    rintro rfl
    cases hid.symm.trans hid'
  change _ = ((h.calls.put id call).get? id').map g.call
  rw [Table.get?_put_ne _ hne]
  exact hb.calls id' hid'

/-- A call of somebody else comes to its end. -/
lemma dismiss (hid : g.made id = false) :
    Beside g like same bystander facts facts' (h.dismiss id) (h'.dismiss (g.callId id)) := by
  refine ⟨hb.config_eq, hb.stopped_eq, hb.logs, hb.owning, hb.keys_eq, hb.registrations,
    hb.issued_eq, hb.made_eq, fun id' hid' => ?_, hb.appending⟩
  change (h'.calls.erase _).get? _ = ((h.calls.erase _).get? _).map g.call
  rw [Table.get?_erase, Table.get?_erase]
  by_cases heq : id = id'
  · subst heq
    rw [if_pos rfl, if_pos rfl]
    rfl
  · rw [if_neg heq, if_neg (g.callId_ne hid hid' heq)]
    exact hb.calls id' hid'

/-- A call of the guest comes to its end. -/
lemma dismiss_left (hid : g.made id = true) :
    Beside g like same bystander facts facts' (h.dismiss id) h' := by
  refine ⟨hb.config_eq, hb.stopped_eq, hb.logs, hb.owning, hb.keys_eq, hb.registrations,
    hb.issued_eq, hb.made_eq, fun id' hid' => ?_, hb.appending⟩
  have hne : id ≠ id' := by
    rintro rfl
    cases hid.symm.trans hid'
  change _ = ((h.calls.erase id).get? id').map g.call
  rw [Table.get?_erase, if_neg hne]
  exact hb.calls id' hid'

/-- Somebody else makes a call. -/
lemma count (hid : g.made h.made = false) :
    Beside g like same bystander facts facts' h.count h'.count :=
  ⟨hb.config_eq, hb.stopped_eq, hb.logs, hb.owning, hb.keys_eq, hb.registrations, hb.issued_eq,
    (congrArg (· + 1) hb.made_eq).trans (g.callId_succ_other hid).symm, hb.calls, hb.appending⟩

/-- The guest makes a call. -/
lemma count_left (hid : g.made h.made = true) :
    Beside g like same bystander facts facts' h.count h' :=
  ⟨hb.config_eq, hb.stopped_eq, hb.logs, hb.owning, hb.keys_eq, hb.registrations, hb.issued_eq,
    hb.made_eq.trans (g.callId_succ_own hid).symm, hb.calls, hb.appending⟩

lemma halt : Beside g like same bystander facts facts' h.halt h'.halt :=
  ⟨hb.config_eq, rfl, hb.logs, hb.owning, hb.keys_eq, hb.registrations, hb.issued_eq, hb.made_eq,
    hb.calls, hb.appending⟩

/-- Somebody else draws a handle. -/
lemma issue (hne : h.issued + 1 ≠ g.handle.number) :
    Beside g like same bystander facts facts' { h with issued := h.issued + 1 }
      { h' with issued := h'.issued + 1 } := by
  refine ⟨hb.config_eq, hb.stopped_eq, hb.logs, hb.owning, hb.keys_eq, hb.registrations, ?_,
    hb.made_eq, hb.calls, hb.appending⟩
  have heq := hb.issued_eq
  change h.issued + 1 = h'.issued + 1 + if g.handle.number ≤ h.issued + 1 then 1 else 0
  split at heq <;> split <;> omega

/-- The guest draws its handle. -/
lemma issue_left (heq : h.issued + 1 = g.handle.number) :
    Beside g like same bystander facts facts' { h with issued := h.issued + 1 } h' := by
  refine ⟨hb.config_eq, hb.stopped_eq, hb.logs, hb.owning, hb.keys_eq, hb.registrations, ?_,
    hb.made_eq, hb.calls, hb.appending⟩
  have hissued := hb.issued_eq
  change h.issued + 1 = h'.issued + if g.handle.number ≤ h.issued + 1 then 1 else 0
  split at hissued <;> split <;> omega

end Update

end Beside

end Hub

end WatchHub
