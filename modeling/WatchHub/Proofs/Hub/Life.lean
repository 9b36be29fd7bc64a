import Mathlib.Data.List.Basic
import WatchHub.Proofs.Hub.Run
import WatchHub.Proofs.Hub.Turn

/-!
# The life of a subscription

Along a run a subscription is inserted once and from then on only takes turns. `Subscription.Lived`
lists these turns with what was told about the subscription; what a subscription keeps is shown by
induction on its life, without the rest of the hub.
-/

namespace WatchHub

variable {P : Type}

namespace Subscription

/-- A subscription some turns after its insertion, with what was told about it. -/
inductive Lived (room : Nat) (key : Key) (handle : Handle) (checkpoint : Option Version) :
    List (Fact P) → Subscription P → Prop where
  | new : Lived room key handle checkpoint [] (.new room checkpoint)
  | turn {past s told s'} :
    Lived room key handle checkpoint past s → Turn key handle s told s' →
    Lived room key handle checkpoint (past ++ told) s'

end Subscription

namespace Hub

open Subscription (Turn Lived)

variable {h h' : Hub P} {action : Action P} {told : List (Fact P)} {key : Key} {handle : Handle}
  {s : Subscription P}

/-- A change of one registration is a turn of every subscription, if it is one of its own ones. -/
lemma turn_of_put (hs : h.Sound) {key₀ : Key} {r r' : Registration P}
    (hr : h.registration? key₀ = some r) (hregs : h'.registrations = h.registrations.put key₀ r')
    (htold : ∀ x ∈ told, ∀ key, x.key? = some key → key = key₀)
    (hturn : ∀ {handle s}, r.audience.get? handle = some s → ∃ s', r'.audience.get? handle = some s' ∧
      Turn r.key handle s (told.filter (Fact.concerns r.key handle)) s')
    (hsub : h.subscription? key handle = some s) :
    ∃ s', h'.subscription? key handle = some s' ∧
      Turn key handle s (told.filter (Fact.concerns key handle)) s' := by
  rw [subscription?_of_put hregs]
  by_cases heq : key₀ = key
  · subst heq
    rw [if_pos rfl]
    rw [subscription?_of_registration? hr] at hsub
    exact hs.keyed hr ▸ hturn hsub
  · rw [if_neg heq, Fact.filter_concerns_of_key? fun x hx hkey => heq (htold x hx key hkey).symm]
    exact ⟨s, hsub, .rest⟩

/-- A change of one row is a turn of its subscription, and nothing to the others. -/
lemma turn_of_put_row (hs : h.Sound) {key₀ : Key} {r : Registration P} {handle₀ : Handle}
    {s₀ s₀' : Subscription P} (hr : h.registration? key₀ = some r)
    (hget : r.audience.get? handle₀ = some s₀)
    (hregs : h'.registrations =
      h.registrations.put key₀ { r with audience := r.audience.put handle₀ s₀' })
    (htold : ∀ x ∈ told, ∀ key, x.key? = some key → key = key₀)
    (hturn : Turn r.key handle₀ s₀ (told.filter (Fact.concerns r.key handle₀)) s₀')
    (hother : ∀ handle, handle₀ ≠ handle → told.filter (Fact.concerns r.key handle) = [])
    (hsub : h.subscription? key handle = some s) :
    ∃ s', h'.subscription? key handle = some s' ∧
      Turn key handle s (told.filter (Fact.concerns key handle)) s' := by
  refine turn_of_put hs hr hregs htold (fun {handle s} hget' => ?_) hsub
  by_cases heq : handle₀ = handle
  · subst heq
    cases hget.symm.trans hget'
    exact ⟨s₀', Audience.get?_put_self .., hturn⟩
  · rw [hother handle heq]
    exact ⟨s, (Audience.get?_put_ne _ heq s₀').trans hget', .rest⟩

/-- What is told beside a change of the audience concerns nobody. -/
lemma filter_concerns_append {facts asides : List (Fact P)}
    (hasides : ∀ x ∈ asides, x.concerns key handle = false) :
    (facts ++ asides).filter (Fact.concerns key handle) =
      facts.filter (Fact.concerns key handle) := by
  have hnone : asides.filter (Fact.concerns key handle) = [] :=
    List.filter_eq_nil_iff.2 fun x hx => by simp [hasides x hx]
  rw [List.filter_append, hnone, List.append_nil]

/-- A step that tells nothing about a subscription and leaves it alone is a rest. -/
lemma turn_rest (hsub : h.subscription? key handle = some s)
    (hregs : ∀ key, h'.registration? key = h.registration? key)
    (htold : ∀ x ∈ told, x.concerns key handle = false) :
    ∃ s', h'.subscription? key handle = some s' ∧
      Turn key handle s (told.filter (Fact.concerns key handle)) s' := by
  rw [List.filter_eq_nil_iff.2 fun x hx => by simp [htold x hx]]
  refine ⟨s, ?_, .rest⟩
  rw [subscription?, hregs]
  exact hsub

lemma turn_ingested (hs : h.Sound) {key₀ : Key} {move : Ingest.Move} {r : Registration P}
    {out : Ingested P} (hr : h.registration? key₀ = some r)
    (hi : r.Ingests h.stopped h.log move out)
    (hsub : h.subscription? key handle = some s) :
    ∃ s', ({ h with log := out.log }.putRegistration key₀ out.registration).subscription? key
        handle = some s' ∧
      Turn key handle s (out.facts.filter (Fact.concerns key handle)) s' := by
  have hkey : r.key = key₀ := hs.keyed hr
  refine turn_of_put hs hr rfl (fun x hx key hx' => ?_) (fun {handle s} hget => ?_) hsub
  · rw [← hkey]
    exact Option.some.inj (hx'.symm.trans (hi.key?_of_mem hx))
  · rcases hi.audience_eq with ⟨haud, htold⟩ | ⟨d, last, hstage, haud, htold⟩
    · rw [haud, List.filter_eq_nil_iff.2 fun x hx => by simp [htold x hx]]
      exact ⟨s, hget, .rest⟩
    · rw [haud, htold]
      exact Audience.turn_emit hget d

/-- A step is a turn of every subscription there is. -/
theorem Changes.turn (hs : h.Sound) (hc : Changes h action told h')
    (hsub : h.subscription? key handle = some s) :
    ∃ s', h'.subscription? key handle = some s' ∧
      Turn key handle s (told.filter (Fact.concerns key handle)) s' := by
  cases hc with
  | aside f haudience _ htold _ hregs =>
    have hnone : told.filter (Fact.concerns key handle) = [] := by
      refine List.filter_eq_nil_iff.2 fun x hx => ?_
      have := (htold x hx).1
      cases x <;> simp_all [Fact.isAside, Fact.concerns]
    rw [hnone]
    refine ⟨s, ?_, .rest⟩
    rw [subscription?] at hsub ⊢
    rw [hregs]
    cases hr : h.registration? key with
    | none => simp [hr] at hsub
    | some r => simpa [hr, haudience] using hsub
  | @registered key₀ observer id _ hnone _ hregs =>
    have hne : key₀ ≠ key := by
      rintro rfl
      simp [subscription?, hnone] at hsub
    rw [List.filter_eq_nil_iff.2 (by simp [Fact.concerns])]
    refine ⟨s, ?_, .rest⟩
    rw [subscription?_of_put hregs, if_neg hne]
    exact hsub
  | @joined key₀ handle₀ checkpoint id r _ _ hr hfresh _ hregs =>
    -- The handle is fresh, so the subscription is not the one that joins.
    have hne : handle₀ ≠ handle := by
      rintro rfl
      cases (hfresh key).symm.trans hsub
    have hkey : r.key = key₀ := hs.keyed hr
    refine turn_of_put hs hr hregs (fun x hx key hx' => ?_) (fun {handle s} hget => ?_) hsub
    · rcases List.mem_append.1 hx with hx | hx
      · obtain ⟨_, rfl | rfl⟩ := Audience.mem_prune hx <;>
          exact (Option.some.inj hx').symm.trans hkey
      · simp only [List.mem_cons, List.not_mem_nil, or_false] at hx
        rcases hx with rfl | rfl
        · exact (Option.some.inj hx').symm
        · cases hx'
    · by_cases heq : handle₀ = handle
      · subst heq
        rw [← subscription?_of_registration? hr, hfresh] at hget
        cases hget
      · rw [filter_concerns_append (by simp [Fact.concerns, heq])]
        exact Audience.turn_insert hget heq _
  | @left key₀ handle₀ id r _ hr _ hregs =>
    have hkey : r.key = key₀ := hs.keyed hr
    refine turn_of_put hs hr hregs (fun x hx key hx' => ?_) (fun {handle s} hget => ?_) hsub
    · rcases List.mem_append.1 hx with hx | hx
      · obtain ⟨_, rfl | rfl | rfl⟩ := Audience.mem_remove hx <;>
          exact (Option.some.inj hx').symm.trans hkey
      · cases List.mem_singleton.1 hx
        cases hx'
    · rw [filter_concerns_append (by simp [Fact.concerns])]
      exact Audience.turn_remove hget handle₀
  | @closed key₀ id r _ _ hr _ hregs =>
    have hkey : r.key = key₀ := hs.keyed hr
    refine turn_of_put hs hr hregs (fun x hx key hx' => ?_) Audience.turn_closeAll hsub
    obtain ⟨_, rfl⟩ := Audience.mem_closeAll hx
    exact (Option.some.inj hx').symm.trans hkey
  | stopped _ _ hregs =>
    exact turn_rest hsub (fun key => by rw [registration?, hregs]; rfl) (by simp [Fact.concerns])
  | ingested hr hi => exact turn_ingested hs hr hi hsub
  | @populated key₀ handle₀ move r s₀ out hr hget hp =>
    have hkey : r.key = key₀ := hs.keyed hr
    refine turn_of_put_row hs hr hget rfl (fun x hx key hx' => ?_) (hkey ▸ .populated hp)
      (fun handle hne => hkey ▸ hp.filter_concerns_ne hne) hsub
    exact Option.some.inj (hx'.symm.trans (hp.key?_of_mem hx))
  | @received key₀ handle₀ r s₀ d s₀' hr hget hreceive =>
    have hkey : r.key = key₀ := hs.keyed hr
    refine turn_of_put_row hs hr hget rfl (fun x hx key hx' => ?_) ?_ (fun handle hne => ?_) hsub
    · cases List.mem_singleton.1 hx
      exact (Option.some.inj hx').symm
    · rw [hkey, List.filter_cons_of_pos (by simp [Fact.concerns])]
      exact .received hreceive
    · simp [Fact.concerns, hne]
  | asked hr hget =>
    exact turn_of_put_row hs hr hget rfl (by simp) .rest (fun _ _ => rfl) hsub
  | hungUp hr hget =>
    exact turn_of_put_row hs hr hget rfl (by simp) .hungUp (fun _ _ => rfl) hsub
  | sent hr =>
    refine turn_of_put hs hr rfl (by simp) (fun {handle s} hget => ⟨s, ?_, .rest⟩) hsub
    rw [Registration.audience_send]
    exact hget
  | ended hr =>
    exact turn_of_put hs hr rfl (by simp) (fun {handle s} hget => ⟨s, hget, .rest⟩) hsub
  | located =>
    refine turn_rest hsub (fun _ => rfl) fun x hx => ?_
    cases Fact.mem_ofLocate hx
    rfl
  | recorded => exact turn_rest hsub (fun _ => rfl) (by simp [Fact.concerns])
  | cleared => exact ⟨s, hsub, .rest⟩

/-- A subscription that a change of one registration brings was already in the registration. -/
lemma absent_of_put {key₀ : Key} {r r' : Registration P} (hr : h.registration? key₀ = some r)
    (hregs : h'.registrations = h.registrations.put key₀ r') (hlike : Registration.Alike r r')
    (hsub : h.subscription? key handle = none) : h'.subscription? key handle = none := by
  rw [subscription?_of_put hregs]
  split
  · rename_i heq
    subst heq
    rw [subscription?_of_registration? hr] at hsub
    exact hlike.handles hsub
  · exact hsub

/-- Subscriptions come by joining and in no other way. -/
lemma Changes.absent (hc : Changes h action told h') (hsub : h.subscription? key handle = none) :
    h'.subscription? key handle = none ∨
      ∃ before checkpoint after, told = before ++ .subscribed key handle checkpoint :: after := by
  cases hc with
  | aside f haudience _ _ _ hregs =>
    rw [subscription?] at hsub ⊢
    rw [hregs]
    cases hr : h.registration? key with
    | none => exact .inl rfl
    | some r => exact .inl (by simpa [hr, haudience] using hsub)
  | @registered key₀ observer id _ hnone _ hregs =>
    rw [subscription?_of_put hregs]
    split
    · exact .inl rfl
    · exact .inl hsub
  | @joined key₀ handle₀ checkpoint id r _ _ hr hfresh _ hregs =>
    by_cases heq : key₀ = key ∧ handle₀ = handle
    · obtain ⟨rfl, rfl⟩ := heq
      exact .inr ⟨_, _, _, rfl⟩
    · refine .inl ?_
      rw [subscription?_of_put hregs]
      split
      · rename_i hkey
        subst hkey
        rw [subscription?_of_registration? hr] at hsub
        rw [Audience.get?_insert, if_neg fun h => heq ⟨rfl, h⟩, Audience.get?_prune, hsub,
          Option.map_none]
      · exact hsub
  | left hr _ hregs => exact .inl (absent_of_put hr hregs (.remove _ _) hsub)
  | closed _ hr _ hregs => exact .inl (absent_of_put hr hregs (.closeAll _) hsub)
  | stopped _ _ hregs =>
    rw [subscription?, registration?, hregs]
    exact .inl hsub
  | ingested hr hi => exact .inl (absent_of_put hr rfl (.ingests hi) hsub)
  | populated hr hget | received hr hget | asked hr hget | hungUp hr hget =>
    exact .inl (absent_of_put hr rfl (.put hget _) hsub)
  | sent hr => exact .inl (absent_of_put hr rfl (.send _ _) hsub)
  | ended hr => exact .inl (absent_of_put hr rfl ⟨rfl, rfl, id⟩ hsub)
  | located | recorded | cleared => exact .inl hsub

/-- Whoever is told to have subscribed has just joined a running hub under a new handle. -/
lemma Changes.subscribed (hs : h.Sound) (hc : Changes h action told h') {before after : List (Fact P)}
    {checkpoint : Option Version}
    (htold : told = before ++ .subscribed key handle checkpoint :: after) :
    h.stopped = false ∧ (∀ key', h.subscription? key' handle = none) ∧
      h'.subscription? key handle = some (.new h.config.queueRoom checkpoint) ∧
      (∀ x ∈ before, (∃ handle, x = .pruned key handle) ∨ ∃ handle, x = .closed key handle) ∧
      after.filter (Fact.concerns key handle) = [] := by
  have hmem : .subscribed key handle checkpoint ∈ told := by simp [htold]
  cases hc with
  | aside _ _ _ hasides => exact nomatch (hasides _ hmem).1
  | @joined key₀ handle₀ checkpoint₀ id r _ hstopped hr hfresh _ hregs =>
    have hkey : r.audience.key = key₀ := hs.keyed hr
    have hpruned : ∀ x ∈ r.audience.prune.2, (∃ handle, x = .pruned key₀ handle) ∨
        ∃ handle, x = .closed key₀ handle := by
      intro x hx
      obtain ⟨handle, hx⟩ := Audience.mem_prune hx
      rw [hkey] at hx
      exact hx.imp (⟨handle, ·⟩) (⟨handle, ·⟩)
    -- Pruning tells nobody to have subscribed, so all that it tells comes before.
    have hnot : .subscribed key handle checkpoint ∉ r.audience.prune.2 := by
      intro hx
      rcases hpruned _ hx with ⟨_, hx⟩ | ⟨_, hx⟩ <;> cases hx
    obtain ⟨rfl, hjoined, rfl⟩ := (List.append_cons_inj_of_notMem hnot (by simp)).1 htold
    cases hjoined
    refine ⟨hstopped, hfresh, ?_, hpruned, by simp [Fact.concerns]⟩
    rw [subscription?_of_put hregs, if_pos rfl]
    exact (Audience.get?_insert ..).trans (if_pos rfl)
  | left =>
    rcases List.mem_append.1 hmem with hmem | hmem
    · obtain ⟨_, hx | hx | hx⟩ := Audience.mem_remove hmem <;> cases hx
    · simp at hmem
  | closed =>
    obtain ⟨_, hx⟩ := Audience.mem_closeAll hmem
    cases hx
  | ingested hr hi => rcases teller?_of_ingests hi hmem with hteller | hteller <;> cases hteller
  | populated hr hget hp => rcases teller?_of_populates hp hmem with hteller | hteller <;> cases hteller
  | located => cases Fact.mem_ofLocate hmem
  | _ => simp at hmem

variable {config : HubConfig} {actions : List (Action P)} {facts : List (Fact P)}

/-- Every subscription was told to have subscribed. -/
theorem Reached.subscribed (hr : Reached config actions facts h)
    (hsub : h.subscription? key handle = some s) :
    ∃ before checkpoint after, facts = before ++ .subscribed key handle checkpoint :: after := by
  induction hr generalizing s with
  | new => cases hsub
  | @step actions past h action h' told hr hstep ih =>
    cases hold : h.subscription? key handle with
    | some s₀ =>
      obtain ⟨before, checkpoint, after, rfl⟩ := ih hold
      exact ⟨before, checkpoint, after ++ told, by simp⟩
    | none =>
      -- It was not there before the step, so the step tells of it.
      rcases (hr.sound.changes hstep).absent hold with hnone | ⟨before, checkpoint, after, htold⟩
      · cases hnone.symm.trans hsub
      · exact ⟨past ++ before, checkpoint, after, by simp [show told = _ from htold]⟩

/-- Whoever was told to have subscribed has lived since on what was told after that. -/
theorem Reached.lived (hr : Reached config actions facts h) {before after : List (Fact P)}
    {checkpoint : Option Version}
    (hfacts : facts = before ++ .subscribed key handle checkpoint :: after) :
    ∃ s, h.subscription? key handle = some s ∧
      Lived config.queueRoom key handle checkpoint
        (after.filter (Fact.concerns key handle)) s := by
  induction hr generalizing after with
  | new => simp at hfacts
  | @step actions past h action h' told hr hstep ih =>
    have hchanges := hr.sound.changes hstep
    rcases append_eq_append_cons hfacts with ⟨rest, hpast, rfl⟩ | ⟨rest, rfl, htold⟩
    · obtain ⟨s, hsub, hlived⟩ := ih hpast
      obtain ⟨s', hsub', hturn⟩ := hchanges.turn hr.sound hsub
      refine ⟨s', hsub', ?_⟩
      rw [List.filter_append]
      exact hlived.turn hturn
    · obtain ⟨-, -, hsub, -, hafter⟩ := hchanges.subscribed hr.sound htold
      rw [hafter, ← hr.config_eq]
      exact ⟨_, hsub, .new⟩

end Hub

end WatchHub
