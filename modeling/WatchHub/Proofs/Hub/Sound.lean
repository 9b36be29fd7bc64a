import WatchHub.Hub.Step
import WatchHub.Proofs.Hub.Audience
import WatchHub.Proofs.Hub.Ingestion
import WatchHub.Proofs.Hub.Population

/-!
# What holds of every hub

A hub is sound if every registration stands under its own key and stays bound while the hub runs, if
the hub is stopped before anything is torn down, and if no handle is drawn twice: a call that is
about to join has a handle that no subscription and no other such call has. `Hub.Sound.step` shows
that every step keeps a hub sound.
-/

namespace WatchHub

variable {P : Type}

namespace Registration

/-- Two states of one registration with the same subscriptions. -/
structure Alike (r r' : Registration P) : Prop where
  key_eq : r'.key = r.key
  bound_eq : r'.bound = r.bound
  handles : ∀ {handle}, r.audience.get? handle = none → r'.audience.get? handle = none

lemma Alike.refl (r : Registration P) : Alike r r :=
  ⟨rfl, rfl, id⟩

lemma Alike.put {r : Registration P} {handle : Handle} {s : Subscription P}
    (hs : r.audience.get? handle = some s) (s' : Subscription P) :
    Alike r { r with audience := r.audience.put handle s' } where
  key_eq := rfl
  bound_eq := rfl
  handles {handle'} h := by
    have hne : handle ≠ handle' := by
      rintro rfl
      rw [hs] at h
      cases h
    exact (Audience.get?_put_ne r.audience hne s').trans h

lemma Alike.remove (r : Registration P) (handle : Handle) :
    Alike r { r with audience := (r.audience.remove handle).2.1 } where
  key_eq := r.audience.key_remove handle
  bound_eq := rfl
  handles h := by rw [Audience.get?_remove, h, Option.map_none]

lemma Alike.closeAll (r : Registration P) :
    Alike r { r with audience := r.audience.closeAll.1 } where
  key_eq := rfl
  bound_eq := rfl
  handles h := by rw [Audience.get?_closeAll, h, Option.map_none]

lemma Alike.ingests {stopped : Bool} {log : EventLog P} {r : Registration P} {move : Ingest.Move}
    {out : Ingested P} (h : Ingests stopped log r move out) : Alike r out.registration where
  key_eq := h.key_eq
  bound_eq := h.bound_eq
  handles hnone := by
    rcases h.audience_eq with ⟨heq, -⟩ | ⟨d, last, -, heq, -⟩
    · rw [heq, hnone]
    · rw [heq, Audience.get?_emit, hnone, Option.map_none]

@[simp]
lemma audience_send (r : Registration P) (event : Event P) :
    (r.send event).audience = r.audience := by
  unfold Registration.send
  split <;> rfl

lemma Alike.send (r : Registration P) (event : Event P) : Alike r (r.send event) := by
  unfold Registration.send
  split
  · exact .refl r
  · exact ⟨rfl, rfl, id⟩

lemma Alike.abort (r : Registration P) : Alike r r.abort := by
  unfold Registration.abort
  split
  · exact .refl r
  · exact ⟨rfl, rfl, id⟩

end Registration

/-- Whether a call tears the hub down. -/
def Call.isStopping : Call → Bool
  | .draining | .awaiting .. | .closing .. => true
  | _ => false

namespace Hub

open Registration (Alike)

variable {h : Hub P}

/-- A hub after a change of one registration finds the new one under its key. -/
lemma registration?_of_put {h' : Hub P} {key : Key} {r : Registration P}
    (hregs : h'.registrations = h.registrations.put key r) : h'.registration? key = some r := by
  rw [registration?, hregs, Table.get?_put_self]

lemma registration?_of_put_ne {h' : Hub P} {key key' : Key} {r : Registration P}
    (hregs : h'.registrations = h.registrations.put key r) (hne : key ≠ key') :
    h'.registration? key' = h.registration? key' := by
  rw [registration?, hregs, Table.get?_put_ne _ hne]
  rfl

lemma subscription?_of_put {h' : Hub P} {key : Key} {r : Registration P}
    (hregs : h'.registrations = h.registrations.put key r) (key' : Key) (handle : Handle) :
    h'.subscription? key' handle =
      if key = key' then r.audience.get? handle else h.subscription? key' handle := by
  unfold subscription?
  by_cases heq : key = key'
  · subst heq
    simp [registration?_of_put hregs]
  · rw [registration?_of_put_ne hregs heq, if_neg heq]

lemma subscription?_putRegistration (h : Hub P) (key key' : Key) (r : Registration P)
    (handle : Handle) :
    (h.putRegistration key r).subscription? key' handle =
      if key = key' then r.audience.get? handle else h.subscription? key' handle :=
  subscription?_of_put rfl key' handle

lemma subscription?_of_registration? {key : Key} {r : Registration P}
    (hr : h.registration? key = some r) (handle : Handle) :
    h.subscription? key handle = r.audience.get? handle := by
  simp [subscription?, hr]

/-- A subscription belongs to a registration. -/
lemma exists_registration {key : Key} {handle : Handle} {s : Subscription P}
    (hsub : h.subscription? key handle = some s) :
    ∃ r, h.registration? key = some r ∧ r.audience.get? handle = some s :=
  Option.bind_eq_some_iff.1 hsub

/-- No registration is lost or mixed up, nothing is torn down before the hub is stopped, and no
handle is drawn twice. -/
structure Sound (h : Hub P) : Prop where
  keyed : ∀ {key r}, h.registration? key = some r → r.key = key
  bound : ∀ {key r}, h.registration? key = some r → h.stopped = false → r.bound = true
  stopping : ∀ {id call}, h.calls.get? id = some call → call.isStopping = true → h.stopped = true
  issued : ∀ {key handle s}, h.subscription? key handle = some s → handle.number ≤ h.issued
  drawn : ∀ {id key handle checkpoint},
    h.calls.get? id = some (.joining key handle checkpoint) → handle.number ≤ h.issued
  fresh : ∀ {id key handle checkpoint},
    h.calls.get? id = some (.joining key handle checkpoint) →
    ∀ key', h.subscription? key' handle = none
  apart : ∀ {id id' key key' handle checkpoint checkpoint'},
    h.calls.get? id = some (.joining key handle checkpoint) →
    h.calls.get? id' = some (.joining key' handle checkpoint') → id = id'

lemma Sound.new (config : HubConfig) : (Hub.new config : Hub P).Sound where
  keyed h := nomatch h
  bound h := nomatch h
  stopping h := nomatch h
  issued h := nomatch h
  drawn h := nomatch h
  fresh h := nomatch h
  apart h := nomatch h

/-- The logs do not matter, nor what the owner is adding to them. -/
lemma Sound.withLog (hs : h.Sound) (log : EventLog P) (appending : List (Appending P)) :
    ({ h with log := log, appending := appending } : Hub P).Sound :=
  ⟨hs.keyed, hs.bound, hs.stopping, hs.issued, hs.drawn, hs.fresh, hs.apart⟩

/-- The number of calls made does not matter. -/
lemma Sound.withMade (hs : h.Sound) (made : Nat) : ({ h with made := made } : Hub P).Sound :=
  ⟨hs.keyed, hs.bound, hs.stopping, hs.issued, hs.drawn, hs.fresh, hs.apart⟩

/-- A handle may be drawn. -/
lemma Sound.draw (hs : h.Sound) : ({ h with issued := h.issued + 1 } : Hub P).Sound where
  keyed h' := hs.keyed h'
  bound h' := hs.bound h'
  stopping h' := hs.stopping h'
  issued h' := Nat.le_succ_of_le (hs.issued h')
  drawn h' := Nat.le_succ_of_le (hs.drawn h')
  fresh h' := hs.fresh h'
  apart h' := hs.apart h'

/-- A registration may change as long as it keeps its subscriptions. -/
lemma Sound.put (hs : h.Sound) {key : Key} {r r' : Registration P}
    (hr : h.registration? key = some r) (hlike : Alike r r') : (h.putRegistration key r').Sound where
  keyed {key' r''} h' := by
    rcases Table.get?_put_eq_some h' with ⟨rfl, rfl⟩ | ⟨-, hold⟩
    · exact hlike.key_eq.trans (hs.keyed hr)
    · exact hs.keyed hold
  bound {key' r''} h' hstopped := by
    rcases Table.get?_put_eq_some h' with ⟨rfl, rfl⟩ | ⟨-, hold⟩
    · exact hlike.bound_eq.trans (hs.bound hr hstopped)
    · exact hs.bound hold hstopped
  stopping h' := hs.stopping h'
  issued {key' handle s} h' := by
    rw [subscription?_putRegistration] at h'
    split at h'
    · cases hget : r.audience.get? handle with
      | none => exact nomatch h'.symm.trans (hlike.handles hget)
      | some s₀ => exact hs.issued ((subscription?_of_registration? hr handle).trans hget)
    · exact hs.issued h'
  drawn h' := hs.drawn h'
  fresh {id key₀ handle checkpoint} h' key' := by
    have hnone := hs.fresh h' key'
    rw [subscription?_putRegistration]
    split
    · rename_i heq
      subst heq
      exact hlike.handles ((subscription?_of_registration? hr handle).symm.trans hnone)
    · exact hnone
  apart h' h'' := hs.apart h' h''

/-- A call may come to another place, if it does not join there and tears nothing down. -/
lemma Sound.putCall (hs : h.Sound) (id : CallId) {call : Call}
    (hjoin : ∀ key handle checkpoint, call ≠ .joining key handle checkpoint)
    (hstop : call.isStopping = true → h.stopped = true) : (h.putCall id call).Sound where
  keyed h' := hs.keyed h'
  bound h' := hs.bound h'
  stopping {id' call'} h' hstop' := by
    rcases Table.get?_put_eq_some h' with ⟨rfl, rfl⟩ | ⟨-, hold⟩
    · exact hstop hstop'
    · exact hs.stopping hold hstop'
  issued h' := hs.issued h'
  drawn {id' key handle checkpoint} h' := by
    rcases Table.get?_put_eq_some h' with ⟨-, heq⟩ | ⟨-, hold⟩
    · exact absurd heq (hjoin key handle checkpoint)
    · exact hs.drawn hold
  fresh {id' key handle checkpoint} h' := by
    rcases Table.get?_put_eq_some h' with ⟨-, heq⟩ | ⟨-, hold⟩
    · exact absurd heq (hjoin key handle checkpoint)
    · exact hs.fresh hold
  apart {id₁ id₂ key₁ key₂ handle checkpoint₁ checkpoint₂} h₁ h₂ := by
    rcases Table.get?_put_eq_some h₁ with ⟨-, heq⟩ | ⟨-, hold₁⟩
    · exact absurd heq (hjoin key₁ handle checkpoint₁)
    · rcases Table.get?_put_eq_some h₂ with ⟨-, heq⟩ | ⟨-, hold₂⟩
      · exact absurd heq (hjoin key₂ handle checkpoint₂)
      · exact hs.apart hold₁ hold₂

/-- A call may end. -/
lemma Sound.reply (hs : h.Sound) (id : CallId) (answer : Reply) (facts : List (Fact P)) :
    (h.reply id answer facts).1.Sound := by
  have hcalls : ∀ {id' call}, (h.calls.erase id).get? id' = some call →
      h.calls.get? id' = some call := fun h' => (Table.get?_erase_eq_some h').2
  exact ⟨hs.keyed, hs.bound, fun h' => hs.stopping (hcalls h'), hs.issued,
    fun h' => hs.drawn (hcalls h'), fun h' => hs.fresh (hcalls h'),
    fun h' h'' => hs.apart (hcalls h') (hcalls h'')⟩

/-- The stop mark may be set. -/
lemma Sound.requestShutdown (hs : h.Sound) (id : CallId) : (h.requestShutdown id).1.Sound := by
  have hstop : ({ h with stopped := true } : Hub P).Sound :=
    ⟨hs.keyed, fun _ => nofun, fun _ _ => rfl, hs.issued, hs.drawn, hs.fresh, hs.apart⟩
  exact hstop.putCall id (fun _ _ _ => nofun) fun _ => rfl

lemma Sound.start (hs : h.Sound) (request : Request) : (h.start request).1.Sound := by
  have hmade := hs.withMade (h.made + 1)
  cases request with
  | register key observer => exact hmade.putCall _ (fun _ _ _ => nofun) nofun
  | subscribe key checkpoint =>
    unfold Hub.start
    dsimp only
    split
    · exact hmade.reply _ _ _
    · exact hmade.putCall _ (fun _ _ _ => nofun) nofun
  | unsubscribe key handle => exact hmade.putCall _ (fun _ _ _ => nofun) nofun
  | shutdown => exact hmade.requestShutdown _
  | guard => exact hmade.putCall _ (fun _ _ _ => nofun) nofun

/-- While the hub runs, a key that leads nowhere was never bound. -/
lemma Sound.registration?_eq_none (hs : h.Sound) (hstopped : h.stopped = false) {key : Key}
    (hbound : (h.bound? key).isSome = false) : h.registration? key = none := by
  cases hr : h.registration? key with
  | none => rfl
  | some r => simp [bound?, hr, hs.bound hr hstopped] at hbound

lemma Sound.register (hs : h.Sound) (id : CallId) (key : Key) (observer : ObserverRef) :
    (h.register id key observer).1.Sound := by
  unfold Hub.register
  split
  · exact hs.reply _ _ _
  · rename_i hstopped
    split
    · exact hs.reply _ _ _
    · rename_i hbound
      have hnone := hs.registration?_eq_none (eq_false_of_ne_true hstopped)
        (eq_false_of_ne_true hbound)
      have hsub : ∀ key' handle, (h.putRegistration key (.new key observer)).subscription? key'
          handle = h.subscription? key' handle := by
        intro key' handle
        rw [subscription?_putRegistration]
        split
        · rename_i heq
          subst heq
          simp [subscription?, hnone, Registration.new, Audience.new, Audience.get?]
        · rfl
      have hput : (h.putRegistration key (.new key observer)).Sound := by
        refine ⟨?_, ?_, hs.stopping, ?_, hs.drawn, ?_, hs.apart⟩
        · intro key' r' h'
          rcases Table.get?_put_eq_some h' with ⟨rfl, rfl⟩ | ⟨-, hold⟩
          · rfl
          · exact hs.keyed hold
        · intro key' r' h' hstopped
          rcases Table.get?_put_eq_some h' with ⟨rfl, rfl⟩ | ⟨-, hold⟩
          · rfl
          · exact hs.bound hold hstopped
        · intro key' handle s h'
          exact hs.issued ((hsub key' handle).symm.trans h')
        · intro id key₀ handle checkpoint h' key'
          exact (hsub key' handle).trans (hs.fresh h' key')
      exact hput.reply _ _ _

/-- A handle that is drawn is greater than all before. -/
lemma Sound.find (hs : h.Sound) (id : CallId) (key : Key) (checkpoint : Option Version) :
    (h.find id key checkpoint).1.Sound := by
  unfold Hub.find
  split
  case h_2 => exact hs.reply _ _ _
  dsimp only
  split
  · exact hs.draw.putCall id (fun _ _ _ => nofun) nofun
  · -- All handles that were drawn so far are smaller than this one.
    have hnone : ∀ key', h.subscription? key' ⟨h.issued + 1⟩ = none := by
      intro key'
      refine Option.eq_none_iff_forall_ne_some.2 fun s h' => ?_
      exact absurd (hs.issued h') (Nat.not_succ_le_self h.issued)
    have hcalls : ∀ {id' key' handle checkpoint'},
        (h.calls.put id (.joining key ⟨h.issued + 1⟩ checkpoint)).get? id' =
          some (.joining key' handle checkpoint') →
        (id' = id ∧ handle = ⟨h.issued + 1⟩) ∨
          (id' ≠ id ∧ h.calls.get? id' = some (.joining key' handle checkpoint')) := by
      intro id' key' handle checkpoint' h'
      rcases Table.get?_put_eq_some h' with ⟨rfl, heq⟩ | ⟨hne, hold⟩
      · cases heq
        exact .inl ⟨rfl, rfl⟩
      · exact .inr ⟨hne.symm, hold⟩
    refine ⟨hs.keyed, hs.bound, ?_, ?_, ?_, ?_, ?_⟩
    · intro id' call h' hstop
      rcases Table.get?_put_eq_some h' with ⟨-, rfl⟩ | ⟨-, hold⟩
      · cases hstop
      · exact hs.stopping hold hstop
    · exact fun h' => Nat.le_succ_of_le (hs.issued h')
    · intro id' key' handle checkpoint' h'
      rcases hcalls h' with ⟨-, rfl⟩ | ⟨-, h'⟩
      · exact Nat.le_refl _
      · exact Nat.le_succ_of_le (hs.drawn h')
    · intro id' key' handle checkpoint' h' key''
      rcases hcalls h' with ⟨-, rfl⟩ | ⟨-, h'⟩
      · exact hnone key''
      · exact hs.fresh h' key''
    · intro id₁ id₂ key₁ key₂ handle checkpoint₁ checkpoint₂ h₁ h₂
      rcases hcalls h₁ with ⟨rfl, hnew⟩ | ⟨-, hold⟩ <;>
        rcases hcalls h₂ with ⟨rfl, hnew'⟩ | ⟨-, hold'⟩
      · rfl
      · subst hnew
        exact absurd (hs.drawn hold') (Nat.not_succ_le_self h.issued)
      · subst hnew'
        exact absurd (hs.drawn hold) (Nat.not_succ_le_self h.issued)
      · exact hs.apart hold hold'

/-- Whoever joins takes a handle that nobody had, and no other call can join with it. -/
lemma Sound.join (hs : h.Sound) {id : CallId} {key : Key} {handle : Handle}
    {checkpoint : Option Version}
    (hcall : h.calls.get? id = some (.joining key handle checkpoint)) :
    (h.join id key handle checkpoint).1.Sound := by
  unfold Hub.join
  split
  · exact hs.reply _ _ _
  · cases hr : h.registration? key with
    | none => exact hs.reply _ _ _
    | some r =>
      dsimp only
      have hsub : ∀ key' handle', handle' ≠ handle → h.subscription? key' handle' = none →
          (h.putRegistration key { r with audience :=
            (r.audience.insert handle (.new h.config.queueRoom checkpoint)).1 }).subscription?
              key' handle' = none := by
        intro key' handle' hne hnone
        rw [subscription?_putRegistration]
        split
        · rename_i heq
          subst heq
          rw [subscription?_of_registration? hr] at hnone
          rw [Audience.get?_insert, if_neg (Ne.symm hne), Audience.get?_prune, hnone,
            Option.map_none]
        · exact hnone
      have hcalls : ∀ {id' call}, (h.calls.erase id).get? id' = some call →
          id ≠ id' ∧ h.calls.get? id' = some call := fun h' => Table.get?_erase_eq_some h'
      refine ⟨?_, ?_, fun h' => hs.stopping (hcalls h').2, ?_, fun h' => hs.drawn (hcalls h').2,
        ?_, fun h' h'' => hs.apart (hcalls h').2 (hcalls h'').2⟩
      · intro key' r' h'
        rcases Table.get?_put_eq_some h' with ⟨rfl, rfl⟩ | ⟨-, hold⟩
        · exact (show r.key = key from hs.keyed hr)
        · exact hs.keyed hold
      · intro key' r' h' hstopped
        rcases Table.get?_put_eq_some h' with ⟨rfl, rfl⟩ | ⟨-, hold⟩
        · exact (show r.bound = true from hs.bound hr hstopped)
        · exact hs.bound hold hstopped
      · intro key' handle' s' h'
        by_cases heq : handle' = handle
        · subst heq
          exact hs.drawn hcall
        · cases hold : h.subscription? key' handle' with
          | none => cases (hsub key' handle' heq hold).symm.trans h'
          | some s => exact hs.issued hold
      · intro id' key₀ handle' checkpoint' h' key'
        -- A call that is still joining has another handle than the one that has just joined.
        obtain ⟨hne, hold⟩ := hcalls h'
        refine hsub key' handle' ?_ (hs.fresh hold key')
        rintro rfl
        exact hne (hs.apart hcall hold)

lemma Sound.leave (hs : h.Sound) (id : CallId) (key : Key) (handle : Handle) :
    (h.leave id key handle).1.Sound := by
  unfold Hub.leave
  split
  · exact hs.putCall id (fun _ _ _ => nofun) nofun
  · exact hs.reply _ _ _

lemma Sound.remove (hs : h.Sound) (id : CallId) (key : Key) (handle : Handle) :
    (h.remove id key handle).1.Sound := by
  unfold Hub.remove
  cases hr : h.registration? key with
  | none => exact hs.reply _ _ _
  | some r => exact (hs.put hr (.remove r handle)).reply _ _ _

/-- All registrations may change at once, if each keeps its subscriptions. -/
lemma Sound.mapValues (hs : h.Sound) {f : Key → Registration P → Registration P}
    (hkey : ∀ key r, (f key r).audience = r.audience)
    (hbound : h.stopped = false → ∀ key r, (f key r).bound = r.bound) :
    ({ h with registrations := h.registrations.mapValues f } : Hub P).Sound := by
  have hreg : ∀ key, ({ h with registrations := h.registrations.mapValues f } :
      Hub P).registration? key = (h.registration? key).map (f key) :=
    fun key => Table.get?_mapValues h.registrations f key
  have hsub : ∀ key handle, ({ h with registrations := h.registrations.mapValues f } :
      Hub P).subscription? key handle = h.subscription? key handle := by
    intro key handle
    rw [subscription?, hreg, subscription?]
    cases h.registration? key with
    | none => rfl
    | some r => simp [hkey]
  refine ⟨?_, ?_, hs.stopping, fun h' => hs.issued ((hsub _ _).symm.trans h'), hs.drawn,
    fun h' key' => (hsub key' _).trans (hs.fresh h' key'), hs.apart⟩
  · intro key r h'
    rw [hreg, Option.map_eq_some_iff] at h'
    obtain ⟨r₀, hr₀, rfl⟩ := h'
    rw [Registration.key, hkey]
    exact hs.keyed hr₀
  · intro key r h' hstopped
    rw [hreg, Option.map_eq_some_iff] at h'
    obtain ⟨r₀, hr₀, rfl⟩ := h'
    rw [hbound hstopped]
    exact hs.bound hr₀ hstopped

lemma Sound.drain (hs : h.Sound) (hstopped : h.stopped = true) (id : CallId) :
    (h.drain id).1.Sound := by
  have hmap := hs.mapValues (f := fun _ r => { r with bound := false }) (fun _ _ => rfl)
    fun hrunning => nomatch hrunning.symm.trans hstopped
  exact hmap.putCall id (fun _ _ _ => nofun) fun _ => hstopped

lemma Sound.await (hs : h.Sound) (hstopped : h.stopped = true) {id : CallId}
    {left drained : List Key} {out : Outcome P} (h' : h.await id left drained = some out) :
    out.1.Sound := by
  unfold Hub.await at h'
  split at h'
  · cases h'
    exact hs.putCall id (fun _ _ _ => nofun) fun _ => hstopped
  · split at h'
    · cases h'
      exact hs.putCall id (fun _ _ _ => nofun) fun _ => hstopped
    · cases h'

lemma Sound.endGrace (hs : h.Sound) (hstopped : h.stopped = true) (id : CallId) (looks : Nat)
    (left drained : List Key) : (h.endGrace id looks left drained).1.Sound := by
  unfold Hub.endGrace
  dsimp only
  split
  · exact hs.putCall id (fun _ _ _ => nofun) fun _ => hstopped
  · refine (hs.mapValues (fun key r => ?_) fun _ key r => ?_).putCall id (fun _ _ _ => nofun)
      fun _ => hstopped
    · split
      · unfold Registration.abort
        split <;> rfl
      · rfl
    · split
      · exact (Alike.abort r).bound_eq
      · rfl

lemma Sound.close (hs : h.Sound) (hstopped : h.stopped = true) (id : CallId) (left : List Key)
    (drained : Nat) (answer : Reply) : (h.close id left drained answer).1.Sound := by
  unfold Hub.close
  split
  · rename_i key left
    cases hr : h.registration? key with
    | none => exact hs.putCall id (fun _ _ _ => nofun) fun _ => hstopped
    | some r => exact (hs.put hr (.closeAll r)).putCall id (fun _ _ _ => nofun) fun _ => hstopped
  · exact (hs.withLog h.log.clear h.appending).reply _ _ _

lemma Sound.resume (hs : h.Sound) {id : CallId} {out : Outcome P} (h' : h.resume id = some out) :
    out.1.Sound := by
  unfold Hub.resume at h'
  split at h'
  · cases h'
    exact hs.register ..
  · cases h'
    exact hs.find ..
  · rename_i hcall
    cases h'
    exact hs.join hcall
  · cases h'
    exact hs.leave ..
  · cases h'
    exact hs.remove ..
  · rename_i hcall
    cases h'
    exact hs.drain (hs.stopping hcall rfl) id
  · rename_i hcall
    exact hs.await (hs.stopping hcall rfl) h'
  · rename_i hcall
    cases h'
    exact hs.close (hs.stopping hcall rfl) ..
  · split at h'
    · cases h'
      exact hs.reply ..
    · cases h'
  · cases h'
  · cases h'

/-- A step within one registration keeps a hub sound if it keeps the subscriptions. -/
lemma Sound.within (hs : h.Sound) {key : Key} {f : Registration P → Option (Ingested P)}
    (hf : ∀ {r out}, f r = some out → Alike r out.registration) {out : Outcome P}
    (h' : h.within key f = some out) : out.1.Sound := by
  unfold Hub.within at h'
  obtain ⟨r, hr, h'⟩ := Option.bind_eq_some_iff.1 h'
  obtain ⟨ingested, hf', h'⟩ := Option.bind_eq_some_iff.1 h'
  cases h'
  exact (hs.withLog ingested.log h.appending).put hr (hf hf')

/-- Every step keeps a hub sound. -/
theorem Sound.step (hs : h.Sound) {action : Action P} {out : Outcome P}
    (h' : h.step action = some out) : out.1.Sound := by
  cases action with
  | start request =>
    cases h'
    exact hs.start request
  | resume call => exact hs.resume h'
  | expire call looks =>
    simp only [Hub.step, Hub.expire] at h'
    split at h'
    · rename_i hcall
      cases h'
      exact hs.endGrace (hs.stopping hcall rfl) ..
    · cases h'
  | signal call name =>
    simp only [Hub.step, Hub.signal] at h'
    split at h'
    · cases h'
      exact hs.requestShutdown call
    · cases h'
  | ingest key move => exact hs.within (fun h' => .ingests (.of_step h')) h'
  | populate key handle move =>
    refine hs.within (fun {r out} h' => ?_) h'
    obtain ⟨s, hget, h'⟩ := Option.bind_eq_some_iff.1 h'
    obtain ⟨p, -, h'⟩ := Option.bind_eq_some_iff.1 h'
    cases h'
    exact .put hget p.subscription
  | receive key handle =>
    refine hs.within (fun {r out} h' => ?_) h'
    obtain ⟨s, hget, h'⟩ := Option.bind_eq_some_iff.1 h'
    cases h'
    exact .put hget _
  | hangUp key handle =>
    refine hs.within (fun {r out} h' => ?_) h'
    obtain ⟨s, hget, h'⟩ := Option.bind_eq_some_iff.1 h'
    cases h'
    exact .put hget _
  | send key event =>
    refine hs.within (fun {r out} h' => ?_) h'
    cases h'
    exact .send r event
  | endStream key =>
    refine hs.within (fun {r out} h' => ?_) h'
    cases h'
    exact ⟨rfl, rfl, id⟩
  | locate key epoch event =>
    cases h'
    exact hs.withLog ..
  | record place =>
    obtain ⟨a, -, h'⟩ := Option.bind_eq_some_iff.1 h'
    cases h'
    exact hs.withLog ..
  | clear =>
    cases h'
    exact hs.withLog ..

end Hub

end WatchHub
