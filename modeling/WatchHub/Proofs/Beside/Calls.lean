import WatchHub.Proofs.Beside.Hubs

/-!
# Calls in two runs

A call of somebody else goes on in both runs in the same way, and a call of the guest leaves the second
run as it is (`Hub.Beside.resume`, `Hub.Beside.resume_guest`). Whose a call is can be seen where it
stands: the guest looks for its registration, or joins, leaves or is removed under its own handle
(`Guest.Known`).
-/

namespace WatchHub

variable {P : Type}

namespace Guest

variable (g : Guest)

/-- Whether a call can be one of the guest. -/
def Owns : Call → Prop
  | .finding .. | .broken _ => True
  | .joining _ handle _ | .leaving _ handle | .removing _ handle => handle = g.handle
  | _ => False

/-- Whether a call can be one of somebody else. -/
def Avoids : Call → Prop
  | .joining _ handle _ | .leaving _ handle | .removing _ handle => handle ≠ g.handle
  | _ => True

/-- Whose a call is can be seen where it stands. -/
structure Known (h : Hub P) : Prop where
  own : ∀ {id call}, g.made id = true → h.calls.get? id = some call → g.Owns call
  others : ∀ {id call}, g.made id = false → h.calls.get? id = some call → g.Avoids call

end Guest

lemma Subscription.Pair.new {L : Likeness P} {pairs : LogId → LogId → Prop} {bystander : Prop}
    (room : Nat) (checkpoint : Option Version) (hby : ¬ L.exact → ¬ bystander) :
    Pair L pairs bystander (.new room checkpoint : Subscription P) (.new room checkpoint) := by
  by_cases hexact : L.exact
  · exact .twins (.new room checkpoint fun _ => hexact)
  · cases checkpoint with
    | none => exact .twins (.new room none nofun)
    | some after => exact .quiet rfl fun _ => ⟨hexact, hby hexact⟩

namespace Hub.Beside

variable {g : Guest} {like : Key → Likeness P} {same : Key → LogId → LogId → Prop}
  {bystander : Key → Handle → Prop} {facts facts' : List (Fact P)} {h h' : Hub P} {key : Key}
  {id : CallId}

section Others

variable (hb : Beside g like same bystander facts facts' h h') (hid : g.made id = false)
include hb hid

lemma register (observer : ObserverRef) :
    Beside g like same bystander facts facts' (h.register id key observer).1
      (h'.register (g.callId id) key observer).1 := by
  unfold Hub.register
  rw [hb.stopped_eq]
  split
  · exact hb.dismiss hid
  · cases hr : h.bound? key with
    | some r =>
      obtain ⟨r', hr', -⟩ := hb.bound? hr
      rw [hr']
      exact hb.dismiss hid
    | none =>
      rw [hb.bound?_eq_none hr]
      exact (hb.put (.new key observer)).dismiss hid

omit hid in
/-- The next handle has a number less once the guest has drawn its own. -/
lemma rename_issued (hne : h.issued + 1 ≠ g.handle.number) :
    g.rename ⟨h.issued + 1⟩ = ⟨h'.issued + 1⟩ := by
  have hissued := hb.issued_eq
  unfold Guest.rename
  dsimp only
  split at hissued <;> split <;> first | omega | exact congrArg Handle.mk (by omega)

lemma find (checkpoint : Option Version)
    (hroom : Room.breakdown? h.config.queueRoom = none)
    (hne : (h.bound? key).isSome = true → h.issued + 1 ≠ g.handle.number) :
    Beside g like same bystander facts facts' (h.find id key checkpoint).1
      (h'.find (g.callId id) key checkpoint).1 := by
  unfold Hub.find
  cases hr : h.bound? key with
  | none =>
    rw [hb.bound?_eq_none hr]
    exact hb.dismiss hid
  | some r =>
    obtain ⟨r', hr', -⟩ := hb.bound? hr
    have hne := hne (by rw [hr]; rfl)
    have hcall := (hb.issue hne).putCall hid (.joining key ⟨h.issued + 1⟩ checkpoint)
    rw [Guest.call, hb.rename_issued hne] at hcall
    have hroom' : Room.breakdown? h'.config.queueRoom = none := hb.config_eq ▸ hroom
    simp only [hr', hroom, hroom']
    exact hcall

lemma join {handle : Handle} (checkpoint : Option Version) (hne : handle ≠ g.handle)
    (hby : ¬ (like key).exact → ¬ bystander key handle) :
    Beside g like same bystander facts facts' (h.join id key handle checkpoint).1
      (h'.join (g.callId id) key (g.rename handle) checkpoint).1 := by
  unfold Hub.join
  rw [hb.stopped_eq]
  split
  · exact hb.dismiss hid
  · cases hr : h.registration? key with
    | none =>
      rw [hb.registration?_eq_none hr]
      exact hb.dismiss hid
    | some r =>
      obtain ⟨r', hr', hbeside⟩ := hb.registration? hr
      rw [hr', hb.config_eq]
      exact (hb.put (hbeside.withAudience
        (hbeside.audience.insert hne (.new _ checkpoint hby)) rfl rfl)).dismiss hid

lemma leave (handle : Handle) :
    Beside g like same bystander facts facts' (h.leave id key handle).1
      (h'.leave (g.callId id) key (g.rename handle)).1 := by
  unfold Hub.leave
  cases hr : h.bound? key with
  | none =>
    rw [hb.bound?_eq_none hr]
    exact hb.dismiss hid
  | some r =>
    obtain ⟨r', hr', -⟩ := hb.bound? hr
    rw [hr']
    exact hb.putCall hid (.removing key handle)

lemma remove {handle : Handle} (hne : handle ≠ g.handle) :
    Beside g like same bystander facts facts' (h.remove id key handle).1
      (h'.remove (g.callId id) key (g.rename handle)).1 := by
  unfold Hub.remove
  cases hr : h.registration? key with
  | none =>
    rw [hb.registration?_eq_none hr]
    exact hb.dismiss hid
  | some r =>
    obtain ⟨r', hr', hbeside⟩ := hb.registration? hr
    rw [hr']
    exact (hb.put (hbeside.withAudience (hbeside.audience.remove hne)
      (r.audience.key_remove handle) (r'.audience.key_remove (g.rename handle)))).dismiss hid

lemma drain :
    Beside g like same bystander facts facts' (h.drain id).1 (h'.drain (g.callId id)).1 := by
  unfold Hub.drain
  rw [hb.boundKeys_eq]
  exact (hb.mapValues fun _ _ _ hr => hr.unbind).putCall hid (.awaiting _ _)

lemma await {left drained : List Key} {out : Outcome P} (hout : h.await id left drained = some out) :
    ∃ out', h'.await (g.callId id) left drained = some out' ∧
      Beside g like same bystander facts facts' out.1 out'.1 := by
  unfold Hub.await at hout ⊢
  cases left with
  | nil =>
    cases hout
    exact ⟨_, rfl, hb.putCall hid (.closing drained drained.length .stopped)⟩
  | cons key left =>
    dsimp only at hout ⊢
    rw [hb.hasFinished_eq]
    split at hout
    · rename_i hfinished
      cases hout
      rw [if_pos hfinished]
      exact ⟨_, rfl, hb.putCall hid (.awaiting left drained)⟩
    · cases hout

lemma endGrace (looks : Nat) (left drained : List Key) :
    Beside g like same bystander facts facts' (h.endGrace id looks left drained).1
      (h'.endGrace (g.callId id) looks left drained).1 := by
  have hfinished : h'.hasFinished = h.hasFinished := funext hb.hasFinished_eq
  have hgrace : h'.config.grace = h.config.grace := congrArg _ hb.config_eq
  unfold Hub.endGrace
  dsimp only
  rw [hfinished]
  cases left.drop ((left.take looks).takeWhile h.hasFinished).length with
  | nil => exact hb.putCall hid (.closing drained drained.length .stopped)
  | cons late lates =>
    dsimp only
    rw [hgrace]
    generalize Key.sort _ = stuck
    refine (hb.mapValues fun key r r' hr => ?_).putCall hid (.closing drained drained.length _)
    split
    · exact hr.abort
    · exact hr

lemma close (left : List Key) (drained : Nat) (reply : Reply) :
    Beside g like same bystander facts facts' (h.close id left drained reply).1
      (h'.close (g.callId id) left drained reply).1 := by
  unfold Hub.close
  cases left with
  | nil => exact hb.clearLog.dismiss hid
  | cons key left =>
    dsimp only
    cases hr : h.registration? key with
    | none =>
      rw [hb.registration?_eq_none hr]
      exact hb.putCall hid (.closing left drained reply)
    | some r =>
      obtain ⟨r', hr', hbeside⟩ := hb.registration? hr
      rw [hr']
      exact (hb.put (hbeside.withAudience hbeside.audience.closeAll rfl rfl)).putCall hid
        (.closing left drained reply)

/-- A call of somebody else goes on in both runs. -/
theorem resume {out : Outcome P} (hout : h.resume id = some out)
    (hroom : Room.breakdown? h.config.queueRoom = none) (hk : g.Known h) (hk₁ : g.Known out.1)
    (hby : ∀ {key handle checkpoint}, h.calls.get? id = some (.joining key handle checkpoint) →
      ¬ (like key).exact → ¬ bystander key handle) :
    ∃ out', h'.resume (g.callId id) = some out' ∧
      Beside g like same bystander facts facts' out.1 out'.1 := by
  have hcalls := hb.calls id hid
  unfold Hub.resume at hout ⊢
  rw [hcalls]
  cases hcall : h.calls.get? id with
  | none => simp [hcall] at hout
  | some call =>
    have havoids := hk.others hid hcall
    rw [hcall] at hout
    cases call with
    | registering key observer =>
      cases hout
      exact ⟨_, rfl, hb.register hid observer⟩
    | finding key checkpoint =>
      cases hout
      refine ⟨_, rfl, hb.find hid checkpoint hroom fun hsome heq => ?_⟩
      obtain ⟨r, hr⟩ := Option.isSome_iff_exists.1 hsome
      -- The handle that is drawn is not the guest's, or the call would be.
      have hdrawn : (h.find id key checkpoint).1.calls.get? id =
          some (.joining key ⟨h.issued + 1⟩ checkpoint) := by
        simp [Hub.find, hr, hroom, Hub.putCall]
      exact hk₁.others hid hdrawn (congrArg Handle.mk heq)
    | joining key handle checkpoint =>
      cases hout
      exact ⟨_, rfl, hb.join hid checkpoint havoids (hby hcall)⟩
    | leaving key handle =>
      cases hout
      exact ⟨_, rfl, hb.leave hid handle⟩
    | removing key handle =>
      cases hout
      exact ⟨_, rfl, hb.remove hid havoids⟩
    | draining =>
      cases hout
      exact ⟨_, rfl, hb.drain hid⟩
    | awaiting left drained => exact hb.await hid hout
    | closing left drained reply =>
      cases hout
      exact ⟨_, rfl, hb.close hid left drained reply⟩
    | guarding =>
      dsimp only [Option.map_some, Guest.call] at hout ⊢
      rw [hb.stopped_eq]
      split at hout
      · rename_i hstopped
        cases hout
        exact ⟨_, if_pos hstopped, hb.dismiss hid⟩
      · cases hout
    | broken => cases hout

lemma expire (looks : Nat) {out : Outcome P} (hout : h.expire id looks = some out) :
    ∃ out', h'.expire (g.callId id) looks = some out' ∧
      Beside g like same bystander facts facts' out.1 out'.1 := by
  have hcalls := hb.calls id hid
  unfold Hub.expire at hout ⊢
  rw [hcalls]
  split at hout
  · rename_i left drained hcall
    cases hout
    rw [hcall]
    exact ⟨_, rfl, hb.endGrace hid looks left drained⟩
  · cases hout

lemma signal (name : String) {out : Outcome P} (hout : h.signal id name = some out) :
    ∃ out', h'.signal (g.callId id) name = some out' ∧
      Beside g like same bystander facts facts' out.1 out'.1 := by
  have hcalls := hb.calls id hid
  unfold Hub.signal at hout ⊢
  rw [hcalls]
  split at hout
  · rename_i hcall
    cases hout
    rw [hcall]
    exact ⟨_, rfl, hb.halt.putCall hid .draining⟩
  · cases hout

end Others

variable (hb : Beside g like same bystander facts facts' h h')
include hb

/-- Somebody else makes a call. -/
lemma start (hid : g.made h.made = false) (request : Request) :
    Beside g like same bystander facts facts' (h.start request).1
      (h'.start (g.request request)).1 := by
  have hcount := hb.count hid
  have hput : ∀ call, Beside g like same bystander facts facts' (h.count.putCall h.made call)
      (h'.count.putCall h'.made (g.call call)) := by
    intro call
    rw [hb.made_eq]
    exact hcount.putCall hid call
  cases request with
  | register key observer => exact hput (.registering key observer)
  | unsubscribe key handle => exact hput (.leaving key handle)
  | guard => exact hput .guarding
  | shutdown =>
    have hhalt := hcount.halt.putCall hid .draining
    rw [← hb.made_eq] at hhalt
    exact hhalt
  | subscribe key checkpoint =>
    unfold Hub.start
    dsimp only [Guest.request]
    by_cases hstopped : h.stopped = true
    · have hdismiss := hcount.dismiss hid
      rw [← hb.made_eq] at hdismiss
      rw [if_pos hstopped, if_pos (hb.stopped_eq.trans hstopped)]
      exact hdismiss
    · rw [if_neg hstopped, if_neg (by rwa [hb.stopped_eq])]
      exact hput (.finding key checkpoint)

/-- The guest makes a call. -/
lemma start_guest (hid : g.made h.made = true) (request : Request)
    (hk₁ : g.Known (h.start request).1) :
    Beside g like same bystander facts facts' (h.start request).1 h' := by
  have hcount := hb.count_left hid
  cases request with
  | register key observer => exact hcount.putCall_left hid _
  | unsubscribe key handle => exact hcount.putCall_left hid _
  | guard => exact hcount.putCall_left hid _
  | subscribe key checkpoint =>
    unfold Hub.start
    dsimp only
    split
    · exact hcount.dismiss_left hid
    · exact hcount.putCall_left hid _
  | shutdown =>
    -- A guest does not shut the hub down.
    cases hk₁.own hid (Table.get?_put_self h.calls h.made .draining)

/-- A call of the guest goes on, but not so far as to open its subscription. -/
theorem resume_guest (hid : g.made id = true) {out : Outcome P} (hout : h.resume id = some out)
    (hroom : Room.breakdown? h.config.queueRoom = none) (hk : g.Known h) (hk₁ : g.Known out.1)
    (hjoin : ∀ key checkpoint, .subscribed key g.handle checkpoint ∉ out.2) :
    Beside g like same bystander facts facts' out.1 h' := by
  unfold Hub.resume at hout
  cases hcall : h.calls.get? id with
  | none => simp [hcall] at hout
  | some call =>
    have howns := hk.own hid hcall
    rw [hcall] at hout
    cases call with
    | finding key checkpoint =>
      cases hout
      unfold Hub.find at hk₁ ⊢
      cases hr : h.bound? key with
      | none => exact hb.dismiss_left hid
      | some r =>
        simp only [hr, hroom] at hk₁ ⊢
        have hhandle : (⟨h.issued + 1⟩ : Handle) = g.handle :=
          hk₁.own hid (Table.get?_put_self h.calls id (.joining key ⟨h.issued + 1⟩ checkpoint))
        exact (hb.issue_left (congrArg Handle.number hhandle)).putCall_left hid _
    | joining key handle checkpoint =>
      obtain rfl : handle = g.handle := howns
      cases hout
      unfold Hub.join at hjoin ⊢
      split
      · exact hb.dismiss_left hid
      · rename_i hrunning
        cases hr : h.registration? key with
        | none => exact hb.dismiss_left hid
        | some r =>
          rw [if_neg hrunning, hr] at hjoin
          exact absurd (by simp [Hub.reply]) (hjoin key checkpoint)
    | leaving key handle =>
      cases hout
      unfold Hub.leave
      cases h.bound? key with
      | none => exact hb.dismiss_left hid
      | some r => exact hb.putCall_left hid _
    | removing key handle =>
      obtain rfl : handle = g.handle := howns
      cases hout
      unfold Hub.remove
      cases hr : h.registration? key with
      | none => exact hb.dismiss_left hid
      | some r =>
        obtain ⟨r', hr', hbeside⟩ := hb.registration? hr
        exact (hb.put_left hr hr' (hbeside.withAudience_left hbeside.audience.remove_guest
          (r.audience.key_remove g.handle))).dismiss_left hid
    | broken => cases hout
    | registering | draining | awaiting | closing | guarding => cases howns

/-- The subscription of the guest is opened. -/
lemma join_guest (hid : g.made id = true) {checkpoint : Option Version} {r : Registration P}
    (hr : h.registration? key = some r) :
    Beside g like same bystander facts facts' ((h.putRegistration key { r with audience :=
      (r.audience.insert g.handle (.new h.config.queueRoom checkpoint)).1 }).dismiss id) h' := by
  obtain ⟨r', hr', hbeside⟩ := hb.registration? hr
  exact (hb.put_left hr hr' (hbeside.withAudience_left (hbeside.audience.insert_guest _)
    rfl)).dismiss_left hid

end Hub.Beside

end WatchHub
