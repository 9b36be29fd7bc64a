import Mathlib.Data.List.Basic
import WatchHub.Proofs.Log.History

/-!
# What two runs have in common

A run with a guest and the run without it are compared key by key. What sets them apart at one key is what
the guest did to its log (`Likeness`): it may have opened it, and it may have added items. So an event
keeps everything but its version, and its version is ahead by as many items as the guest has added at most
(`Version.Alike`); what a log retains is of one history, without the items of the guest in the second run
(`KeyLog.Alike`).
-/

namespace WatchHub

variable {P : Type}

section Rel

variable {A B : Type} {R S : A → B → Prop} {a : A} {x : Option A} {y : Option B}

/-- What is there in the first run is there in the second. -/
lemma exists_of_rel_some (h : Option.Rel R (some a) y) : ∃ b, y = some b ∧ R a b := by
  cases h with
  | some hab => exact ⟨_, rfl, hab⟩

lemma eq_none_of_rel_none (h : Option.Rel R none y) : y = none := by
  cases h
  rfl

lemma rel_imp (h : Option.Rel R x y) (himp : ∀ {a b}, x = some a → y = some b → R a b → S a b) :
    Option.Rel S x y := by
  cases h with
  | none => exact .none
  | some hab => exact .some (himp rfl rfl hab)

end Rel

/-- What sets two runs apart at one key: whether its log is to be the same in both, whether the guest has
looked for a log to which to add, and what it has added. -/
structure Likeness (P : Type) where
  exact : Prop
  opened : Prop
  items : List (Event P)

namespace Likeness

/-- Nothing that is told of the runs is taken back. -/
structure Le (L L' : Likeness P) : Prop where
  exact : L'.exact → L.exact
  opened : L.opened → L'.opened
  items : L.items.Sublist L'.items

lemma Le.refl (L : Likeness P) : Le L L :=
  ⟨id, id, List.Sublist.refl _⟩

lemma Le.trans {L L' L'' : Likeness P} (h : Le L L') (h' : Le L' L'') : Le L L'' :=
  ⟨fun hexact => h.exact (h'.exact hexact), fun hopened => h'.opened (h.opened hopened),
    h.items.trans h'.items⟩

/-- The guest has done nothing yet. -/
def initial (exact : Prop) : Likeness P :=
  ⟨exact, False, []⟩

lemma initial_le {exact exact' : Prop} (h : exact' → exact) :
    (initial exact : Likeness P).Le (initial exact') :=
  ⟨h, id, List.Sublist.refl _⟩

/-- The guest may have opened a log, and has added some items. -/
def add (L : Likeness P) (opened : Prop) (items : List (Event P)) : Likeness P :=
  ⟨L.exact, L.opened ∨ opened, L.items ++ items⟩

lemma le_add (L : Likeness P) (opened : Prop) (items : List (Event P)) : L.Le (L.add opened items) :=
  ⟨id, .inl, List.sublist_append_left _ _⟩

lemma Le.add {L L' : Likeness P} (h : Le L L') (opened : Prop) (items : List (Event P)) :
    Le (L.add opened items) (L'.add opened items) :=
  ⟨h.exact, Or.imp_left h.opened, h.items.append (List.Sublist.refl _)⟩

end Likeness

variable {L L' : Likeness P}

/-- A version in two runs: it is of the same epoch unless the guest has opened the log, and ahead by no
more than the items of the guest. -/
structure Version.Alike (L : Likeness P) (v v' : Version) : Prop where
  epoch_eq : v'.epoch = v.epoch ∨ L.opened
  le : v'.seq ≤ v.seq
  le_add : v.seq ≤ v'.seq + L.items.length

namespace Version

lemma Alike.refl (L : Likeness P) (v : Version) : Alike L v v :=
  ⟨.inl rfl, Nat.le_refl _, Nat.le_add_right _ _⟩

lemma Alike.weaken {v v' : Version} (h : Alike L v v') (hle : L.Le L') : Alike L' v v' :=
  ⟨h.epoch_eq.imp_right hle.opened, h.le,
    Nat.le_trans h.le_add (Nat.add_le_add_left hle.items.length_le _)⟩

end Version

/-- An event on its way in two runs. -/
structure Delivery.Alike (L : Likeness P) (d d' : Delivery P) : Prop where
  event_eq : d'.event = d.event
  version : Option.Rel (Version.Alike L) d.version d'.version
  eq : L.exact → d' = d

namespace Delivery

lemma Alike.refl (L : Likeness P) (d : Delivery P) : Alike L d d := by
  refine ⟨rfl, ?_, fun _ => rfl⟩
  cases d.version with
  | none => exact .none
  | some v => exact .some (.refl L v)

lemma Alike.weaken {d d' : Delivery P} (h : Alike L d d') (hle : L.Le L') : Alike L' d d' :=
  ⟨h.event_eq, rel_imp h.version fun _ _ hv => hv.weaken hle, fun hexact => h.eq (hle.exact hexact)⟩

end Delivery

/-- What somebody else than the guest logged. -/
def byOthers (history : List (Bool × Event P)) : List (Event P) :=
  (history.filter fun entry => !entry.1).map Prod.snd

/-- What the guest logged. -/
def byGuest (history : List (Bool × Event P)) : List (Event P) :=
  (history.filter Prod.fst).map Prod.snd

lemma byOthers_append (history history' : List (Bool × Event P)) :
    byOthers (history ++ history') = byOthers history ++ byOthers history' := by
  simp [byOthers]

lemma byGuest_append (history history' : List (Bool × Event P)) :
    byGuest (history ++ history') = byGuest history ++ byGuest history' := by
  simp [byGuest]

lemma length_eq_add (history : List (Bool × Event P)) :
    history.length = (byOthers history).length + (byGuest history).length := by
  induction history with
  | nil => rfl
  | cons entry history ih =>
    obtain ⟨guest, event⟩ := entry
    cases guest <;> simp [byOthers, byGuest] at ih ⊢ <;> omega

/-- A log that holds nothing but what the guest logged. -/
def KeyLog.OfGuest (L : Likeness P) (room : Nat) (log : KeyLog P) : Prop :=
  ∃ epoch events, log = .retaining room epoch events ∧ events.Sublist L.items

/-- A log in two runs: it retains the last events of one history, in the second run without the items of
the guest. -/
structure KeyLog.Shares (L : Likeness P) (room : Nat) (log log' : KeyLog P) (epoch epoch' : UInt64)
    (history : List (Bool × Event P)) : Prop where
  whole : log = .retaining room epoch (history.map Prod.snd)
  others : log' = .retaining room epoch' (byOthers history)
  guest : (byGuest history).Sublist L.items
  epoch_eq : epoch' = epoch ∨ L.opened

/-- A log in two runs; it is the same where it is to be. -/
structure KeyLog.Alike (L : Likeness P) (room : Nat) (log log' : KeyLog P) : Prop where
  eq : L.exact → log' = log
  shares : ∃ epoch epoch' history, Shares L room log log' epoch epoch' history

namespace KeyLog

variable {room : Nat} {log log' : KeyLog P}

lemma Alike.new (L : Likeness P) (room : Nat) (epoch : UInt64) :
    Alike L room (.new epoch) (.new epoch) :=
  ⟨fun _ => rfl, epoch, epoch, [], new_eq_retaining .., new_eq_retaining .., List.nil_sublist _,
    .inl rfl⟩

lemma Alike.weaken (h : Alike L room log log') (hle : L.Le L') : Alike L' room log log' := by
  obtain ⟨heq, epoch, epoch', history, hwhole, hothers, hguest, hepoch⟩ := h
  exact ⟨fun hexact => heq (hle.exact hexact), epoch, epoch', history, hwhole, hothers,
    hguest.trans hle.items, hepoch.imp_right hle.opened⟩

/-- Whoever adds an event gets versions that are alike. -/
lemma Alike.nextVersion (h : Alike L room log log') :
    Version.Alike L log.nextVersion log'.nextVersion := by
  obtain ⟨-, epoch, epoch', history, rfl, rfl, hguest, hepoch⟩ := h
  have hlength := length_eq_add history
  have hle := hguest.length_le
  refine ⟨hepoch, ?_, ?_⟩
  · simp only [nextVersion_retaining, List.length_map]
    omega
  · simp only [nextVersion_retaining, List.length_map]
    omega

/-- Somebody else adds an event in both runs. -/
lemma Alike.append (hroom : 0 < room) (h : Alike L room log log') (event : Event P) :
    Alike L room (log.append room event) (log'.append room event) := by
  obtain ⟨heq, epoch, epoch', history, hwhole, hothers, hguest, hepoch⟩ := h
  refine ⟨fun hexact => by rw [heq hexact], epoch, epoch', history ++ [(false, event)], ?_, ?_, ?_,
    hepoch⟩
  · rw [hwhole, append_retaining hroom, List.map_append]
    rfl
  · rw [hothers, append_retaining hroom, byOthers_append]
    rfl
  · rw [byGuest_append]
    simpa [byGuest] using hguest

/-- The guest adds an item in the first run. -/
lemma Alike.append_guest (hroom : 0 < room) (h : Alike L room log log') (hnot : ¬ L.exact)
    (opened : Prop) (event : Event P) :
    Alike (L.add opened [event]) room (log.append room event) log' := by
  obtain ⟨-, epoch, epoch', history, hwhole, hothers, hguest, hepoch⟩ := h
  refine ⟨fun hexact => absurd hexact hnot, epoch, epoch', history ++ [(true, event)], ?_, ?_, ?_,
    hepoch.imp_right .inl⟩
  · rw [hwhole, append_retaining hroom, List.map_append]
    rfl
  · rw [hothers, byOthers_append]
    simp [byOthers]
  · rw [byGuest_append]
    exact hguest.append (List.Sublist.refl _)

lemma OfGuest.new (L : Likeness P) (room : Nat) (epoch : UInt64) : OfGuest L room (.new epoch) :=
  ⟨epoch, [], new_eq_retaining .., List.nil_sublist _⟩

lemma OfGuest.weaken (h : OfGuest L room log) (hle : L.Le L') : OfGuest L' room log := by
  obtain ⟨epoch, events, hlog, hevents⟩ := h
  exact ⟨epoch, events, hlog, hevents.trans hle.items⟩

lemma OfGuest.append (hroom : 0 < room) (h : OfGuest L room log) (opened : Prop) (event : Event P) :
    OfGuest (L.add opened [event]) room (log.append room event) := by
  obtain ⟨epoch, events, rfl, hevents⟩ := h
  exact ⟨epoch, events ++ [event], append_retaining hroom .., hevents.append (List.Sublist.refl _)⟩

/-- A log of the guest's own, and one that is opened in the second run. -/
lemma OfGuest.alike (h : OfGuest L room log) (hnot : ¬ L.exact) (hopened : L.opened)
    (epoch : UInt64) : Alike L room log (.new epoch) := by
  obtain ⟨epoch₀, events, rfl, hevents⟩ := h
  refine ⟨fun hexact => absurd hexact hnot, epoch₀, epoch, events.map (true, ·), ?_, ?_, ?_,
    .inr hopened⟩
  · simp [Function.comp_def]
  · rw [new_eq_retaining room epoch]
    simp [byOthers, List.filter_map, Function.comp_def]
  · simpa [byGuest, List.filter_map, Function.comp_def] using hevents

end KeyLog

end WatchHub
