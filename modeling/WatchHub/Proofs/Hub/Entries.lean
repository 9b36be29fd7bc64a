import WatchHub.Proofs.Hub.Course

/-!
# What enters a queue

An event enters the queue of a subscription as a live event that is accepted or as an item that its
population delivers, and in no other way (`Fact.enqueued?`). So the queue holds what entered it, in the order
in which it entered, less what was received.
-/

namespace WatchHub

variable {P : Type} {key : Key} {handle : Handle}

namespace Fact

variable {facts : List (Fact P)} {x : Fact P}

/-- The event that entered the queue of a subscription. -/
def enqueued? (key : Key) (handle : Handle) : Fact P → Option (Delivery P)
  | reached k h d .accepted => if k = key ∧ h = handle then some d else none
  | offered k h d .delivered => if k = key ∧ h = handle then some d else none
  | _ => none

@[simp]
lemma enqueued?_concerns (facts : List (Fact P)) :
    (facts.filter (concerns key handle)).filterMap (enqueued? key handle) =
      facts.filterMap (enqueued? key handle) := by
  refine filterMap_filter_concerns (fun x => ?_) facts
  cases x with
  | reached k h d reception => cases reception <;> simp [enqueued?, concerns]
  | offered k h d offer => cases offer <;> simp [enqueued?, concerns]
  | _ => simp [enqueued?]

/-- An offer puts its item into the queue if it is answered so, and nothing otherwise. -/
@[simp]
lemma enqueued?_offered (d : Delivery P) (answer : Offer) :
    enqueued? key handle (.offered key handle d answer) =
      if answer = .delivered then some d else none := by
  cases answer <;> simp [enqueued?]

/-- While no offer comes to its end, only live events enter. -/
lemma entries_eq_acceptances (h : facts.filterMap (offer? key handle) = []) :
    facts.filterMap (enqueued? key handle) = facts.filterMap (acceptance? key handle) := by
  refine List.filterMap_congr fun x hx => ?_
  have hnone := List.filterMap_eq_nil_iff.1 h x hx
  cases x with
  | offered k h' d answer =>
    by_cases hown : k = key ∧ h' = handle
    · simp [offer?, hown] at hnone
    · cases answer <;> simp [enqueued?, acceptance?, hown]
  | reached k h' d reception => cases reception <;> rfl
  | _ => rfl

/-- While no live event is accepted, only items of the population enter. -/
lemma entries_eq_deliveries (h : facts.filterMap (acceptance? key handle) = []) :
    facts.filterMap (enqueued? key handle) = facts.filterMap (delivery? key handle) := by
  refine List.filterMap_congr fun x hx => ?_
  have hnone := List.filterMap_eq_nil_iff.1 h x hx
  cases x with
  | reached k h' d reception =>
    cases reception with
    | accepted => exact hnone
    | overflowed | gone => rfl
  | offered k h' d answer => cases answer <;> rfl
  | _ => rfl

end Fact

namespace Subscription

open WatchHub.Fact (acceptance? offer? enqueued?)

variable {s s' : Subscription P} {told : List (Fact P)}

/-- A turn is about live events or about offers, never about both. -/
lemma Turn.apart (h : Turn key handle s told s') :
    told.filterMap (acceptance? key handle) = [] ∨ told.filterMap (offer? key handle) = [] := by
  cases h with
  | populated hp => exact .inl (by rw [Fact.acceptance?_concerns, hp.silent.acceptances])
  | _ => exact .inr rfl

/-- A turn puts into the queue what it tells to have entered. -/
lemma Turn.entries (h : Turn key handle s told s') :
    Gathers key handle s told s' (told.filterMap (enqueued? key handle)) := by
  obtain ⟨fed, hg⟩ := h.gathers
  have hfed : told.filterMap (enqueued? key handle) = fed := by
    rcases h.apart with hnone | hnone
    · rw [Fact.entries_eq_deliveries hnone, hg.merged.eq_of_left_nil hnone]
    · have hdeliveries : told.filterMap (Fact.delivery? key handle) = [] := by
        rw [deliveries_eq_filterMap, hnone]
        rfl
      rw [Fact.entries_eq_acceptances hnone, hg.merged.eq_of_right_nil hdeliveries]
  rw [hfed]
  exact hg

lemma Turns.entries (h : Turns key handle s told s') :
    Gathers key handle s told s' (told.filterMap (enqueued? key handle)) := by
  induction h with
  | nil => exact .refl _
  | cons hturn _ ih =>
    rw [List.filterMap_append]
    exact hturn.entries.trans ih

/-- The queue of a subscription holds what entered it throughout its life. -/
theorem Lived.entries {room : Nat} {checkpoint : Option Version} {past : List (Fact P)}
    (hl : Lived room key handle checkpoint past s) :
    Gathers key handle (.new room checkpoint) past s (past.filterMap (enqueued? key handle)) := by
  induction hl with
  | new => exact .refl _
  | turn _ hturn ih =>
    rw [List.filterMap_append]
    exact ih.trans hturn.entries

end Subscription

end WatchHub
