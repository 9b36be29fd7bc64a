import WatchHub.Proofs.Beside.Steps

/-!
# What a bystander sees of two runs

The live events that are accepted into the queue of a subscription and what its consumer finds there are
alike in both runs, step by step, as long as the subscription goes on in the same way
(`Hub.Beside.sees_other`); a step of the guest shows it nothing (`Hub.Beside.sees_guest`).
-/

namespace WatchHub

variable {P : Type}

open WatchHub.Fact (acceptance?)
open Subscription (Pair Twins)

/-- What was accepted into a queue and what its consumer found, in two runs. -/
structure SeenAlike (L : Likeness P) (accepted accepted' : List (Delivery P))
    (found found' : List (Receipt P)) : Prop where
  accepted : List.Forall₂ (Delivery.Alike L) accepted accepted'
  found : List.Forall₂ (Receipt.Alike L) found found'

namespace SeenAlike

variable {L L' : Likeness P} {accepted accepted' accepted₁ accepted₁' : List (Delivery P)}
  {found found' found₁ found₁' : List (Receipt P)}

lemma nil (L : Likeness P) : SeenAlike L [] [] [] [] :=
  ⟨.nil, .nil⟩

lemma append (h : SeenAlike L accepted accepted' found found')
    (h₁ : SeenAlike L accepted₁ accepted₁' found₁ found₁') :
    SeenAlike L (accepted ++ accepted₁) (accepted' ++ accepted₁') (found ++ found₁)
      (found' ++ found₁') :=
  ⟨List.rel_append h.accepted h₁.accepted, List.rel_append h.found h₁.found⟩

lemma weaken (h : SeenAlike L accepted accepted' found found') (hle : L.Le L') :
    SeenAlike L' accepted accepted' found found' := by
  refine ⟨h.accepted.imp fun _ _ hd => hd.weaken hle, h.found.imp fun _ _ hr => ?_⟩
  cases hr with
  | event hd => exact .event (hd.weaken hle)
  | nothing => exact .nothing
  | ended => exact .ended

end SeenAlike

namespace Audience

/-- A fan-out is accepted by a member that has room for it. -/
lemma accepted_emit (a : Audience P) (handle : Handle) (d : Delivery P) :
    (a.emit d).2.filterMap (acceptance? a.key handle) =
      (a.get? handle).elim [] fun s =>
        if s.member && decide ((s.live d).1 = .accepted) then [d] else [] := by
  rw [← Fact.acceptance?_concerns]
  cases hs : a.get? handle with
  | some s =>
    rw [filter_emit hs]
    cases hm : s.member with
    | true => cases hlive : (s.live d).1 <;> simp [List.filterMap_cons, hm, hlive, acceptance?]
    | false => simp [hm, acceptance?]
  | none =>
    have hrows := filter_rows a handle Subscription.member
      (g := fun h s => [Fact.reached a.key h d (s.live d).1]) fun h s hne => by
        simp [Fact.concerns, hne]
    rw [hs] at hrows
    simp only [emit, List.map_eq_flatMap]
    rw [List.filter_cons_of_pos (by simp [Fact.concerns]), hrows]
    simp [acceptance?]

end Audience

namespace Registration

variable {g : Guest} {L : Likeness P} {pairs : LogId → LogId → Prop} {bystander : Handle → Prop}
  {r r' : Registration P} {handle : Handle} {stopped stopped' : Bool} {l l' : EventLog P}
  {move : Ingest.Move} {out out' : Ingested P}

/-- Only a fan-out brings live events. -/
lemma Ingests.accepted_eq_nil (hi : r.Ingests stopped l move out) (hmove : move ≠ .emit) (key : Key)
    (handle : Handle) : out.facts.filterMap (acceptance? key handle) = [] := by
  cases hi with
  | emit => exact absurd rfl hmove
  | locate => exact Fact.filterMap_ofLocate rfl l
  | _ => rfl

/-- A live event is accepted in both runs or in neither. -/
lemma Beside.accepted (h : r.Beside g L pairs bystander r') (hi : r.Ingests stopped l move out)
    (hi' : r'.Ingests stopped' l' move out') (hne : handle ≠ g.handle)
    (hrow : ∀ {s s'}, r.audience.get? handle = some s →
      Pair L pairs (bystander handle) s s' →
      Twins L pairs s s' ∧ s.queue.receiving = true) :
    List.Forall₂ (Delivery.Alike L) (out.facts.filterMap (acceptance? r.key handle))
      (out'.facts.filterMap (acceptance? r.key (g.rename handle))) := by
  by_cases hmove : move = .emit
  · subst hmove
    have hstage := h.ingest.stage
    cases hi with
    | @emit d last hs =>
      cases hi' with
      | @emit d' last' hs' =>
        rw [hs, hs'] at hstage
        have hd : Delivery.Alike L d d' := by
          cases hstage with
          | emitting hd => exact hd
        have haccepted := r.audience.accepted_emit handle d
        have haccepted' := r'.audience.accepted_emit (g.rename handle) d'
        rw [show r'.audience.key = r.key from h.key_eq] at haccepted'
        change List.Forall₂ _ ((r.audience.emit d).2.filterMap (acceptance? r.audience.key handle)) _
        rw [haccepted, haccepted']
        cases hget : r.audience.get? handle with
        | none =>
          have hget' : r'.audience.get? (g.rename handle) = none :=
            eq_none_of_rel_none (hget ▸ h.audience handle hne)
          rw [hget']
          exact .nil
        | some s =>
          obtain ⟨s', hget', hpair⟩ := h.audience.get? hne hget
          obtain ⟨htwins, hr⟩ := hrow hget hpair
          rw [hget', Option.elim_some, Option.elim_some, htwins.fst_live hr hd, htwins.member_eq,
            htwins.member_eq', (htwins.lively hr).closed_eq]
          split
          · exact .cons hd .nil
          · exact .nil
  · rw [hi.accepted_eq_nil hmove, hi'.accepted_eq_nil hmove]
    exact .nil

end Registration

namespace Hub

variable {h h' : Hub P} {action action' : Action P} {out out' : Outcome P} {key : Key}
  {handle : Handle}

/-- Only an ingest brings live events. -/
lemma Sound.accepted_eq_nil (hs : h.Sound) (hout : h.step action = some out)
    (hingest : ∀ key move, action ≠ .ingest key move) :
    out.2.filterMap (acceptance? key handle) = [] := by
  refine List.filterMap_eq_nil_iff.2 fun x hx => ?_
  cases x with
  | reached k h d reception =>
    obtain ⟨key, move, r, ingested, rfl, -⟩ := (hs.changes hout).told_by hx
    exact absurd rfl (hingest key move)
  | _ => rfl

/-- What an ingest tells is about its own key. -/
lemma Sound.accepted_of_key_ne (hs : h.Sound) {key₀ : Key} {move : Ingest.Move}
    (hout : h.step (.ingest key₀ move) = some out) (hne : key₀ ≠ key) :
    out.2.filterMap (acceptance? key handle) = [] := by
  obtain ⟨r, ingested, hr, hf, rfl⟩ := within_eq_some hout
  have hi := Registration.Ingests.of_step hf
  obtain rfl := hs.keyed hr
  have htold : ∀ x ∈ ingested.facts, x.key? ≠ some key := fun x hx hkey =>
    hne (Option.some.inj ((hi.key?_of_mem hx).symm.trans hkey))
  change ingested.facts.filterMap _ = []
  rw [← Fact.acceptance?_concerns, Fact.filter_concerns_of_key? htold]
  rfl

namespace Beside

variable {g : Guest} {like : Key → Likeness P} {same : Key → LogId → LogId → Prop}
  {bystander : Key → Handle → Prop} {facts facts' : List (Fact P)}

/-- A subscription that is there in the one run is there in the other. -/
lemma subscription? (hb : Beside g like same bystander facts facts' h h') (key : Key)
    (hne : handle ≠ g.handle) :
    Option.Rel (Pair (like key) (same key) (bystander key handle))
      (h.subscription? key handle) (h'.subscription? key (g.rename handle)) := by
  unfold Hub.subscription?
  cases hr : h.registration? key with
  | none =>
    rw [hb.registration?_eq_none hr]
    exact .none
  | some r =>
    obtain ⟨r', hr', hbeside⟩ := hb.registration? hr
    rw [hr']
    exact hbeside.audience handle hne

/-- What a step of somebody else shows to a bystander. -/
theorem sees_other (hb : Beside g like same bystander facts facts' h h') (hs : h.Sound)
    (hs' : h'.Sound) (hout : h.step action = some out)
    (hother : g.action? h.made action = some action') {spare : Prop}
    (hplays : h'.Plays action' spare out') (hne : handle ≠ g.handle)
    (hrow : ∀ {s}, h.subscription? key handle = some s →
      bystander key handle ∧ s.queue.receiving = true) :
    SeenAlike (like key) (out.2.filterMap (acceptance? key handle))
      (out'.2.filterMap (acceptance? key (g.rename handle)))
      (h.found? key handle action).toList
      (h'.found? key (g.rename handle) action').toList := by
  have hidle : (∀ key move, action ≠ .ingest key move) → (∀ key move, action' ≠ .ingest key move) →
      List.Forall₂ (Delivery.Alike (like key)) (out.2.filterMap (acceptance? key handle))
        (out'.2.filterMap (acceptance? key (g.rename handle))) := by
    intro hnot hnot'
    rw [hs.accepted_eq_nil hout hnot]
    cases hplays with
    | made hstep =>
      rw [hs'.accepted_eq_nil hstep hnot']
      exact .nil
    | passed => exact .nil
  cases action with
  | ingest key₀ move =>
    cases hother
    refine ⟨?_, .nil⟩
    cases hplays with
    | passed _ hpopulation => cases hpopulation
    | made hout' =>
      by_cases heq : key₀ = key
      · subst heq
        obtain ⟨r, ingested, hr, hf, rfl⟩ := within_eq_some hout
        obtain ⟨r', ingested', hr', hf', rfl⟩ := within_eq_some hout'
        obtain ⟨r₀', hr₀', hbeside⟩ := hb.registration? hr
        cases hr'.symm.trans hr₀'
        obtain rfl := hs.keyed hr
        refine hbeside.accepted (.of_step hf) (.of_step hf') hne fun {s s'} hget hpair => ?_
        obtain ⟨hby, hreceiving⟩ := hrow ((subscription?_of_registration? hr handle).trans hget)
        exact ⟨hpair.twins_of_bystander hby hreceiving, hreceiving⟩
      · rw [hs.accepted_of_key_ne hout heq, hs'.accepted_of_key_ne hout' heq]
        exact .nil
  | receive key₀ handle₀ =>
    obtain ⟨hne₀, heq⟩ := Option.ite_none_left_eq_some.1 hother
    cases heq
    refine ⟨hidle (fun _ _ => nofun) fun _ _ => nofun, ?_⟩
    unfold Hub.found?
    dsimp only
    by_cases heq : key₀ = key ∧ handle₀ = handle
    · rw [if_pos heq, if_pos ⟨heq.1, congrArg g.rename heq.2⟩]
      have hrel := hb.subscription? key hne
      cases hget : h.subscription? key handle with
      | none =>
        have hget' : h'.subscription? key (g.rename handle) = none :=
          eq_none_of_rel_none (hget ▸ hrel)
        rw [hget']
        exact .nil
      | some s =>
        obtain ⟨hby, hreceiving⟩ := hrow hget
        obtain ⟨s', hget', hpair⟩ := exists_of_rel_some (hget ▸ hrel)
        rw [hget']
        exact .cons ((hpair.twins_of_bystander hby hreceiving).fst_receive hreceiving) .nil
    · rw [if_neg heq, if_neg fun h => heq ⟨h.1, (g.rename_eq_iff hne₀ hne).1 h.2⟩]
      exact .nil
  | start | resume | expire | signal | populate | hangUp =>
    obtain ⟨-, heq⟩ := Option.ite_none_left_eq_some.1 hother
    cases heq
    exact ⟨hidle (fun _ _ => nofun) fun _ _ => nofun, .nil⟩
  | send | endStream | locate | record | clear =>
    cases hother
    exact ⟨hidle (fun _ _ => nofun) fun _ _ => nofun, .nil⟩

/-- A step of the guest shows nothing to a bystander. -/
lemma sees_guest (key : Key) (hs : h.Sound) (hout : h.step action = some out)
    (hown : g.action? h.made action = none) (hne : handle ≠ g.handle) :
    out.2.filterMap (acceptance? key handle) = [] ∧ h.found? key handle action = none := by
  refine ⟨hs.accepted_eq_nil hout ?_, ?_⟩
  · rintro key₀ move rfl
    cases hown
  · cases action with
    | receive key₀ handle₀ =>
      have heq : handle₀ = g.handle := by
        by_contra hne₀
        simp [Guest.action?, hne₀] at hown
      subst heq
      exact if_neg fun h => hne h.2.symm
    | _ => rfl

end Beside

end Hub

end WatchHub
