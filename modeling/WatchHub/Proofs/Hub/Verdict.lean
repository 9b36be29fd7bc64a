import WatchHub.Proofs.Hub.Dismissal
import WatchHub.Proofs.Hub.Halt

/-!
# How the wait for the ingests ends

A call that tears the hub down waits for the ingests one after the other. While it is the only one that
does, it still waits for every ingest that is at work (`Reached.mem_left`), so its wait ends with a
`Hub.Verdict`: all ingests have come to their end, or the grace is over and those at work are reported
in the order of their keys and told to end. If the turn of the call ends before it has looked at all,
these may be none. What the call is answered in the end is what its wait ended with, and after that an
ingest tells something only in the turn in the middle of which it was told to end (`Reached.decided`).
-/

namespace WatchHub

variable {P : Type}

namespace Key

variable {a b c : Key}

lemma segments_injective (h : a.segments = b.segments) : a = b := by
  cases a
  cases b
  simpa [segments] using h

lemma le_trans (h : a.le b = true) (h' : b.le c = true) : a.le c = true :=
  Std.TransOrd.isLE_trans (α := List String) h h'

lemma le_total (a b : Key) : (a.le b || b.le a) = true := by
  have hswap : compare a b = (compare b a).swap :=
    Std.OrientedOrd.eq_swap (a := a.segments)
  simp only [le, hswap]
  cases compare b a <;> rfl

lemma lt_of_le_of_ne (hle : a.le b = true) (hne : a ≠ b) : compare a b = .lt := by
  cases hcompare : compare a b with
  | lt => rfl
  | eq =>
    have hsegments : a.segments = b.segments := Std.LawfulEqOrd.eq_of_compare hcompare
    exact absurd (segments_injective hsegments) hne
  | gt =>
    rw [le, hcompare] at hle
    cases hle

/-- Sorting puts different keys in ascending order. -/
lemma pairwise_sort {keys : List Key} (hdistinct : keys.Nodup) :
    (Key.sort keys).Pairwise fun a b => compare a b = .lt := by
  have hsorted : (Key.sort keys).Pairwise fun a b => a.le b = true :=
    List.pairwise_mergeSort (fun a b c => @le_trans a b c) le_total keys
  have hnodup : (Key.sort keys).Nodup := (List.mergeSort_perm keys Key.le).nodup_iff.2 hdistinct
  exact (hsorted.and hnodup).imp fun ⟨hle, hne⟩ => lt_of_le_of_ne hle hne

end Key

/-- What a call is about to answer, once it has waited for the ingests. -/
def Call.answer? : Call → Option Reply
  | closing _ _ reply => some reply
  | _ => none

/-- Whether a call waits for some ingest twice. -/
def Call.repeats : Call → Bool
  | awaiting left _ => !decide left.Nodup
  | _ => false

namespace Hub

variable {h h' : Hub P} {action : Action P} {told : List (Fact P)} {key : Key} {r : Registration P}
  {id : CallId} {left drained : List Key} {reply : Reply}

lemma nodup_boundKeys (h : Hub P) : h.boundKeys.Nodup :=
  h.registrations.distinct.sublist (List.filter_sublist.map Prod.fst)

variable {config : HubConfig} {actions more : List (Action P)} {facts : List (Fact P)}

/-- No call waits for an ingest twice. -/
lemma Reached.nodup_left (hr : Reached config actions facts h)
    (hcall : h.calls.get? id = some (.awaiting left drained)) : left.Nodup := by
  have hnone : ∀ id call, h.calls.get? id = some call → call.repeats = false := by
    clear hcall
    induction hr with
    | new => exact nofun
    | @step actions past h action h' told hr hstep ih =>
      intro id call' hcall'
      refine eq_false_of_ne_true fun hrepeats => ?_
      obtain ⟨call, hcall, hrepeats⟩ : ∃ call, h.calls.get? id = some call ∧ call.repeats = true := by
        refine call_before hstep (fun request _ => ?_) (fun hled hlater => ?_) hcall' hrepeats
        · cases request <;> rfl
        · cases hled with
          | drains => simp [Call.repeats, nodup_boundKeys h] at hlater
          | awaits =>
            simp only [Call.repeats, Bool.not_eq_true', decide_eq_false_iff_not, List.nodup_cons]
              at hlater ⊢
            exact fun hboth => hlater hboth.2
          | _ => cases hlater
      cases (ih id call hcall).symm.trans hrepeats
  simpa [Call.repeats] using hnone id _ hcall

/-- The only call that tears a hub down still waits for every ingest that is at work. -/
lemma Reached.mem_left (hr : Reached config actions facts h) (honce : facts.countP Fact.isHalt ≤ 1)
    (hcall : h.calls.get? id = some (.awaiting left drained))
    (hreg : h.registration? key = some r) (hwork : r.ingest.isFinished = false) : key ∈ left := by
  obtain ⟨-, -, hrest⟩ := hr.takesDown honce hcall rfl hreg
  apply hrest.resolve_right
  rw [hwork]
  exact Bool.false_ne_true

/-- How the wait of a call for the ingests ends. -/
inductive Verdict (h : Hub P) (id : CallId) : Action P → Reply → Hub P → Prop where
  /-- All ingests have come to their end. -/
  | clear {last : Action P} {next : Hub P} :
    (last = .resume id ∨ ∃ looks, last = .expire id looks) →
    (∀ key r, h.registration? key = some r → r.ingest.isFinished = true) →
    next.registrations = h.registrations → Verdict h id last .stopped next
  /-- The grace is over, and some ingests are still at work or were not looked at. -/
  | stuck {looks : Nat} {left drained stuck : List Key} {next : Hub P} :
    h.calls.get? id = some (.awaiting left drained) → (stuck = [] → looks < left.length) →
    stuck.Pairwise (fun a b => compare a b = .lt) →
    (∀ key, key ∈ stuck ↔ ∃ r, h.registration? key = some r ∧ r.ingest.isFinished = false) →
    (∀ key r, h.registration? key = some r →
      next.registration? key = some (if key ∈ stuck then r.abort else r)) →
    Verdict h id (.expire id looks) (.failed (.graceExceeded h.config.grace stuck)) next

lemma hasFinished_eq_false_iff :
    h.hasFinished key = false ↔ ∃ r, h.registration? key = some r ∧ r.ingest.isFinished = false := by
  unfold hasFinished
  cases h.registration? key with
  | none => simp
  | some r => simp

/-- Where every ingest that is waited for has come to its end, all have. -/
lemma Reached.finished_of_left (hr : Reached config actions facts h)
    (honce : facts.countP Fact.isHalt ≤ 1) (hcall : h.calls.get? id = some (.awaiting left drained))
    (hleft : ∀ key ∈ left, h.hasFinished key = true) (hreg : h.registration? key = some r) :
    r.ingest.isFinished = true := by
  refine eq_true_of_ne_false fun hwork => ?_
  have hmem := hr.mem_left honce hcall hreg hwork
  cases (hleft key hmem).symm.trans (hasFinished_eq_false_iff.2 ⟨r, hreg, hwork⟩)

/-- What is reported when the grace ends is what is still at work. -/
lemma Reached.mem_stuck_iff (hr : Reached config actions facts h)
    (honce : facts.countP Fact.isHalt ≤ 1) {seen late stuck : List Key}
    (hcall : h.calls.get? id = some (.awaiting (seen ++ late) drained))
    (hseen : ∀ key ∈ seen, h.hasFinished key = true)
    (hstuck : stuck = Key.sort (late.filter fun key => !h.hasFinished key)) (key : Key) :
    key ∈ stuck ↔ ∃ r, h.registration? key = some r ∧ r.ingest.isFinished = false := by
  constructor
  · intro hmem
    rw [hstuck, Key.mem_sort, List.mem_filter] at hmem
    apply hasFinished_eq_false_iff.1
    simpa using hmem.2
  · rintro ⟨r, hreg, hwork⟩
    apply (mem_stuck hseen hstuck (hr.mem_left honce hcall hreg hwork)).resolve_left
    rw [hasFinished_eq_false_iff.2 ⟨r, hreg, hwork⟩]
    exact Bool.false_ne_true

/-- The wait of the only call that tears a hub down ends with a verdict. -/
theorem Reached.verdict (hr : Reached config actions facts h)
    (honce : facts.countP Fact.isHalt ≤ 1) (hstep : h.step action = some (h', told))
    (hcall : h.calls.get? id = some (.awaiting left drained))
    {call' : Call} (hcall' : h'.calls.get? id = some call') (hanswer : call'.answer? = some reply) :
    h.Verdict id action reply h' := by
  have hcaller : h.caller? action = some id := by
    by_contra hne
    cases hcall'.symm.trans ((calls_of_step_ne hstep hne).trans hcall)
    cases hanswer
  cases hr.proceeds hstep hcaller hcall with
  | refused hrefuses => cases hrefuses
  | awaited =>
    cases hcall'.symm.trans (Table.get?_put_self ..)
    cases hanswer
  | awaitedAll =>
    cases hcall'.symm.trans (Table.get?_put_self ..)
    cases hanswer
    exact .clear (.inl rfl) (fun key r => hr.finished_of_left honce hcall (List.forall_mem_nil _)) rfl
  | expired _ hall =>
    cases hcall'.symm.trans (Table.get?_put_self ..)
    cases hanswer
    exact .clear (.inr ⟨_, rfl⟩) (fun key r => hr.finished_of_left honce hcall hall) rfl
  | @aborted looks _ _ stuck seen late hwaits hsome hseen hwhy hstuck =>
    subst hwaits
    cases hcall'.symm.trans (Table.get?_put_self ..)
    cases hanswer
    have hstuck_iff := hr.mem_stuck_iff honce hcall hseen hstuck
    refine .stuck hcall (fun hnil => ?_) ?_ hstuck_iff fun key r hreg => ?_
    · rcases hwhy with rfl | ⟨key, -, hwork⟩
      · rw [List.length_append]
        exact Nat.lt_add_of_pos_right (List.length_pos_iff.2 hsome)
      · have hreported := (hstuck_iff key).2 (hasFinished_eq_false_iff.1 hwork)
        rw [hnil] at hreported
        cases hreported
    · rw [hstuck]
      refine Key.pairwise_sort ((hr.nodup_left hcall).sublist ?_)
      exact List.filter_sublist.trans (List.sublist_append_right seen late)
    · refine (Table.get?_mapValues h.registrations _ key).trans ?_
      rw [show h.registrations.get? key = some r from hreg, Option.map_some]
      simp only [List.contains_iff_mem]

/-- A call that is about to give an answer was so before, or had waited for the ingests. -/
lemma answer_cases (hstep : h.step action = some (h', told)) {call' : Call}
    (hcall' : h'.calls.get? id = some call') (hanswer : call'.answer? = some reply) :
    (∃ call, h.calls.get? id = some call ∧ call.answer? = some reply) ∨
      ∃ left drained, h.calls.get? id = some (.awaiting left drained) := by
  rcases came_of_step hstep hcall' with hcall | ⟨-, request, -, rfl, -⟩ | ⟨call, hcall, -, hled⟩
  · exact .inl ⟨call', hcall, hanswer⟩
  · cases request <;> cases hanswer
  · cases hled with
    | closes => exact .inr ⟨_, _, hcall⟩
    | goesOn => exact .inl ⟨_, hcall, hanswer⟩
    | _ => cases hanswer

/-- After a verdict all ingests have come to their end or were told to. -/
lemma Verdict.dismissed (hv : h.Verdict id action reply h') {r' : Registration P}
    (hreg : h.registration? key = some r) (hreg' : h'.registration? key = some r') :
    r'.ingest.isDismissed = true := by
  cases hv with
  | clear _ hall hregs =>
    rw [registration?, hregs] at hreg'
    exact Ingest.isDismissed_of_isFinished (hall key r' hreg')
  | stuck _ _ _ hiff hafter =>
    cases hreg'.symm.trans (hafter key r hreg)
    split
    · exact r.isDismissed_abort
    · rename_i hmem
      exact Ingest.isDismissed_of_isFinished
        (eq_true_of_ne_false fun hwork => hmem ((hiff key).2 ⟨r, hreg, hwork⟩))

/-- Along a run, the wait of a call for the ingests ended with a reply; after that an ingest tells
something only in the turn in the middle of which it was told to end. -/
def Decided (config : HubConfig) (actions : List (Action P)) (h : Hub P) (id : CallId)
    (reply : Reply) : Prop :=
  ∃ before action after h₁ past h₂ told rest, actions = before ++ action :: after ∧
    (Hub.new config).run before = some (h₁, past) ∧ h₁.step action = some (h₂, told) ∧
    h₂.run after = some (h, rest) ∧ h₁.Verdict id action reply h₂ ∧ h₂.Ebbs

lemma Decided.concat (hd : Decided config actions h id reply)
    (hstep : h.step action = some (h', told)) :
    Decided config (actions ++ [action]) h' id reply := by
  obtain ⟨before, last, after, h₁, past, h₂, told₂, rest, rfl, hbefore, hlast, hafter, hends⟩ := hd
  exact ⟨before, last, after ++ [action], h₁, past, h₂, told₂, rest ++ told, by simp, hbefore, hlast,
    run_of_run hafter (run_singleton hstep), hends⟩

/-- What a call is about to answer is what its wait for the ingests ended with. -/
theorem Reached.decided (hr : Reached config actions facts h)
    (honce : facts.countP Fact.isHalt ≤ 1) {call : Call} (hcall : h.calls.get? id = some call)
    (hanswer : call.answer? = some reply) : Decided config actions h id reply := by
  induction hr generalizing call with
  | new => cases hcall
  | @step actions past h action h' told hr hstep ih =>
    rw [List.countP_append] at honce
    have honce : past.countP Fact.isHalt ≤ 1 := Nat.le_trans (Nat.le_add_right _ _) honce
    rcases answer_cases hstep hcall hanswer with ⟨call₀, hcall₀, hanswer₀⟩ | ⟨left, drained, hcall₀⟩
    · exact (ih honce hcall₀ hanswer₀).concat hstep
    · have hverdict := hr.verdict honce hstep hcall₀ hcall hanswer
      have hstopped := (Follows.of_step hstep).stopped (hr.sound.stopping hcall₀ rfl)
      have hebbs : h'.Ebbs := by
        refine (hr.step hstep).ebbs hstopped fun key r' hreg' => ?_
        obtain ⟨r, hreg⟩ := hr.sound.exists_before hstep hstopped hreg'
        exact hverdict.dismissed hreg hreg'
      exact ⟨actions, action, [], h, past, h', told, [], rfl, hr.run_eq, hstep, rfl, hverdict, hebbs⟩

end Hub

end WatchHub
