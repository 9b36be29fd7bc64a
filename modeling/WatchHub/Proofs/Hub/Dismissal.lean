import WatchHub.Proofs.Hub.Registrations

/-!
# After an ingest was told to end

Whoever aborts an ingest only asks for its end. An ingest that waits at that moment takes no further
step; one in the middle of a turn lingers until the turn ends. So once every ingest has come to its end
or was told to, an ingest writes and fans out only as long as it lingers (`Reached.lingering`), and no
ingest ever begins to (`Reached.ebbs`).
-/

namespace WatchHub

variable {P : Type}

namespace Ingest

/-- Whether the ingest is in the middle of a turn though it was told to end. -/
def lingers (i : Ingest P) : Bool :=
  i.aborted && i.inTurn && !i.isOver

/-- An ingest that was told to end is in the middle of a turn, or it is over. -/
def IsCaught (i : Ingest P) : Prop :=
  i.aborted = true → i.inTurn = true ∨ i.isOver = true

end Ingest

namespace Registration

lemma isCaught_abort {r : Registration P} : r.abort.ingest.IsCaught := by
  intro _
  rw [isOver_abort]
  cases hturn : r.ingest.inTurn with
  | false => simp
  | true =>
    have hsame : r.abort.ingest.inTurn = r.ingest.inTurn := by
      unfold Registration.abort
      split <;> rfl
    exact .inl (hsame.trans hturn)

lemma isCaught_send {r : Registration P} (h : r.ingest.IsCaught) (event : Event P) :
    (r.send event).ingest.IsCaught := by
  unfold Registration.send
  split <;> exact h

/-- After a step an ingest is in the middle of a turn, unless it was the last one of the turn. -/
lemma Ingests.isCaught {stopped : Bool} {log : EventLog P} {r : Registration P}
    {move : Ingest.Move} {out : Ingested P} (hi : r.Ingests stopped log move out) :
    out.registration.ingest.IsCaught := by
  cases hi with
  | rest _ _ hgoing => exact fun haborted => by cases hgoing.symm.trans haborted
  | _ => exact fun _ => .inl rfl

/-- An ingest that has come to its end or was told to, and that takes a step, lingers. -/
lemma Ingests.lingers {stopped : Bool} {log : EventLog P} {r : Registration P}
    {move : Ingest.Move} {out : Ingested P} (hi : r.Ingests stopped log move out)
    (hmove : move ≠ .drop) (hcaught : r.ingest.IsCaught) (hdismissed : r.ingest.isDismissed = true) :
    r.ingest.lingers = true := by
  have hgoing := hi.not_isOver hmove
  rw [Ingest.isDismissed, hi.not_finished, Bool.false_or] at hdismissed
  have hturn := (hcaught hdismissed).resolve_right (by rw [hgoing]; exact Bool.false_ne_true)
  rw [Ingest.lingers, hdismissed, hturn, hgoing]
  rfl

/-- An ingest that lingers after a while has lingered all along. -/
lemma Ages.lingers {r r' : Registration P} (h : r.Ages r') (hcaught : r.ingest.IsCaught)
    (hdismissed : r.ingest.isDismissed = true) (hlingers : r'.ingest.lingers = true) :
    r.ingest.lingers = true := by
  simp only [Ingest.lingers, Bool.and_eq_true, Bool.not_eq_true'] at hlingers ⊢
  have hgoing : r.ingest.isOver = false :=
    eq_false_of_ne_true fun hover => by cases (h.isOver hover).symm.trans hlingers.2
  rw [Ingest.isDismissed, Ingest.isFinished_of_not_isOver hgoing, Bool.false_or] at hdismissed
  have hturn := (hcaught hdismissed).resolve_right (by rw [hgoing]; exact Bool.false_ne_true)
  exact ⟨⟨hdismissed, hturn⟩, hgoing⟩

end Registration

namespace Hub

variable {h h' h₁ h₂ : Hub P} {action : Action P} {told facts past : List (Fact P)} {key : Key}
  {r : Registration P} {config : HubConfig} {actions more : List (Action P)}

/-- What holds of all registrations holds of them after one is replaced by another of which it holds. -/
lemma forall_of_put {p : Key → Registration P → Prop} {key₀ : Key} {r₀ : Registration P}
    (hregs : h'.registrations = h.registrations.put key₀ r₀)
    (hall : ∀ key r, h.registration? key = some r → p key r) (hnew : p key₀ r₀)
    (hr : h'.registration? key = some r) : p key r := by
  by_cases heq : key₀ = key
  · subst heq
    cases hr.symm.trans (registration?_of_put hregs)
    exact hnew
  · exact hall key r ((registration?_of_put_ne hregs heq).symm.trans hr)

/-- A step keeps it that whoever was told to end is in the middle of a turn or over. -/
lemma Changes.isCaught (hc : Changes h action told h')
    (hall : ∀ key r, h.registration? key = some r → r.ingest.IsCaught)
    (hr : h'.registration? key = some r) : r.ingest.IsCaught := by
  cases hc with
  | aside f _ hingest _ _ hregs =>
    rw [hregs, Option.map_eq_some_iff] at hr
    obtain ⟨r₀, hr₀, rfl⟩ := hr
    rcases hingest key r₀ with hsame | ⟨-, hsame⟩ <;> rw [hsame]
    · exact hall key r₀ hr₀
    · exact Registration.isCaught_abort
  | registered _ _ hregs =>
    exact forall_of_put (p := fun _ r => r.ingest.IsCaught) hregs hall (fun h => by cases h) hr
  | joined _ hr₀ _ _ hregs | left hr₀ _ hregs | closed _ hr₀ _ hregs =>
    have hkept := hall _ _ hr₀
    exact forall_of_put (p := fun _ r => r.ingest.IsCaught) hregs hall hkept hr
  | stopped _ _ hregs => exact hall key r (by rwa [registration?, hregs] at hr)
  | ingested _ hi =>
    exact forall_of_put (h := h) (p := fun _ r => r.ingest.IsCaught) rfl hall hi.isCaught hr
  | populated hr₀ | received hr₀ | asked hr₀ | hungUp hr₀ | ended hr₀ =>
    have hkept := hall _ _ hr₀
    refine forall_of_put (h := h) (p := fun _ r => r.ingest.IsCaught) rfl hall ?_ hr
    exact hkept
  | sent hr₀ =>
    exact forall_of_put (h := h) (p := fun _ r => r.ingest.IsCaught) rfl hall
      (Registration.isCaught_send (hall _ _ hr₀) _) hr
  | located | recorded | cleared => exact hall key r hr

theorem Reached.isCaught (hr : Reached config actions facts h)
    (hreg : h.registration? key = some r) : r.ingest.IsCaught := by
  induction hr generalizing key r with
  | new => cases hreg
  | step hr hstep ih => exact (hr.sound.changes hstep).isCaught (fun _ _ => ih) hreg

/-- The ingest of a key was reported when the grace of a shutdown was over. -/
def IsReported (facts : List (Fact P)) (key : Key) : Prop :=
  ∃ grace stuck, .graceExceeded grace stuck ∈ facts ∧ key ∈ stuck

/-- A step that is none of a call tells no ingest to end. -/
lemma Changes.isReported (hc : Changes h action told h') (hcall : action.isCall = false)
    (hall : ∀ key r, h.registration? key = some r → r.ingest.aborted = true → IsReported facts key)
    (hr : h'.registration? key = some r) : r.ingest.aborted = true → IsReported facts key := by
  let p : Key → Registration P → Prop := fun key r => r.ingest.aborted = true → IsReported facts key
  cases hc with
  | aside _ _ _ _ _ _ haction => cases haction.symm.trans hcall
  | registered | joined | left | closed | stopped => cases hcall
  | ingested hr₀ hi =>
    refine forall_of_put (h := h) (p := p) rfl hall (fun haborted => ?_) hr
    exact hall _ _ hr₀ (hi.aborted_eq.symm.trans haborted)
  | populated hr₀ | received hr₀ | asked hr₀ | hungUp hr₀ | ended hr₀ =>
    have hkept := hall _ _ hr₀
    refine forall_of_put (h := h) (p := p) rfl hall ?_ hr
    exact hkept
  | @sent _ event r₀ hr₀ =>
    refine forall_of_put (h := h) (p := p) rfl hall (fun haborted => ?_) hr
    exact hall _ _ hr₀ ((r₀.aborted_send event).symm.trans haborted)
  | located | recorded | cleared => exact hall key r hr

/-- A call that tells ingests to end reports them. -/
lemma Proceeds.isReported {id : CallId} {call : Call} (hp : h.Proceeds id call action told h')
    (hall : ∀ key r, h.registration? key = some r → r.ingest.aborted = true →
      IsReported (facts ++ told) key)
    (hr : h'.registration? key = some r) :
    r.ingest.aborted = true → IsReported (facts ++ told) key := by
  let p : Key → Registration P → Prop :=
    fun key r => r.ingest.aborted = true → IsReported (facts ++ told) key
  cases hp with
  | registered => exact forall_of_put (p := p) rfl hall (fun h => by cases h) hr
  | joined _ hr₀ | left hr₀ | closed hr₀ =>
    have hkept := hall _ _ hr₀
    refine forall_of_put (p := p) rfl hall ?_ hr
    exact hkept
  | drained =>
    obtain ⟨r₀, hr₀, rfl⟩ := Option.map_eq_some_iff.1 ((Table.get?_mapValues ..).symm.trans hr)
    exact hall key r₀ hr₀
  | @aborted _ _ _ stuck =>
    obtain ⟨r₀, hr₀, rfl⟩ := Option.map_eq_some_iff.1 ((Table.get?_mapValues ..).symm.trans hr)
    split
    · rename_i hmem
      exact fun _ => ⟨h.config.grace, stuck, by simp, List.contains_iff_mem.1 hmem⟩
    · exact hall key r₀ hr₀
  | _ => exact hall key r hr

/-- Whoever was told to end was reported. -/
theorem Reached.isReported (hr : Reached config actions facts h)
    (hreg : h.registration? key = some r) (haborted : r.ingest.aborted = true) :
    IsReported facts key := by
  induction hr generalizing key r with
  | new => cases hreg
  | @step actions past h action h' told hr hstep ih =>
    have hall : ∀ key r, h.registration? key = some r → r.ingest.aborted = true →
        IsReported (past ++ told) key := fun key r hreg haborted => by
      obtain ⟨grace, stuck, hmem, hstuck⟩ := ih hreg haborted
      exact ⟨grace, stuck, List.mem_append_left told hmem, hstuck⟩
    by_cases hcall : action.isCall = true
    · cases Conducts.of_step hstep hcall with
      | opened | turnedAway | halted => exact hall key r hreg haborted
      | proceeded _ hp => exact hp.isReported hall hreg haborted
    · exact (hr.sound.changes hstep).isReported (eq_false_of_ne_true hcall) hall hreg haborted

/-- Once an ingest has come to its end or was told to, it takes a step only if it lingers, and before its
turn ends; all that is left after that is that it is dropped. -/
theorem Reached.lingering (hr : Reached config actions facts h)
    (hreg : h.registration? key = some r) (hdismissed : r.ingest.isDismissed = true)
    (hrun : h.run more = some (h₁, past)) {move : Ingest.Move}
    (hstep : h₁.step (.ingest key move) = some (h₂, told)) (hmove : move ≠ .drop) :
    r.ingest.lingers = true ∧ .ingest key .rest ∉ more := by
  obtain ⟨r₁, out, hreg₁, hi, -⟩ := within_eq_some hstep
  have hi := Registration.Ingests.of_step hi
  obtain ⟨r₁', hreg₁', hages⟩ := hr.ages hrun hreg
  cases hreg₁.symm.trans hreg₁'
  refine ⟨hages.lingers (hr.isCaught hreg) hdismissed
    (hi.lingers hmove ((hr.run hrun).isCaught hreg₁) (hages.dismissed hdismissed)), fun hmem => ?_⟩
  -- An ingest whose turn ended after it was told to end is over.
  obtain ⟨before, after, rfl⟩ := List.append_of_mem hmem
  obtain ⟨h₀, told₀, rest, hbefore, hrest, -⟩ := run_split hrun
  obtain ⟨h₀', told₀', rest', hstep₀, hafter, -⟩ := run_cons hrest
  obtain ⟨r₀, hreg₀, hages₀⟩ := hr.ages hbefore hreg
  obtain ⟨r₀', out₀, hreg₀', hi₀, heq⟩ := within_eq_some hstep₀
  cases hreg₀.symm.trans hreg₀'
  cases heq
  have hi₀ := Registration.Ingests.of_step hi₀
  have hfinished : out₀.registration.ingest.isFinished = true := by
    have hdismissed₀ := hages₀.dismissed hdismissed
    rw [Ingest.isDismissed, hi₀.not_finished, Bool.false_or] at hdismissed₀
    cases hi₀ with
    | rest _ _ hgoing => cases hgoing.symm.trans hdismissed₀
    | cutOff => rfl
  have hr₀' := (hr.run hbefore).step hstep₀
  obtain ⟨r₁', hreg₁', hages₁⟩ := hr₀'.ages hafter (registration?_of_put rfl)
  cases hreg₁.symm.trans hreg₁'
  cases hi.not_finished.symm.trans (hages₁.finished hfinished)

/-- The end of the grace tells the one ingest to end that is still at work. -/
lemma expire_singleton {id : CallId} {drained : List Key} (looks : Nat)
    (hcall : h.calls.get? id = some (.awaiting [key] drained)) (hwork : h.hasFinished key = false) :
    h.step (.expire id looks) =
      some ({ h with registrations := h.registrations.mapValues fun key' r =>
          if [key].contains key' then r.abort else r }.putCall id
            (.closing drained drained.length (.failed (.graceExceeded h.config.grace [key]))),
        [.graceExceeded h.config.grace [key]]) := by
  have hseen : ([key].take looks).takeWhile h.hasFinished = [] := by
    cases looks <;> simp [hwork]
  simp [Hub.step, expire, hcall, endGrace, hseen, hwork, Key.sort, putCall]

/-- The ingest of a key is in the middle of a turn though it was told to end. -/
def Lingers (h : Hub P) (key : Key) : Prop :=
  ∃ r, h.registration? key = some r ∧ r.ingest.lingers = true

/-- Whatever happens, an ingest tells something only if it lingers now, and before its turn ends. -/
def Ebbs (h : Hub P) : Prop :=
  ∀ more h₁ past action h₂ told, h.run more = some (h₁, past) → h₁.step action = some (h₂, told) →
    ∀ x ∈ told, x.teller? = some .ingest →
      ∃ key move, action = .ingest key move ∧ h.Lingers key ∧ .ingest key .rest ∉ more

/-- In a hub that was stopped and whose ingests have all come to their end or were told to, none begins
anything. -/
theorem Reached.ebbs (hr : Reached config actions facts h) (hstopped : h.stopped = true)
    (hall : ∀ key r, h.registration? key = some r → r.ingest.isDismissed = true) : h.Ebbs := by
  intro more h₁ past action h₂ told hrun hstep x hx hteller
  have htold := ((hr.run hrun).sound.changes hstep).told_by hx
  rw [hteller] at htold
  obtain ⟨key, move, r₁, out, rfl, rfl, hreg₁, hi⟩ := htold
  obtain ⟨r, hreg⟩ := hr.registered_before hstopped hrun hreg₁
  have hmove : move ≠ .drop := by
    rintro rfl
    cases hi
    cases hx
  obtain ⟨hlingers, hturn⟩ := hr.lingering hreg (hall key r hreg) hrun hstep hmove
  exact ⟨key, move, rfl, ⟨r, hreg, hlingers⟩, hturn⟩

/-- In a hub that was stopped and whose ingests have all come to their end or were told to, an ingest that
lingers after a step has lingered before. -/
lemma Reached.lingers_before (hr : Reached config actions facts h) (hstopped : h.stopped = true)
    (hall : ∀ key r, h.registration? key = some r → r.ingest.isDismissed = true)
    (hstep : h.step action = some (h', told)) (hlingers : h'.Lingers key) : h.Lingers key := by
  obtain ⟨r', hreg', hlingers⟩ := hlingers
  obtain ⟨r, hreg⟩ :=
    hr.sound.exists_before hstep ((Follows.of_step hstep).stopped hstopped) hreg'
  obtain ⟨r'', hreg'', hages⟩ := hr.sound.ages hstep hreg
  cases hreg'.symm.trans hreg''
  exact ⟨r, hreg, hages.lingers (hr.isCaught hreg) (hall key r hreg) hlingers⟩

end Hub

end WatchHub
