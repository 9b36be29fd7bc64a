import WatchHub.Proofs.Hub.Publication

/-!
# The intake of a key

An ingest takes what its observer sends, in the order in which it was sent, adds it to the log and fans
it out; or it gets an error instead of a stream, and this error is all that it ever adds. What it has
taken, added and fanned out differs by one event at most, which it has in hand (`Ingest.Relays`), and
what it has taken is a beginning of the stream (`Ingest.Takes`).
-/

namespace WatchHub

variable {P : Type}

namespace Fact

/-- The event that the ingest of a key took from its stream. -/
def take? (key : Key) : Fact P → Option (Event P)
  | taken k event => if k = key then some event else none
  | _ => none

/-- Why the observer of a key gave its ingest no stream. -/
def setupFailure? (key : Key) : Fact P → Option ObserverFailure
  | setupFailed k _ failure => if k = key then some failure else none
  | _ => none

/-- Whether a fact is about what the ingest of a key takes, adds or fans out. -/
def isIntake (key : Key) : Fact P → Bool
  | taken k _ | setupFailed k _ _ | logged k .ingest _ _ _ | emitted k _ => k = key
  | _ => false

variable {key : Key} {told : List (Fact P)}

lemma teller?_of_isIntake {x : Fact P} (h : x.isIntake key = true) :
    x.teller? = some .ingest := by
  cases x with
  | logged k writer => cases writer <;> first | rfl | cases h
  | _ => first | rfl | cases h

lemma key?_of_isIntake {x : Fact P} (h : x.isIntake key = true) : x.key? = some key := by
  cases x with
  | logged k writer => cases writer <;> simp_all [isIntake, key?]
  | _ => simp_all [isIntake, key?]

/-- What is told without intake: nothing is taken, refused, added or fanned out. -/
structure Intakeless (key : Key) (told : List (Fact P)) : Prop where
  takes : told.filterMap (take? key) = []
  failures : told.filterMap (setupFailure? key) = []
  logged : told.filterMap (ingestion? key) = []
  emitted : told.filterMap (emission? key) = []

lemma Intakeless.of_not_isIntake (h : ∀ x ∈ told, x.isIntake key = false) :
    Intakeless key told where
  takes := filterMap_of_kind (fun x => by cases x <;> simp [take?, isIntake]) h
  failures := filterMap_of_kind (fun x => by cases x <;> simp [setupFailure?, isIntake]) h
  logged := by
    refine filterMap_of_kind (fun x => ?_) h
    cases x with
    | logged k writer => cases writer <;> simp [ingestion?, isIntake]
    | _ => simp [ingestion?]
  emitted := filterMap_of_kind (fun x => by cases x <;> simp [emission?, isIntake]) h

end Fact

namespace Action

/-- The event that the observer of a key sent. -/
def sent? (key : Key) : Action P → Option (Event P)
  | send k event => if k = key then some event else none
  | _ => none

/-- Whether the observer of a key ended its stream. -/
def ends (key : Key) : Action P → Bool
  | endStream k => k = key
  | _ => false

/-- The stream of an observer: what it sent until it ended the stream. -/
def stream (key : Key) : List (Action P) → List (Event P)
  | [] => []
  | action :: actions =>
    if action.ends key then [] else (action.sent? key).toList ++ stream key actions

variable {key : Key} {actions : List (Action P)}

lemma stream_concat (key : Key) (actions : List (Action P)) (action : Action P) :
    stream key (actions ++ [action]) =
      if actions.any (ends key) then stream key actions
      else stream key actions ++ if action.ends key then [] else (action.sent? key).toList := by
  induction actions with
  | nil => simp [stream]
  | cons first actions ih =>
    rw [List.cons_append, stream, ih, stream, List.any_cons]
    cases first.ends key with
    | true => rfl
    | false => cases actions.any (ends key) <;> simp

/-- Whatever comes that is not on the stream of a key leaves it as it is. -/
lemma stream_other (actions : List (Action P)) {action : Action P}
    (hsent : action.sent? key = none) (hends : action.ends key = false) :
    stream key (actions ++ [action]) = stream key actions ∧
      (actions ++ [action]).any (ends key) = actions.any (ends key) := by
  constructor
  · rw [stream_concat, hsent, hends]
    cases actions.any (ends key) <;> simp
  · simp [hends]

end Action

namespace Ingest

/-- The event that an ingest has taken and not yet added to the log. -/
def inHand (i : Ingest P) : List (Event P) :=
  match i.stage with
  | .locating event _ | .recording _ event _ => [event]
  | _ => []

/-- The event that an ingest has added to the log and not yet fanned out. -/
def onWay (i : Ingest P) : List (Delivery P) :=
  match i.stage with
  | .emitting d _ => [d]
  | _ => []

/-- Whether an ingest will take nothing more. -/
def isLast (i : Ingest P) : Bool :=
  match i.stage with
  | .locating _ last | .recording _ _ last | .emitting _ last => last
  | .finished _ => true
  | _ => false

/-- Whether an ingest has still to get its stream. -/
def isFresh (i : Ingest P) : Bool :=
  match i.stage with
  | .spawned | .watching => true
  | _ => false

/-- What an ingest that was not aborted got, a stream or an error, it has added to the log, and what it
has added it has fanned out, up to what it has in hand. -/
structure Relays (i : Ingest P) (taken : List (Event P)) (failures : List ObserverFailure)
    (logged emitted : List (Delivery P)) : Prop where
  logged_eq : logged.map Delivery.event ++ i.inHand =
    taken ++ failures.map fun failure => .error failure.message
  emitted_eq : emitted ++ i.onWay = logged
  failed : failures = [] ∨ (taken = [] ∧ i.isLast = true ∧ ∃ failure, failures = [failure])
  fresh : i.isFresh = true → taken = [] ∧ failures = []
  whole : i.aborted = false ∧ i.stage ≠ .felled

lemma Relays.new : (Ingest.new : Ingest P).Relays [] [] [] [] :=
  ⟨rfl, rfl, .inl rfl, fun _ => ⟨rfl, rfl⟩, rfl, nofun⟩

variable {i i' : Ingest P} {taken : List (Event P)} {failures : List ObserverFailure}
  {logged emitted : List (Delivery P)}

lemma Relays.of_stage (h : i.Relays taken failures logged emitted) (hstage : i'.stage = i.stage)
    (haborted : i'.aborted = i.aborted) : i'.Relays taken failures logged emitted := by
  obtain ⟨hlogged, hemitted, hfailed, hfresh, hwhole⟩ := h
  refine ⟨?_, ?_, ?_, ?_, ?_⟩ <;>
    simp only [inHand, onWay, isLast, isFresh, hstage, haborted] <;> assumption

/-- An ingest that has more to come got a stream. -/
lemma Relays.failures_eq_nil (h : i.Relays taken failures logged emitted) (hlast : i.isLast = false) :
    failures = [] := by
  rcases h.failed with hnone | ⟨-, hlast', -⟩
  · exact hnone
  · cases hlast.symm.trans hlast'

/-- A move between stages at which nothing is in hand. -/
lemma Relays.pass (h : i.Relays taken failures logged emitted) (hhand : i'.inHand = i.inHand)
    (hway : i'.onWay = i.onWay) (hlast : i.isLast = true → i'.isLast = true)
    (hfresh : i'.isFresh = true → i.isFresh = true)
    (hwhole : i'.aborted = i.aborted ∧ i'.stage ≠ .felled) :
    i'.Relays taken failures logged emitted where
  logged_eq := hhand ▸ h.logged_eq
  emitted_eq := hway ▸ h.emitted_eq
  failed := h.failed.imp_right fun ⟨htakes, hlast', hone⟩ => ⟨htakes, hlast hlast', hone⟩
  fresh hf := h.fresh (hfresh hf)
  whole := ⟨hwhole.1.trans h.whole.1, hwhole.2⟩

/-- What an ingest has taken, with what is still in its inbox, is the stream of its observer; once it
has finished the rest of the stream is lost. -/
structure Takes (i : Ingest P) (taken stream : List (Event P)) (ended : Bool) : Prop where
  stream_eq : ∃ lost, taken ++ i.inbox ++ lost = stream ∧ (i.isFinished = false → lost = [])
  ended_eq : i.ended = ended

lemma Takes.new : (Ingest.new : Ingest P).Takes [] [] false :=
  ⟨⟨[], rfl, fun _ => rfl⟩, rfl⟩

lemma Takes.isPrefix {stream : List (Event P)} {ended : Bool} (h : i.Takes taken stream ended) :
    taken <+: stream := by
  obtain ⟨lost, rfl, -⟩ := h.stream_eq
  rw [List.append_assoc]
  exact List.prefix_append _ _

/-- A move of an ingest that does not touch its inbox. -/
lemma Takes.pass {stream : List (Event P)} {ended : Bool} (h : i.Takes taken stream ended)
    (hinbox : i'.inbox = i.inbox) (hended : i'.ended = i.ended)
    (hfinished : i.isFinished = true → i'.isFinished = true) : i'.Takes taken stream ended := by
  obtain ⟨⟨lost, heq, hlost⟩, hend⟩ := h
  refine ⟨⟨lost, hinbox ▸ heq, fun hrunning => hlost (eq_false_of_ne_true fun hdone => ?_)⟩,
    hended.trans hend⟩
  cases hrunning.symm.trans (hfinished hdone)

end Ingest

open WatchHub.Fact (take? setupFailure? ingestion? emission?)

namespace Registration

variable {stopped : Bool} {log : EventLog P} {r : Registration P} {move : Ingest.Move}
  {out : Ingested P} {taken : List (Event P)} {failures : List ObserverFailure}
  {logged emitted : List (Delivery P)}

/-- A step of an ingest that tells nothing of its intake. -/
lemma relays_quiet {i : Ingest P} {told : List (Fact P)} {key : Key}
    (htold : Fact.Intakeless key told) (h : i.Relays taken failures logged emitted) :
    i.Relays (taken ++ told.filterMap (take? key)) (failures ++ told.filterMap (setupFailure? key))
      (logged ++ told.filterMap (ingestion? key)) (emitted ++ told.filterMap (emission? key)) := by
  rw [htold.takes, htold.failures, htold.logged, htold.emitted]
  simpa using h

/-- Every step of an ingest relays. -/
theorem Ingests.relays (hi : r.Ingests stopped log move out)
    (h : r.ingest.Relays taken failures logged emitted) :
    out.registration.ingest.Relays (taken ++ out.facts.filterMap (take? r.key))
      (failures ++ out.facts.filterMap (setupFailure? r.key))
      (logged ++ out.facts.filterMap (ingestion? r.key))
      (emitted ++ out.facts.filterMap (emission? r.key)) := by
  cases hi with
  | startCancelled hstage | startWatching hstage | answerStream hstage | answerCrashed hstage
  | stopWatching hstage | stopStreaming hstage | finish hstage =>
    refine relays_quiet (.of_not_isIntake (by simp [Fact.isIntake])) (h.pass ?_ ?_ ?_ ?_ ?_) <;>
      simp [Ingest.inHand, Ingest.onWay, Ingest.isLast, Ingest.isFresh, hstage]
  | wake | rest =>
    exact relays_quiet (.of_not_isIntake (by simp)) (h.of_stage rfl rfl)
  | cutOff _ _ haborted => cases haborted.symm.trans h.whole.1
  | drop hstage => exact absurd hstage h.whole.2
  | locate hstage =>
    refine relays_quiet (.of_not_isIntake fun x hx => ?_) (h.pass ?_ ?_ ?_ ?_ ?_)
    · cases Fact.mem_ofLocate hx
      rfl
    all_goals
      simp [Ingest.inHand, Ingest.onWay, Ingest.isLast, Ingest.isFresh, hstage]
  | @answerFailed failure hstage =>
    -- Nothing was taken yet, so the error is all that is ever added.
    obtain ⟨rfl, rfl⟩ := h.fresh (by rw [Ingest.isFresh, hstage])
    have hlogged := h.logged_eq
    have hemitted := h.emitted_eq
    simp only [Ingest.inHand, Ingest.onWay, hstage, List.map_nil, List.append_nil,
      List.map_eq_nil_iff] at hlogged hemitted
    subst hlogged hemitted
    refine ⟨?_, ?_, .inr ⟨?_, rfl, failure, ?_⟩, (fun hfresh => by cases hfresh), h.whole.1,
        (fun hfelled => by cases hfelled)⟩ <;>
      simp [List.filterMap_cons, Ingest.inHand, Ingest.onWay, take?, setupFailure?, ingestion?,
        emission?]
  | @take event inbox hstage _ =>
    obtain rfl := h.failures_eq_nil (by rw [Ingest.isLast, hstage])
    have hlogged := h.logged_eq
    have hemitted := h.emitted_eq
    simp only [Ingest.inHand, Ingest.onWay, hstage, List.map_nil, List.append_nil] at hlogged hemitted
    subst hlogged hemitted
    refine ⟨?_, ?_, .inl ?_, (fun hfresh => by cases hfresh), h.whole.1,
        (fun hfelled => by cases hfelled)⟩ <;>
      simp [List.filterMap_cons, Ingest.inHand, Ingest.onWay, take?, setupFailure?, ingestion?,
        emission?]
  | @record id event last hstage =>
    have hlogged := h.logged_eq
    have hemitted := h.emitted_eq
    simp only [Ingest.inHand, Ingest.onWay, hstage, List.append_nil] at hlogged hemitted
    subst hemitted
    refine ⟨?_, ?_, ?_, (fun hfresh => by cases hfresh), h.whole.1, fun hfelled => by cases hfelled⟩
    · simpa [List.filterMap_cons, Ingest.inHand, take?, setupFailure?, ingestion?,
        Delivery.versioned] using hlogged
    · simp [List.filterMap_cons, Ingest.onWay, ingestion?, emission?]
    · simpa [List.filterMap_cons, Ingest.isLast, take?, setupFailure?, hstage] using h.failed
  | @emit d last hstage =>
    have htakes : (r.audience.emit d).2.filterMap (take? r.key) = [] ∧
        (r.audience.emit d).2.filterMap (setupFailure? r.key) = [] := by
      constructor <;> refine List.filterMap_eq_nil_iff.2 fun x hx => ?_ <;>
        rcases Audience.mem_emit hx with rfl | ⟨_, _, rfl⟩ <;> rfl
    have hemission : (r.audience.emit d).2.filterMap (emission? r.key) = [d] :=
      (Hub.emission?_emit r.audience d r.key).trans (if_pos rfl)
    have hlogged := h.logged_eq
    have hemitted := h.emitted_eq
    have hfailed := h.failed
    simp only [Ingest.inHand, Ingest.onWay, Ingest.isLast, hstage, List.append_nil]
      at hlogged hemitted hfailed
    rw [htakes.1, htakes.2, Hub.ingestion?_emit, hemission]
    cases last with
    | true =>
      refine ⟨by simpa [Ingest.inHand] using hlogged, by simpa [Ingest.onWay] using hemitted, ?_,
        (fun hfresh => by cases hfresh), h.whole.1, fun hfelled => by cases hfelled⟩
      simpa [Ingest.isLast] using hfailed
    | false =>
      refine ⟨by simpa [Ingest.inHand] using hlogged, by simpa [Ingest.onWay] using hemitted,
        .inl ?_, (fun hfresh => by cases hfresh), h.whole.1, fun hfelled => by cases hfelled⟩
      simpa using hfailed

/-- What a step of an ingest takes is what comes next on the stream. -/
theorem Ingests.takes {stream : List (Event P)} {ended : Bool} (hi : r.Ingests stopped log move out)
    (h : r.ingest.Takes taken stream ended) :
    out.registration.ingest.Takes (taken ++ out.facts.filterMap (take? r.key)) stream ended := by
  have hquiet : ∀ {told : List (Fact P)} {i : Ingest P}, told.filterMap (take? r.key) = [] →
      i.Takes taken stream ended → i.Takes (taken ++ told.filterMap (take? r.key)) stream ended := by
    intro told i htold hi
    rwa [htold, List.append_nil]
  cases hi with
  | @take event inbox hstage hinbox =>
    obtain ⟨⟨lost, heq, hlost⟩, hend⟩ := h
    refine ⟨⟨lost, ?_, fun _ => hlost (by rw [Ingest.isFinished, hstage])⟩, hend⟩
    rw [← heq, hinbox]
    simp [take?]
  | @emit d last hstage =>
    refine hquiet (List.filterMap_eq_nil_iff.2 fun x hx => ?_) (h.pass rfl rfl fun hf => ?_)
    · rcases Audience.mem_emit hx with rfl | ⟨_, _, rfl⟩ <;> rfl
    · rw [Ingest.isFinished, hstage] at hf
      cases hf
  | locate hstage =>
    refine hquiet (Fact.filterMap_ofLocate rfl log) (h.pass rfl rfl fun hf => ?_)
    rw [Ingest.isFinished, hstage] at hf
    cases hf
  | wake | rest => exact hquiet rfl (h.pass rfl rfl id)
  | cutOff | drop => exact hquiet rfl (h.pass rfl rfl fun _ => rfl)
  | _ hstage =>
    refine hquiet rfl (h.pass rfl rfl fun hf => ?_)
    rw [Ingest.isFinished, hstage] at hf
    cases hf

end Registration

namespace Hub

/-- The ingest of a key. -/
def ingest? (h : Hub P) (key : Key) : Option (Ingest P) :=
  (h.registration? key).map Registration.ingest

/-- What a step is to the ingest of one key. -/
inductive Feeds (h : Hub P) (key : Key) : Action P → List (Fact P) → Hub P → Prop where
  | other {action told h'} :
    h'.ingest? key = h.ingest? key → action.sent? key = none → action.ends key = false →
    (∀ x ∈ told, x.isIntake key = false) → Feeds h key action told h'
  | registered {action told h'} :
    h.ingest? key = none → h'.ingest? key = some .new → action.sent? key = none →
    action.ends key = false → (∀ x ∈ told, x.isIntake key = false) → Feeds h key action told h'
  /-- In a shutdown an ingest may be aborted. -/
  | aborted {action told h' r} :
    h.stopped = true → h.registration? key = some r → h'.ingest? key = some r.abort.ingest →
    action.sent? key = none → action.ends key = false → (∀ x ∈ told, x.isIntake key = false) →
    Feeds h key action told h'
  | sent {event h' r} :
    h.registration? key = some r → h'.ingest? key = some (r.send event).ingest →
    Feeds h key (.send key event) [] h'
  | ended {h' r} :
    h.registration? key = some r → h'.ingest? key = some r.endStream.ingest →
    Feeds h key (.endStream key) [] h'
  | own {move h' r out} :
    h.registration? key = some r → r.key = key → r.Ingests h.stopped h.log move out →
    h'.ingest? key = some out.registration.ingest → Feeds h key (.ingest key move) out.facts h'

variable {h h' : Hub P} {action : Action P} {told : List (Fact P)} {key : Key}

lemma ingest?_of_put {key₀ : Key} {r : Registration P}
    (hregs : h'.registrations = h.registrations.put key₀ r) :
    h'.ingest? key = if key₀ = key then some r.ingest else h.ingest? key := by
  unfold ingest?
  by_cases heq : key₀ = key
  · subst heq
    rw [registration?_of_put hregs, if_pos rfl, Option.map_some]
  · rw [registration?_of_put_ne hregs heq, if_neg heq]

/-- A change of one registration that leaves its ingest alone. -/
lemma ingest?_of_put_same {key₀ : Key} {r r' : Registration P}
    (hr : h.registration? key₀ = some r) (hregs : h'.registrations = h.registrations.put key₀ r')
    (hsame : r'.ingest = r.ingest) : h'.ingest? key = h.ingest? key := by
  rw [ingest?_of_put hregs]
  split
  · rename_i heq
    subst heq
    rw [ingest?, hr, Option.map_some, hsame]
  · rfl

lemma ingest?_congr (hregs : h'.registrations = h.registrations) :
    h'.ingest? key = h.ingest? key := by
  rw [ingest?, registration?, hregs]
  rfl

/-- Only the ingest of a key tells of its intake. -/
lemma Changes.not_isIntake (hs : h.Sound) (hc : Changes h action told h')
    (hother : ∀ move, action ≠ .ingest key move) : ∀ x ∈ told, x.isIntake key = false := by
  intro x hx
  refine eq_false_of_ne_true fun hintake => ?_
  have hteller := hc.told_by hx
  rw [Fact.teller?_of_isIntake hintake] at hteller
  obtain ⟨key₀, move, r, out, rfl, rfl, hr, hi⟩ := hteller
  have hkey : key₀ = key := (hs.keyed hr).symm.trans
    (Option.some.inj ((hi.key?_of_mem hx).symm.trans (Fact.key?_of_isIntake hintake)))
  exact hother move (hkey ▸ rfl)

/-- Every step of a sound hub is one of these to every ingest. -/
theorem Changes.feeds (hs : h.Sound) (hc : Changes h action told h') (key : Key) :
    Feeds h key action told h' := by
  have hquiet : (∀ move, action ≠ .ingest key move) → ∀ x ∈ told, x.isIntake key = false :=
    hc.not_isIntake hs
  cases hc with
  | aside f haudience hingest htold _ hregs hcall =>
    have hsent : action.sent? key = none := by cases action <;> first | rfl | cases hcall
    have hends : action.ends key = false := by cases action <;> first | rfl | cases hcall
    have hasides : ∀ x ∈ told, x.isIntake key = false := by
      refine hquiet fun move heq => ?_
      rw [heq] at hcall
      cases hcall
    have hingest' : h'.ingest? key = (h.registration? key).map fun r => (f key r).ingest := by
      rw [ingest?, hregs, Option.map_map]
      rfl
    cases hr : h.registration? key with
    | none => exact .other (by rw [hingest', ingest?, hr]; rfl) hsent hends hasides
    | some r =>
      rw [hr, Option.map_some] at hingest'
      rcases hingest key r with heq | ⟨hstopped, heq⟩
      · exact .other (by rw [hingest', heq, ingest?, hr]; rfl) hsent hends hasides
      · exact .aborted hstopped hr (hingest'.trans (congrArg some heq)) hsent hends hasides
  | @registered key₀ observer id _ hnone _ hregs =>
    have hnothing := hquiet (by simp)
    by_cases heq : key₀ = key
    · subst heq
      refine .registered ?_ ?_ rfl rfl hnothing
      · rw [ingest?, hnone, Option.map_none]
      · rw [ingest?_of_put hregs, if_pos rfl]
        rfl
    · refine .other ?_ rfl rfl hnothing
      rw [ingest?_of_put hregs, if_neg heq]
  | joined _ hr _ _ hregs | left hr _ hregs | closed _ hr _ hregs =>
    exact .other (ingest?_of_put_same hr hregs rfl) rfl rfl (hquiet (by simp))
  | stopped _ _ hregs => exact .other (ingest?_congr hregs) rfl rfl (hquiet (by simp))
  | @ingested key₀ move r out hr hi =>
    by_cases heq : key₀ = key
    · subst heq
      refine .own hr (hs.keyed hr) hi ?_
      rw [ingest?_of_put rfl, if_pos rfl]
    · refine .other ?_ rfl rfl (hquiet (by simp [heq]))
      rw [ingest?_of_put rfl, if_neg heq]
      rfl
  | populated hr | received hr | asked hr | hungUp hr =>
    exact .other (ingest?_of_put_same hr rfl rfl) rfl rfl (hquiet (by simp))
  | @sent key₀ event r hr =>
    by_cases heq : key₀ = key
    · subst heq
      refine .sent hr ?_
      rw [ingest?_of_put rfl, if_pos rfl]
    · refine .other ?_ (if_neg heq) rfl (hquiet (by simp))
      rw [ingest?_of_put rfl, if_neg heq]
  | @ended key₀ r hr =>
    by_cases heq : key₀ = key
    · subst heq
      refine .ended hr ?_
      rw [ingest?_of_put rfl, if_pos rfl]
    · refine .other ?_ rfl (by simpa [Action.ends] using heq) (hquiet (by simp))
      rw [ingest?_of_put rfl, if_neg heq]
  | located | recorded | cleared => exact .other rfl rfl rfl (hquiet (by simp))

/-- What the ingest of a key took, added and fanned out against what its observer sent. -/
structure Intake (actions : List (Action P)) (facts : List (Fact P)) (key : Key) (i : Ingest P) :
    Prop where
  relays : i.Relays (facts.filterMap (take? key)) (facts.filterMap (setupFailure? key))
    (facts.filterMap (ingestion? key)) (facts.filterMap (emission? key))
  takes : i.Takes (facts.filterMap (take? key)) (Action.stream key actions)
    (actions.any (Action.ends key))

/-- Nothing was ever sent to a key that has no ingest, nor was anything taken. -/
structure Untouched (actions : List (Action P)) (facts : List (Fact P)) (key : Key) : Prop where
  intake : Fact.Intakeless key facts
  stream : Action.stream key actions = []
  ended : actions.any (Action.ends key) = false

variable {config : HubConfig} {actions : List (Action P)} {facts : List (Fact P)} {i i' : Ingest P}

lemma Untouched.intake_new (h : Untouched actions facts key) : Intake actions facts key .new := by
  obtain ⟨⟨htakes, hfailures, hlogged, hemitted⟩, hstream, hended⟩ := h
  constructor
  · rw [htakes, hfailures, hlogged, hemitted]
    exact .new
  · rw [htakes, hstream, hended]
    exact .new

/-- A step that neither feeds an ingest nor moves it. -/
lemma Intake.quiet (h : Intake actions facts key i) (htold : ∀ x ∈ told, x.isIntake key = false)
    (hsent : action.sent? key = none) (hends : action.ends key = false) :
    Intake (actions ++ [action]) (facts ++ told) key i := by
  obtain ⟨htakes, hfailures, hlogged, hemitted⟩ := Fact.Intakeless.of_not_isIntake htold
  obtain ⟨hstream, hany⟩ := Action.stream_other actions hsent hends
  constructor
  · simpa [htakes, hfailures, hlogged, hemitted] using h.relays
  · rw [hstream, hany]
    simpa [htakes] using h.takes

lemma Untouched.quiet (h : Untouched actions facts key)
    (htold : ∀ x ∈ told, x.isIntake key = false) (hsent : action.sent? key = none)
    (hends : action.ends key = false) :
    Untouched (actions ++ [action]) (facts ++ told) key := by
  obtain ⟨htakes, hfailures, hlogged, hemitted⟩ := Fact.Intakeless.of_not_isIntake htold
  obtain ⟨hstream, hany⟩ := Action.stream_other actions hsent hends
  refine ⟨⟨?_, ?_, ?_, ?_⟩, hstream.trans h.stream, hany.trans h.ended⟩
  · simpa [htakes] using h.intake.takes
  · simpa [hfailures] using h.intake.failures
  · simpa [hlogged] using h.intake.logged
  · simpa [hemitted] using h.intake.emitted

/-- What is sent goes to the end of the inbox, unless nobody takes it any more. -/
lemma Intake.sent {r : Registration P} (h : Intake actions facts key r.ingest) (event : Event P) :
    Intake (actions ++ [.send key event]) (facts ++ []) key (r.send event).ingest := by
  obtain ⟨hrelays, ⟨lost, heq, hlost⟩, hended⟩ := h
  rw [List.append_nil]
  refine ⟨hrelays.of_stage (r.stage_send event) (r.aborted_send event), ⟨?_, ?_⟩⟩
  · rw [Action.stream_concat, ← hended, ← heq]
    cases hend : r.ingest.ended with
    | true =>
      refine ⟨lost, by simp [Registration.send, hend], ?_⟩
      simpa [Registration.send, hend] using hlost
    | false =>
      cases hfinished : r.ingest.isFinished with
      | true =>
        refine ⟨lost ++ [event], ?_, fun h => ?_⟩
        · simp [Registration.send, hfinished, Action.sent?, Action.ends]
        · simp [Registration.send, hfinished] at h
      | false =>
        obtain rfl := hlost hfinished
        refine ⟨[], ?_, fun _ => rfl⟩
        simp [Registration.send, hfinished, hend, Action.sent?, Action.ends]
  · have hsame : (r.send event).ingest.ended = r.ingest.ended := by
      unfold Registration.send
      split <;> rfl
    rw [hsame, hended]
    simp [Action.ends]

lemma Intake.ended {r : Registration P} (h : Intake actions facts key r.ingest) :
    Intake (actions ++ [.endStream key]) (facts ++ []) key r.endStream.ingest := by
  obtain ⟨hrelays, ⟨lost, heq, hlost⟩, hended⟩ := h
  rw [List.append_nil]
  refine ⟨hrelays.of_stage rfl rfl, ⟨⟨lost, ?_, hlost⟩, ?_⟩⟩
  · rw [Action.stream_concat]
    simpa [Action.ends, Registration.endStream] using heq
  · simp [Action.ends, Registration.endStream]

/-- As long as no shutdown is requested, every ingest relays what its observer sends. -/
theorem Reached.intake (hr : Reached config actions facts h) (hrunning : h.stopped = false)
    (key : Key) :
    (h.ingest? key = none ∧ Untouched actions facts key) ∨
      ∃ i, h.ingest? key = some i ∧ Intake actions facts key i := by
  induction hr with
  | new => exact .inl ⟨rfl, ⟨rfl, rfl, rfl, rfl⟩, rfl, rfl⟩
  | @step actions past h action h' told hr hstep ih =>
    have hstill : h.stopped = false := by
      refine eq_false_of_ne_true fun hstopped => ?_
      cases hrunning.symm.trans ((Follows.of_step hstep).stopped hstopped)
    have hbefore := ih hstill
    cases (hr.sound.changes hstep).feeds hr.sound key with
    | other heq hsent hends htold =>
      rw [heq]
      rcases hbefore with ⟨hnone, huntouched⟩ | ⟨i, hi, hintake⟩
      · exact .inl ⟨hnone, huntouched.quiet htold hsent hends⟩
      · exact .inr ⟨i, hi, hintake.quiet htold hsent hends⟩
    | registered hnone hnew hsent hends htold =>
      rcases hbefore with ⟨-, huntouched⟩ | ⟨i, hi, -⟩
      · exact .inr ⟨_, hnew, huntouched.intake_new.quiet htold hsent hends⟩
      · cases hnone.symm.trans hi
    | aborted hstopped => cases hstill.symm.trans hstopped
    | @sent event _ r hreg hnew =>
      rcases hbefore with ⟨hnone, -⟩ | ⟨i, hi, hintake⟩
      · simp [ingest?, hreg] at hnone
      · obtain rfl : r.ingest = i := by simpa [ingest?, hreg] using hi
        exact .inr ⟨_, hnew, hintake.sent event⟩
    | @ended _ r hreg hnew =>
      rcases hbefore with ⟨hnone, -⟩ | ⟨i, hi, hintake⟩
      · simp [ingest?, hreg] at hnone
      · obtain rfl : r.ingest = i := by simpa [ingest?, hreg] using hi
        exact .inr ⟨_, hnew, hintake.ended⟩
    | @own move _ r out hreg hkey hi hnew =>
      rcases hbefore with ⟨hnone, -⟩ | ⟨i, hi', hintake⟩
      · simp [ingest?, hreg] at hnone
      · obtain rfl : r.ingest = i := by simpa [ingest?, hreg] using hi'
        subst hkey
        refine .inr ⟨_, hnew, ⟨?_, ?_⟩⟩
        · simpa only [List.filterMap_append] using hi.relays hintake.relays
        · obtain ⟨hstream, hany⟩ :=
            @Action.stream_other P r.key actions (.ingest r.key move) rfl rfl
          rw [hstream, hany, List.filterMap_append]
          exact hi.takes hintake.takes

end Hub

end WatchHub
