import WatchHub.Proofs.Hub.Run

/-!
# What a call can do

The steps of the calls of a hub as a relation, one rule for each branch: `Hub.Conducts` holds of every
step of a call (`Conducts.of_step`). The rules of a call under way, `Hub.Proceeds`, are told apart by the
place where it stands: a case analysis meets only those for that place (`Reached.proceeds`). Where a
call stands after a step, it stood before, or it was made, or it was led there (`came_of_step`).

A call has the number of its request among all requests, serves this request wherever it stands, and is
answered once, with a reply that the request admits (`Reached.served`).
-/

namespace WatchHub

variable {P : Type}

/-- Where a call begins that serves a request. -/
def Request.opening : Request → Call
  | register key observer => .registering key observer
  | subscribe key checkpoint => .finding key checkpoint
  | unsubscribe key handle => .leaving key handle
  | shutdown => .draining
  | guard => .guarding

/-- The replies that a request can get. -/
def Request.Admits : Request → Reply → Prop
  | register key _, reply =>
    reply = .registered ∨ reply = .refused .stopped ∨ reply = .refused (.alreadyRegistered key)
  | subscribe key _, reply =>
    (∃ handle, reply = .subscribed handle) ∨ reply = .refused .stopped ∨
      reply = .refused (.noSuchResource key)
  | unsubscribe _ _, reply => reply = .unsubscribed
  | shutdown, reply | guard, reply =>
    reply = .stopped ∨ ∃ grace stuck, reply = .failed (.graceExceeded grace stuck)

/-- Whether a call can be one that serves a request. -/
def Call.Serves : Call → Request → Prop
  | registering key observer, request => request = .register key observer
  | finding key checkpoint, request => request = .subscribe key checkpoint
  | joining key _ checkpoint, request => request = .subscribe key checkpoint
  | broken _, request => ∃ key checkpoint, request = .subscribe key checkpoint
  | leaving key handle, request => request = .unsubscribe key handle
  | removing key handle, request => request = .unsubscribe key handle
  | draining, request | awaiting .., request => request = .shutdown ∨ request = .guard
  | closing _ _ reply, request =>
    (request = .shutdown ∨ request = .guard) ∧ request.Admits reply
  | guarding, request => request = .guard

lemma Request.serves_opening (request : Request) : request.opening.Serves request := by
  cases request with
  | shutdown => exact .inl rfl
  | _ => rfl

/-- The request that a step makes. -/
def Action.request? : Action P → Option Request
  | .start request => some request
  | _ => none

/-- The requests that were made, each under the number of its call. -/
def requests (actions : List (Action P)) : List Request :=
  actions.filterMap Action.request?

lemma requests_append (actions more : List (Action P)) :
    requests (actions ++ more) = requests actions ++ requests more :=
  List.filterMap_append

/-- The reply to a call. -/
def Fact.reply? (id : CallId) : Fact P → Option Reply
  | returned id' reply => if id' = id then some reply else none
  | _ => none

namespace Fact

lemma mem_reply {id : CallId} {reply : Reply} {facts : List (Fact P)} :
    reply ∈ facts.filterMap (reply? id) ↔ .returned id reply ∈ facts := by
  rw [List.mem_filterMap]
  constructor
  · rintro ⟨x, hx, hreply⟩
    cases x with
    | returned id' reply' =>
      obtain ⟨rfl, heq⟩ := Option.ite_none_right_eq_some.1 hreply
      cases heq
      exact hx
    | _ => cases hreply
  · exact fun hx => ⟨_, hx, if_pos rfl⟩

/-- Where nothing was answered, no reply is seen. -/
lemma reply?_eq_nil {id : CallId} {told : List (Fact P)} (h : ∀ reply, .returned id reply ∉ told) :
    told.filterMap (reply? id) = [] := by
  refine List.eq_nil_iff_forall_not_mem.2 fun reply hreply => ?_
  exact h reply (mem_reply.1 hreply)

end Fact

namespace Hub

variable {h h' : Hub P} {action : Action P} {told : List (Fact P)}

/-- The hub without a call that has come to its end. -/
def dismiss (h : Hub P) (id : CallId) : Hub P :=
  { h with calls := h.calls.erase id }

/-- The hub in which one more call was made. -/
def count (h : Hub P) : Hub P :=
  { h with made := h.made + 1 }

/-- The hub with its stop mark set. -/
def halt (h : Hub P) : Hub P :=
  { h with stopped := true }

/-- Why a call is refused. -/
inductive Refuses (h : Hub P) : Call → WatchFailure → Prop where
  | registering {key observer} :
    h.stopped = true → Refuses h (.registering key observer) .stopped
  | taken {key observer} :
    h.stopped = false → (h.bound? key).isSome = true →
    Refuses h (.registering key observer) (.alreadyRegistered key)
  | finding {key checkpoint} :
    h.bound? key = none → Refuses h (.finding key checkpoint) (.noSuchResource key)
  | joining {key handle checkpoint} :
    h.stopped = true → Refuses h (.joining key handle checkpoint) .stopped
  | lost {key handle checkpoint} :
    h.stopped = false → h.registration? key = none →
    Refuses h (.joining key handle checkpoint) (.noSuchResource key)

/-- What a call does in one step, by the place where it stands, and what it tells. -/
inductive Proceeds (h : Hub P) (id : CallId) :
    Call → Action P → List (Fact P) → Hub P → Prop where
  | signalled {name} :
    Proceeds h id .guarding (.signal id name) [.signalled name, .shutdownRequested]
      (h.halt.putCall id .draining)
  | relieved :
    h.stopped = true →
    Proceeds h id .guarding (.resume id) [.returned id .stopped] (h.dismiss id)
  | refused {call failure} :
    h.Refuses call failure →
    Proceeds h id call (.resume id) [.returned id (.refused failure)] (h.dismiss id)
  | registered {key observer} :
    h.stopped = false → h.bound? key = none →
    Proceeds h id (.registering key observer) (.resume id)
      [.registered key observer.name, .returned id .registered]
      ((h.putRegistration key (.new key observer)).dismiss id)
  | found {key checkpoint r} :
    h.bound? key = some r → Room.breakdown? h.config.queueRoom = none →
    Proceeds h id (.finding key checkpoint) (.resume id) []
      ({ h with issued := h.issued + 1 }.putCall id (.joining key ⟨h.issued + 1⟩ checkpoint))
  /-- The queue would be larger than one can be. -/
  | brokeDown {key checkpoint r message} :
    h.bound? key = some r → Room.breakdown? h.config.queueRoom = some message →
    Proceeds h id (.finding key checkpoint) (.resume id) []
      ({ h with issued := h.issued + 1 }.putCall id (.broken message))
  | joined {key handle checkpoint r} :
    h.stopped = false → h.registration? key = some r →
    Proceeds h id (.joining key handle checkpoint) (.resume id)
      (r.audience.prune.2 ++ [.subscribed key handle checkpoint, .returned id (.subscribed handle)])
      ((h.putRegistration key { r with audience :=
        (r.audience.insert handle (.new h.config.queueRoom checkpoint)).1 }).dismiss id)
  /-- The registration to be left was found. -/
  | led {key handle r} :
    h.bound? key = some r →
    Proceeds h id (.leaving key handle) (.resume id) [] (h.putCall id (.removing key handle))
  /-- There is no registration to leave. -/
  | spared {key handle} :
    h.bound? key = none →
    Proceeds h id (.leaving key handle) (.resume id) [.returned id .unsubscribed] (h.dismiss id)
  | missed {key handle} :
    h.registration? key = none →
    Proceeds h id (.removing key handle) (.resume id) [.returned id .unsubscribed] (h.dismiss id)
  | left {key handle r} :
    h.registration? key = some r →
    Proceeds h id (.removing key handle) (.resume id)
      ((r.audience.remove handle).2.2 ++ [.returned id .unsubscribed])
      ((h.putRegistration key { r with audience := (r.audience.remove handle).2.1 }).dismiss id)
  | drained :
    Proceeds h id .draining (.resume id) []
      ({ h with registrations :=
        h.registrations.mapValues fun _ r => { r with bound := false } }.putCall id
          (.awaiting h.boundKeys h.boundKeys))
  | awaited {key left drained} :
    h.hasFinished key = true →
    Proceeds h id (.awaiting (key :: left) drained) (.resume id) (h.obituary key)
      (h.putCall id (.awaiting left drained))
  | awaitedAll {drained} :
    Proceeds h id (.awaiting [] drained) (.resume id) []
      (h.putCall id (.closing drained drained.length .stopped))
  /-- The grace ends when all ingests have come to their end, and the call has looked at all. -/
  | expired {looks left drained} :
    left.length ≤ looks → (∀ key ∈ left, h.hasFinished key = true) →
    Proceeds h id (.awaiting left drained) (.expire id looks) (left.flatMap h.obituary)
      (h.putCall id (.closing drained drained.length .stopped))
  /-- The grace ends before the call has looked at all: `seen` it has looked at, `late` are left. -/
  | aborted {looks left drained stuck} (seen late : List Key) :
    left = seen ++ late → late ≠ [] →
    (∀ key ∈ seen, h.hasFinished key = true) →
    seen.length = looks ∨ (∃ key ∈ late, h.hasFinished key = false) →
    stuck = Key.sort (late.filter fun key => !h.hasFinished key) →
    Proceeds h id (.awaiting left drained) (.expire id looks)
      (seen.flatMap h.obituary ++ [.graceExceeded h.config.grace stuck])
      ({ h with registrations := h.registrations.mapValues fun key r =>
        if stuck.contains key then r.abort else r }.putCall id
          (.closing drained drained.length (.failed (.graceExceeded h.config.grace stuck))))
  | closed {key left drained reply r} :
    h.registration? key = some r →
    Proceeds h id (.closing (key :: left) drained reply) (.resume id) r.audience.closeAll.2
      ((h.putRegistration key { r with audience := r.audience.closeAll.1 }).putCall id
        (.closing left drained reply))
  | passed {key left drained reply} :
    h.registration? key = none →
    Proceeds h id (.closing (key :: left) drained reply) (.resume id) []
      (h.putCall id (.closing left drained reply))
  | ended {drained reply} :
    Proceeds h id (.closing [] drained reply) (.resume id) [.stopped drained, .returned id reply]
      ({ h with log := h.log.clear }.dismiss id)

/-- What one step of a call does, and what it tells: the call is made, or it goes on from the place
where it stands. -/
inductive Conducts (h : Hub P) : Action P → List (Fact P) → Hub P → Prop where
  | opened {request} :
    request ≠ .shutdown → (∀ key checkpoint, request = .subscribe key checkpoint → h.stopped = false) →
    Conducts h (.start request) [] (h.count.putCall h.made request.opening)
  /-- A subscriber comes after the hub was stopped. -/
  | turnedAway {key checkpoint} :
    h.stopped = true →
    Conducts h (.start (.subscribe key checkpoint)) [.returned h.made (.refused .stopped)]
      (h.count.dismiss h.made)
  | halted :
    Conducts h (.start .shutdown) [.shutdownRequested] (h.count.halt.putCall h.made .draining)
  | proceeded {id call action told h'} :
    h.calls.get? id = some call → h.Proceeds id call action told h' → Conducts h action told h'

lemma Conducts.start (h : Hub P) (request : Request) :
    Conducts h (.start request) (h.start request).2 (h.start request).1 := by
  cases request with
  | register | unsubscribe | guard =>
    exact .opened (fun h => by cases h) fun _ _ h => by cases h
  | shutdown => exact .halted
  | subscribe key checkpoint =>
    cases hstopped : h.stopped with
    | true =>
      have heq : h.start (.subscribe key checkpoint) =
          (h.count.dismiss h.made, [.returned h.made (.refused .stopped)]) := by
        simp [Hub.start, hstopped, reply, dismiss, count]
      rw [heq]
      exact .turnedAway hstopped
    | false =>
      have heq : h.start (.subscribe key checkpoint) =
          (h.count.putCall h.made (.finding key checkpoint), []) := by
        simp [Hub.start, hstopped, putCall, count]
      rw [heq]
      exact .opened (fun h => by cases h) fun _ _ _ => hstopped

lemma Proceeds.register (h : Hub P) (id : CallId) (key : Key) (observer : ObserverRef) :
    h.Proceeds id (.registering key observer) (.resume id) (h.register id key observer).2
      (h.register id key observer).1 := by
  unfold Hub.register
  split
  · exact .refused (.registering ‹_›)
  · rename_i hstopped
    split
    · exact .refused (.taken (eq_false_of_ne_true hstopped) ‹_›)
    · rename_i hbound
      exact .registered (eq_false_of_ne_true hstopped) (Option.not_isSome_iff_eq_none.1 hbound)

lemma Proceeds.find (h : Hub P) (id : CallId) (key : Key) (checkpoint : Option Version) :
    h.Proceeds id (.finding key checkpoint) (.resume id) (h.find id key checkpoint).2
      (h.find id key checkpoint).1 := by
  unfold Hub.find
  cases hbound : h.bound? key with
  | none => exact .refused (.finding hbound)
  | some r =>
    dsimp only
    cases hroom : Room.breakdown? h.config.queueRoom with
    | none => exact .found hbound hroom
    | some message => exact .brokeDown hbound hroom

lemma Proceeds.join (h : Hub P) (id : CallId) (key : Key) (handle : Handle)
    (checkpoint : Option Version) :
    h.Proceeds id (.joining key handle checkpoint) (.resume id)
      (h.join id key handle checkpoint).2 (h.join id key handle checkpoint).1 := by
  unfold Hub.join
  split
  · exact .refused (.joining ‹_›)
  · rename_i hstopped
    cases hr : h.registration? key with
    | none => exact .refused (.lost (eq_false_of_ne_true hstopped) hr)
    | some r =>
      simp only [reply, List.append_assoc, List.singleton_append]
      exact .joined (eq_false_of_ne_true hstopped) hr

lemma Proceeds.leave (h : Hub P) (id : CallId) (key : Key) (handle : Handle) :
    h.Proceeds id (.leaving key handle) (.resume id) (h.leave id key handle).2
      (h.leave id key handle).1 := by
  unfold Hub.leave
  cases hbound : h.bound? key with
  | none => exact .spared hbound
  | some r => exact .led hbound

lemma Proceeds.remove (h : Hub P) (id : CallId) (key : Key) (handle : Handle) :
    h.Proceeds id (.removing key handle) (.resume id) (h.remove id key handle).2
      (h.remove id key handle).1 := by
  unfold Hub.remove
  cases hr : h.registration? key with
  | none => exact .missed hr
  | some r => exact .left hr

lemma Proceeds.await {id : CallId} {left drained : List Key} {out : Outcome P}
    (h' : h.await id left drained = some out) :
    h.Proceeds id (.awaiting left drained) (.resume id) out.2 out.1 := by
  unfold Hub.await at h'
  split at h'
  · cases h'
    exact .awaitedAll
  · split at h'
    · cases h'
      exact .awaited ‹_›
    · cases h'

/-- A call that looks at so many ingests comes through the list of them, or its turn ends, or it comes
to one that is at work. -/
lemma looks_cases {A : Type} (p : A → Bool) (looks : Nat) (l : List A) :
    l.drop ((l.take looks).takeWhile p).length = [] ∨
      ((l.take looks).takeWhile p).length = looks ∨
        ∃ a ∈ l.drop ((l.take looks).takeWhile p).length, p a = false := by
  induction l generalizing looks with
  | nil => simp
  | cons a l ih =>
    cases looks with
    | zero => simp
    | succ looks =>
      cases ha : p a with
      | false => simp [ha]
      | true => simpa [ha] using ih looks

lemma Proceeds.endGrace (h : Hub P) (id : CallId) (looks : Nat) (left drained : List Key) :
    h.Proceeds id (.awaiting left drained) (.expire id looks) (h.endGrace id looks left drained).2
      (h.endGrace id looks left drained).1 := by
  have hwhy := looks_cases h.hasFinished looks left
  have hprefix : (left.take looks).takeWhile h.hasFinished <+: left :=
    (List.takeWhile_prefix _).trans (List.take_prefix looks left)
  have hshort := Nat.le_trans (List.takeWhile_prefix h.hasFinished).length_le
    (List.length_take_le looks left)
  have hall : ∀ key ∈ (left.take looks).takeWhile h.hasFinished, h.hasFinished key = true :=
    List.all_eq_true.1 List.all_takeWhile
  unfold Hub.endGrace
  generalize (left.take looks).takeWhile h.hasFinished = seen at hwhy hprefix hshort hall ⊢
  have hleft : seen ++ left.drop seen.length = left := List.prefix_iff_eq_append.1 hprefix
  dsimp only
  split
  · rename_i hnil
    rw [hnil, List.append_nil] at hleft
    obtain rfl := hleft
    exact .expired hshort hall
  · rename_i hsome
    exact .aborted seen _ hleft.symm hsome hall (hwhy.resolve_left hsome) rfl

lemma Proceeds.close (h : Hub P) (id : CallId) (left : List Key) (drained : Nat) (answer : Reply) :
    h.Proceeds id (.closing left drained answer) (.resume id) (h.close id left drained answer).2
      (h.close id left drained answer).1 := by
  unfold Hub.close
  split
  · rename_i key left
    cases hr : h.registration? key with
    | none => exact .passed hr
    | some r => exact .closed hr
  · exact .ended

lemma Conducts.resume {id : CallId} {out : Outcome P} (h' : h.resume id = some out) :
    Conducts h (.resume id) out.2 out.1 := by
  unfold Hub.resume at h'
  split at h'
  · cases h'
    exact .proceeded ‹_› (.register h ..)
  · cases h'
    exact .proceeded ‹_› (.find h ..)
  · cases h'
    exact .proceeded ‹_› (.join h ..)
  · cases h'
    exact .proceeded ‹_› (.leave h ..)
  · cases h'
    exact .proceeded ‹_› (.remove h ..)
  · cases h'
    exact .proceeded ‹_› .drained
  · exact .proceeded ‹_› (.await h')
  · cases h'
    exact .proceeded ‹_› (.close h ..)
  · split at h'
    · cases h'
      exact .proceeded ‹_› (.relieved ‹_›)
    · cases h'
  · cases h'
  · cases h'

/-- Every step of a call is one of the rules. -/
theorem Conducts.of_step {out : Outcome P} (h' : h.step action = some out)
    (hcall : action.isCall = true) : Conducts h action out.2 out.1 := by
  cases action with
  | start request =>
    cases h'
    exact .start h request
  | resume id => exact .resume h'
  | expire id looks =>
    simp only [Hub.step, expire] at h'
    split at h'
    · cases h'
      exact .proceeded ‹_› (.endGrace h ..)
    · cases h'
  | signal id name =>
    simp only [Hub.step, signal] at h'
    split at h'
    · cases h'
      exact .proceeded ‹_› .signalled
    · cases h'
  | _ => cases hcall

/-- The call whose step an action is. -/
def caller? (h : Hub P) : Action P → Option CallId
  | .start _ => some h.made
  | .resume id | .expire id _ | .signal id _ => some id
  | _ => none

lemma isCall_of_caller {id : CallId} (hcaller : h.caller? action = some id) :
    action.isCall = true := by
  cases action <;> first | rfl | cases hcaller

variable {id : CallId} {call call' : Call}

lemma Proceeds.caller (hp : h.Proceeds id call action told h') : h.caller? action = some id := by
  cases hp <;> rfl

/-- A call under way goes on by a rule for the place where it stands. -/
lemma Conducts.proceeds (hc : Conducts h action told h') (hcaller : h.caller? action = some id)
    (hcall : h.calls.get? id = some call) (hmade : h.calls.get? h.made = none) :
    h.Proceeds id call action told h' := by
  cases hc with
  | opened | turnedAway | halted =>
    cases hcaller
    cases hmade.symm.trans hcall
  | proceeded hcall' hp =>
    cases hcaller.symm.trans hp.caller
    cases hcall.symm.trans hcall'
    exact hp

/-- Where a call stands after a step from some place, if it goes on after that. -/
inductive Leads (h : Hub P) : Call → Call → Prop where
  | stops : Leads h .guarding .draining
  | finds {key checkpoint r} :
    h.bound? key = some r → Room.breakdown? h.config.queueRoom = none →
    Leads h (.finding key checkpoint) (.joining key ⟨h.issued + 1⟩ checkpoint)
  | breaks {key checkpoint message} :
    Room.breakdown? h.config.queueRoom = some message →
    Leads h (.finding key checkpoint) (.broken message)
  | leaves {key handle} : Leads h (.leaving key handle) (.removing key handle)
  | drains : Leads h .draining (.awaiting h.boundKeys h.boundKeys)
  | awaits {key left drained} : Leads h (.awaiting (key :: left) drained) (.awaiting left drained)
  | closes {left drained reply} : Leads h (.awaiting left drained) (.closing drained drained.length reply)
  | goesOn {key left drained reply} :
    Leads h (.closing (key :: left) drained reply) (.closing left drained reply)

lemma Proceeds.leads (hp : h.Proceeds id call action told h')
    (hcall' : h'.calls.get? id = some call') : h.Leads call call' := by
  have hput : ∀ {calls : Table CallId Call} {call : Call},
      (calls.put id call).get? id = some call' → call = call' := fun h =>
    Option.some.inj ((Table.get?_put_self ..).symm.trans h)
  cases hp with
  | signalled => exact hput hcall' ▸ .stops
  | found hbound hroom => exact hput hcall' ▸ .finds hbound hroom
  | brokeDown _ hroom => exact hput hcall' ▸ .breaks hroom
  | led => exact hput hcall' ▸ .leaves
  | drained => exact hput hcall' ▸ .drains
  | awaited => exact hput hcall' ▸ .awaits
  | awaitedAll | expired | aborted => exact hput hcall' ▸ .closes
  | closed | passed => exact hput hcall' ▸ .goesOn
  | relieved | refused | registered | joined | spared | missed | left | ended =>
    cases ((Table.get?_erase ..).trans (if_pos rfl)).symm.trans hcall'

/-- The step that opens a subscription. -/
lemma Conducts.joined_of_told (hc : Conducts h action told h') {key : Key} {handle : Handle}
    {checkpoint : Option Version} (htold : .subscribed key handle checkpoint ∈ told) :
    ∃ id r, action = .resume id ∧ h.calls.get? id = some (.joining key handle checkpoint) ∧
      h.registration? key = some r ∧
      told = r.audience.prune.2 ++
        [.subscribed key handle checkpoint, .returned id (.subscribed handle)] ∧
      h' = (h.putRegistration key { r with audience :=
        (r.audience.insert handle (.new h.config.queueRoom checkpoint)).1 }).dismiss id := by
  cases hc with
  | opened | turnedAway | halted => simp at htold
  | proceeded hcall hp =>
    cases hp with
    | joined _ hr =>
      rcases List.mem_append.1 htold with htold | htold
      · obtain ⟨_, hx | hx⟩ := Audience.mem_prune htold <;> cases hx
      · simp only [List.mem_cons, List.not_mem_nil, or_false, reduceCtorEq] at htold
        cases htold
        exact ⟨_, _, rfl, hcall, hr, rfl, rfl⟩
    | left =>
      rcases List.mem_append.1 htold with htold | htold
      · obtain ⟨_, hx | hx | hx⟩ := Audience.mem_remove htold <;> cases hx
      · simp at htold
    | closed =>
      obtain ⟨_, hx⟩ := Audience.mem_closeAll htold
      cases hx
    | awaited => cases (isAside_obituary h _ _ htold).1
    | expired =>
      obtain ⟨key', -, hx⟩ := List.mem_flatMap.1 htold
      cases (isAside_obituary h key' _ hx).1
    | aborted =>
      rcases List.mem_append.1 htold with htold | htold
      · obtain ⟨key', -, hx⟩ := List.mem_flatMap.1 htold
        cases (isAside_obituary h key' _ hx).1
      · simp at htold
    | _ => simp at htold

/-- The other calls stay where they are. -/
lemma Proceeds.calls_of_ne (hp : h.Proceeds id call action told h') {id' : CallId} (hne : id ≠ id') :
    h'.calls.get? id' = h.calls.get? id' := by
  cases hp with
  | relieved | refused | registered | joined | spared | missed | left | ended =>
    exact (Table.get?_erase _ _ _).trans (if_neg hne)
  | _ => exact Table.get?_put_ne _ hne _

lemma Conducts.calls_of_ne (hc : Conducts h action told h') (hne : h.caller? action ≠ some id) :
    h'.calls.get? id = h.calls.get? id := by
  have hne : ∀ {caller}, h.caller? action = some caller → caller ≠ id := by
    rintro caller hcaller rfl
    exact hne hcaller
  cases hc with
  | opened | halted => exact Table.get?_put_ne _ (hne rfl) _
  | turnedAway => exact (Table.get?_erase _ _ _).trans (if_neg (hne rfl))
  | proceeded hcall hp => exact hp.calls_of_ne (hne hp.caller)

/-- A step that is none of a call leaves the calls and what they count alone. -/
structure Ignores (h h' : Hub P) : Prop where
  calls_eq : h'.calls = h.calls
  made_eq : h'.made = h.made
  issued_eq : h'.issued = h.issued
  stopped_eq : h'.stopped = h.stopped

theorem Ignores.of_step {out : Outcome P} (h' : h.step action = some out)
    (hcall : action.isCall = false) : Ignores h out.1 := by
  cases action with
  | start | resume | expire | signal => cases hcall
  | locate | clear =>
    cases h'
    exact ⟨rfl, rfl, rfl, rfl⟩
  | record =>
    obtain ⟨a, -, h'⟩ := Option.bind_eq_some_iff.1 h'
    cases h'
    exact ⟨rfl, rfl, rfl, rfl⟩
  | ingest | populate | receive | hangUp | send | endStream =>
    obtain ⟨r, ingested, hr, hf, rfl⟩ := within_eq_some h'
    exact ⟨rfl, rfl, rfl, rfl⟩

/-- A call stays where it is until it makes a step of its own. -/
lemma calls_of_step_ne {out : Outcome P} (hstep : h.step action = some out) {id : CallId}
    (hne : h.caller? action ≠ some id) : out.1.calls.get? id = h.calls.get? id := by
  by_cases hcall : action.isCall = true
  · exact (Conducts.of_step hstep hcall).calls_of_ne hne
  · rw [(Ignores.of_step hstep (eq_false_of_ne_true hcall)).calls_eq]

/-- A call that is under way after a step of a call stood where it stands, was made by the step, or went
on from some place. -/
lemma Conducts.came (hc : Conducts h action told h') (hcall' : h'.calls.get? id = some call') :
    h.calls.get? id = some call' ∨
      (id = h.made ∧ ∃ request, action = .start request ∧ call' = request.opening ∧
        ∀ key checkpoint, request = .subscribe key checkpoint → h.stopped = false) ∨
      ∃ call, h.calls.get? id = some call ∧ h.Proceeds id call action told h' ∧
        h.Leads call call' := by
  by_cases hcaller : h.caller? action = some id
  · cases hc with
    | opened _ hrunning =>
      cases hcaller
      cases (Table.get?_put_self ..).symm.trans hcall'
      exact .inr (.inl ⟨rfl, _, rfl, rfl, hrunning⟩)
    | turnedAway =>
      cases hcaller
      cases ((Table.get?_erase ..).trans (if_pos rfl)).symm.trans hcall'
    | halted =>
      cases hcaller
      cases (Table.get?_put_self ..).symm.trans hcall'
      exact .inr (.inl ⟨rfl, _, rfl, rfl, fun _ _ h => by cases h⟩)
    | proceeded hcall hp =>
      cases hcaller.symm.trans hp.caller
      exact .inr (.inr ⟨_, hcall, hp, hp.leads hcall'⟩)
  · exact .inl ((hc.calls_of_ne hcaller).symm.trans hcall')

/-- The same of every step. -/
lemma came_of_step (hstep : h.step action = some (h', told)) (hcall' : h'.calls.get? id = some call') :
    h.calls.get? id = some call' ∨
      (id = h.made ∧ ∃ request, action = .start request ∧ call' = request.opening ∧
        ∀ key checkpoint, request = .subscribe key checkpoint → h.stopped = false) ∨
      ∃ call, h.calls.get? id = some call ∧ h.Proceeds id call action told h' ∧
        h.Leads call call' := by
  by_cases hcall : action.isCall = true
  · exact (Conducts.of_step hstep hcall).came hcall'
  · rw [(Ignores.of_step hstep (eq_false_of_ne_true hcall)).calls_eq] at hcall'
    exact .inl hcall'

/-- A call in a place of some kind was so before, if no request opens there and no step leads there from
elsewhere. -/
lemma call_before {p : Call → Bool} (hstep : h.step action = some (h', told))
    (hopens : ∀ request : Request, (∀ key checkpoint, request = .subscribe key checkpoint →
      h.stopped = false) → p request.opening = false)
    (hleads : ∀ {call call'}, h.Leads call call' → p call' = true → p call = true)
    (hcall' : h'.calls.get? id = some call') (hp : p call' = true) :
    ∃ call, h.calls.get? id = some call ∧ p call = true := by
  rcases came_of_step hstep hcall' with hcall | ⟨-, request, -, rfl, hrunning⟩ | ⟨call, hcall, -, hled⟩
  · exact ⟨call', hcall, hp⟩
  · cases (hopens request hrunning).symm.trans hp
  · exact ⟨call, hcall, hleads hled hp⟩

/-- Only a request counts as a call that was made. -/
lemma Conducts.made_eq (hc : Conducts h action told h') :
    h'.made = h.made + action.request?.elim 0 fun _ => 1 := by
  cases hc with
  | opened | turnedAway | halted => rfl
  | proceeded _ hp => cases hp <;> rfl

lemma made_of_step (hstep : h.step action = some (h', told)) :
    h'.made = h.made + action.request?.elim 0 fun _ => 1 := by
  by_cases hcall : action.isCall = true
  · exact (Conducts.of_step hstep hcall).made_eq
  · rw [(Ignores.of_step hstep (eq_false_of_ne_true hcall)).made_eq]
    cases action <;> first | rfl | exact absurd rfl hcall

/-- Only calls tell about calls and about the hub as a whole. -/
lemma Changes.isCall_of_told (hc : Changes h action told h') {x : Fact P} (hx : x ∈ told)
    (hteller : x.teller? = some .call) : action.isCall = true := by
  have := hc.told_by hx
  rwa [hteller] at this

/-- What becomes of the calls in one step, and who is answered. -/
inductive Transfers (h : Hub P) (action : Action P) (told : List (Fact P)) (h' : Hub P) : Prop where
  | idle :
    h'.calls = h.calls → h'.made = h.made → action.request? = none →
    (∀ id, told.filterMap (Fact.reply? id) = []) → Transfers h action told h'
  | opened {request} {call : Call} :
    h'.calls = h.calls.put h.made call → h'.made = h.made + 1 →
    action.request? = some request → call.Serves request →
    (∀ id, told.filterMap (Fact.reply? id) = []) → Transfers h action told h'
  /-- A subscriber comes after the hub was stopped. -/
  | turnedAway {key checkpoint} :
    h'.calls = h.calls.erase h.made → h'.made = h.made + 1 →
    action = .start (.subscribe key checkpoint) → h.stopped = true →
    (∀ id, told.filterMap (Fact.reply? id) =
      if h.made = id then [.refused .stopped] else []) → Transfers h action told h'
  | moved {id : CallId} {call call' : Call} :
    h.calls.get? id = some call → h'.calls = h.calls.put id call' → h'.made = h.made →
    action.request? = none → (∀ request, call.Serves request → call'.Serves request) →
    (∀ id, told.filterMap (Fact.reply? id) = []) → Transfers h action told h'
  | answered {id : CallId} {call : Call} {reply : Reply} :
    h.calls.get? id = some call → h'.calls = h.calls.erase id → h'.made = h.made →
    action = .resume id → (∀ request, call.Serves request → request.Admits reply) →
    (∀ id', told.filterMap (Fact.reply? id') = if id = id' then [reply] else []) →
    Transfers h action told h'

/-- A reason to refuse a call is a reply to its request. -/
lemma Refuses.admits {call : Call} {failure : WatchFailure} (hr : h.Refuses call failure)
    {request : Request} (hserves : call.Serves request) : request.Admits (.refused failure) := by
  cases hr <;> obtain rfl := hserves
  · exact .inr (.inl rfl)
  · exact .inr (.inr rfl)
  · exact .inr (.inr rfl)
  · exact .inr (.inl rfl)
  · exact .inr (.inr rfl)

/-- Only an answer is an answer. -/
lemma reply?_append_returned {asides : List (Fact P)}
    (hasides : ∀ id reply, Fact.returned id reply ∉ asides) (id : CallId) (reply : Reply)
    (id' : CallId) :
    (asides ++ [Fact.returned id reply]).filterMap (Fact.reply? id') =
      if id = id' then [reply] else [] := by
  rw [List.filterMap_append, Fact.reply?_eq_nil fun reply => hasides id' reply, List.nil_append]
  by_cases heq : id = id' <;> simp [Fact.reply?, heq]

/-- An answer that follows another fact. -/
lemma reply?_pair {x : Fact P} (hx : ∀ id, x.reply? id = none) (id : CallId) (reply : Reply)
    (id' : CallId) :
    [x, .returned id reply].filterMap (Fact.reply? id') = if id = id' then [reply] else [] := by
  rw [List.filterMap_cons_none (hx id')]
  exact reply?_append_returned (fun _ _ => List.not_mem_nil) id reply id'

lemma not_returned_obituary (h : Hub P) (key : Key) (id : CallId) (reply : Reply) :
    Fact.returned id reply ∉ h.obituary key := by
  unfold obituary
  split
  · split <;> simp
  · exact List.not_mem_nil

/-- A shutdown can be answered with its success, or that its grace was exceeded. -/
lemma serves_closing {request : Request} (h : request = .shutdown ∨ request = .guard)
    {left : List Key} {drained : Nat} {reply : Reply}
    (hreply : reply = .stopped ∨ ∃ grace stuck, reply = .failed (.graceExceeded grace stuck)) :
    (Call.closing left drained reply).Serves request := by
  refine ⟨h, ?_⟩
  rcases h with rfl | rfl <;> exact hreply

/-- A call that goes on still serves its request, or it answers it. -/
lemma Proceeds.transfers (hp : h.Proceeds id call action told h')
    (hcall : h.calls.get? id = some call) : Transfers h action told h' := by
  have hnone : ∀ id reply, .returned id reply ∉ ([] : List (Fact P)) := fun _ _ => List.not_mem_nil
  have hquiet : ∀ id, ([] : List (Fact P)).filterMap (Fact.reply? id) = [] := fun _ => rfl
  cases hp with
  | signalled => exact .moved hcall rfl rfl rfl (fun _ h => .inr h) fun _ => rfl
  | relieved =>
    refine .answered hcall rfl rfl rfl (fun _ h => ?_) (reply?_append_returned hnone _ _)
    obtain rfl := h
    exact .inl rfl
  | refused hrefuses =>
    exact .answered hcall rfl rfl rfl (fun _ h => hrefuses.admits h)
      (reply?_append_returned hnone _ _)
  | registered =>
    refine .answered hcall rfl rfl rfl (fun _ h => ?_)
      (reply?_pair (fun _ => rfl) _ _)
    obtain rfl := h
    exact .inl rfl
  | found | led => exact .moved hcall rfl rfl rfl (fun _ h => h) hquiet
  | brokeDown => exact .moved hcall rfl rfl rfl (fun _ h => ⟨_, _, h⟩) hquiet
  | @joined key handle checkpoint r _ hr =>
    refine @Transfers.answered P h _ _ _ id _ (.subscribed handle) hcall rfl rfl rfl (fun _ h => ?_)
      fun id' => ?_
    · obtain rfl := h
      exact .inl ⟨handle, rfl⟩
    · have hprune : r.audience.prune.2.filterMap (Fact.reply? id') = [] := by
        refine Fact.reply?_eq_nil fun reply hx => ?_
        obtain ⟨_, hx | hx⟩ := Audience.mem_prune hx <;> cases hx
      rw [List.filterMap_append, hprune, List.nil_append]
      exact reply?_pair (fun _ => rfl) _ _ id'
  | spared | missed =>
    refine .answered hcall rfl rfl rfl (fun _ h => ?_) (reply?_append_returned hnone _ _)
    obtain rfl := h
    rfl
  | left =>
    refine .answered hcall rfl rfl rfl (fun _ h => ?_) (reply?_append_returned ?_ _ _)
    · obtain rfl := h
      rfl
    · intro id' reply hx
      obtain ⟨_, hx | hx | hx⟩ := Audience.mem_remove hx <;> cases hx
  | drained | passed => exact .moved hcall rfl rfl rfl (fun _ h => h) hquiet
  | awaitedAll =>
    exact .moved hcall rfl rfl rfl (fun _ h => serves_closing h (.inl rfl)) hquiet
  | awaited =>
    exact .moved hcall rfl rfl rfl (fun _ h => h) fun id =>
      Fact.reply?_eq_nil (not_returned_obituary h _ id)
  | expired =>
    refine .moved hcall rfl rfl rfl (fun _ h => serves_closing h (.inl rfl)) fun id =>
      Fact.reply?_eq_nil fun reply hx => ?_
    obtain ⟨key, -, hx⟩ := List.mem_flatMap.1 hx
    exact not_returned_obituary h key id reply hx
  | aborted =>
    refine .moved hcall rfl rfl rfl (fun _ h => serves_closing h (.inr ⟨_, _, rfl⟩)) fun id =>
      Fact.reply?_eq_nil fun reply hx => ?_
    rcases List.mem_append.1 hx with hx | hx
    · obtain ⟨key, -, hx⟩ := List.mem_flatMap.1 hx
      exact not_returned_obituary h key id reply hx
    · simp at hx
  | closed =>
    refine .moved hcall rfl rfl rfl (fun _ h => h) fun id => Fact.reply?_eq_nil fun reply hx => ?_
    obtain ⟨_, hx⟩ := Audience.mem_closeAll hx
    cases hx
  | ended =>
    exact .answered hcall rfl rfl rfl (fun _ h => h.2)
      (reply?_pair (fun _ => rfl) _ _)

/-- Every step of a call does one of these things to the calls. -/
theorem Conducts.transfers (hc : Conducts h action told h') : Transfers h action told h' := by
  cases hc with
  | opened => exact .opened rfl rfl rfl (Request.serves_opening _) fun _ => rfl
  | turnedAway hstopped =>
    exact .turnedAway rfl rfl rfl hstopped
      (reply?_append_returned (fun _ _ => List.not_mem_nil) _ _)
  | halted => exact .opened rfl rfl rfl (.inl rfl) fun _ => rfl
  | proceeded hcall hp => exact hp.transfers hcall

/-- Every step of a sound hub does one of these things to the calls. -/
theorem Sound.transfers (hs : h.Sound) (hstep : h.step action = some (h', told)) :
    Transfers h action told h' := by
  by_cases hcall : action.isCall = true
  · exact (Conducts.of_step hstep hcall).transfers
  · have hignores := Ignores.of_step hstep (eq_false_of_ne_true hcall)
    refine .idle hignores.calls_eq hignores.made_eq ?_ fun id => Fact.reply?_eq_nil fun reply hx => ?_
    · cases action with
      | start => exact absurd rfl hcall
      | _ => rfl
    · exact hcall ((hs.changes hstep).told_by hx)

/-- Where a request stands: not made yet, in progress, or answered. -/
inductive Stands : Option Request → Option Call → List Reply → Prop where
  | unmade : Stands none none []
  | inProgress {request call} : call.Serves request → Stands (some request) (some call) []
  | answered {request reply} : request.Admits reply → Stands (some request) none [reply]

/-- Every call is in progress for its request or was answered once. -/
structure Served (actions : List (Action P)) (facts : List (Fact P)) (h : Hub P) : Prop where
  made_eq : h.made = (requests actions).length
  stands : ∀ id, Stands (requests actions)[id]? (h.calls.get? id) (facts.filterMap (Fact.reply? id))

lemma Served.new (config : HubConfig) : (Hub.new config : Hub P).Served [] [] where
  made_eq := rfl
  stands _ := .unmade

variable {actions : List (Action P)} {facts : List (Fact P)}

/-- A call in progress serves a request that was made. -/
lemma Served.serves (hd : h.Served actions facts) {id : CallId} {call : Call}
    (hcall : h.calls.get? id = some call) :
    ∃ request, (requests actions)[id]? = some request ∧ call.Serves request ∧
      facts.filterMap (Fact.reply? id) = [] := by
  have hstands := hd.stands id
  rw [hcall] at hstands
  generalize hrequest : (requests actions)[id]? = request at hstands
  generalize hreplies : facts.filterMap (Fact.reply? id) = replies at hstands
  cases hstands with
  | inProgress hserves => exact ⟨_, rfl, hserves, rfl⟩

/-- A call that was not made yet is in no place. -/
lemma Served.unmade (hd : h.Served actions facts) {id : CallId} (hid : h.made ≤ id) :
    h.calls.get? id = none ∧ facts.filterMap (Fact.reply? id) = [] := by
  have hstands := hd.stands id
  rw [List.getElem?_eq_none (hd.made_eq ▸ hid)] at hstands
  generalize h.calls.get? id = call at hstands
  generalize facts.filterMap (Fact.reply? id) = replies at hstands
  cases hstands
  exact ⟨rfl, rfl⟩

/-- An answer is one that the request admits, and the call is over. -/
lemma Served.answered (hd : h.Served actions facts) {id : CallId} {reply : Reply}
    (hreply : .returned id reply ∈ facts) :
    ∃ request, (requests actions)[id]? = some request ∧ request.Admits reply ∧
      h.calls.get? id = none ∧ facts.filterMap (Fact.reply? id) = [reply] := by
  have hstands := hd.stands id
  have hmem := Fact.mem_reply.2 hreply
  generalize (requests actions)[id]? = request at hstands
  generalize h.calls.get? id = call at hstands
  generalize facts.filterMap (Fact.reply? id) = replies at hstands hmem
  cases hstands with
  | unmade | inProgress => cases hmem
  | answered hadmits =>
    cases List.mem_singleton.1 hmem
    exact ⟨_, rfl, hadmits, rfl, rfl⟩

/-- A request that was made is in progress or was answered. -/
lemma Served.progress (hd : h.Served actions facts) {id : CallId} {request : Request}
    (hrequest : (requests actions)[id]? = some request) :
    (∃ call, h.calls.get? id = some call ∧ call.Serves request) ∨
      ∃ reply, .returned id reply ∈ facts := by
  have hstands := hd.stands id
  rw [hrequest] at hstands
  generalize hcall : h.calls.get? id = call at hstands
  generalize hreplies : facts.filterMap (Fact.reply? id) = replies at hstands
  cases hstands with
  | inProgress hserves => exact .inl ⟨_, rfl, hserves⟩
  | @answered _ reply =>
    exact .inr ⟨reply, Fact.mem_reply.1 (hreplies ▸ List.mem_singleton.2 rfl)⟩

/-- The requests after a step that makes none. -/
lemma requests_of_none (hrequest : action.request? = none) :
    requests (actions ++ [action]) = requests actions := by
  simp [requests, hrequest]

lemma requests_of_some {request : Request} (hrequest : action.request? = some request) :
    requests (actions ++ [action]) = requests actions ++ [request] := by
  simp [requests, hrequest]

/-- After one more request, the other ones are still there. -/
lemma Served.getElem?_concat (hd : h.Served actions facts) (request : Request) (id : CallId) :
    (requests actions ++ [request])[id]? =
      if h.made = id then some request else (requests actions)[id]? := by
  rw [hd.made_eq, List.getElem?_append]
  split
  · rename_i hlt
    rw [if_neg (Nat.ne_of_gt hlt)]
  · rename_i hge
    by_cases heq : (requests actions).length = id
    · simp [heq]
    · rw [if_neg heq, List.getElem?_eq_none (l := requests actions) (Nat.le_of_not_lt hge),
        List.getElem?_eq_none]
      exact Nat.sub_pos_of_lt (Nat.lt_of_le_of_ne (Nat.le_of_not_lt hge) heq)

/-- A step leaves the other requests where they stand. -/
theorem Served.step (hd : h.Served actions facts) (ht : Transfers h action told h') :
    h'.Served (actions ++ [action]) (facts ++ told) := by
  cases ht with
  | idle hcalls hmade hnone hquiet =>
    refine ⟨by rw [hmade, requests_of_none hnone, hd.made_eq], fun id => ?_⟩
    rw [hcalls, requests_of_none hnone, List.filterMap_append, hquiet, List.append_nil]
    exact hd.stands id
  | @opened request call hcalls hmade hsome hserves hquiet =>
    refine ⟨by simp [hmade, requests_of_some hsome, hd.made_eq], fun id => ?_⟩
    rw [hcalls, requests_of_some hsome, hd.getElem?_concat, List.filterMap_append, hquiet,
      List.append_nil]
    by_cases heq : h.made = id
    · subst heq
      rw [Table.get?_put_self, if_pos rfl, (hd.unmade (Nat.le_refl _)).2]
      exact .inProgress hserves
    · rw [Table.get?_put_ne _ heq, if_neg heq]
      exact hd.stands id
  | @turnedAway key checkpoint hcalls hmade haction _ htold =>
    have hsome : action.request? = some (.subscribe key checkpoint) := by rw [haction]; rfl
    refine ⟨by simp [hmade, requests_of_some hsome, hd.made_eq], fun id => ?_⟩
    rw [hcalls, requests_of_some hsome, hd.getElem?_concat, List.filterMap_append, htold,
      Table.get?_erase]
    by_cases heq : h.made = id
    · subst heq
      rw [if_pos rfl, if_pos rfl, if_pos rfl, (hd.unmade (Nat.le_refl _)).2]
      exact .answered (.inr (.inl rfl))
    · rw [if_neg heq, if_neg heq, if_neg heq, List.append_nil]
      exact hd.stands id
  | @moved id call call' hcall hcalls hmade hnone hserves hquiet =>
    refine ⟨by rw [hmade, requests_of_none hnone, hd.made_eq], fun id' => ?_⟩
    rw [hcalls, requests_of_none hnone, List.filterMap_append, hquiet, List.append_nil]
    by_cases heq : id = id'
    · subst heq
      obtain ⟨request, hrequest, hserves', hreplies⟩ := hd.serves hcall
      rw [Table.get?_put_self, hrequest, hreplies]
      exact .inProgress (hserves request hserves')
    · rw [Table.get?_put_ne _ heq]
      exact hd.stands id'
  | @answered id call reply hcall hcalls hmade haction hadmits htold =>
    have hnone : action.request? = none := by rw [haction]; rfl
    refine ⟨by rw [hmade, requests_of_none hnone, hd.made_eq], fun id' => ?_⟩
    rw [hcalls, requests_of_none hnone, List.filterMap_append, htold, Table.get?_erase]
    by_cases heq : id = id'
    · subst heq
      obtain ⟨request, hrequest, hserves, hreplies⟩ := hd.serves hcall
      rw [if_pos rfl, if_pos rfl, hrequest, hreplies]
      exact .answered (hadmits request hserves)
    · rw [if_neg heq, if_neg heq, List.append_nil]
      exact hd.stands id'

theorem Reached.served {config : HubConfig} (hr : Reached config actions facts h) :
    h.Served actions facts := by
  induction hr with
  | new => exact .new config
  | step hr hstep ih => exact ih.step (hr.sound.transfers hstep)

variable {config : HubConfig} {reply : Reply}

lemma Reached.not_called (hr : Reached config actions facts h) : h.calls.get? h.made = none :=
  (hr.served.unmade (Nat.le_refl _)).1

/-- A call under way goes on by a rule for the place where it stands. -/
lemma Reached.proceeds (hr : Reached config actions facts h)
    (hstep : h.step action = some (h', told)) (hcaller : h.caller? action = some id)
    (hcall : h.calls.get? id = some call) : h.Proceeds id call action told h' :=
  (Conducts.of_step hstep (isCall_of_caller hcaller)).proceeds hcaller hcall hr.not_called

/-- An answer is given at once to who comes too late, or by a step of the call that serves the
request. -/
lemma Reached.answered_by (hr : Reached config actions facts h)
    (hstep : h.step action = some (h', told)) (hreply : .returned id reply ∈ told) :
    (id = h.made ∧ h.stopped = true ∧ (∃ key checkpoint, action = .start (.subscribe key checkpoint)) ∧
        reply = .refused .stopped) ∨
      (action = .resume id ∧ ∃ request call, (requests actions)[id]? = some request ∧
        h.calls.get? id = some call ∧ call.Serves request ∧ request.Admits reply) := by
  have hmem := Fact.mem_reply.2 hreply
  cases hr.sound.transfers hstep with
  | idle _ _ _ hquiet | opened _ _ _ _ hquiet | moved _ _ _ _ _ hquiet =>
    rw [hquiet] at hmem
    cases hmem
  | turnedAway _ _ haction hstopped htold =>
    rw [htold] at hmem
    split at hmem
    · exact .inl ⟨(‹_› : _ = id).symm, hstopped, ⟨_, _, haction⟩, List.mem_singleton.1 hmem⟩
    · cases hmem
  | @answered id' call reply' hcall _ _ haction hadmits htold =>
    rw [htold] at hmem
    split at hmem
    · rename_i heq
      subst heq
      cases List.mem_singleton.1 hmem
      obtain ⟨request, hrequest, hserves, -⟩ := hr.served.serves hcall
      exact .inr ⟨haction, request, call, hrequest, hcall, hserves, hadmits request hserves⟩
    · cases hmem

/-- Whether the place where a call stands fits the room that a hub was set to give to each queue. -/
def Fits (config : HubConfig) : Call → Prop
  | .broken message => Room.breakdown? config.queueRoom = some message
  | .joining .. => Room.breakdown? config.queueRoom = none
  | _ => True

lemma Reached.fits (hr : Reached config actions facts h) (hcall : h.calls.get? id = some call) :
    Fits config call := by
  induction hr with
  | new => cases hcall
  | @step actions past h action h' told hr hstep ih =>
    rcases came_of_step hstep hcall with hcall | ⟨-, request, -, hopens, -⟩ | ⟨call, -, -, hled⟩
    · exact ih hcall
    · cases request <;> cases hopens <;> trivial
    · cases hled with
      | breaks hroom => exact hr.config_eq ▸ hroom
      | finds _ hroom => exact hr.config_eq ▸ hroom
      | _ => trivial

/-- A call has broken down as no queue is as large as the hub was set to make it. -/
lemma Reached.breakdown_eq (hr : Reached config actions facts h) {message : String}
    (hcall : h.calls.get? id = some (.broken message)) :
    Room.breakdown? config.queueRoom = some message :=
  hr.fits hcall

/-- Whoever is about to join has got a queue. -/
lemma Reached.breakdown_eq_none (hr : Reached config actions facts h) {key : Key} {handle : Handle}
    {checkpoint : Option Version} (hcall : h.calls.get? id = some (.joining key handle checkpoint)) :
    Room.breakdown? config.queueRoom = none :=
  hr.fits hcall

/-- A request keeps its number. -/
lemma getElem?_requests {request : Request} (h : (requests actions)[id]? = some request)
    (more : List (Action P)) : (requests (actions ++ more))[id]? = some request := by
  rw [requests_append, List.getElem?_append_left (List.getElem?_eq_some_iff.1 h).1, h]

/-- Whoever asked to register is answered when it tries to. -/
lemma Reached.register_answered (hr : Reached config actions facts h)
    (hstep : h.step action = some (h', told)) (hreply : .returned id reply ∈ told) {key : Key}
    {observer : ObserverRef}
    (hrequest : (requests (actions ++ [action]))[id]? = some (.register key observer)) :
    h.calls.get? id = some (.registering key observer) ∧ action = .resume id ∧
      (h', told) = h.register id key observer := by
  rcases hr.answered_by hstep hreply with ⟨rfl, -, ⟨key', checkpoint, rfl⟩, -⟩ |
    ⟨rfl, request, call, hrequest', hcall, hserves, -⟩
  · rw [requests_of_some rfl, hr.served.getElem?_concat, if_pos rfl] at hrequest
    cases hrequest
  · cases hrequest.symm.trans (getElem?_requests hrequest' _)
    cases call <;>
      simp only [Call.Serves, reduceCtorEq, or_self, false_and, exists_false] at hserves
    cases hserves
    refine ⟨hcall, rfl, ?_⟩
    simp only [Hub.step, Hub.resume, hcall, Option.some.injEq] at hstep
    exact hstep.symm

/-- Whoever asked to subscribe is answered at once if it comes too late, when it looks for the
registration, or when it joins. -/
lemma Reached.subscribe_answered (hr : Reached config actions facts h)
    (hstep : h.step action = some (h', told)) (hreply : .returned id reply ∈ told) {key : Key}
    {checkpoint : Option Version}
    (hrequest : (requests (actions ++ [action]))[id]? = some (.subscribe key checkpoint)) :
    (id = h.made ∧ h.stopped = true ∧ reply = .refused .stopped) ∨
      (h.calls.get? id = some (.finding key checkpoint) ∧
        (h', told) = h.find id key checkpoint) ∨
      ∃ handle, h.calls.get? id = some (.joining key handle checkpoint) ∧
        (h', told) = h.join id key handle checkpoint := by
  rcases hr.answered_by hstep hreply with ⟨hid, hstopped, -, hrefused⟩ |
    ⟨rfl, request, call, hrequest', hcall, hserves, -⟩
  · exact .inl ⟨hid, hstopped, hrefused⟩
  · cases hrequest.symm.trans (getElem?_requests hrequest' _)
    cases call <;> simp only [Call.Serves, reduceCtorEq, or_self, false_and] at hserves
    all_goals simp only [Hub.step, Hub.resume, hcall, Option.some.injEq, reduceCtorEq] at hstep
    · cases hserves
      exact .inr (.inl ⟨hcall, hstep.symm⟩)
    · cases hserves
      exact .inr (.inr ⟨_, hcall, hstep.symm⟩)

end Hub

end WatchHub
