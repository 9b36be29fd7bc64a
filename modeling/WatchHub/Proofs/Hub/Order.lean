import Mathlib.Data.List.Nodup
import WatchHub.Proofs.Hub.Publication

/-!
# The order of what is published

A log numbers its entries, so the versions of one log increase. As long as the logs are not wiped a
key has one log and all its live events come in the order of their versions (`Hub.Reached.ascending`);
and no event is published twice if the logs of the key have epochs of their own
(`EventLog.Ledger.nodup_ingestion`).
-/

namespace WatchHub

variable {P : Type}

namespace Version

/-- Within an epoch the sequence numbers decide. -/
lemma compare_of_epoch_eq {v w : Version} (h : v.epoch = w.epoch) :
    compare v w = compare v.seq w.seq := by
  change (compare v.epoch w.epoch).then (compare v.seq w.seq) = _
  have heq : compare v.epoch w.epoch = .eq := by
    rw [h]
    exact Std.ReflCmp.compare_self
  rw [heq]
  rfl

end Version

lemma pairwise_numbered (epoch : UInt64) (events : List (Event P)) :
    ((numbered epoch events).map Entry.version).Pairwise fun v w => compare v w = .lt := by
  rw [map_version_numbered, List.pairwise_map]
  refine (List.pairwise_lt_range' 1).imp fun {i j} hlt => ?_
  have hseq : compare i j = .lt := Nat.compare_eq_lt.2 hlt
  rw [← hseq]
  exact Version.compare_of_epoch_eq rfl

lemma nodup_numbered (epoch : UInt64) (events : List (Event P)) :
    ((numbered epoch events).map Entry.delivery).Nodup := by
  have hpairwise := pairwise_numbered epoch events
  rw [List.pairwise_map] at hpairwise
  refine List.pairwise_map.2 (hpairwise.imp fun {a b} hlt heq => ?_)
  have hversion : a.version = b.version :=
    Option.some.inj (congrArg Delivery.version heq)
  rw [hversion, Version.compare_of_epoch_eq rfl, Nat.compare_eq_lt] at hlt
  exact Nat.lt_irrefl _ hlt

/-- A view that sees less sees a part of what is seen. -/
lemma filterMap_sublist_filterMap {A B : Type} {f g : A → Option B} {l : List A}
    (h : ∀ x ∈ l, ∀ b, f x = some b → g x = some b) : (l.filterMap f).Sublist (l.filterMap g) := by
  induction l with
  | nil => exact .slnil
  | cons x l ih =>
    have hl := ih fun y hy => h y (List.mem_cons_of_mem x hy)
    rw [List.filterMap_cons, List.filterMap_cons]
    cases hf : f x with
    | some b =>
      rw [h x List.mem_cons_self b hf]
      exact hl.cons_cons b
    | none =>
      cases g x with
      | some b => exact hl.cons b
      | none => exact hl

open WatchHub.Fact (Owns opening? record? ingestion? emission?)

namespace Fact

/-- What the ingest of a key added to one log is among the records of this log. -/
lemma ingestion?_sublist {key : Key} {id : LogId} {facts : List (Fact P)}
    (h : ∀ event version id', .logged key .ingest id' event version ∈ facts → id' = id) :
    (facts.filterMap (ingestion? key)).Sublist
      ((facts.filterMap (record? id)).map Entry.delivery) := by
  rw [List.map_filterMap]
  refine filterMap_sublist_filterMap fun x hx d hd => ?_
  obtain ⟨id', event, version, rfl, rfl⟩ := ingestion?_eq_some hd
  rw [record?, if_pos (h event version id' hx), Option.map_some]
  rfl

end Fact

namespace EventLog

variable {facts : List (Fact P)} {l : EventLog P} {key : Key}

/-- Different logs of a key have different epochs. -/
def Apart (facts : List (Fact P)) (key : Key) : Prop :=
  ∀ (id id' : LogId) (epoch : UInt64), (facts.filterMap opening?)[id]? = some (key, epoch) →
    (facts.filterMap opening?)[id']? = some (key, epoch) → id = id'

/-- A key with one log has no two logs with the same epoch. -/
lemma Undivided.apart (hu : l.Undivided facts) (key : Key) : Apart facts key := by
  intro id id' epoch h h'
  have hcurrent := hu key id ⟨epoch, h⟩
  rw [hu key id' ⟨epoch, h'⟩] at hcurrent
  exact (Option.some.inj hcurrent).symm

/-- A log of a key is the numbered history of what was added to it. -/
lemma Ledger.records (hl : l.Ledger facts) {id : LogId} (hown : Owns facts key id) :
    ∃ epoch events, (facts.filterMap opening?)[id]? = some (key, epoch) ∧
      l.logAt id = .retaining l.capacity epoch events ∧
      facts.filterMap (record? id) = numbered epoch events := by
  obtain ⟨epoch, hopening⟩ := hown
  obtain ⟨events, hlog, hrecords⟩ := hl.kept hopening
  exact ⟨epoch, events, hopening, hlog, hrecords⟩

/-- An event that was logged has the epoch of its log and its place in it. -/
lemma Ledger.logged_at (hl : l.Ledger facts) {writer : Writer} {id : LogId} {event : Event P}
    {version : Version} (h : .logged key writer id event version ∈ facts) :
    (facts.filterMap opening?)[id]? = some (key, version.epoch) ∧
      (⟨event, version⟩ : Entry P) ∈ facts.filterMap (record? id) := by
  obtain ⟨epoch, events, hopening, -, hrecords⟩ := hl.records (hl.logged h)
  have hmem : (⟨event, version⟩ : Entry P) ∈ facts.filterMap (record? id) :=
    List.mem_filterMap.2 ⟨_, h, if_pos rfl⟩
  refine ⟨?_, hmem⟩
  rw [hrecords, mem_numbered] at hmem
  rw [hmem.1, hopening]

/-- Whatever is in a log of a key was told to be added to it. -/
lemma Ledger.logged_of_record (hl : l.Ledger facts) {id : LogId} (hown : Owns facts key id)
    {e : Entry P} (he : e ∈ facts.filterMap (record? id)) :
    ∃ writer, .logged key writer id e.event e.version ∈ facts := by
  obtain ⟨x, hx, hview⟩ := List.mem_filterMap.1 he
  cases x with
  | logged k writer i event version =>
    by_cases hi : i = id
    · subst hi
      rw [record?, if_pos rfl] at hview
      cases hview
      obtain rfl := (hl.logged hx).key_eq hown
      exact ⟨writer, hx⟩
    · simp [record?, hi] at hview
  | _ => cases hview

/-- If its logs have epochs of their own, the ingest of a key logs nothing under the same version
twice. -/
theorem Ledger.nodup_ingestion (hl : l.Ledger facts) (hapart : Apart facts key) :
    (facts.filterMap (ingestion? key)).Nodup := by
  refine List.nodup_iff_sublist.2 fun d hd => ?_
  obtain ⟨twice, hsub, htwice⟩ := List.sublist_filterMap_iff.1 hd
  -- Both facts tell of the version of `d`, so they are about the log with its epoch.
  have hall : ∀ x ∈ twice, ∀ d', ingestion? key x = some d' → d' = d := by
    intro x hx d' hd'
    have hmem : d' ∈ [d, d] := htwice ▸ List.mem_filterMap.2 ⟨x, hx, hd'⟩
    simpa using hmem
  obtain ⟨x, hx, hxd⟩ := List.mem_filterMap.1 (htwice ▸ List.mem_cons_self : d ∈ _)
  obtain ⟨id, event, version, rfl, rfl⟩ := Fact.ingestion?_eq_some hxd
  have hid := (hl.logged_at (hsub.subset hx)).1
  have hrecorded : ∀ event' version' id',
      .logged key .ingest id' event' version' ∈ twice → id' = id := by
    intro event' version' id' hmem
    have heq := hall _ hmem _ (if_pos rfl)
    obtain rfl : version' = version :=
      Option.some.inj (congrArg Delivery.version heq)
    exact hapart _ _ _ (hl.logged_at (hsub.subset hmem)).1 hid
  obtain ⟨epoch, events, -, -, hrecords⟩ := hl.records ⟨_, hid⟩
  have htwo : [Delivery.versioned event version, .versioned event version].Sublist
      ((numbered epoch events).map Entry.delivery) := by
    rw [htwice, ← hrecords]
    exact (Fact.ingestion?_sublist hrecorded).trans ((hsub.filterMap _).map _)
  exact List.nodup_iff_sublist.1 (nodup_numbered epoch events) _ htwo

end EventLog

namespace Hub

variable {config : HubConfig} {actions : List (Action P)} {facts : List (Fact P)} {h : Hub P}

/-- If the logs of a key have epochs of their own, no event is fanned out twice. -/
theorem Reached.nodup_emission (hr : Reached config actions facts h) {key : Key}
    (hapart : EventLog.Apart facts key) : (facts.filterMap (emission? key)).Nodup :=
  (hr.booked.ledger.nodup_ingestion hapart).sublist (hr.published.isPrefix key).sublist

/-- As long as the logs are not wiped, the versions of the live events of a key increase. -/
theorem Reached.ascending (hr : Reached config actions facts h) (hu : h.log.Undivided facts)
    (key : Key) :
    ∃ versions : List Version,
      (facts.filterMap (emission? key)).map Delivery.version = versions.map some ∧
        versions.Pairwise fun v w => compare v w = .lt := by
  have hledger := hr.booked.ledger
  have hemitted := (hr.published.isPrefix key).sublist
  cases hfirst : facts.filterMap (ingestion? key) with
  | nil =>
    rw [hfirst, List.sublist_nil] at hemitted
    exact ⟨[], by rw [hemitted]; rfl, .nil⟩
  | cons d rest =>
    have hmem : d ∈ facts.filterMap (ingestion? key) := hfirst ▸ List.mem_cons_self
    obtain ⟨x, hx, hd⟩ := List.mem_filterMap.1 hmem
    obtain ⟨id, event, version, rfl, -⟩ := Fact.ingestion?_eq_some hd
    -- All that the ingest logged is in the log that has its first event.
    have hown := hledger.logged hx
    obtain ⟨epoch, events, -, -, hrecords⟩ := hledger.records hown
    have hone : ∀ event version id', .logged key .ingest id' event version ∈ facts → id' = id := by
      intro event version id' h'
      have hcurrent := hu key id' (hledger.logged h')
      rw [hu key id hown] at hcurrent
      exact (Option.some.inj hcurrent).symm
    have hsub := hemitted.trans (hrecords ▸ Fact.ingestion?_sublist hone)
    obtain ⟨entries, hentries, heq⟩ := List.sublist_map_iff.1 hsub
    refine ⟨entries.map Entry.version, ?_, ?_⟩
    · rw [heq, List.map_map, List.map_map]
      rfl
    · exact (pairwise_numbered epoch events).sublist (hentries.map _)

end Hub

end WatchHub
