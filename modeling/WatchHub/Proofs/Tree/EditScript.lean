import WatchHub.Proofs.Tree.Diff

/-!
# Edit scripts

The events that lead from one scan to another are an edit script, and the shortest one
(`Scan.script_of_diff`): each path is told of once and only if its state is another one, in the order of
the paths, first what is there and then what is not; and each event meets the state that its kind
expects.
-/

namespace WatchHub

/-- The path of the file that an event is about. -/
def Event.path? (e : Event FileState) : Option TreePath :=
  e.payload.map FileState.path

/-- Whether one event is about a path before the path that another one is about. -/
def Event.Precedes (e e' : Event FileState) : Prop :=
  ∃ p ∈ e.path?, ∃ q ∈ e'.path?, p.parts < q.parts

/-- The states of a file differ if its size, its time of modification or its checksum does. -/
lemma FileState.differs_iff {f g : FileState} :
    f.differs g = true ↔ f.size ≠ g.size ∨ f.modified? ≠ g.modified? ∨ f.checksum ≠ g.checksum := by
  simp [differs, or_assoc]

/-- An event tells of the path that it is about, if of any. -/
lemma Event.path?_of_tells {e : Event FileState} {p : TreePath} (h : e.tells? p ≠ none) :
    e.path? = some p := by
  obtain ⟨kind, payload, reason, stamp⟩ := e
  cases payload with
  | none => cases kind <;> exact absurd rfl h
  | some f =>
    have hpath : f.path = p := by
      by_contra hne
      cases kind <;> simp [tells?, hne] at h
    exact congrArg some hpath

namespace Scan

variable {prev cur : Scan} {p : TreePath} {f old : FileState} {e : Event FileState}
  {events : List (Event FileState)}

/-- A file is news if it is new, or if it is there in another state. -/
lemma newsOf_eq_some_iff :
    prev.newsOf f = some e ↔ (e = .added f ∧ prev.get? f.path = none) ∨
      ∃ old, e = .modified f ∧ prev.get? f.path = some old ∧ f.differs old = true := by
  unfold newsOf
  cases prev.get? f.path with
  | none => simp [@eq_comm _ e]
  | some old => by_cases h : f.differs old = true <;> simp [h, @eq_comm _ e]

/-- A file is a loss if it is no longer there. -/
lemma lossOf_eq_some_iff :
    cur.lossOf old = some e ↔ e = .deleted old ∧ cur.get? old.path = none := by
  unfold lossOf
  cases cur.get? old.path <;> simp [@eq_comm _ e]

lemma path?_of_newsOf (h : prev.newsOf f = some e) : e.path? = some f.path := by
  rcases newsOf_eq_some_iff.1 h with ⟨rfl, -⟩ | ⟨_, rfl, -⟩ <;> rfl

lemma path?_of_lossOf (h : cur.lossOf old = some e) : e.path? = some old.path := by
  obtain ⟨rfl, -⟩ := lossOf_eq_some_iff.1 h
  rfl

/-- Events that are told of the files of an ordered scan, each about its own file, come in the order of
the paths. -/
lemma Ordered.pairwise_filterMap {s : Scan} (hs : s.Ordered)
    {tell : FileState → Option (Event FileState)}
    (htell : ∀ f e, tell f = some e → e.path? = some f.path) :
    (s.files.filterMap tell).Pairwise Event.Precedes := by
  refine List.pairwise_filterMap.2 (List.Pairwise.imp ?_ hs)
  intro f g hlt e he e' he'
  exact ⟨f.path, htell f e he, g.path, htell g e' he', hlt⟩

/-- The events that lead from one scan to another, path by path. -/
lemma mem_diff_iff (hprev : prev.Ordered) (hcur : cur.Ordered) :
    e ∈ prev.diff cur ↔
      (∃ f, e = .added f ∧ cur.get? f.path = some f ∧ prev.get? f.path = none) ∨
      (∃ f old, e = .modified f ∧ cur.get? f.path = some f ∧ prev.get? f.path = some old ∧
        f.differs old = true) ∨
      ∃ old, e = .deleted old ∧ prev.get? old.path = some old ∧ cur.get? old.path = none := by
  have hfile : ∀ f, f ∈ cur.files ↔ cur.get? f.path = some f := fun f => by
    simp [hcur.get?_eq_some_iff]
  have hold : ∀ f, f ∈ prev.files ↔ prev.get? f.path = some f := fun f => by
    simp [hprev.get?_eq_some_iff]
  unfold diff
  rw [List.mem_append, List.mem_filterMap, List.mem_filterMap]
  constructor
  · rintro (⟨f, hf, he⟩ | ⟨old, hmem, he⟩)
    · rcases newsOf_eq_some_iff.1 he with ⟨rfl, hnone⟩ | ⟨old, rfl, hget, hdiffers⟩
      · exact .inl ⟨f, rfl, (hfile f).1 hf, hnone⟩
      · exact .inr (.inl ⟨f, old, rfl, (hfile f).1 hf, hget, hdiffers⟩)
    · obtain ⟨rfl, hnone⟩ := lossOf_eq_some_iff.1 he
      exact .inr (.inr ⟨old, rfl, (hold old).1 hmem, hnone⟩)
  · rintro (⟨f, rfl, hf, hnone⟩ | ⟨f, old, rfl, hf, hget, hdiffers⟩ | ⟨old, rfl, hget, hnone⟩)
    · exact .inl ⟨f, (hfile f).2 hf, newsOf_eq_some_iff.2 (.inl ⟨rfl, hnone⟩)⟩
    · exact .inl ⟨f, (hfile f).2 hf, newsOf_eq_some_iff.2 (.inr ⟨old, rfl, hget, hdiffers⟩)⟩
    · exact .inr ⟨old, (hold old).2 hget, lossOf_eq_some_iff.2 ⟨rfl, hnone⟩⟩

/-- Each event that leads from one scan to another is about a path, whose state it tells to be another
one. -/
lemma path?_of_mem_diff (hprev : prev.Ordered) (hcur : cur.Ordered) (he : e ∈ prev.diff cur) :
    ∃ p, e.path? = some p ∧ cur.get? p ≠ prev.get? p := by
  rcases (mem_diff_iff hprev hcur).1 he with
    ⟨f, rfl, hf, hnone⟩ | ⟨f, old, rfl, hf, hget, hdiffers⟩ | ⟨old, rfl, hget, hnone⟩
  · refine ⟨f.path, rfl, ?_⟩
    rw [hf, hnone]
    exact nofun
  · refine ⟨f.path, rfl, ?_⟩
    rw [hf, hget]
    rintro ⟨⟩
    cases f.differs_self.symm.trans hdiffers
  · refine ⟨old.path, rfl, ?_⟩
    rw [hget, hnone]
    exact nofun

/-- No two of the events that lead from one scan to another are about one path. -/
lemma nodup_diff (hprev : prev.Ordered) (hcur : cur.Ordered) :
    ((prev.diff cur).map Event.path?).Nodup := by
  refine List.pairwise_map.2 (List.pairwise_append.2 ⟨?_, ?_, ?_⟩)
  all_goals
    have hne : ∀ e e' : Event FileState, e.Precedes e' → e.path? ≠ e'.path? := by
      rintro e e' ⟨p, hp, q, hq, hlt⟩ heq
      obtain rfl : p = q := Option.some.inj (hp.symm.trans (heq.trans hq))
      exact lt_irrefl _ hlt
  · exact (hcur.pairwise_filterMap fun f e => path?_of_newsOf).imp (hne _ _)
  · exact (hprev.pairwise_filterMap fun f e => path?_of_lossOf).imp (hne _ _)
  · -- What is news is there, and what is a loss is not.
    intro e he e' he' heq
    obtain ⟨f, hf, hnews⟩ := List.mem_filterMap.1 he
    obtain ⟨old, -, hloss⟩ := List.mem_filterMap.1 he'
    have hnone := (lossOf_eq_some_iff.1 hloss).2
    rw [path?_of_newsOf hnews, path?_of_lossOf hloss, Option.some_inj] at heq
    rw [← heq, hcur.get?_eq_some_iff.2 ⟨hf, rfl⟩] at hnone
    cases hnone

/-- Events that make one scan of another tell of each path whose state is another one. -/
lemma tells_of_applyAll (h : prev.applyAll events = cur) (hne : cur.get? p ≠ prev.get? p) :
    some p ∈ events.map Event.path? := by
  by_contra hnot
  refine hne ?_
  rw [← h]
  refine get?_applyAll_of_silent fun e he => ?_
  by_contra htells
  exact hnot (List.mem_map.2 ⟨e, he, Event.path?_of_tells htells⟩)

/-- The events from one scan to another are no more than any that make the one of the other. -/
lemma length_diff_le (hprev : prev.Ordered) (hcur : cur.Ordered)
    (h : prev.applyAll events = cur) : (prev.diff cur).length ≤ events.length := by
  have hsubset : (prev.diff cur).map Event.path? ⊆ events.map Event.path? := by
    intro path? hpath
    obtain ⟨e, he, rfl⟩ := List.mem_map.1 hpath
    obtain ⟨p, hp, hne⟩ := path?_of_mem_diff hprev hcur he
    rw [hp]
    exact tells_of_applyAll h hne
  have := (List.subperm_of_subset (nodup_diff hprev hcur) hsubset).length_le
  rwa [List.length_map, List.length_map] at this

/-- What is known of the path of an event when its turn comes is what was known in the beginning. -/
lemma get?_applyAll_of_nodup {before after : List (Event FileState)}
    (hnodup : ((before ++ e :: after).map Event.path?).Nodup) (hp : e.path? = some p) :
    (prev.applyAll before).get? p = prev.get? p := by
  refine get?_applyAll_of_silent fun e' he' => ?_
  by_contra htells
  rw [List.map_append, List.map_cons] at hnodup
  have hdisjoint := (List.nodup_append.1 hnodup).2.2 _ (List.mem_map_of_mem he') e.path?
    (List.mem_cons_self ..)
  exact hdisjoint ((Event.path?_of_tells htells).trans hp.symm)

/-- The events that lead from one scan to another, applied one after the other, make the one of the
other, and no fewer events do. A path is told of as new if only the second scan has it, as changed if both
have it and its size, its time of modification or its checksum differs, each with the state in the second
scan, as gone if only the first scan has it, with the state there, and otherwise not at all; so there are
none exactly between equal scans. No path is told of twice. What is new or changed comes before what is
gone, both in the strict order of their paths. A file told to be new was not known just before, and one
told to be changed or gone was. -/
theorem script_of_diff (hprev : prev.Ordered) (hcur : cur.Ordered) :
    prev.applyAll (prev.diff cur) = cur ∧
    (∀ events, prev.applyAll events = cur → (prev.diff cur).length ≤ events.length) ∧
    (∀ e, e ∈ prev.diff cur ↔
      (∃ f, e = .added f ∧ cur.get? f.path = some f ∧ prev.get? f.path = none) ∨
      (∃ f old, e = .modified f ∧ cur.get? f.path = some f ∧ prev.get? f.path = some old ∧
        (f.size ≠ old.size ∨ f.modified? ≠ old.modified? ∨ f.checksum ≠ old.checksum)) ∨
      ∃ old, e = .deleted old ∧ prev.get? old.path = some old ∧ cur.get? old.path = none) ∧
    (prev.diff cur = [] ↔ prev = cur) ∧
    ((prev.diff cur).map Event.path?).Nodup ∧
    (∃ news losses, prev.diff cur = news ++ losses ∧
      (∀ e ∈ news, e.kind = .added ∨ e.kind = .modified) ∧ (∀ e ∈ losses, e.kind = .deleted) ∧
      news.Pairwise Event.Precedes ∧ losses.Pairwise Event.Precedes) ∧
    ∀ before e after p, prev.diff cur = before ++ e :: after → e.path? = some p →
      ((prev.applyAll before).get? p = none ↔ e.kind = .added) := by
  refine ⟨applyAll_diff hprev hcur, fun events => length_diff_le hprev hcur, fun e => ?_, ?_,
    nodup_diff hprev hcur, ?_, ?_⟩
  · simp only [← FileState.differs_iff]
    exact mem_diff_iff hprev hcur
  · rw [diff_eq_nil_iff hprev hcur, eq_comm]
  · refine ⟨cur.files.filterMap prev.newsOf, prev.files.filterMap cur.lossOf, rfl, ?_, ?_,
      hcur.pairwise_filterMap fun f e => path?_of_newsOf,
      hprev.pairwise_filterMap fun f e => path?_of_lossOf⟩
    · intro e he
      obtain ⟨f, -, hnews⟩ := List.mem_filterMap.1 he
      rcases newsOf_eq_some_iff.1 hnews with ⟨rfl, -⟩ | ⟨_, rfl, -⟩
      · exact .inl rfl
      · exact .inr rfl
    · intro e he
      obtain ⟨old, -, hloss⟩ := List.mem_filterMap.1 he
      rw [(lossOf_eq_some_iff.1 hloss).1]
      rfl
  · intro before e after p hsplit hp
    rw [get?_applyAll_of_nodup (hsplit ▸ nodup_diff hprev hcur) hp]
    have he : e ∈ prev.diff cur := by
      rw [hsplit]
      exact List.mem_append_right _ (List.mem_cons_self ..)
    rcases (mem_diff_iff hprev hcur).1 he with
      ⟨f, rfl, -, hnone⟩ | ⟨f, old, rfl, -, hget, -⟩ | ⟨old, rfl, hget, -⟩
    · cases hp
      exact iff_of_true hnone rfl
    · cases hp
      exact iff_of_false (by simp [hget]) nofun
    · cases hp
      exact iff_of_false (by simp [hget]) nofun

/-- A file in a directory, one beside it whose name is longer, and one that comes after both. -/
def shelved : Scan :=
  ⟨[⟨⟨"r", ["a", "z"]⟩, 1, none, "x"⟩, ⟨⟨"r", ["a-b"]⟩, 1, some ⟨1, 0⟩, "y"⟩,
    ⟨⟨"r", ["c"]⟩, 1, some ⟨1, 0⟩, "z"⟩]⟩

/-- The first file, of which no time was told, is gone, the second was written again with the same size
and content, the third is as it was, and there is another one between them, from before 1970. -/
def reshelved : Scan :=
  ⟨[⟨⟨"r", ["a-b"]⟩, 1, some ⟨2, 0⟩, "y"⟩, ⟨⟨"r", ["b"]⟩, 1, some ⟨-1, 0⟩, "w"⟩,
    ⟨⟨"r", ["c"]⟩, 1, some ⟨1, 0⟩, "z"⟩]⟩

theorem script_of_reshelved :
    shelved.Ordered ∧ reshelved.Ordered ∧
      shelved.diff reshelved = [.modified ⟨⟨"r", ["a-b"]⟩, 1, some ⟨2, 0⟩, "y"⟩,
        .added ⟨⟨"r", ["b"]⟩, 1, some ⟨-1, 0⟩, "w"⟩, .deleted ⟨⟨"r", ["a", "z"]⟩, 1, none, "x"⟩] ∧
      shelved.applyAll (shelved.diff reshelved) = reshelved ∧
      ∀ events, shelved.applyAll events = reshelved → 3 ≤ events.length := by
  have hshelved : shelved.Ordered := by
    show List.Pairwise _ _
    decide
  have hreshelved : reshelved.Ordered := by
    show List.Pairwise _ _
    decide
  obtain ⟨hmade, hshortest, -⟩ := script_of_diff hshelved hreshelved
  exact ⟨hshelved, hreshelved, by decide, hmade, hshortest⟩

end Scan

end WatchHub
