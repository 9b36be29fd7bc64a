import WatchHub.Proofs.Tree.Scan
import WatchHub.Tree.Diff

/-!
# Differences of scans

What a consumer makes of events, path by path: the last event that tells of a path decides, and where
none does everything stays as it was (`Scan.get?_applyAll`). The events that lead from one scan to
another tell of a path exactly if its state is another one, and then once (`Scan.diff_tells`). So they
make the one scan of the other (`Scan.applyAll_diff`), and there are none only between a scan and
itself (`Scan.diff_eq_nil_iff`).
-/

namespace WatchHub

/-- What an event tells of a path: the new state of the file there, or that there is none. -/
def Event.tells? (p : TreePath) (e : Event FileState) : Option (Option FileState) :=
  match e.kind, e.payload with
  | .added, some f | .modified, some f => if f.path = p then some (some f) else none
  | .deleted, some f => if f.path = p then some none else none
  | _, _ => none

namespace Scan

variable {s t prev cur : Scan} {p : TreePath} {f old : FileState} {events more : List (Event FileState)}

/-! ### What a consumer makes of events -/

lemma applyAll_append (s : Scan) (events more : List (Event FileState)) :
    s.applyAll (events ++ more) = (s.applyAll events).applyAll more :=
  List.foldl_append

/-- A path that an event tells of is in the state told; all others stay as they were. -/
lemma get?_apply (s : Scan) (e : Event FileState) (p : TreePath) :
    (s.apply e).get? p = (e.tells? p).getD (s.get? p) := by
  obtain ⟨kind, payload, reason, stamp⟩ := e
  cases payload with
  | none => cases kind <;> rfl
  | some f =>
    cases kind with
    | added | modified =>
      show (s.insert f).get? p = _
      rw [get?_insert]
      by_cases h : f.path = p <;> simp [Event.tells?, h]
    | deleted =>
      show (s.erase f.path).get? p = _
      rw [get?_erase]
      by_cases h : f.path = p <;> simp [Event.tells?, h]
    | error => rfl

/-- The last event that tells of a path decides. -/
lemma get?_applyAll (s : Scan) (events : List (Event FileState)) (p : TreePath) :
    (s.applyAll events).get? p = (events.filterMap (Event.tells? p)).getLast?.getD (s.get? p) := by
  induction events generalizing s with
  | nil => rfl
  | cons e events ih =>
    show ((s.apply e).applyAll events).get? p = _
    rw [ih, get?_apply]
    cases htells : e.tells? p with
    | none => rw [List.filterMap_cons_none htells, Option.getD_none]
    | some state =>
      rw [List.filterMap_cons_some htells, List.getLast?_cons, Option.getD_some, Option.getD_some]

/-- Of a path that an event tells of, consumers who knew different scans come to know the same. -/
lemma get?_applyAll_of_tells (h : ∃ e ∈ events, e.tells? p ≠ none) :
    (s.applyAll events).get? p = (t.applyAll events).get? p := by
  have hne : events.filterMap (Event.tells? p) ≠ [] := by
    obtain ⟨e, he, htells⟩ := h
    intro hnil
    exact htells (List.filterMap_eq_nil_iff.1 hnil e he)
  obtain ⟨state, hlast⟩ := Option.ne_none_iff_exists'.1 (mt List.getLast?_eq_none_iff.1 hne)
  rw [get?_applyAll, get?_applyAll, hlast, Option.getD_some, Option.getD_some]

/-- Of a path that no event tells of, a consumer knows what it knew. -/
lemma get?_applyAll_of_silent (h : ∀ e ∈ events, e.tells? p = none) :
    (s.applyAll events).get? p = s.get? p := by
  rw [get?_applyAll, List.filterMap_eq_nil_iff.2 h]
  rfl

/-- An event keeps the order. -/
lemma Ordered.apply (hs : s.Ordered) (e : Event FileState) : (s.apply e).Ordered := by
  obtain ⟨kind, payload, reason, stamp⟩ := e
  cases payload with
  | none => cases kind <;> exact hs
  | some f =>
    cases kind with
    | added | modified => exact hs.insert f
    | deleted => exact hs.erase f.path
    | error => exact hs

lemma Ordered.applyAll (hs : s.Ordered) (events : List (Event FileState)) :
    (s.applyAll events).Ordered := by
  induction events generalizing s with
  | nil => exact hs
  | cons e events ih => exact ih (hs.apply e)

/-! ### From one scan to another -/

/-- A file that is there is no news if its path was in the same state. -/
lemma newsOf_of_get? (h : prev.get? f.path = some f) : prev.newsOf f = none := by
  simp [newsOf, h, FileState.differs_self]

/-- The event for a file tells of its own path only. -/
lemma newsOf_tells_of_ne (h : f.path ≠ p) : (prev.newsOf f).bind (Event.tells? p) = none := by
  unfold newsOf
  split
  · simp [Event.tells?, Event.added, Event.of, h]
  · split_ifs
    · simp [Event.tells?, Event.modified, Event.of, h]
    · rfl

/-- The event for a file tells its state, unless its path was in that state. -/
lemma newsOf_tells (h : f.path = p) :
    (prev.newsOf f).bind (Event.tells? p) = if some f = prev.get? p then none else some (some f) := by
  subst h
  unfold newsOf
  cases hold : prev.get? f.path with
  | none => simp [Event.tells?, Event.added, Event.of]
  | some old =>
    have hpath := (mem_of_get? hold).2
    by_cases hdiffers : f.differs old = true
    · have hne : f ≠ old := by
        rintro rfl
        cases f.differs_self.symm.trans hdiffers
      simp [hdiffers, hne, Event.tells?, Event.modified, Event.of]
    · obtain rfl := FileState.eq_of_differs hpath.symm (eq_false_of_ne_true hdiffers)
      simp [hdiffers]

/-- The event for a file that has vanished tells of its own path only. -/
lemma lossOf_tells_of_ne (h : old.path ≠ p) : (cur.lossOf old).bind (Event.tells? p) = none := by
  unfold lossOf
  split
  · simp [Event.tells?, Event.deleted, Event.of, h]
  · rfl

/-- The event for a file that has vanished tells that there is none any more. -/
lemma lossOf_tells (h : old.path = p) :
    (cur.lossOf old).bind (Event.tells? p) = if cur.get? p = none then some none else none := by
  subst h
  unfold lossOf
  cases cur.get? old.path <;> simp [Event.tells?, Event.deleted, Event.of]

/-- The events from one scan to another tell of a path if its state is another one, and then once. -/
lemma diff_tells (hprev : prev.Ordered) (hcur : cur.Ordered) (p : TreePath) :
    (prev.diff cur).filterMap (Event.tells? p) =
      if cur.get? p = prev.get? p then [] else [cur.get? p] := by
  have hnews : (cur.files.filterMap prev.newsOf).filterMap (Event.tells? p) =
      ((cur.get? p).bind fun f => (prev.newsOf f).bind (Event.tells? p)).toList := by
    rw [List.filterMap_filterMap]
    exact hcur.filterMap_eq fun f => newsOf_tells_of_ne
  have hlosses : (prev.files.filterMap cur.lossOf).filterMap (Event.tells? p) =
      ((prev.get? p).bind fun f => (cur.lossOf f).bind (Event.tells? p)).toList := by
    rw [List.filterMap_filterMap]
    exact hprev.filterMap_eq fun f => lossOf_tells_of_ne
  unfold diff
  rw [List.filterMap_append, hnews, hlosses]
  cases hf : cur.get? p with
  | none =>
    cases hold : prev.get? p with
    | none => rfl
    | some old => simp [lossOf_tells (mem_of_get? hold).2, hf]
  | some f =>
    have hloss : ((prev.get? p).bind fun f => (cur.lossOf f).bind (Event.tells? p)) = none := by
      cases hold : prev.get? p with
      | none => rfl
      | some old => simp [lossOf_tells (mem_of_get? hold).2, hf]
    rw [hloss, Option.bind_some, newsOf_tells (mem_of_get? hf).2]
    split_ifs <;> rfl

/-- The events from one scan to another make the one of the other. -/
lemma applyAll_diff (hprev : prev.Ordered) (hcur : cur.Ordered) :
    prev.applyAll (prev.diff cur) = cur := by
  refine (hprev.applyAll _).ext hcur fun p => ?_
  rw [get?_applyAll, diff_tells hprev hcur]
  split_ifs with h
  · exact h.symm
  · rfl

/-- Nothing leads from one scan to another only if they are the same. -/
lemma diff_eq_nil_iff (hprev : prev.Ordered) (hcur : cur.Ordered) :
    prev.diff cur = [] ↔ cur = prev := by
  constructor
  · intro hnil
    have := applyAll_diff hprev hcur
    rw [hnil] at this
    exact this.symm
  · rintro rfl
    have hget : ∀ f ∈ cur.files, cur.get? f.path = some f := fun f hf =>
      hcur.get?_eq_some_iff.2 ⟨hf, rfl⟩
    refine List.append_eq_nil_iff.2 ⟨List.filterMap_eq_nil_iff.2 ?_, List.filterMap_eq_nil_iff.2 ?_⟩
    · intro f hf
      exact newsOf_of_get? (hget f hf)
    · intro f hf
      simp [lossOf, hget f hf]

end Scan

end WatchHub
