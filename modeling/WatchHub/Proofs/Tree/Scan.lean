import Mathlib.Data.List.Lex
import Mathlib.Data.List.Sort
import Mathlib.Data.String.Basic
import WatchHub.Tree.Scan

/-!
# Ordered scans

The files of a scan stand in the order of their paths, one for each path. So a scan is determined by
the states that it tells of the paths (`Scan.Ordered.ext`). Whatever a walk comes upon makes such a
scan (`Scan.ordered_ofVisits`), and setting or forgetting the state of a file keeps it so.
-/

namespace WatchHub

/-- Paths with the same parts are the same. -/
lemma TreePath.eq_of_parts {p q : TreePath} (h : p.parts = q.parts) : p = q := by
  cases p
  cases q
  obtain ⟨rfl, rfl⟩ := List.cons.inj h
  rfl

/-- States of one file that do not differ are the same. -/
lemma FileState.eq_of_differs {f g : FileState} (hpath : f.path = g.path)
    (h : f.differs g = false) : f = g := by
  cases f
  cases g
  simp_all [differs]

lemma FileState.differs_self (f : FileState) : f.differs f = false := by
  simp [differs]

namespace Scan

variable {s t : Scan} {f g : FileState} {p : TreePath}

/-- The files stand in the order of their paths, and no path occurs twice. -/
def Ordered (s : Scan) : Prop :=
  s.files.Pairwise fun f g => f.path.parts < g.path.parts

lemma Ordered.empty : Scan.empty.Ordered :=
  .nil

/-! ### The states of paths -/

/-- What is told of a path after a state was set. -/
lemma get?_insert (s : Scan) (f : FileState) (p : TreePath) :
    (s.insert f).get? p = if f.path = p then some f else s.get? p := by
  show (place f s.files).find? (fun g => g.path = p) = if f.path = p then some f else s.files.find? _
  induction s.files with
  | nil => by_cases h : f.path = p <;> simp [place, h]
  | cons g rest ih =>
    unfold place
    split_ifs with hpath hp hbefore hp hp
    · simp [hp]
    · simp [hp, hpath]
    · simp [hp]
    · simp [List.find?_cons, hp]
    · have hg : g.path ≠ p := fun h => hpath (h.trans hp.symm)
      rw [List.find?_cons, ih, if_pos hp]
      simp [hg]
    · rw [List.find?_cons, ih, if_neg hp, List.find?_cons]

/-- What is told of a path after a file was forgotten. -/
lemma get?_erase (s : Scan) (q p : TreePath) :
    (s.erase q).get? p = if q = p then none else s.get? p := by
  show (s.files.filter fun f => f.path ≠ q).find? (fun g => g.path = p) = _
  rw [List.find?_filter]
  split_ifs with h
  · subst h
    simp
  · refine congrArg (s.files.find? ·) (funext fun f => ?_)
    by_cases hf : f.path = p <;> simp [hf, Ne.symm h]

/-- A state that is told of a path is one of the files. -/
lemma mem_of_get? (h : s.get? p = some f) : f ∈ s.files ∧ f.path = p :=
  ⟨List.mem_of_find?_eq_some h, by simpa using List.find?_some h⟩

/-- Two files of an ordered scan with one path are the same. -/
lemma Ordered.eq_of_path (hs : s.Ordered) (hf : f ∈ s.files) (hg : g ∈ s.files)
    (h : f.path = g.path) : f = g := by
  have hnodup : (s.files.map FileState.path).Nodup := by
    refine List.pairwise_map.2 (hs.imp fun {f g} hlt heq => ?_)
    rw [heq] at hlt
    exact lt_irrefl _ hlt
  exact List.inj_on_of_nodup_map hnodup hf hg h

/-- An ordered scan tells of a path the file that is there. -/
lemma Ordered.get?_eq_some_iff (hs : s.Ordered) :
    s.get? p = some f ↔ f ∈ s.files ∧ f.path = p := by
  constructor
  · exact mem_of_get?
  · rintro ⟨hf, rfl⟩
    cases hget : s.get? f.path with
    | none => simpa using List.find?_eq_none.1 hget f hf
    | some g =>
      obtain ⟨hg, hpath⟩ := mem_of_get? hget
      rw [hs.eq_of_path hg hf hpath]

/-- An ordered scan is determined by what it tells of the paths. -/
lemma Ordered.ext (hs : s.Ordered) (ht : t.Ordered) (h : ∀ p, s.get? p = t.get? p) : s = t := by
  have hmem : ∀ f, f ∈ s.files ↔ f ∈ t.files := by
    intro f
    have := h f.path
    constructor
    · intro hf
      exact (mem_of_get? (this ▸ hs.get?_eq_some_iff.2 ⟨hf, rfl⟩)).1
    · intro hf
      exact (mem_of_get? (this ▸ ht.get?_eq_some_iff.2 ⟨hf, rfl⟩)).1
  have : Std.Irrefl fun f g : FileState => f.path.parts < g.path.parts :=
    ⟨fun f => lt_irrefl f.path.parts⟩
  have : Std.Antisymm fun f g : FileState => f.path.parts < g.path.parts :=
    ⟨fun f g hfg hgf => absurd hfg (lt_asymm hgf)⟩
  cases s
  cases t
  exact congrArg mk (List.Pairwise.eq_of_mem_iff hs ht hmem)

/-- Of the files of an ordered scan, only the one at a path says something that depends on the path. -/
lemma Ordered.filterMap_eq {A : Type} (hs : s.Ordered) {tell : FileState → Option A}
    (h : ∀ f, f.path ≠ p → tell f = none) :
    s.files.filterMap tell = ((s.get? p).bind tell).toList := by
  obtain ⟨files⟩ := s
  show files.filterMap tell = ((files.find? fun f => f.path = p).bind tell).toList
  induction files with
  | nil => rfl
  | cons g rest ih =>
    obtain ⟨hbefore, hrest⟩ := List.pairwise_cons.1 hs
    by_cases hg : g.path = p
    · -- The other files have other paths.
      have hnone : rest.filterMap tell = [] := by
        refine List.filterMap_eq_nil_iff.2 fun f hf => h f fun hpath => ?_
        have hlt := hbefore f hf
        rw [hg, hpath] at hlt
        exact lt_irrefl _ hlt
      cases htell : tell g <;> simp [hg, htell, hnone]
    · rw [List.filterMap_cons_none (h g hg), ih hrest]
      simp [hg]

/-! ### What keeps the order -/

lemma mem_place {files : List FileState} (h : g ∈ place f files) : g = f ∨ g ∈ files := by
  induction files with
  | nil => exact .inl (by simpa [place] using h)
  | cons a rest ih =>
    unfold place at h
    split_ifs at h with hpath hbefore
    · exact (List.mem_cons.1 h).imp id (List.mem_cons_of_mem a)
    · exact List.mem_cons.1 h
    · rcases List.mem_cons.1 h with rfl | h
      · exact .inr (List.mem_cons_self ..)
      · exact (ih h).imp id (List.mem_cons_of_mem a)

lemma Ordered.insert (hs : s.Ordered) (f : FileState) : (s.insert f).Ordered := by
  obtain ⟨files⟩ := s
  show (place f files).Pairwise _
  induction files with
  | nil => exact List.pairwise_singleton ..
  | cons g rest ih =>
    obtain ⟨hbefore, hrest⟩ := List.pairwise_cons.1 hs
    unfold place
    split_ifs with hpath hlt
    · exact List.pairwise_cons.2 ⟨fun a ha => hpath ▸ hbefore a ha, hrest⟩
    · have hfg : f.path.parts < g.path.parts := by simpa [before] using hlt
      refine List.pairwise_cons.2 ⟨fun a ha => ?_, hs⟩
      rcases List.mem_cons.1 ha with rfl | ha
      · exact hfg
      · exact hfg.trans (hbefore a ha)
    · have hgf : g.path.parts < f.path.parts := by
        refine lt_of_le_of_ne (not_lt.1 ?_) fun heq => hpath (TreePath.eq_of_parts heq)
        simpa [before] using hlt
      refine List.pairwise_cons.2 ⟨fun a ha => ?_, ih hrest⟩
      rcases mem_place ha with rfl | ha
      · exact hgf
      · exact hbefore a ha

lemma Ordered.erase (hs : s.Ordered) (p : TreePath) : (s.erase p).Ordered :=
  List.Pairwise.filter _ hs

/-- Whatever else a walk comes upon, the scan stays ordered. -/
lemma Ordered.visits {visits : List Visit} (hs : s.Ordered) (h : visits.foldlM visit s = .ok t) :
    t.Ordered := by
  induction visits generalizing s with
  | nil =>
    cases h
    exact hs
  | cons v visits ih =>
    rw [List.foldlM_cons] at h
    cases v with
    | file path size modified content =>
      cases content with
      | ok bytes => exact ih (hs.insert _) h
      | error fault => cases h
    | other => exact ih hs h
    | fault => cases h

/-- Whatever a walk comes upon makes an ordered scan, unless it makes none. -/
lemma ordered_ofVisits {visits : List Visit} (h : ofVisits visits = .ok s) : s.Ordered :=
  Ordered.empty.visits h

end Scan

/-- The scan of a disk is ordered. -/
lemma Disk.ordered_scan {d : Disk} {root : String} {s : Scan} (h : d.scan root = .ok s) :
    s.Ordered :=
  Scan.ordered_ofVisits h

/-- What an observer lists is a scan of the disk. -/
lemma TreeObserver.scan_of_list {o : TreeObserver} {d : Disk} {items : List FileState}
    (h : o.list d = .ok items) : d.scan o.root = .ok ⟨items⟩ := by
  unfold list at h
  split at h
  · cases h
    assumption
  · cases h

end WatchHub
