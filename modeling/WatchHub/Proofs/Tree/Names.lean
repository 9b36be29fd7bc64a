import Mathlib.Data.List.Induction
import Mathlib.Tactic.Lemma
import Mathlib.Tactic.SplitIfs
import WatchHub.Proofs.Table
import WatchHub.Tree.Disk

/-!
# Names in directories

In a tree, a name stands for at most one thing in a directory (`Node.Distinct`). So what is found under
names one below the other is exactly what the entries say (`Node.mem_entries_iff`). The disk that has
nothing but the starting directory is such a tree, and no change of a disk gives one name to two things
(`Disk.distinct_mutateAll`).
-/

namespace WatchHub

namespace Node

variable {n m : Node} {name : String} {names : List String} {entries : List (String × Node)}

/-- What holds of files and links, and of a directory if it holds of all its entries, holds of every
node. -/
theorem byEntries {motive : Node → Prop} (file : ∀ number, motive (.file number))
    (link : ∀ target, motive (.link target))
    (dir : ∀ entries, (∀ e ∈ entries, motive e.2) → motive (.dir entries)) : ∀ n, motive n
  | .file number => file number
  | .link target => link target
  | .dir entries => dir entries fun e _ => byEntries file link dir e.2
decreasing_by
  have := List.sizeOf_lt_of_mem ‹_›
  cases e
  simp_all
  omega

/-! ### Names one below the other -/

@[simp]
lemma at?_nil (n : Node) : n.at? [] = some n :=
  rfl

lemma at?_cons (n : Node) (name : String) (names : List String) :
    n.at? (name :: names) = (n.child? name).bind fun m => m.at? names :=
  rfl

lemma at?_append (n : Node) (names below : List String) :
    n.at? (names ++ below) = (n.at? names).bind fun m => m.at? below := by
  rw [at?, List.foldlM_append]
  rfl

lemma at?_concat (n : Node) (names : List String) (name : String) :
    n.at? (names ++ [name]) = (n.at? names).bind fun m => m.child? name := by
  simp [at?_append, at?_cons]

/-- Below something that is no directory there is nothing. -/
lemma at?_leaf_eq_some_iff (hleaf : ∀ entries, n ≠ .dir entries) :
    n.at? names = some m ↔ names = [] ∧ m = n := by
  cases names with
  | nil => simp [eq_comm]
  | cons name names =>
    cases n with
    | dir entries => exact absurd rfl (hleaf entries)
    | file | link => simp [at?_cons, child?]

lemma at?_file_eq_some_iff {number : Nat} :
    (file number).at? names = some m ↔ names = [] ∧ m = file number :=
  at?_leaf_eq_some_iff (by simp)

lemma at?_link_eq_some_iff {target : String} :
    (link target).at? names = some m ↔ names = [] ∧ m = link target :=
  at?_leaf_eq_some_iff (by simp)

/-! ### Distinct names -/

/-- No directory has two entries with one name. -/
def Distinct (n : Node) : Prop :=
  ∀ names entries, n.at? names = some (.dir entries) → (entries.map Prod.fst).Nodup

lemma distinct_leaf (hleaf : ∀ entries, n ≠ .dir entries) : n.Distinct := by
  intro names entries h
  exact absurd ((at?_leaf_eq_some_iff hleaf).1 h).2.symm (hleaf entries)

lemma Distinct.at (h : n.Distinct) (hm : n.at? names = some m) : m.Distinct := by
  intro below entries hentries
  refine h (names ++ below) entries ?_
  rw [at?_append, hm]
  exact hentries

/-- The entries of a directory are what is found under their names. -/
lemma Distinct.mem_entries_iff (h : (dir entries).Distinct) :
    (name, m) ∈ entries ↔ (dir entries).child? name = some m :=
  (Table.find?_eq_some_iff (h [] entries rfl)).symm

lemma distinct_dir_iff :
    (dir entries).Distinct ↔
      (entries.map Prod.fst).Nodup ∧ ∀ e ∈ entries, e.2.Distinct := by
  constructor
  · intro h
    refine ⟨h [] entries rfl, fun e he => ?_⟩
    have hchild : (dir entries).at? [e.1] = some e.2 := by
      rw [at?_cons, h.mem_entries_iff.1 he]
      rfl
    exact h.at hchild
  · rintro ⟨hnodup, hentries⟩ names below h
    cases names with
    | nil =>
      cases h
      exact hnodup
    | cons name names =>
      rw [at?_cons, Option.bind_eq_some_iff] at h
      obtain ⟨m, hm, hbelow⟩ := h
      exact hentries (name, m) ((Table.find?_eq_some_iff hnodup).1 hm) names below hbelow

/-- What is found below a directory is found at or below one of its entries. -/
lemma Distinct.at?_dir_iff (h : (dir entries).Distinct) :
    (dir entries).at? names = some m ↔
      (names = [] ∧ m = dir entries) ∨
        ∃ e ∈ entries, ∃ below, names = e.1 :: below ∧ e.2.at? below = some m := by
  cases names with
  | nil => simp [eq_comm]
  | cons name below =>
    rw [at?_cons, Option.bind_eq_some_iff]
    constructor
    · rintro ⟨n, hn, hm⟩
      exact .inr ⟨(name, n), h.mem_entries_iff.2 hn, below, rfl, hm⟩
    · rintro (⟨hnil, -⟩ | ⟨e, he, below', heq, hm⟩)
      · cases hnil
      · obtain ⟨rfl, rfl⟩ := List.cons.inj heq
        exact ⟨e.2, h.mem_entries_iff.1 he, hm⟩

/-- Whatever is put into a tree or removed from it, the names stay distinct. -/
lemma Distinct.put {new : Option Node} (hnew : ∀ m, new = some m → m.Distinct) (h : n.Distinct) :
    (n.put new names).Distinct := by
  induction names generalizing n with
  | nil =>
    cases new with
    | none => exact h
    | some m => exact hnew m rfl
  | cons name rest ih =>
    cases n with
    | file | link => cases rest <;> exact h
    | dir entries =>
      obtain ⟨hnodup, hentries⟩ := distinct_dir_iff.1 h
      cases rest with
      | nil =>
        cases new with
        | none =>
          exact distinct_dir_iff.2 ⟨hnodup.sublist (List.filter_sublist.map Prod.fst),
            fun e he => hentries e (List.mem_filter.1 he).1⟩
        | some m =>
          refine distinct_dir_iff.2 ⟨Table.nodup_putRow name m hnodup, fun e he => ?_⟩
          rcases Table.mem_putRow he with rfl | he
          · exact hnew m rfl
          · exact hentries e he
      | cons next rest =>
        refine distinct_dir_iff.2 ⟨?_, fun e he => ?_⟩
        · have hnames : (entries.map fun e =>
              if e.1 = name then (e.1, Node.put new (next :: rest) e.2) else e).map Prod.fst =
              entries.map Prod.fst := by
            rw [List.map_map]
            refine List.map_congr_left fun e _ => ?_
            show (if e.1 = name then _ else e).1 = e.1
            split <;> rfl
          rw [hnames]
          exact hnodup
        · obtain ⟨e', he', rfl⟩ := List.mem_map.1 he
          split
          · exact ih (hentries e' he')
          · exact hentries e' he'

end Node

namespace Disk

variable {d : Disk} {top node : Node} {follow : Bool} {links : Nat} {here names : List String}
  {path : String} {spot : Spot}

/-- What a path leads to is what is found under the names of the place. -/
lemma node_of_resolve (h : resolve top follow links here names = .ok spot) :
    spot.node = top.at? spot.names := by
  have hconcat : ∀ {here : List String} {entries : List (String × Node)} (name : String),
      top.at? here = some (.dir entries) →
      top.at? (here ++ [name]) = Table.find? name entries := by
    intro here entries name hdir
    rw [Node.at?_concat, hdir]
    rfl
  fun_induction resolve top follow links here names with
  | case1 =>
    cases h
    rfl
  | case2 _ _ _ _ _ ih | case3 _ _ _ _ _ _ ih => exact ih h
  | case4 | case6 | case8 | case12 => cases h
  | case5 _ _ _ _ _ hdir _ _ _ hfind _ | case7 _ _ _ _ _ hdir _ _ _ _ hfind _
  | case10 _ _ _ _ _ hdir _ _ _ _ _ hfind _ =>
    cases h
    exact ((hconcat _ hdir).trans hfind).symm
  | case9 | case11 => exact ‹_ → _› h

/-- What a path leads to is a part of the tree. -/
lemma at?_of_locate (h : d.locate follow path = .ok ⟨names, some node⟩) :
    d.top.at? names = some node := by
  unfold locate at h
  split_ifs at h <;> exact (node_of_resolve h).symm

lemma at?_of_locateEntry (h : d.locateEntry path = .ok ⟨names, some node⟩) :
    d.top.at? names = some node := by
  unfold locateEntry at h
  split at h
  · cases h
  · dsimp only at h
    split at h
    · cases h
    · exact at?_of_locate h

lemma distinct_empty : empty.top.Distinct :=
  Node.distinct_dir_iff.2 ⟨by simp, by simp [Node.distinct_dir_iff]⟩

lemma distinct_putNode {new : Option Node} (hd : d.top.Distinct)
    (hnew : ∀ m, new = some m → m.Distinct) : (d.putNode names new).top.Distinct :=
  hd.put hnew

lemma distinct_makeOne (hd : d.top.Distinct) (path : String) : (d.makeOne path).top.Distinct := by
  unfold makeOne
  split
  · refine distinct_putNode hd fun m hm => ?_
    cases hm
    exact Node.distinct_dir_iff.2 ⟨List.nodup_nil, nofun⟩
  · exact hd

lemma distinct_makeDir (hd : d.top.Distinct) (path : String) : (d.makeDir path).top.Distinct := by
  unfold makeDir
  dsimp only
  split
  · exact hd
  · generalize (List.range _).map _ = paths
    induction paths generalizing d with
    | nil => exact hd
    | cons path paths ih => exact ih (distinct_makeOne hd path)

lemma distinct_rename (hd : d.top.Distinct) (path target : String) :
    (d.rename path target).top.Distinct := by
  unfold rename
  split
  · rename_i source node goal there hsource hgoal
    split
    · exact hd
    · refine distinct_putNode (distinct_putNode hd nofun) fun m hm => ?_
      cases hm
      exact hd.at (at?_of_locateEntry hsource)
  · exact hd

/-- A change leaves the names distinct. -/
lemma distinct_mutate (hd : d.top.Distinct) (change : Mutation) : (d.mutate change).top.Distinct := by
  have hleaf : ∀ {names : List String} {leaf : Node}, (∀ entries, leaf ≠ .dir entries) →
      ∀ d' : Disk, d'.top = d.top → (d'.putNode names (some leaf)).top.Distinct := by
    intro names leaf hleaf d' htop
    refine distinct_putNode (htop ▸ hd) fun m hm => ?_
    cases hm
    exact Node.distinct_leaf hleaf
  cases change with
  | write path bytes modified =>
    simp only [mutate, write]
    split
    · exact hd
    · exact hleaf (by simp) _ rfl
    · exact hd
  | touch path modified =>
    simp only [mutate, touch]
    split <;> exact hd
  | makeDir path => exact distinct_makeDir hd path
  | symlink path target =>
    simp only [mutate, symlink]
    split
    · split
      · exact hd
      · exact hleaf (by simp) _ rfl
    · exact hd
  | rename path target => exact distinct_rename hd path target
  | hardLink path target =>
    simp only [mutate, hardLink]
    split
    · exact hleaf (by simp) _ rfl
    · exact hleaf (by simp) _ rfl
    · exact hd
  | remove path =>
    simp only [mutate, remove]
    split
    · exact distinct_putNode hd nofun
    · exact hd

/-- Whatever changes were made to the disk with nothing on it, its names are distinct. -/
theorem distinct_mutateAll (changes : List Mutation) : (empty.mutateAll changes).top.Distinct := by
  induction changes using List.reverseRecOn with
  | nil => exact distinct_empty
  | append_singleton changes change ih =>
    rw [mutateAll, List.foldl_append]
    exact distinct_mutate ih change

end Disk

end WatchHub
